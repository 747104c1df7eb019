import StreamPolicy.Media.Probe
import StreamPolicy.Rule.Relay
import StreamPolicy.Rule.Trial

/-!
# Relay decisions

The first mapping that matches a request (`Decision.decide?`) decides for each component of the
stream whether it is copied or transcoded. What a prober left blank is copied.
-/

namespace StreamPolicy

/-- What a prober says a stream is made of. -/
structure StreamInfo where
  video : String := ""
  audio : String := ""
  container : String := ""
  deriving DecidableEq, Repr

instance : Coded StreamInfo where
  encode s := .record [("video_codec", encode s.video), ("audio_codec", encode s.audio),
    ("container", encode s.container)]
  decode? d := do
    let get ← d.fields? ["video_codec", "audio_codec", "container"]
    return { video := ← Data.orDefault "" (get "video_codec")
             audio := ← Data.orDefault "" (get "audio_codec")
             container := ← Data.orDefault "" (get "container") }

inductive StreamAction
  | copy
  | transcode
  deriving DecidableEq, Repr

instance : Named StreamAction where
  all := [.copy, .transcode]
  name
    | .copy => "copy"
    | .transcode => "transcode"

/-- What a mapping decides. -/
structure Decision where
  mapping : RuleRef
  videoAction : StreamAction
  audioAction : StreamAction
  containerAction : StreamAction
  targetVideo : Option VideoCodec
  targetAudio : Option AudioCodec
  targetContainer : Option Container
  deriving DecidableEq, Repr

instance : Coded Decision where
  encode d := .record [("mapping", encode d.mapping), ("video_action", encode d.videoAction),
    ("audio_action", encode d.audioAction), ("container_action", encode d.containerAction),
    ("target_video_codec", encode d.targetVideo), ("target_audio_codec", encode d.targetAudio),
    ("target_container", encode d.targetContainer)]
  decode? d := do
    let get ← d.fields? ["mapping", "video_action", "audio_action", "container_action",
      "target_video_codec", "target_audio_codec", "target_container"]
    return { mapping := ← Data.required (get "mapping")
             videoAction := ← Data.required (get "video_action")
             audioAction := ← Data.required (get "audio_action")
             containerAction := ← Data.required (get "container_action")
             targetVideo := ← Data.orDefault none (get "target_video_codec")
             targetAudio := ← Data.orDefault none (get "target_audio_codec")
             targetContainer := ← Data.orDefault none (get "target_container") }

namespace Decision

def needsTranscode (d : Decision) : Bool :=
  [d.videoAction, d.audioAction, d.containerAction].contains .transcode

end Decision

/-- What is done with the component `source`, and what it is then: what is `accepted` is copied, and
all else is turned into what is `preferred`. -/
def decideComponent [MediaKind α] [BEq α] (source : String) (accepted : List α) (preferred : α) :
    StreamAction × Option α :=
  if Text.isBlankText source.toList then (.copy, none)
  else match MediaKind.ofProbe? source with
    | some a => if accepted.contains a then (.copy, some a) else (.transcode, some preferred)
    | none => (.transcode, some preferred)

def Rule.decide (m : RelayMapping) (source : StreamInfo) : Decision :=
  let t := m.attributes
  let video := decideComponent source.video t.acceptedVideo t.videoCodec
  let audio := decideComponent source.audio t.acceptedAudio t.audioCodec
  let container := decideComponent source.container t.acceptedContainers t.container
  { mapping := m.ref
    videoAction := video.1
    audioAction := audio.1
    containerAction := container.1
    targetVideo := video.2
    targetAudio := audio.2
    targetContainer := container.2 }

/-- The decision of the first mapping that matches `request`. -/
def Decision.decide? (request : Request) (source : StreamInfo) :
    List RelayMapping → ParseCache → Option Decision × ParseCache
  | [], cache => (none, cache)
  | m :: rest, cache =>
    match m.tryOn request cache with
    | (.matched _, cache) => (some (m.decide source), cache)
    | (_, cache) => decide? request source rest cache

end StreamPolicy
