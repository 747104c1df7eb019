import StreamPolicy.Rule.Client
import StreamPolicy.Rule.Relay

/-!
# Rules of the system

The rules that are shipped with the program: `Builtin.clientRules` and `Builtin.relayMappings`. The
first three client rules honour what a request asks for outright, the next ones know families of
clients, and the last rule of each list takes whatever is left.
-/

namespace StreamPolicy.Builtin

/-- The priority of the rule that matches everything. -/
def catchAllPriority : Int32 := 999

/-- An expression that holds when `user_agent` contains one of `words`. -/
def agentContains (words : List String) : String :=
  " OR ".intercalate (words.map fun w => "user_agent contains \"" ++ w ++ "\"")

def mediaPlayers : String := agentContains ["VLC", "Kodi", "Lavf", "mpv"]

def smartTvs : String := agentContains ["SMART-TV", "Tizen", "Web0S", "BRAVIA"]

/-- An expression that passes the value of `field`, if it is not empty, to `target`. -/
def passes (field target : String) : String := s!"{field} not_equals \"\" SET {target} = {field}"

/-- A rule that says all there is to say about a family of clients. -/
def family (name expression : String) (priority : Int32) (video : VideoCodec) (audio : AudioCodec)
    (fmp4 mpegts : Bool) (format : StreamFormat) : Blueprint ClientProfile where
  name := name
  expression := expression
  priority := priority
  isSystem := true
  attributes := ⟨some video, some audio, some fmp4, some mpegts, some format⟩

def clientRules : List (Blueprint ClientProfile) :=
  [{ name := "Explicit video codec header"
     description := "Honor an X-Video-Codec request header"
     expression := passes "@dynamic(request.headers):x-video-codec" "preferred_video_codec"
     priority := 1
     isSystem := true
     attributes := {} },
   { name := "Explicit audio codec header"
     description := "Honor an X-Audio-Codec request header"
     expression := passes "@dynamic(request.headers):x-audio-codec" "preferred_audio_codec"
     priority := 2
     isSystem := true
     attributes := {} },
   { name := "Format query parameter"
     description := "Honor a ?format= query parameter"
     expression := passes "@dynamic(request.query):format" "preferred_format"
     priority := 3
     isSystem := true
     attributes := {} },
   family "Safari" "user_agent contains \"Safari\" AND NOT user_agent contains \"Chrome\"" 100
     .h265 .aac true true .hlsFmp4,
   family "Chromium browsers" (agentContains ["Chrome"]) 110 .h264 .aac true true .hlsFmp4,
   family "Firefox" (agentContains ["Firefox"]) 120 .h264 .aac true false .hlsFmp4,
   family "Media players" mediaPlayers 130 .h265 .ac3 true true .mpegts,
   family "Smart TVs" smartTvs 140 .h265 .eac3 false true .hlsTs,
   { family "Default" "" catchAllPriority .h264 .aac true true .hlsTs with
     description := "Catch-all for unrecognized clients" }]

def relayMappings : List (Blueprint RelayTargets) :=
  [{ name := "Web browsers"
     expression := agentContains ["Mozilla"]
     priority := 10
     isSystem := true
     attributes :=
       { acceptedVideo := [.h264]
         acceptedAudio := [.aac, .mp3]
         acceptedContainers := [.mpegts, .fmp4, .mp4] } },
   { name := "Media players"
     expression := mediaPlayers
     priority := 20
     isSystem := true
     attributes :=
       { acceptedVideo := Named.all
         acceptedAudio := Named.all
         acceptedContainers := Named.all } },
   { name := "Default"
     description := "Normalize anything else to H.264/AAC in MPEG-TS"
     priority := catchAllPriority
     isSystem := true
     attributes :=
       { acceptedVideo := [.h264]
         acceptedAudio := [.aac, .mp3]
         acceptedContainers := [.mpegts] } }]

end StreamPolicy.Builtin
