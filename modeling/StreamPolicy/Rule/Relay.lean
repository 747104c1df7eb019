import StreamPolicy.Media.Basic
import StreamPolicy.Rule.Basic

/-!
# Relay mappings

A `RelayMapping` is what a rule says about relaying a stream to a client: which codecs and
containers the client accepts as they are, and into which all others are to be turned.
-/

namespace StreamPolicy

structure RelayTargets where
  acceptedVideo : List VideoCodec := []
  acceptedAudio : List AudioCodec := []
  acceptedContainers : List Container := []
  videoCodec : VideoCodec := .h264
  audioCodec : AudioCodec := .aac
  container : Container := .mpegts
  deriving DecidableEq, Repr

instance : RuleKind RelayTargets where
  kind := "relay mapping"
  fieldNames := ["accepted_video_codecs", "accepted_audio_codecs", "accepted_containers",
    "preferred_video_codec", "preferred_audio_codec", "preferred_container"]
  encodeFields t :=
    [("accepted_video_codecs", encode t.acceptedVideo),
      ("accepted_audio_codecs", encode t.acceptedAudio),
      ("accepted_containers", encode t.acceptedContainers),
      ("preferred_video_codec", encode t.videoCodec),
      ("preferred_audio_codec", encode t.audioCodec),
      ("preferred_container", encode t.container)]
  decodeFields? get := do
    return { acceptedVideo := ← Data.orDefault [] (get "accepted_video_codecs")
             acceptedAudio := ← Data.orDefault [] (get "accepted_audio_codecs")
             acceptedContainers := ← Data.orDefault [] (get "accepted_containers")
             videoCodec := ← Data.orDefault .h264 (get "preferred_video_codec")
             audioCodec := ← Data.orDefault .aac (get "preferred_audio_codec")
             container := ← Data.orDefault .mpegts (get "preferred_container") }

abbrev RelayMapping := Rule RelayTargets

end StreamPolicy
