import StreamPolicy.Data.Named

/-!
# Codecs, containers and formats

What streams are made of, under the names that rules and requests use. `MediaKind.parse` reads
strictly: only the name itself is accepted, in small letters.
-/

namespace StreamPolicy

/-- A vocabulary of the media domain: what errors call it, and other names that probers use. -/
class MediaKind (α : Type) extends Named α where
  kind : String
  aliases : α → List String

inductive VideoCodec
  | h264
  | h265
  | av1
  | vp9
  | mpeg2
  deriving DecidableEq, Repr

instance : MediaKind VideoCodec where
  all := [.h264, .h265, .av1, .vp9, .mpeg2]
  name
    | .h264 => "h264"
    | .h265 => "h265"
    | .av1 => "av1"
    | .vp9 => "vp9"
    | .mpeg2 => "mpeg2"
  kind := "video codec"
  aliases
    | .h264 => ["avc", "avc1", "x264"]
    | .h265 => ["hevc", "hvc1", "hev1", "x265"]
    | .av1 => ["av01"]
    | .vp9 => ["vp09"]
    | .mpeg2 => ["mpeg2video", "mpeg2v"]

inductive AudioCodec
  | aac
  | ac3
  | eac3
  | mp3
  | opus
  | flac
  deriving DecidableEq, Repr

instance : MediaKind AudioCodec where
  all := [.aac, .ac3, .eac3, .mp3, .opus, .flac]
  name
    | .aac => "aac"
    | .ac3 => "ac3"
    | .eac3 => "eac3"
    | .mp3 => "mp3"
    | .opus => "opus"
    | .flac => "flac"
  kind := "audio codec"
  aliases
    | .aac => ["aaclc", "heaac", "mp4a"]
    | .ac3 => ["dolbydigital", "dd"]
    | .eac3 => ["ddp", "dolbydigitalplus"]
    | .mp3 => ["mp2", "mpegaudio"]
    | .opus => []
    | .flac => []

inductive Container
  | mpegts
  | fmp4
  | mp4
  | mkv
  deriving DecidableEq, Repr

instance : MediaKind Container where
  all := [.mpegts, .fmp4, .mp4, .mkv]
  name
    | .mpegts => "mpegts"
    | .fmp4 => "fmp4"
    | .mp4 => "mp4"
    | .mkv => "mkv"
  kind := "container"
  aliases
    | .mpegts => ["ts", "m2ts"]
    | .fmp4 => ["cmaf", "ismv"]
    | .mp4 => ["mov", "mov,mp4,m4a,3gp,3g2,mj2", "mpeg4"]
    | .mkv => ["matroska", "matroska,webm"]

/-- The form in which a stream is delivered. -/
inductive StreamFormat
  | hlsFmp4
  | hlsTs
  | dash
  | mpegts
  deriving DecidableEq, Repr

instance : MediaKind StreamFormat where
  all := [.hlsFmp4, .hlsTs, .dash, .mpegts]
  name
    | .hlsFmp4 => "hls-fmp4"
    | .hlsTs => "hls-ts"
    | .dash => "dash"
    | .mpegts => "mpegts"
  kind := "stream format"
  aliases := fun _ => []

/-- The container of the segments of a format. -/
def StreamFormat.container : StreamFormat → Container
  | .hlsFmp4 | .dash => .fmp4
  | .hlsTs | .mpegts => .mpegts

/-- A text that is no name of a vocabulary. -/
structure UnknownName where
  kind : String
  value : String
  deriving DecidableEq, Repr

def UnknownName.message (e : UnknownName) : String := s!"unknown {e.kind} '{e.value}'"

/-- The value whose name is `s`, or what is wrong with `s`. -/
def MediaKind.parse [MediaKind α] (s : String) : Except UnknownName α :=
  match Named.ofName? s with
  | some a => .ok a
  | none => .error ⟨kind α, s⟩

/-- A text that is neither yes nor no. -/
structure UnknownFlag where
  value : String
  deriving DecidableEq, Repr

def UnknownFlag.message (e : UnknownFlag) : String := s!"invalid boolean '{e.value}'"

end StreamPolicy
