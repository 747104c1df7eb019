import StreamPolicy.Media.Basic
import StreamPolicy.Rule.Basic

/-!
# Client rules

A `ClientProfile` is what a rule says about a client: which codecs and which format it wants and
which containers it can play. Each of the five attributes may be left open.
-/

namespace StreamPolicy

structure ClientProfile where
  videoCodec : Option VideoCodec := none
  audioCodec : Option AudioCodec := none
  fmp4 : Option Bool := none
  mpegts : Option Bool := none
  format : Option StreamFormat := none
  deriving DecidableEq, Repr

namespace ClientProfile

/-- Whether no attribute is open. -/
def isComplete (p : ClientProfile) : Bool :=
  p.videoCodec.isSome && p.audioCodec.isSome && p.fmp4.isSome && p.mpegts.isSome && p.format.isSome

/-- The profile `p`, with its open attributes taken from `q`. -/
protected def orElse (p q : ClientProfile) : ClientProfile where
  videoCodec := p.videoCodec <|> q.videoCodec
  audioCodec := p.audioCodec <|> q.audioCodec
  fmp4 := p.fmp4 <|> q.fmp4
  mpegts := p.mpegts <|> q.mpegts
  format := p.format <|> q.format

instance : RuleKind ClientProfile where
  kind := "client detection rule"
  fieldNames := ["preferred_video_codec", "preferred_audio_codec", "supports_fmp4",
    "supports_mpegts", "preferred_format"]
  encodeFields p :=
    Data.optionalField "preferred_video_codec" p.videoCodec ++
      Data.optionalField "preferred_audio_codec" p.audioCodec ++
      Data.optionalField "supports_fmp4" p.fmp4 ++
      Data.optionalField "supports_mpegts" p.mpegts ++
      Data.optionalField "preferred_format" p.format
  decodeFields? get := do
    return { videoCodec := ← Data.orDefault none (get "preferred_video_codec")
             audioCodec := ← Data.orDefault none (get "preferred_audio_codec")
             fmp4 := ← Data.orDefault none (get "supports_fmp4")
             mpegts := ← Data.orDefault none (get "supports_mpegts")
             format := ← Data.orDefault none (get "preferred_format") }

end ClientProfile

abbrev ClientRule := Rule ClientProfile

end StreamPolicy
