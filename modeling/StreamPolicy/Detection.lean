import StreamPolicy.Media.Probe
import StreamPolicy.Rule.Client
import StreamPolicy.Rule.Trial

/-!
# Client detection

What a client wants is put together by `detect` from the rules that match its request. Each
attribute comes from the first such rule that supplies it (`ClientProfile.supplied`), by a capture
that is valid for the attribute or else by a value of its own.
-/

namespace StreamPolicy

/-- Whether rules or defaults made a decision. -/
inductive DetectionSource
  | rule
  | default
  deriving DecidableEq, Repr

instance : Named DetectionSource where
  all := [.rule, .default]
  name
    | .rule => "rule"
    | .default => "default"

/-- What is known of a client. -/
structure Detection where
  videoCodec : VideoCodec := .h264
  audioCodec : AudioCodec := .aac
  fmp4 : Bool := true
  mpegts : Bool := true
  format : Option StreamFormat := none
  matchedRule : Option RuleRef := none
  source : DetectionSource := .default
  /-- How many conditions were evaluated. -/
  evaluated : Nat := 0
  deriving DecidableEq, Repr

instance : Coded Detection where
  encode d := .record [("preferred_video_codec", encode d.videoCodec),
    ("preferred_audio_codec", encode d.audioCodec), ("supports_fmp4", encode d.fmp4),
    ("supports_mpegts", encode d.mpegts), ("preferred_format", encode d.format),
    ("matched_rule", encode d.matchedRule), ("detection_source", encode d.source),
    ("rules_evaluated", encode d.evaluated)]
  decode? d := do
    let get ← d.fields? ["preferred_video_codec", "preferred_audio_codec", "supports_fmp4",
      "supports_mpegts", "preferred_format", "matched_rule", "detection_source",
      "rules_evaluated"]
    return { videoCodec := ← Data.required (get "preferred_video_codec")
             audioCodec := ← Data.required (get "preferred_audio_codec")
             fmp4 := ← Data.required (get "supports_fmp4")
             mpegts := ← Data.required (get "supports_mpegts")
             format := ← Data.orDefault none (get "preferred_format")
             matchedRule := ← Data.orDefault none (get "matched_rule")
             source := ← Data.required (get "detection_source")
             evaluated := ← Data.required (get "rules_evaluated") }

/-- What was captured for `target`, as far as `read` takes it for a value of its attribute. -/
def Captures.valid? (captures : Captures) (target : Target) (read : String → Except ε β) :
    Option β :=
  (captures target).bind fun raw => (read raw).toOption

/-- What a rule that matches supplies: valid captures before values of its own. -/
def ClientProfile.supplied (p : ClientProfile) (captures : Captures) : ClientProfile where
  videoCodec := captures.valid? .videoCodec MediaKind.parse <|> p.videoCodec
  audioCodec := captures.valid? .audioCodec MediaKind.parse <|> p.audioCodec
  fmp4 := captures.valid? .supportsFmp4 parseFlag <|> p.fmp4
  mpegts := captures.valid? .supportsMpegts parseFlag <|> p.mpegts
  format := captures.valid? .format MediaKind.parse <|> p.format

namespace Detection

structure Progress where
  profile : ClientProfile := {}
  matchedRule : Option RuleRef := none
  evaluated : Nat := 0
  deriving DecidableEq, Repr

/-- The rule `r` has matched, with these captures. -/
def Progress.add (p : Progress) (r : ClientRule) (captures : Captures) : Progress where
  profile := p.profile.orElse (r.attributes.supplied captures)
  matchedRule := p.matchedRule <|> some r.ref
  evaluated := p.evaluated + 1

/-- Open attributes have their defaults: H.264, AAC and both containers. -/
def Progress.finish (p : Progress) : Detection where
  videoCodec := p.profile.videoCodec.getD .h264
  audioCodec := p.profile.audioCodec.getD .aac
  fmp4 := p.profile.fmp4.getD true
  mpegts := p.profile.mpegts.getD true
  format := p.profile.format
  matchedRule := p.matchedRule
  source := if p.matchedRule.isSome then .rule else .default
  evaluated := p.evaluated

/-- Tries rules in order until no attribute is open. -/
def run (request : Request) : List ClientRule → Progress → ParseCache → Progress × ParseCache
  | [], p, cache => (p, cache)
  | r :: rest, p, cache =>
    match r.tryOn request cache with
    | (.skipped, cache) => run request rest p cache
    | (.missed, cache) => run request rest { p with evaluated := p.evaluated + 1 } cache
    | (.matched captures, cache) =>
      let p := p.add r captures
      if p.profile.isComplete then (p, cache) else run request rest p cache

/-- What `rules`, which come in order, say about the client that made `request`. -/
def detect (rules : List ClientRule) (request : Request) (cache : ParseCache) :
    Detection × ParseCache :=
  let (p, cache) := run request rules {} cache
  (p.finish, cache)

end Detection

end StreamPolicy
