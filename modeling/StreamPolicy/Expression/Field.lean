import StreamPolicy.Expression.Operator

/-!
# Fields and targets

What a condition looks at (`Field`) and what an assignment writes (`Target`).
-/

namespace StreamPolicy

/-- The part of a request that a dynamic field is looked up in. -/
inductive Scope
  | headers
  | query
  deriving DecidableEq, Repr

namespace Scope

def name : Scope → String
  | .headers => "request.headers"
  | .query => "request.query"

/-- The scope of a name, which minds letter case. -/
def ofName? (s : String) : Option Scope := [headers, query].find? (·.name == s)

end Scope

/-- A field: a static name, or a key to look up in a part of the request. -/
inductive Field
  | static (name : String)
  | dynamic (scope : Scope) (key : String)
  deriving DecidableEq, Repr

def Field.isDynamic : Field → Bool
  | .static _ => false
  | .dynamic _ _ => true

inductive Target
  | videoCodec
  | audioCodec
  | supportsFmp4
  | supportsMpegts
  | format
  deriving DecidableEq, Repr

namespace Target

def all : List Target := [.videoCodec, .audioCodec, .supportsFmp4, .supportsMpegts, .format]

def name : Target → String
  | .videoCodec => "preferred_video_codec"
  | .audioCodec => "preferred_audio_codec"
  | .supportsFmp4 => "supports_fmp4"
  | .supportsMpegts => "supports_mpegts"
  | .format => "preferred_format"

def ofName? : String → Option Target := byName all name

end Target

end StreamPolicy
