import StreamPolicy.Expression.Cache
import StreamPolicy.Request.Basic
import StreamPolicy.Rule.Basic

/-!
# Trying a rule on a request

A rule that is disabled or does not parse is `skipped`. Every rule is tried in `Request.context`,
where nothing has been captured yet.
-/

namespace StreamPolicy

inductive Trial
  | skipped
  | missed
  | matched (captures : Captures)

namespace Rule

/-- What a parsed condition says about `request`. A tree that is too deep says nothing. -/
def trialOf (request : Request) : Parsed → Trial
  | .error _ => .skipped
  | .ok e =>
    match e.apply request.context with
    | (.ok true, captures) => .matched captures
    | _ => .missed

/-- Tries `r` on `request`. The cache remembers what its condition parses to. -/
def tryOn (r : Rule α) (request : Request) (cache : ParseCache) : Trial × ParseCache :=
  if r.enabled then
    let (parsed, cache) := cache.parse r.expression
    (trialOf request parsed, cache)
  else (.skipped, cache)

end Rule

end StreamPolicy
