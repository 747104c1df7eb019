import StreamPolicy.Detection
import StreamPolicy.Lint
import StreamPolicy.Relay
import StreamPolicy.Store

/-!
# Rule services

A `Service` stores rules, keeps a `snapshot` of the enabled ones, and answers requests from that
snapshot. Whatever changes a rule takes a new snapshot (`withStore`); `seed` alone does not. An
operation that is refused leaves the service as it was.
-/

namespace StreamPolicy

structure Service (α : Type) where
  store : Store α := Store.empty
  /-- The enabled rules, in order, when they were last looked up. -/
  snapshot : List (Rule α) := []
  cache : ParseCache := ParseCache.empty

namespace Service

variable {α : Type}

/-- Takes a new snapshot and forgets the texts that are not in it. -/
def refresh (s : Service α) : Service α :=
  let live := s.store.enabled
  { s with snapshot := live, cache := s.cache.retain (live.map (·.expression)) }

/-- The service with the rules of `store`, which are in force at once. -/
def withStore (s : Service α) (store : Store α) : Service α := { s with store }.refresh

def clearCache (s : Service α) : Service α := { s with cache := ParseCache.empty }

section Operations

variable [RuleKind α]

/-! ## What is checked -/

/-- A rule has a name and a condition that parses. -/
def checkRule (r : Rule α) : Except RuleError Unit :=
  if Text.isBlankText r.name.toList then .error (.blankName (RuleKind.kind α))
  else match Expression.parse r.expression with
    | .ok _ => .ok ()
    | .error e => .error (.invalidRule (RuleKind.kind α) r.name e)

/-- No other rule has the name of `r`. -/
def checkName (s : Service α) (r : Rule α) : Except RuleError Unit :=
  if s.store.rules.any fun other => other.name == r.name && other.id != r.id then
    .error (.nameTaken (RuleKind.kind α) r.name)
  else .ok ()

def check (s : Service α) (r : Rule α) : Except RuleError Unit :=
  match checkRule r with
  | .error e => .error e
  | .ok () => s.checkName r

/-! ## Looking rules up -/

def get (s : Service α) (id : Uuid) : Except RuleError (Rule α) := s.store.get id

def findByName (s : Service α) (name : String) : Except RuleError (Rule α) :=
  match s.store.findByName? name with
  | some r => .ok r
  | none => .error (.unknownName (RuleKind.kind α) name)

def validate (text : String) : Except RuleError Unit :=
  match Expression.parse text with
  | .ok _ => .ok ()
  | .error e => .error (.invalidExpression e)

def analyze (s : Service α) (catchAll : Int32) : List Issue := Lint.analyze catchAll s.store.list

/-! ## Changing rules -/

/-- Stores `r` as it is, without a new snapshot. -/
def seed (s : Service α) (r : Rule α) : Except RuleError (Rule α) × Service α :=
  match s.check r with
  | .error e => (.error e, s)
  | .ok () =>
    match s.store.create r with
    | .error e => (.error e, s)
    | .ok store => (.ok r, { s with store })

/-- Stores `r`, which is none of the system, whatever it says. -/
def create (s : Service α) (r : Rule α) : Except RuleError (Rule α) × Service α :=
  match s.seed { r with isSystem := false } with
  | (.error e, s) => (.error e, s)
  | (.ok r, s) => (.ok r, s.refresh)

/-- Stores `r` in place of the rule with its identifier. -/
def replace (s : Service α) (r : Rule α) : Except RuleError (Rule α) × Service α :=
  match s.store.update r with
  | .error e => (.error e, s)
  | .ok store => (.ok r, s.withStore store)

/-- Replaces a rule. `isSystem` and the time it was made stay as they are; of a rule of the system
only the priority and whether it is enabled can change. -/
def update [DecidableEq α] (s : Service α) (now : Time) (r : Rule α) :
    Except RuleError (Rule α) × Service α :=
  match s.get r.id with
  | .error e => (.error e, s)
  | .ok existing =>
    if existing.isSystem && !existing.sameDefinition r then
      (.error (.fixedDefinition (RuleKind.kind α) existing.name), s)
    else match s.check r with
      | .error e => (.error e, s)
      | .ok () => s.replace { r with
          isSystem := existing.isSystem, createdAt := existing.createdAt, updatedAt := now }

/-- Deletes a rule that is none of the system. -/
def delete (s : Service α) (id : Uuid) : Except RuleError Unit × Service α :=
  match s.get id with
  | .error e => (.error e, s)
  | .ok existing =>
    if existing.isSystem then (.error (.undeletable (RuleKind.kind α) existing.name), s)
    else match s.store.delete id with
      | .error e => (.error e, s)
      | .ok store => (.ok (), s.withStore store)

def setEnabled (s : Service α) (now : Time) (id : Uuid) (enabled : Bool) :
    Except RuleError (Rule α) × Service α :=
  match s.get id with
  | .error e => (.error e, s)
  | .ok r => s.replace { r with enabled, updatedAt := now }

/-- The rules with their new priorities. All of them have to be stored. -/
def reprioritized (s : Service α) (now : Time) :
    List (Uuid × Int32) → Except RuleError (List (Rule α))
  | [] => .ok []
  | (id, priority) :: rest =>
    match s.get id with
    | .error e => .error e
    | .ok r =>
      match reprioritized s now rest with
      | .error e => .error e
      | .ok rs => .ok ({ r with priority, updatedAt := now } :: rs)

/-- Gives rules new priorities. All of them are looked up (`reprioritized`) before the first one is
replaced. -/
def reorder (s : Service α) (now : Time) (priorities : List (Uuid × Int32)) :
    Except RuleError Unit × Service α :=
  match s.reprioritized now priorities with
  | .error e => (.error e, s)
  | .ok rs =>
    match s.store.updateAll rs with
    | (.error e, store) => (.error e, { s with store })
    | (.ok (), store) => (.ok (), s.withStore store)

end Operations

/-! ## Answering requests -/

/-- What the snapshot says about the client that made `request`. -/
def detect (s : Service ClientProfile) (request : Request) : Detection × Service ClientProfile :=
  let (result, cache) := Detection.detect s.snapshot request s.cache
  (result, { s with cache })

/-- How the snapshot would have `source` relayed. -/
def decide (s : Service RelayTargets) (request : Request) (source : StreamInfo) :
    Option Decision × Service RelayTargets :=
  let (result, cache) := Decision.decide? request source s.snapshot s.cache
  (result, { s with cache })

end Service

end StreamPolicy
