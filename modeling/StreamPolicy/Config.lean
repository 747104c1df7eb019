import StreamPolicy.Rule.Builtin
import StreamPolicy.Toml.Document

/-!
# Configurations

A `Config` holds the settings of the engine and two lists of rules. It is read from a document
(`parse?`); writing rules back (`updatedText?`) leaves everything else in the document as it is.
-/

namespace StreamPolicy

/-! ## Settings -/

structure Engine where
  /-- The priority at which a rule may match everything. -/
  catchAllPriority : Int32 := Builtin.catchAllPriority
  analyzeOnLoad : Bool := true
  /-- Whether the rules of the system are used beside the configured ones. -/
  useBuiltinRules : Bool := true
  deriving DecidableEq, Repr

instance : Coded Engine where
  encode e := .record [("catch_all_priority", encode e.catchAllPriority),
    ("analyze_on_load", encode e.analyzeOnLoad),
    ("use_builtin_rules", encode e.useBuiltinRules)]
  decode? d := do
    let get ← d.fields? ["catch_all_priority", "analyze_on_load", "use_builtin_rules"]
    return { catchAllPriority := ← Data.orDefault Builtin.catchAllPriority
               (get "catch_all_priority")
             analyzeOnLoad := ← Data.orDefault true (get "analyze_on_load")
             useBuiltinRules := ← Data.orDefault true (get "use_builtin_rules") }

structure Config where
  engine : Engine := {}
  clientRules : List ClientRule := []
  relayMappings : List RelayMapping := []
  deriving DecidableEq, Repr

namespace Config

def clientKey : String := "client_detection_rules"

def relayKey : String := "relay_mappings"

def toData (c : Config) : Data :=
  .record [("engine", encode c.engine), (clientKey, .list (c.clientRules.map Rule.toData)),
    (relayKey, .list (c.relayMappings.map Rule.toData))]

/-! ## Reading -/

/-- Reads a list of rules, which is empty when it is not there. -/
def readRules? [RuleKind α] (issuer : Issuer) : Option Data → Option (List (Rule α) × Issuer)
  | none => some ([], issuer)
  | some (.list ds) => Rule.readAll? issuer ds
  | some _ => none

/-- Reads a configuration. Rules without an identifier get fresh ones of `issuer` in order. -/
def read? (issuer : Issuer) (d : Data) : Option (Config × Issuer) := do
  let get ← d.fields? ["engine", clientKey, relayKey]
  let engine ← Data.orDefault {} (get "engine")
  let (clientRules, issuer) ← readRules? issuer (get clientKey)
  let (relayMappings, issuer) ← readRules? issuer (get relayKey)
  return ({ engine, clientRules, relayMappings }, issuer)

def parse? (issuer : Issuer) (text : String) : Option (Config × Issuer) :=
  (Toml.Document.data? text).bind (read? issuer)

/-! ## Writing back -/

def tables [RuleKind α] (rules : List (Rule α)) : List (List (String × Data)) :=
  rules.map fun r => match r.toData with
    | .record fields => fields
    | _ => []

/-- The document `d` with other lists of rules. -/
def withRules (d : Toml.Document) (clientRules : List ClientRule)
    (relayMappings : List RelayMapping) : Toml.Document :=
  (d.replace clientKey (tables clientRules)).replace relayKey (tables relayMappings)

/-- The document `text` with other lists of rules, unless it is no document. -/
def updatedText? (text : String) (clientRules : List ClientRule)
    (relayMappings : List RelayMapping) : Option String :=
  (Toml.Document.parse? text).map fun d => (withRules d clientRules relayMappings).text

/-! ## Warnings -/

/-- Something about a list of rules that is allowed but hardly meant. -/
inductive Warning
  | blankName (kind : String)
  | repeatedName (kind name : String)
  | sharedPriority (kind : String) (priority : Int32)
  deriving DecidableEq, Repr

def Warning.message : Warning → String
  | .blankName kind => s!"A {kind} has an empty name"
  | .repeatedName kind name => s!"Duplicate {kind} name '{name}'"
  | .sharedPriority kind priority =>
    s!"Several {kind}s share priority {priority.toInt}; their order is the file order"

/-- Warnings about the name of `r`, which comes behind the rules `earlier`. -/
def nameWarnings [RuleKind α] (earlier : List (Rule α)) (r : Rule α) : List Warning :=
  if Text.isBlankText r.name.toList then [.blankName (RuleKind.kind α)]
  else if earlier.any (·.name == r.name) then [.repeatedName (RuleKind.kind α) r.name]
  else []

/-- Warnings about the priority of `r`, which comes behind the rules `earlier`. -/
def priorityWarnings [RuleKind α] (earlier : List (Rule α)) (r : Rule α) : List Warning :=
  if earlier.any (·.priority == r.priority) then [.sharedPriority (RuleKind.kind α) r.priority]
  else []

/-- Warnings about rules behind those of `earlier`, in order. -/
def ruleWarnings [RuleKind α] (earlier : List (Rule α)) : List (Rule α) → List Warning
  | [] => []
  | r :: rest =>
    nameWarnings earlier r ++ priorityWarnings earlier r ++ ruleWarnings (earlier ++ [r]) rest

def warnings (c : Config) : List Warning :=
  ruleWarnings [] c.clientRules ++ ruleWarnings [] c.relayMappings

end Config

end StreamPolicy
