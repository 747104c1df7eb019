import StreamPolicy.App

/-!
# Reports

What is wrong with a configuration (`Report.ofConfig`): warnings, findings about the rules in force,
and rules of the file that are not in force because their condition does not parse.
-/

namespace StreamPolicy.Cli

structure Report where
  path : Option String
  warnings : List String
  clientRules : List Issue
  relayMappings : List Issue
  deriving DecidableEq, Repr

/-- The findings about the `loaded` rules, and those `fromFile` that a condition does not parse, for
rules about which nothing has been said. -/
def mergeIssues (loaded fromFile : List Issue) : List Issue :=
  fromFile.foldl (fun issues i =>
    if i.kind == .invalidExpression && !issues.any (·.ruleId == i.ruleId) then issues ++ [i]
    else issues) loaded

namespace Report

def ofConfig (issuer : Issuer) (path : Option String) (c : Config) : Report :=
  let (client, relay) := (App.ofConfig issuer c).1.analyze
  let catchAll := c.engine.catchAllPriority
  { path
    warnings := c.warnings.map (·.message)
    clientRules := mergeIssues client (Lint.analyze catchAll c.clientRules)
    relayMappings := mergeIssues relay (Lint.analyze catchAll c.relayMappings) }

def toData (r : Report) : Data :=
  .record [("config", encode r.path), ("warnings", encode r.warnings),
    (Config.clientKey, encode r.clientRules), (Config.relayKey, encode r.relayMappings)]

/-- The lines about one list of rules. -/
def issueLines (title : String) (issues : List Issue) : List String :=
  if issues.isEmpty then []
  else "" :: s!"{title} ({issues.length} issue(s)):" :: issues.map fun i =>
    s!"  [{Named.name i.kind}] {i.ruleName} (priority {i.priority.toInt}): {i.message}"

def lines (r : Report) : List String :=
  (match r.path with
    | some path => ["Config: " ++ path]
    | none => ["No config file found, using defaults"]) ++
  r.warnings.map ("warning: " ++ ·) ++ issueLines "Client detection rules" r.clientRules ++
    issueLines "Relay mappings" r.relayMappings ++
    if r.clientRules.isEmpty && r.relayMappings.isEmpty then ["✓ Rules are valid"] else []

end Report

end StreamPolicy.Cli
