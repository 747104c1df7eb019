import StreamPolicy.Cli.Command
import StreamPolicy.Cli.Files
import StreamPolicy.Cli.Report
import StreamPolicy.Data.Json

/-!
# Runs

What the program answers to its arguments (`run`). An `Outcome` has two texts, an exit code, and the
new text of the configuration file where rules have been changed.
-/

namespace StreamPolicy.Cli

structure Outcome where
  exitCode : Nat := 0
  out : String := ""
  err : String := ""
  /-- The path and the text of a file that is to be written. -/
  written : Option (String × String) := none
  deriving DecidableEq, Repr

/-- Lines with their ends. -/
def textOf (lines : List String) : String := String.join (lines.map (· ++ "\n"))

namespace Outcome

def ofLines (lines : List String) : Outcome := { out := textOf lines }

def ofData (d : Data) : Outcome := ofLines [d.json]

/-- The outcome of a command that fails with `f` after it has shown some lines. -/
def ofFailure (f : Failure) (lines : List String := []) : Outcome :=
  { exitCode := 1, out := textOf lines, err := f.text }

def filesAfter (o : Outcome) (files : Files) : Files :=
  match o.written with
  | none => files
  | some (path, content) => files.write path content

/-- What comes of `o` when its file is to be written. Where the path refuses that, for a reason,
nothing is written and the run has failed. -/
def conclude (o : Outcome) (refusal? : String → Option String) : Outcome :=
  match o.written with
  | none => o
  | some (path, _) =>
    match refusal? path with
    | none => o
    | some reason =>
      { exitCode := 1, out := o.out, err := o.err ++ (Failure.unwritable path reason).text }

end Outcome

/-! ## Answers -/

def runTest (expression : String) (request : Request) : Outcome :=
  match Expression.test expression request.resolver with
  | .error (.parse e) => .ofFailure (.noExpression expression e)
  | .error (.eval e) => .ofFailure (.notEvaluated e)
  | .ok (matched, captures) =>
    .ofData (.record [("matched", encode matched),
      ("captures", .record (captures.toList.map fun (target, value) =>
        (target.name, encode value)))])

def runCheck (l : Loaded) (json : Bool) : Outcome :=
  let report := Report.ofConfig l.issuer l.path? l.config
  if json then .ofData report.toData else .ofLines report.lines

def runDetect (app : App) (request : Request) : Outcome :=
  .ofData (encode (app.client.detect request).1)

def runRelay (app : App) (request : Request) (source : StreamInfo) : Outcome :=
  match (app.relay.decide request source).1 with
  | some decision => .ofData (encode decision)
  | none => .ofLines ["No relay mapping matched; stream is passed through."]

/-! ## Rules -/

section Rules

variable {α : Type} [RuleKind α]

def ruleLine (r : Rule α) : String :=
  let priority := String.ofList (Text.padLeft 5 ' ' (toString r.priority.toInt).toList)
  let state := if r.enabled then "on " else "off"
  let origin := if r.isSystem then "system" else "user  "
  s!"{priority}  {state} {origin} {r.name}  [{r.expression}]"

def runList (s : Service α) (json : Bool) : Outcome :=
  let rules := s.store.list
  if json then .ofData (.list (rules.map Rule.toData)) else .ofLines (rules.map ruleLine)

/-- What is said about a change to a rule that will not be kept. -/
def systemNote (r : Rule α) : List String :=
  if r.isSystem then
    [s!"note: '{r.name}' is a built-in rule; changes to it are not written to the config file"]
  else []

def NewRule.issue (issuer : Issuer) (attributes : NewRule → α) (n : NewRule) : Rule α :=
  (Blueprint.issue issuer
    { name := n.name, description := n.description, expression := n.expression,
      priority := n.priority, attributes := attributes n }).1

/-- Changes the rules, and says what has been done. -/
def RuleEdit.apply (issuer : Issuer) (attributes : NewRule → α) (s : Service α) :
    RuleEdit → Except RuleError (List String × Service α)
  | .add n =>
    match s.create (n.issue issuer attributes) with
    | (.error e, _) => .error e
    | (.ok r, s) => .ok ([s!"Added {RuleKind.kind α} '{r.name}' ({r.id.text})"], s)
  | .remove name =>
    match s.findByName name with
    | .error e => .error e
    | .ok r =>
      match s.delete r.id with
      | (.error e, _) => .error e
      | (.ok _, s) => .ok ([s!"Removed {RuleKind.kind α} '{name}'"], s)
  | .setEnabled name enabled =>
    match s.findByName name with
    | .error e => .error e
    | .ok r =>
      match s.setEnabled issuer.now r.id enabled with
      | (.error e, _) => .error e
      | (.ok _, s) =>
        let done := if enabled then "Enabled" else "Disabled"
        .ok (s!"{done} {RuleKind.kind α} '{name}'" :: systemNote r, s)
  | .setPriority name priority =>
    match s.findByName name with
    | .error e => .error e
    | .ok r =>
      match s.reorder issuer.now [(r.id, priority)] with
      | (.error e, _) => .error e
      | (.ok _, s) =>
        .ok (s!"Set priority of {RuleKind.kind α} '{name}' to {priority.toInt}" :: systemNote r, s)

end Rules

def editRules (app : App) (issuer : Issuer) (ofRelay : Bool) (e : RuleEdit) :
    Except RuleError (List String × App) :=
  if ofRelay then
    (e.apply issuer NewRule.targets app.relay).map fun (lines, relay) => (lines, { app with relay })
  else
    (e.apply issuer NewRule.profile app.client).map fun (lines, client) =>
      (lines, { app with client })

/-- Writes the rules of `app` back to the file they come from. -/
def runPersist (app : App) (file : Option (String × String)) (lines : List String) : Outcome :=
  match file with
  | none => .ofLines (lines ++ ["No config file; pass --config to keep changes."])
  | some (path, content) =>
    match app.updatedText? content with
    | none => .ofFailure (.unwritable path "the text is not a configuration") lines
    | some content => { out := textOf lines, written := some (path, content) }

def runRules (l : Loaded) (ofRelay : Bool) : RuleAction → Outcome
  | .list json =>
    let app := (App.ofConfig l.issuer l.config).1
    if ofRelay then runList app.relay json else runList app.client json
  | .edit e =>
    let (app, issuer) := App.ofConfig l.issuer l.config
    match editRules app issuer ofRelay e with
    | .error e => .ofFailure (.rule e)
    | .ok (lines, app) => runPersist app l.file lines

/-! ## Commands -/

/-- Runs a command that needs a configuration. -/
def withConfig (s : Surroundings) (given : Option String) (run : Loaded → Outcome) : Outcome :=
  match s.load given with
  | .error f => .ofFailure f
  | .ok l => run l

def Invocation.run (s : Surroundings) (i : Invocation) : Outcome :=
  match i.command with
  | .version => { out := versionText }
  | .test expression request => runTest expression request
  | .check json => withConfig s i.config fun l => runCheck l json
  | .detect request =>
    withConfig s i.config fun l => runDetect (App.ofConfig l.issuer l.config).1 request
  | .relay request source =>
    withConfig s i.config fun l => runRelay (App.ofConfig l.issuer l.config).1 request source
  | .rules ofRelay action => withConfig s i.config fun l => runRules l ofRelay action

def Halt.outcome : Halt → Outcome
  | .shown text => { out := text }
  | .refused => { exitCode := 2, err := "Usage: " ++ programGrammar.usage [programName] ++ "\n" }

def run (s : Surroundings) (args : List String) : Outcome :=
  match Invocation.read args with
  | .error h => h.outcome
  | .ok i => i.run s

end StreamPolicy.Cli
