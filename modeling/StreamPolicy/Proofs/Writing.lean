import StreamPolicy.Cli.Run

/-!
# What a run writes

A run that fails leaves every file alone. One that succeeds writes the configuration in use if its
command is one that changes rules, and nothing otherwise (`editedPath?`). Nothing can fail behind
the writing, so how a run ends is told by its last step, and each step on the way is shown to end in
one of the three ways of `Outcome.Ends`.
-/

namespace StreamPolicy.Cli

variable {s : Surroundings} {given : Option String} {o : Outcome} {edited : Option String}

/-! ## Commands that change rules -/

def editWords : List String := ["add", "remove", "enable", "disable", "priority"]

/-- Whether the arguments lead to one of `editWords`. -/
def Reading.edits (r : Reading) : Bool :=
  match r.path.drop 1 with
  | ["rules", word] => editWords.contains word
  | _ => false

/-- The file that `args` ask to change: the configuration in use, for a command that changes
rules. -/
def editedPath? (s : Surroundings) (args : List String) : Option String :=
  match programGrammar.read args with
  | .error _ => none
  | .ok r => if r.edits then s.configPath? (r.value? "config") else none

def RuleAction.edits : RuleAction → Bool
  | .list _ => false
  | .edit _ => true

def Command.edits : Command → Bool
  | .rules _ action => action.edits
  | _ => false

theorem edits_of_ruleAction? {r : Reading} {name : String} {operands : List String}
    {action : RuleAction} (h : r.ruleAction? name operands = some action) :
    action.edits = editWords.contains name := by
  unfold Reading.ruleAction? at h
  split at h
  case h_6 =>
    obtain ⟨p, -, rfl⟩ := Option.map_eq_some_iff.1 h
    rfl
  all_goals
    cases h
    try rfl

/-- The commands that change rules are those of `editWords`. -/
theorem edits_of_command? {r : Reading} {command : Command} (h : r.command? = some command) :
    command.edits = r.edits := by
  unfold Reading.command? at h
  unfold Reading.edits
  split at h
  case h_5 name _ hpath =>
    obtain ⟨action, haction, rfl⟩ := Option.map_eq_some_iff.1 h
    rw [hpath]
    exact edits_of_ruleAction? haction
  all_goals cases h
  all_goals
    rename_i hpath _
    rw [hpath]
    rfl

/-! ## Ends of runs -/

/-- How a run can end, where it is to change the file `edited` or none. -/
inductive Outcome.Ends (edited : Option String) (o : Outcome) : Prop
  | failed : o.exitCode ≠ 0 → o.written = none → o.Ends edited
  | answered : edited = none → o.exitCode = 0 → o.written = none → o.Ends edited
  | wrote {path content : String} : edited = some path → o.exitCode = 0 →
    o.written = some (path, content) → o.Ends edited

theorem ends_ofFailure (f : Failure) (lines : List String) :
    (Outcome.ofFailure f lines).Ends edited := .failed Nat.one_ne_zero rfl

theorem ends_ofLines (lines : List String) : (Outcome.ofLines lines).Ends none :=
  .answered rfl rfl rfl

theorem ends_ofData (d : Data) : (Outcome.ofData d).Ends none := ends_ofLines _

theorem ends_runTest (expression : String) (request : Request) :
    (runTest expression request).Ends none := by
  unfold runTest
  split
  · exact ends_ofFailure _ _
  · exact ends_ofFailure _ _
  · exact ends_ofData _

theorem ends_runCheck (l : Loaded) (json : Bool) : (runCheck l json).Ends none := by
  unfold runCheck
  split
  · exact ends_ofData _
  · exact ends_ofLines _

theorem ends_runRelay (app : App) (request : Request) (source : StreamInfo) :
    (runRelay app request source).Ends none := by
  unfold runRelay
  split
  · exact ends_ofData _
  · exact ends_ofLines _

theorem ends_runList {α : Type} [RuleKind α] (s : Service α) (json : Bool) :
    (runList s json).Ends none := by
  unfold runList
  split
  · exact ends_ofData _
  · exact ends_ofLines _

theorem ends_runPersist (app : App) (file : Option (String × String)) (lines : List String) :
    (runPersist app file lines).Ends (file.map (·.1)) := by
  unfold runPersist
  split
  · exact ends_ofLines _
  · split
    · exact ends_ofFailure _ _
    · exact .wrote rfl rfl rfl

theorem ends_runRules (l : Loaded) (ofRelay : Bool) (action : RuleAction) :
    (runRules l ofRelay action).Ends (if action.edits then l.path? else none) := by
  cases action with
  | list json =>
    cases ofRelay with
    | true => exact ends_runList (App.ofConfig l.issuer l.config).1.relay json
    | false => exact ends_runList (App.ofConfig l.issuer l.config).1.client json
  | edit e =>
    simp only [runRules, RuleAction.edits, if_true]
    split
    · exact ends_ofFailure _ _
    · exact ends_runPersist _ l.file _

theorem path?_of_load {l : Loaded} (h : s.load given = .ok l) : l.path? = s.configPath? given := by
  unfold Surroundings.load at h
  split at h
  · rename_i path hpath
    unfold Surroundings.loadFile at h
    split at h
    · cases h
    · cases h
    · split at h
      · cases h
        exact hpath.symm
      · cases h
  · rename_i hpath
    cases h
    exact hpath.symm

theorem ends_withConfig {run : Loaded → Outcome}
    (h : ∀ l, s.load given = .ok l → (run l).Ends edited) :
    (withConfig s given run).Ends edited := by
  unfold withConfig
  split
  · exact ends_ofFailure _ _
  · rename_i l hload
    exact h l hload

theorem Invocation.ends_run (s : Surroundings) (i : Invocation) :
    (i.run s).Ends (if i.command.edits then s.configPath? i.config else none) := by
  obtain ⟨config, command⟩ := i
  cases command with
  | version => exact .answered rfl rfl rfl
  | test expression request => exact ends_runTest expression request
  | check json => exact ends_withConfig fun l _ => ends_runCheck l json
  | detect request => exact ends_withConfig fun _ _ => ends_ofData _
  | relay request source => exact ends_withConfig fun _ _ => ends_runRelay _ request source
  | rules ofRelay action =>
    refine ends_withConfig fun l hload => ?_
    rw [← path?_of_load hload]
    exact ends_runRules l ofRelay action

theorem ends_refused : Halt.refused.outcome.Ends edited := .failed (Nat.succ_ne_zero 1) rfl

theorem ends_outcome (h : Halt) : h.outcome.Ends none := by
  cases h with
  | refused => exact ends_refused
  | shown text => exact .answered rfl rfl rfl

theorem ends_run (s : Surroundings) (args : List String) :
    (run s args).Ends (editedPath? s args) := by
  unfold run Invocation.read editedPath?
  cases programGrammar.read args with
  | error h => exact ends_outcome h
  | ok r =>
    cases hcommand : r.command? with
    | none =>
      simp only [hcommand]
      exact ends_refused
    | some command =>
      simp only [hcommand, ← edits_of_command? hcommand]
      exact Invocation.ends_run s ⟨r.value? "config", command⟩

/-- A path that refuses to be written is the last cause for a run to fail. -/
theorem Outcome.Ends.conclude (h : o.Ends edited) (refusal? : String → Option String) :
    (o.conclude refusal?).Ends edited := by
  unfold Outcome.conclude
  split
  · exact h
  · split
    · exact h
    · exact .failed Nat.one_ne_zero rfl

/-- A run that fails leaves all files as they were, also if it fails in writing. One that succeeds
writes the configuration in use for a command that changes rules, and no file otherwise. -/
theorem filesAfter_run (s : Surroundings) (args : List String)
    (refusal? : String → Option String) :
    let o := (run s args).conclude refusal?
    (o.exitCode ≠ 0 → o.filesAfter s.files = s.files) ∧
      (o.exitCode = 0 → editedPath? s args = none → o.filesAfter s.files = s.files) ∧
      ∀ path, o.exitCode = 0 → editedPath? s args = some path →
        ∃ content, o.filesAfter s.files = s.files.write path content := by
  intro o
  have hunwritten : o.written = none → o.filesAfter s.files = s.files := fun h => by
    rw [Outcome.filesAfter, h]
  have hends : o.Ends (editedPath? s args) := (ends_run s args).conclude refusal?
  cases hends with
  | failed hcode hnone =>
    exact ⟨fun _ => hunwritten hnone, fun h => absurd h hcode, fun _ h => absurd h hcode⟩
  | answered hedited hcode hnone =>
    refine ⟨fun _ => hunwritten hnone, fun _ _ => hunwritten hnone, fun path _ h => ?_⟩
    rw [hedited] at h
    cases h
  | @wrote _ content hedited hcode hwritten =>
    refine ⟨fun h => absurd hcode h, fun _ h => ?_, fun path _ h => ⟨content, ?_⟩⟩
    · rw [hedited] at h
      cases h
    · rw [hedited] at h
      cases h
      rw [Outcome.filesAfter, hwritten]

/-- A rule is added to a file without rules. There is none to be removed, and a path may refuse to
be written. -/
theorem filesAfter_run_add :
    let s : Surroundings :=
      { files := fun p =>
          if p = "a.toml" then .text "[engine]\nuse_builtin_rules = false\n" else .missing
        home := none
        issuer := ⟨⟨1⟩, .epoch⟩ }
    let add := ["rules", "-c", "a.toml", "add", "TV", "method == GET"]
    let added := (run s add).conclude fun _ => none
    let refused := (run s add).conclude fun _ => some "permission denied"
    let removed := (run s ["rules", "-c", "a.toml", "remove", "TV"]).conclude fun _ => none
    (added.exitCode = 0 ∧
        ∃ content, added.filesAfter s.files = s.files.write "a.toml" content) ∧
      (refused.exitCode = 1 ∧ refused.filesAfter s.files = s.files) ∧
      removed.exitCode = 1 ∧ removed.filesAfter s.files = s.files := by
  intro s add added refused removed
  have hadded : added.exitCode = 0 := by decide +kernel
  have hedited : editedPath? s add = some "a.toml" := by decide +kernel
  have hrefused : refused.exitCode = 1 := by decide +kernel
  have hremoved : removed.exitCode = 1 := by decide +kernel
  refine ⟨⟨hadded, ?_⟩, ⟨hrefused, ?_⟩, hremoved, ?_⟩
  · exact (filesAfter_run s add _).2.2 "a.toml" hadded hedited
  · exact (filesAfter_run s add _).1 (by rw [hrefused]; exact Nat.one_ne_zero)
  · exact (filesAfter_run s _ _).1 (by rw [hremoved]; exact Nat.one_ne_zero)

end StreamPolicy.Cli
