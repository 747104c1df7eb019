import StreamPolicy.Cli.Run
import StreamPolicy.Proofs.Reloading

/-!
# Edited files

An edit of the command line (`RuleEdit`) changes one rule among those that have been loaded, and
writes all of them back. A rule of the file that could not be loaded is therefore lost, but if the
file `IsTakenWhole`, every other rule is kept as it was.
-/

namespace StreamPolicy

variable {α : Type}

/-! ## Edits -/

namespace Cli

variable [RuleKind α]

/-- What an edit makes of the rules `rs`, in which names do not repeat. -/
def RuleEdit.onRules (issuer : Issuer) (attributes : NewRule → α) (rs : List (Rule α)) :
    RuleEdit → List (Rule α)
  | .add n => rs ++ [n.issue issuer attributes]
  | .remove name => rs.filter (·.name != name)
  | .setEnabled name enabled =>
    rs.map fun r => if r.name = name then { r with enabled, updatedAt := issuer.now } else r
  | .setPriority name priority =>
    rs.map fun r => if r.name = name then { r with priority, updatedAt := issuer.now } else r

variable {s t : Service α} {issuer : Issuer} {attributes : NewRule → α} {e : RuleEdit}
  {lines : List String}

omit [RuleKind α] in
theorem RuleEdit.onRules_perm {rs rs' : List (Rule α)} (h : rs.Perm rs') :
    (e.onRules issuer attributes rs).Perm (e.onRules issuer attributes rs') := by
  cases e with
  | add n => exact h.append_right _
  | remove name => exact h.filter _
  | setEnabled name enabled => exact h.map _
  | setPriority name priority => exact h.map _

/-- What an edit does to the service `s`: a rule is added, or the one with the name is changed. -/
def RuleEdit.Changes (issuer : Issuer) (attributes : NewRule → α) (s t : Service α) :
    RuleEdit → Prop
  | .add n => s.store.get? (n.issue issuer attributes).id = none ∧
      t = s.withStore (s.store.insert (n.issue issuer attributes))
  | .remove name => ∃ r ∈ s.store.rules, r.name = name ∧ t = s.withStore (s.store.erase r.id)
  | .setEnabled name enabled => ∃ r ∈ s.store.rules, r.name = name ∧
      t = s.withStore (s.store.insert { r with enabled, updatedAt := issuer.now })
  | .setPriority name priority => ∃ r ∈ s.store.rules, r.name = name ∧
      t = s.withStore (s.store.insert { r with priority, updatedAt := issuer.now })

theorem RuleEdit.changes_of_apply (h : s.Valid)
    (he : e.apply issuer attributes s = .ok (lines, t)) : e.Changes issuer attributes s t := by
  cases e with
  | add n =>
    simp only [RuleEdit.apply] at he
    rcases s.create_cases (n.issue issuer attributes) with ⟨err, hc⟩ | ⟨-, hfree, hc⟩
    · rw [hc] at he
      cases he
    · rw [hc] at he
      cases he
      exact ⟨hfree, rfl⟩
  | remove name =>
    simp only [RuleEdit.apply] at he
    rcases h.findByName_cases name with ⟨err, hfind⟩ | ⟨r, hr, hname, hfind⟩
    · rw [hfind] at he
      cases he
    · rw [hfind] at he
      rcases s.delete_cases r.id with ⟨err, hd⟩ | ⟨old, -, -, hd⟩
      · simp only [hd] at he
        cases he
      · simp only [hd] at he
        cases he
        exact ⟨r, hr, hname, rfl⟩
  | setEnabled name enabled =>
    simp only [RuleEdit.apply] at he
    rcases h.findByName_cases name with ⟨err, hfind⟩ | ⟨r, hr, hname, hfind⟩
    · rw [hfind] at he
      cases he
    · simp only [hfind, Service.setEnabled_of_mem hr] at he
      cases he
      exact ⟨r, hr, hname, rfl⟩
  | setPriority name priority =>
    simp only [RuleEdit.apply] at he
    rcases h.findByName_cases name with ⟨err, hfind⟩ | ⟨r, hr, hname, hfind⟩
    · rw [hfind] at he
      cases he
    · simp only [hfind, Service.reorder_of_mem hr] at he
      cases he
      exact ⟨r, hr, hname, rfl⟩

omit [RuleKind α] in
/-- An edit that is not refused changes the rules of users as `onRules` says, and no others. -/
theorem RuleEdit.userRules_perm_of_changes (h : s.Valid) (he : e.Changes issuer attributes s t) :
    t.userRules.Perm (e.onRules issuer attributes s.userRules) := by
  cases e with
  | add n =>
    obtain ⟨hfree, rfl⟩ := he
    exact Service.userRules_insert hfree rfl
  | remove name =>
    obtain ⟨r, hr, rfl, rfl⟩ := he
    exact h.userRules_erase hr
  | setEnabled name enabled =>
    obtain ⟨r, hr, rfl, rfl⟩ := he
    exact h.userRules_revise hr
      (f := fun t => { t with enabled, updatedAt := issuer.now }) (fun _ => rfl) fun _ => rfl
  | setPriority name priority =>
    obtain ⟨r, hr, rfl, rfl⟩ := he
    exact h.userRules_revise hr
      (f := fun t => { t with priority, updatedAt := issuer.now }) (fun _ => rfl) fun _ => rfl

/-! ## Files -/

variable {app app' : App} {ofRelay : Bool}

/-- An edit of one kind of rules leaves those of the other kind alone. -/
theorem userRules_perm_of_editRules (hclient : app.client.Valid) (hrelay : app.relay.Valid)
    (h : editRules app issuer ofRelay e = .ok (lines, app')) :
    app'.engine = app.engine ∧
      app'.client.userRules.Perm (if ofRelay then app.client.userRules
        else e.onRules issuer NewRule.profile app.client.userRules) ∧
      app'.relay.userRules.Perm (if ofRelay then
        e.onRules issuer NewRule.targets app.relay.userRules else app.relay.userRules) := by
  unfold editRules at h
  cases ofRelay with
  | true =>
    rw [if_pos rfl] at h
    cases hedit : e.apply issuer NewRule.targets app.relay with
    | error err =>
      rw [hedit] at h
      cases h
    | ok done =>
      rw [hedit] at h
      cases h
      exact ⟨rfl, .refl _,
        RuleEdit.userRules_perm_of_changes hrelay (RuleEdit.changes_of_apply hrelay hedit)⟩
  | false =>
    rw [if_neg Bool.false_ne_true] at h
    cases hedit : e.apply issuer NewRule.profile app.client with
    | error err =>
      rw [hedit] at h
      cases h
    | ok done =>
      rw [hedit] at h
      cases h
      exact ⟨rfl, RuleEdit.userRules_perm_of_changes hclient
        (RuleEdit.changes_of_apply hclient hedit), .refl _⟩

def editing (given : Option String) (ofRelay : Bool) (e : RuleEdit) : Invocation :=
  ⟨given, .rules ofRelay (.edit e)⟩

/-- The surroundings of a run after one with the outcome `o`. -/
def Surroundings.after (s : Surroundings) (o : Outcome) (issuer : Issuer) : Surroundings :=
  { s with files := o.filesAfter s.files, issuer }

section Runs

variable {s : Surroundings} {given : Option String} {l : Loaded} {path content : String}

theorem run_editing (hload : s.load given = .ok l) :
    (editing given ofRelay e).run s = runRules l ofRelay (.edit e) := by
  simp only [editing, Invocation.run, withConfig, hload]

/-- An edit that is not refused writes a file that is a document. -/
theorem run_of_editRules (hload : s.load given = .ok l) (hfile : l.file = some (path, content))
    (hedit : editRules (App.ofConfig l.issuer l.config).1 (App.ofConfig l.issuer l.config).2
      ofRelay e = .ok (lines, app))
    {d : Toml.Document} (hdoc : Toml.Document.parse? content = some d) :
    (editing given ofRelay e).run s =
      { out := textOf lines, written := some (path, (app.saved d).text) } := by
  rw [run_editing hload]
  simp only [runRules, hedit, runPersist, hfile, App.updatedText?_eq, hdoc, Option.map_some]

/-- A run that edits a file succeeds only in the way of `run_of_editRules`. -/
theorem editRules_of_run (hload : s.load given = .ok l) (hfile : l.file = some (path, content))
    (hok : ((editing given ofRelay e).run s).exitCode = 0) :
    ∃ lines app d,
      editRules (App.ofConfig l.issuer l.config).1 (App.ofConfig l.issuer l.config).2 ofRelay e =
        .ok (lines, app) ∧ Toml.Document.parse? content = some d := by
  rw [run_editing hload] at hok
  cases hedit : editRules (App.ofConfig l.issuer l.config).1 (App.ofConfig l.issuer l.config).2
      ofRelay e with
  | error err =>
    simp only [runRules, hedit] at hok
    cases hok
  | ok done =>
    obtain ⟨lines, app⟩ := done
    simp only [runRules, hedit, runPersist, hfile, App.updatedText?_eq] at hok
    cases hdoc : Toml.Document.parse? content with
    | none =>
      rw [hdoc] at hok
      cases hok
    | some d => exact ⟨lines, app, d, rfl, rfl⟩

theorem parse?_of_load (hload : s.load given = .ok l) (hfile : l.file = some (path, content)) :
    Config.parse? s.issuer content = some (l.config, l.issuer) := by
  unfold Surroundings.load at hload
  split at hload
  · unfold Surroundings.loadFile at hload
    split at hload
    · cases hload
    · cases hload
    · split at hload
      · cases hload
        cases hfile
        assumption
      · cases hload
  · cases hload
    cases hfile

theorem loadFile_after {o : Outcome} {c : Config} {issuer issuer' : Issuer}
    (hwritten : o.written = some (path, content))
    (hparse : Config.parse? issuer content = some (c, issuer')) :
    (s.after o issuer).loadFile path =
      .ok { config := c, file := some (path, content), issuer := issuer' } := by
  have hpath : (s.after o issuer).files path = .text content := by
    rw [Surroundings.after, Outcome.filesAfter, hwritten]
    exact if_pos rfl
  have hissuer : (s.after o issuer).issuer = issuer := rfl
  simp only [Surroundings.loadFile, hpath, hissuer, hparse]

end Runs

/-- The rules of users in an application are those of its configuration that were `chosen`. -/
theorem userRules_ofConfig (issuer : Issuer) (c : Config) :
    (App.ofConfig issuer c).1.client.userRules.Perm
        ((Rule.chosen (App.shippedClientRules issuer c) c.clientRules).map Rule.asUser) ∧
      (App.ofConfig issuer c).1.relay.userRules.Perm
        ((Rule.chosen (App.shippedRelayMappings issuer c) c.relayMappings).map Rule.asUser) :=
  ⟨Service.userRules_load (App.compatible_shippedClientRules issuer c)
      (Builtin.shippable_clientRules.ite _).isSystem_issueAll _,
    Service.userRules_load (App.compatible_shippedRelayMappings issuer c)
      (Builtin.shippable_relayMappings.ite _).isSystem_issueAll _⟩

/-- The lists of rules in `new` are those in `old`, of which one has been edited. -/
structure RuleEdit.Edits (e : RuleEdit) (issuer : Issuer) (ofRelay : Bool) (old new : Config) :
    Prop where
  engine : new.engine = old.engine
  client : new.clientRules.Perm (if ofRelay then old.clientRules
    else e.onRules issuer NewRule.profile old.clientRules)
  relay : new.relayMappings.Perm (if ofRelay then
    e.onRules issuer NewRule.targets old.relayMappings else old.relayMappings)

/-- The part of `c` that an application takes, as rules of users. -/
def taken (issuer : Issuer) (c : Config) : Config :=
  { c with
    clientRules := (Rule.chosen (App.shippedClientRules issuer c) c.clientRules).map Rule.asUser
    relayMappings :=
      (Rule.chosen (App.shippedRelayMappings issuer c) c.relayMappings).map Rule.asUser }

/-- What is written is the configuration that was `taken`, with the edit applied. -/
theorem edits_savedConfig {l : Loaded}
    (h : editRules (App.ofConfig l.issuer l.config).1 (App.ofConfig l.issuer l.config).2 ofRelay e =
      .ok (lines, app)) :
    e.Edits (App.ofConfig l.issuer l.config).2 ofRelay (taken l.issuer l.config)
      app.savedConfig := by
  obtain ⟨hengine, hclient, hrelay⟩ := userRules_perm_of_editRules
    (Service.valid_load Service.consults_detect _ _)
    (Service.valid_load Service.consults_decideFor _ _) h
  obtain ⟨htaken, htakenRelay⟩ := userRules_ofConfig l.issuer l.config
  refine ⟨hengine, hclient.trans ?_, hrelay.trans ?_⟩
  · split
    · exact htaken
    · exact RuleEdit.onRules_perm htaken
  · split
    · exact RuleEdit.onRules_perm htakenRelay
    · exact htakenRelay

/-- After an edit that succeeds, the file has the rules that were `taken` from it, with the edit
applied. -/
theorem reload_of_run {s : Surroundings} {given : Option String} {l : Loaded}
    {path content : String} (hload : s.load given = .ok l) (hfile : l.file = some (path, content))
    (hok : ((editing given ofRelay e).run s).exitCode = 0) :
    let o := (editing given ofRelay e).run s
    let loaded := App.ofConfig l.issuer l.config
    ∃ lines app d, editRules loaded.1 loaded.2 ofRelay e = .ok (lines, app) ∧
      Toml.Document.parse? content = some d ∧ o.written = some (path, (app.saved d).text) ∧
      ((app.saved d).ReadsBack → ∀ issuer, ∃ c,
        (s.after o issuer).loadFile path =
            .ok { config := c, file := some (path, (app.saved d).text), issuer } ∧
          e.Edits loaded.2 ofRelay (taken l.issuer l.config) c) := by
  intro o loaded
  obtain ⟨lines, app, d, hedit, hdoc⟩ := editRules_of_run hload hfile hok
  have hwritten : o.written = some (path, (app.saved d).text) :=
    congrArg Outcome.written (run_of_editRules hload hfile hedit hdoc)
  obtain ⟨d', hd', hparse⟩ := Config.parse?_withRules (parse?_of_load hload hfile)
    app.client.userRules app.relay.userRules
  obtain rfl : d = d' := Option.some.inj (hdoc.symm.trans hd')
  have hedits := edits_savedConfig hedit
  have hsaved : app.savedConfig =
      { engine := l.config.engine, clientRules := app.client.userRules,
        relayMappings := app.relay.userRules } := by
    rw [App.savedConfig, show app.engine = l.config.engine from hedits.engine]
  refine ⟨lines, app, d, hedit, hdoc, hwritten, fun hback issuer => ?_⟩
  refine ⟨app.savedConfig, loadFile_after hwritten ?_, hedits⟩
  rw [hsaved]
  exact hparse hback issuer

/-! ## Whole files -/

def RuleEdit.name : RuleEdit → String
  | .add n => n.name
  | .remove name | .setEnabled name _ | .setPriority name _ => name

omit [RuleKind α] in
theorem RuleEdit.mem_onRules {r : Rule α} {rs : List (Rule α)} (hr : r ∈ rs)
    (hname : r.name ≠ e.name) : r ∈ e.onRules issuer attributes rs := by
  cases e with
  | add n => exact List.mem_append_left _ hr
  | remove name => exact List.mem_filter.2 ⟨hr, bne_iff_ne.2 hname⟩
  | setEnabled name enabled => exact List.mem_map.2 ⟨r, hr, if_neg hname⟩
  | setPriority name priority => exact List.mem_map.2 ⟨r, hr, if_neg hname⟩

/-- The rules of `old` but the one that the edit is about are in `new`, as rules of users. -/
structure RuleEdit.Keeps (e : RuleEdit) (ofRelay : Bool) (old new : Config) : Prop where
  client : ∀ r ∈ old.clientRules, ofRelay = true ∨ r.name ≠ e.name →
    r.asUser ∈ new.clientRules
  relay : ∀ r ∈ old.relayMappings, ofRelay = false ∨ r.name ≠ e.name →
    r.asUser ∈ new.relayMappings

/-- The configuration `c` with its rules as rules of users. -/
def ofUsers (c : Config) : Config :=
  { c with clientRules := c.clientRules.map Rule.asUser
           relayMappings := c.relayMappings.map Rule.asUser }

theorem RuleEdit.Edits.keeps {old new : Config}
    (h : e.Edits issuer ofRelay (ofUsers old) new) : e.Keeps ofRelay old new where
  client r hr hother := by
    rw [h.client.mem_iff]
    have hmem := List.mem_map_of_mem (f := Rule.asUser) hr
    cases ofRelay with
    | true => exact hmem
    | false => exact RuleEdit.mem_onRules hmem (hother.resolve_left nofun)
  relay r hr hother := by
    rw [h.relay.mem_iff]
    have hmem := List.mem_map_of_mem (f := Rule.asUser) hr
    cases ofRelay with
    | true => exact RuleEdit.mem_onRules hmem (hother.resolve_left nofun)
    | false => exact hmem

/-- Every rule of `c` is taken when it is loaded. -/
structure IsTakenWhole (issuer : Issuer) (c : Config) : Prop where
  client : Rule.chosen (App.shippedClientRules issuer c) c.clientRules = c.clientRules
  relay : Rule.chosen (App.shippedRelayMappings issuer c) c.relayMappings = c.relayMappings

theorem IsTakenWhole.taken_eq {c : Config} (h : IsTakenWhole issuer c) :
    taken issuer c = ofUsers c := by
  rw [taken, h.client, h.relay, ofUsers]

/-- If every rule of a file can be loaded, an edit that succeeds leaves all others in the file as
they were: loaded again it has both lists of rules with that edit applied, and no other change. -/
theorem reload_of_run_whole {s : Surroundings} {given : Option String} {l : Loaded}
    {path content : String} (hload : s.load given = .ok l) (hfile : l.file = some (path, content))
    (hwhole : IsTakenWhole l.issuer l.config)
    (hok : ((editing given ofRelay e).run s).exitCode = 0) :
    let o := (editing given ofRelay e).run s
    let loaded := App.ofConfig l.issuer l.config
    ∃ lines app d, editRules loaded.1 loaded.2 ofRelay e = .ok (lines, app) ∧
      Toml.Document.parse? content = some d ∧ o.written = some (path, (app.saved d).text) ∧
      ((app.saved d).ReadsBack → ∀ issuer, ∃ c,
        (s.after o issuer).loadFile path =
            .ok { config := c, file := some (path, (app.saved d).text), issuer } ∧
          e.Edits loaded.2 ofRelay (ofUsers l.config) c ∧ e.Keeps ofRelay l.config c) := by
  intro o loaded
  obtain ⟨lines, app, d, hedit, hdoc, hwritten, hreload⟩ := reload_of_run hload hfile hok
  rw [hwhole.taken_eq] at hreload
  refine ⟨lines, app, d, hedit, hdoc, hwritten, fun hback issuer => ?_⟩
  obtain ⟨c, hc, hedits⟩ := hreload hback issuer
  exact ⟨c, hc, hedits, hedits.keeps⟩

theorem RuleEdit.apply_setEnabled (issuer : Issuer) (attributes : NewRule → α) {r : Rule α}
    (h : s.Valid) (hr : r ∈ s.store.rules) (enabled : Bool) :
    ∃ lines, (RuleEdit.setEnabled r.name enabled).apply issuer attributes s =
      .ok (lines, s.withStore (s.store.insert { r with enabled, updatedAt := issuer.now })) := by
  simp only [RuleEdit.apply, h.findByName_eq_ok_iff.2 ⟨hr, rfl⟩, Service.setEnabled_of_mem hr]
  exact ⟨_, rfl⟩

def withFile (content : String) : Surroundings where
  files p := if p = "tvforge.toml" then .text content else .missing
  home := none
  issuer := Config.sampleIssuer

theorem load_withFile {content : String} {c : Config} {issuer : Issuer}
    (h : Config.parse? Config.sampleIssuer content = some (c, issuer)) :
    (withFile content).load (some "tvforge.toml") =
      .ok { config := c, file := some ("tvforge.toml", content), issuer } := by
  show (withFile content).loadFile "tvforge.toml" = _
  simp only [Surroundings.loadFile, withFile, if_true, h]

def disabling : Invocation :=
  editing (some "tvforge.toml") false (.setEnabled Config.sampleRule.name false)

/-- The rule of `sampleText` is disabled by a run, and the file loaded again. -/
theorem reload_of_run_whole_sample :
    ∃ l c text, (withFile Config.sampleText).load (some "tvforge.toml") = .ok l ∧
      IsTakenWhole l.issuer l.config ∧
      (disabling.run (withFile Config.sampleText)).exitCode = 0 ∧
      ((withFile Config.sampleText).after (disabling.run (withFile Config.sampleText))
          Config.sampleIssuer).loadFile "tvforge.toml" =
        .ok { config := c, file := some ("tvforge.toml", text), issuer := Config.sampleIssuer } ∧
      c.clientRules = [Config.disabledRule] := by
  let l : Loaded :=
    { config := { clientRules := [Config.sampleRule] }
      file := some ("tvforge.toml", Config.sampleText), issuer := Config.sampleIssuer.fresh.2 }
  have hload : (withFile Config.sampleText).load (some "tvforge.toml") = .ok l :=
    load_withFile Config.parse?_sampleText
  have hwhole : IsTakenWhole l.issuer l.config := ⟨App.chosen_sampleRule, rfl⟩
  obtain ⟨hmem, hvalid, hdisabled, hrelay⟩ := App.userRules_sample
  obtain ⟨lines, happly⟩ := RuleEdit.apply_setEnabled (App.ofConfig l.issuer l.config).2
    NewRule.profile hvalid hmem false
  have hnow : (App.ofConfig l.issuer l.config).2.now = Config.sampleIssuer.now := by decide
  rw [hnow] at happly
  have hedit : editRules App.sample (App.ofConfig l.issuer l.config).2 false
      (.setEnabled Config.sampleRule.name false) =
      .ok (lines, { App.sample with
        client := App.sample.client.withStore
          (App.sample.client.store.insert Config.disabledRule) }) := by
    rw [editRules, if_neg Bool.false_ne_true, show RuleEdit.apply _ _ _ _ = _ from happly]
    rfl
  obtain ⟨d, hdoc, -⟩ := Config.parse?_withRules Config.parse?_sampleText [] []
  have hok : (disabling.run (withFile Config.sampleText)).exitCode = 0 := by
    rw [disabling, run_of_editRules hload rfl hedit hdoc]
  obtain ⟨lines', app, d', hedit', hdoc', -, hreload⟩ :=
    reload_of_run_whole hload rfl hwhole hok
  cases hedit.symm.trans hedit'
  have hback := Config.readsBack_sampleText d' hdoc'
  rw [← hdisabled, ← hrelay] at hback
  obtain ⟨c, hc, hedits, -⟩ := hreload hback Config.sampleIssuer
  have hclient : c.clientRules.Perm [Config.disabledRule] := hedits.client
  exact ⟨l, c, _, hload, hwhole, hok, hc, List.perm_singleton.1 hclient⟩

/-! ## Lost rules -/

/-- A file with a rule whose condition is cut off. -/
def cutText : String :=
  "[[client_detection_rules]]\nname = \"TV\"\nexpression = \"user_agent contains\"\n"

def cutRule : ClientRule :=
  { id := ⟨99⟩, name := "TV", expression := "user_agent contains", attributes := {},
    createdAt := Config.sampleIssuer.now, updatedAt := Config.sampleIssuer.now }

/-- An edit of another rule, of the other kind. -/
def elsewhere : RuleEdit := .setEnabled "Default" false

theorem parse?_cutText : Config.parse? Config.sampleIssuer cutText =
    some ({ clientRules := [cutRule] }, Config.sampleIssuer.fresh.2) := by decide +kernel

theorem taken_cutRule : taken Config.sampleIssuer.fresh.2 { clientRules := [cutRule] } = {} := by
  have hcut : ∀ beside : List ClientRule, ¬cutRule.Joins beside := fun beside hjoins => by
    obtain ⟨tree, htree⟩ := hjoins.parses
    have hnone : (Expression.parse cutRule.expression).toOption = none := by decide +kernel
    rw [htree] at hnone
    cases hnone
  have hchosen : ∀ beside : List ClientRule, Rule.chosen beside [cutRule] = [] :=
    fun beside => if_neg (hcut beside)
  rw [taken, hchosen]
  rfl

/-- A rule that cannot be loaded is lost when another one is edited. -/
theorem not_keeps_cutRule :
    ∃ l c text, (withFile cutText).load (some "tvforge.toml") = .ok l ∧
      ((editing (some "tvforge.toml") true elsewhere).run (withFile cutText)).exitCode = 0 ∧
      ((withFile cutText).after
          ((editing (some "tvforge.toml") true elsewhere).run (withFile cutText))
          Config.sampleIssuer).loadFile "tvforge.toml" =
        .ok { config := c, file := some ("tvforge.toml", text), issuer := Config.sampleIssuer } ∧
      cutRule ∈ l.config.clientRules ∧ ¬elsewhere.Keeps true l.config c := by
  let l : Loaded :=
    { config := { clientRules := [cutRule] }, file := some ("tvforge.toml", cutText)
      issuer := Config.sampleIssuer.fresh.2 }
  have hload : (withFile cutText).load (some "tvforge.toml") = .ok l :=
    load_withFile parse?_cutText
  -- The mapping that the edit is about is one of the system.
  obtain ⟨r, hr, hname⟩ : ∃ r ∈ (App.ofConfig l.issuer l.config).1.relay.store.rules,
      r.name = "Default" := by
    have hshipped : ∃ r ∈ App.shippedRelayMappings l.issuer l.config, r.name = "Default" := by
      decide
    obtain ⟨r, hr, hname⟩ := hshipped
    have hloads := Service.loads_load (App.compatible_shippedRelayMappings l.issuer l.config)
      l.config.relayMappings
    exact ⟨r, hloads.shipped r hr, hname⟩
  have hvalid : (App.ofConfig l.issuer l.config).1.relay.Valid :=
    Service.valid_load Service.consults_decideFor _ _
  obtain ⟨lines, happly⟩ := RuleEdit.apply_setEnabled (App.ofConfig l.issuer l.config).2
    NewRule.targets hvalid hr false
  rw [hname] at happly
  obtain ⟨app, hedit⟩ : ∃ app, editRules (App.ofConfig l.issuer l.config).1
      (App.ofConfig l.issuer l.config).2 true elsewhere = .ok (lines, app) := by
    rw [editRules, if_pos rfl, elsewhere, show RuleEdit.apply _ _ _ _ = _ from happly]
    exact ⟨_, rfl⟩
  have hedits := edits_savedConfig hedit
  rw [taken_cutRule] at hedits
  have hclient : app.client.userRules = [] := List.perm_nil.1 hedits.client
  have hrelay : app.relay.userRules = [] := List.perm_nil.1 hedits.relay
  obtain ⟨d, hdoc, -⟩ := Config.parse?_withRules parse?_cutText [] []
  have htext : (app.saved d).text = "" := by
    have hempty : (Toml.Document.parse? cutText).map
        (fun d => (Config.withRules d [] []).text) = some "" := by decide +kernel
    rw [hdoc, Option.map_some] at hempty
    rw [App.saved, hclient, hrelay]
    exact Option.some.inj hempty
  have hrun := run_of_editRules hload rfl hedit hdoc
  rw [htext] at hrun
  have hparse : Config.parse? Config.sampleIssuer "" = some ({}, Config.sampleIssuer) := by
    decide +kernel
  refine ⟨l, {}, "", hload, congrArg Outcome.exitCode hrun,
    loadFile_after (congrArg Outcome.written hrun) hparse, List.mem_singleton_self _, ?_⟩
  intro hkeeps
  cases hkeeps.client cutRule (List.mem_singleton_self _) (.inl rfl)

end Cli

end StreamPolicy
