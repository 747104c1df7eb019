import Mathlib.Data.List.Nodup
import Mathlib.Data.List.Perm.Subperm
import StreamPolicy.Cli.Report
import StreamPolicy.Proofs.Lint
import StreamPolicy.Proofs.Reloading

/-!
# What a report holds

A report has all findings about the rules that were loaded, and behind them findings that rules of
the file do not parse (`invalids`). A finding is left out if one about a rule of the same identifier
is there already, so that the report holds all of them exactly if these identifiers are `Apart`.
-/

namespace StreamPolicy

variable {α : Type}

/-! ## Conditions that do not parse -/

namespace Lint

variable {catchAll : Int32} {passed : Passed} {rules : List (Rule α)} {r : Rule α} {i : Issue}

/-- The finding that the condition of `r` does not parse. -/
def invalid? (r : Rule α) : Option Issue :=
  match Expression.parse r.expression with
  | .error e => some (invalid r e)
  | .ok _ => none

def invalids (rules : List (Rule α)) : List Issue :=
  (rules.filter (·.enabled)).filterMap invalid?

theorem invalid?_eq_some_iff :
    invalid? r = some i ↔ ∃ e, Expression.parse r.expression = .error e ∧ i = invalid r e := by
  unfold invalid?
  cases Expression.parse r.expression with
  | error e => simp [eq_comm]
  | ok e => simp

theorem mem_invalids : i ∈ invalids rules ↔ ∃ r ∈ rules, r.enabled = true ∧
    ∃ e, Expression.parse r.expression = .error e ∧ i = invalid r e := by
  simp only [invalids, List.mem_filterMap, List.mem_filter, invalid?_eq_some_iff, and_assoc]

theorem exists_of_mem_analyze (h : i ∈ analyze catchAll rules) : ∃ r ∈ rules, i.ruleId = r.id := by
  obtain ⟨before, r, after, hrules, hissue⟩ := mem_run h
  have hr : r ∈ Rule.sortByPriority (rules.filter (·.enabled)) := by
    rw [hrules]
    exact List.mem_append_right _ List.mem_cons_self
  refine ⟨r, (List.mem_filter.1 (Rule.mem_sortByPriority.1 hr)).1, ?_⟩
  rcases hissue with ⟨e, rfl⟩ | ⟨e, -, hi | hi⟩
  · rfl
  · exact (of_mem_shadows hi).1
  · exact (of_mem_alwaysTrue hi).1

/-- What else is found about rules does not change which conditions do not parse. -/
theorem filter_run (rules : List (Rule α)) :
    (run catchAll passed rules).filter (·.kind == .invalidExpression) =
      rules.filterMap invalid? := by
  induction rules generalizing passed with
  | nil => rfl
  | cons r rules ih =>
    rw [run, List.filterMap_cons, invalid?]
    cases Expression.parse r.expression with
    | error e => exact congrArg (invalid r e :: ·) ih
    | ok e =>
      have hother : (shadows passed r e ++ alwaysTrue catchAll r e).filter
          (·.kind == .invalidExpression) = [] := by
        refine List.filter_eq_nil_iff.2 (List.forall_mem_append.2 ⟨fun i hi => ?_, fun i hi => ?_⟩)
        · rw [(of_mem_shadows hi).2]
          decide
        · rw [(of_mem_alwaysTrue hi).2]
          decide
      rw [List.filter_append, hother, List.nil_append]
      exact ih

theorem filter_analyze_perm (catchAll : Int32) (rules : List (Rule α)) :
    ((analyze catchAll rules).filter (·.kind == .invalidExpression)).Perm (invalids rules) := by
  rw [analyze, filter_run]
  exact (Rule.sortByPriority_perm _).filterMap _

theorem ids_invalids_sublist (rules : List (Rule α)) :
    ((invalids rules).map (·.ruleId)).Sublist (rules.map (·.id)) := by
  have henabled : (rules.filter (·.enabled)).Sublist rules := List.filter_sublist
  refine List.Sublist.trans ?_ (henabled.map (·.id))
  rw [invalids]
  induction rules.filter (·.enabled) with
  | nil => exact .slnil
  | cons r rules ih =>
    rw [List.filterMap_cons, List.map_cons, invalid?]
    cases Expression.parse r.expression with
    | error e => exact ih.cons_cons r.id
    | ok e => exact ih.cons r.id

end Lint

/-! ## Merging findings -/

namespace Cli

/-- Findings in `found` are about different identifiers, and about none that `loaded` are about. -/
structure Apart (loaded found : List Issue) : Prop where
  distinct : (found.map (·.ruleId)).Nodup
  free : ∀ i ∈ found, ∀ j ∈ loaded, j.ruleId ≠ i.ruleId

theorem Apart.perm {loaded found found' : List Issue} (h : Apart loaded found)
    (hp : found.Perm found') : Apart loaded found' where
  distinct := (hp.map _).nodup_iff.1 h.distinct
  free i hi := h.free i (hp.mem_iff.2 hi)

theorem Apart.cons {loaded added : List Issue} {i : Issue} (h : Apart (loaded ++ [i]) added)
    (hnew : ∀ j ∈ loaded, j.ruleId ≠ i.ruleId) : Apart loaded (i :: added) where
  distinct := by
    refine List.nodup_cons.2 ⟨fun hmem => ?_, h.distinct⟩
    obtain ⟨j, hj, hid⟩ := List.mem_map.1 hmem
    exact h.free j hj i (List.mem_append_right _ (List.mem_singleton_self i)) hid.symm
  free := List.forall_mem_cons.2
    ⟨hnew, fun j hj k hk => h.free j hj k (List.mem_append_left _ hk)⟩

/-- Findings that are `added` to `loaded`: of those `found`, some about each identifier that is
left. -/
structure Merges (loaded found added : List Issue) : Prop where
  sublist : added.Sublist found
  apart : Apart loaded added
  covered : ∀ i ∈ found, ∃ j ∈ loaded ++ added, j.ruleId = i.ruleId

theorem mergeIssues_cons (loaded : List Issue) (i : Issue) (fromFile : List Issue) :
    mergeIssues loaded (i :: fromFile) =
      mergeIssues (if i.kind == .invalidExpression && !loaded.any (·.ruleId == i.ruleId)
        then loaded ++ [i] else loaded) fromFile := rfl

theorem exists_merges (loaded fromFile : List Issue) :
    ∃ added, mergeIssues loaded fromFile = loaded ++ added ∧
      Merges loaded (fromFile.filter (·.kind == .invalidExpression)) added := by
  induction fromFile generalizing loaded with
  | nil =>
    refine ⟨[], (List.append_nil _).symm, .slnil, ⟨List.nodup_nil, ?_⟩, ?_⟩
    · exact List.forall_mem_nil _
    · exact List.forall_mem_nil _
  | cons i fromFile ih =>
    rw [mergeIssues_cons, List.filter_cons]
    cases hkind : i.kind == .invalidExpression with
    | false => exact ih loaded
    | true =>
      cases hany : loaded.any (·.ruleId == i.ruleId) with
      | true =>
        obtain ⟨added, hmerged, hsub, hapart, hcovered⟩ := ih loaded
        obtain ⟨j, hj, hid⟩ := List.any_eq_true.1 hany
        refine ⟨added, hmerged, hsub.cons i, hapart, List.forall_mem_cons.2 ⟨?_, hcovered⟩⟩
        exact ⟨j, List.mem_append_left _ hj, beq_iff_eq.1 hid⟩
      | false =>
        -- The finding is among those that the later ones are compared with.
        obtain ⟨added, hmerged, hsub, hapart, hcovered⟩ := ih (loaded ++ [i])
        have hshift : loaded ++ [i] ++ added = loaded ++ i :: added := (List.append_cons ..).symm
        rw [hshift] at hmerged hcovered
        have hnew : ∀ j ∈ loaded, j.ruleId ≠ i.ruleId := by simpa using hany
        refine ⟨i :: added, hmerged, hsub.cons_cons i, hapart.cons hnew, ?_⟩
        refine List.forall_mem_cons.2 ⟨⟨i, ?_, rfl⟩, hcovered⟩
        exact List.mem_append_right _ List.mem_cons_self

/-- Nothing that was found is left out exactly if it is `Apart`. -/
theorem Merges.eq_iff_apart {loaded found added : List Issue} (h : Merges loaded found added) :
    added = found ↔ Apart loaded found := by
  refine ⟨fun heq => heq ▸ h.apart, fun hapart => ?_⟩
  have hall : found ⊆ added := by
    intro i hi
    obtain ⟨j, hj, hid⟩ := h.covered i hi
    rcases List.mem_append.1 hj with hj | hj
    · exact absurd hid (hapart.free i hi j hj)
    · rwa [← List.inj_on_of_nodup_map hapart.distinct (h.sublist.subset hj) hi hid]
  have hle := (hapart.distinct.of_map _).subperm hall
  exact h.sublist.eq_of_length_le hle.length_le

/-! ## Reports -/

/-- What a report says of a list of rules, given the findings about the `loaded` ones. -/
structure Reports (loaded : List Issue) (rules : List (Rule α)) (issues : List Issue) : Prop where
  /-- The findings about loaded rules come first, each once. All others are that a rule of the file
  does not parse, and each of them brings an identifier that was not there. -/
  only : ∃ added, issues = loaded ++ added ∧ added.Subperm (Lint.invalids rules) ∧
    Apart loaded added
  /-- The identifier of each rule that does not parse occurs. -/
  covered : ∀ i ∈ Lint.invalids rules, ∃ j ∈ issues, j.ruleId = i.ruleId
  /-- All rules that do not parse are reported, each once, exactly if their identifiers are
  `Apart`. -/
  whole : issues.Perm (loaded ++ Lint.invalids rules) ↔ Apart loaded (Lint.invalids rules)

theorem reports_mergeIssues (loaded : List Issue) (catchAll : Int32) (rules : List (Rule α)) :
    Reports loaded rules (mergeIssues loaded (Lint.analyze catchAll rules)) := by
  obtain ⟨added, hmerged, hmerges⟩ := exists_merges loaded (Lint.analyze catchAll rules)
  have hperm := Lint.filter_analyze_perm catchAll rules
  rw [hmerged]
  have hadded := hmerges.sublist.subperm.trans hperm.subperm
  refine ⟨⟨added, rfl, hadded, hmerges.apart⟩, fun i hi => ?_, ?_⟩
  · exact hmerges.covered i (hperm.mem_iff.2 hi)
  · rw [List.perm_append_left_iff]
    refine ⟨fun h => ?_, fun hapart => ?_⟩
    · have heq := hmerges.sublist.eq_of_length (h.trans hperm.symm).length_eq
      exact (hmerges.eq_iff_apart.1 heq).perm hperm
    · rw [hmerges.eq_iff_apart.2 (hapart.perm hperm.symm)]
      exact hperm

/-- The report on any configuration has what is found about the loaded rules, and behind it rules of
the file that do not parse: all of them, unless some share an identifier or have that of a loaded
rule with a finding. -/
theorem Report.ofConfig_reports (issuer : Issuer) (path : Option String) (c : Config) :
    let loaded := (App.ofConfig issuer c).1.analyze
    let report := Report.ofConfig issuer path c
    Reports loaded.1 c.clientRules report.clientRules ∧
      Reports loaded.2 c.relayMappings report.relayMappings :=
  ⟨reports_mergeIssues _ _ _, reports_mergeIssues _ _ _⟩

/-- Rules that do not parse are not loaded, so that in a file in which no identifier occurs twice
they are `Apart` from what is found about the loaded ones. -/
theorem apart_of_nodup [RuleKind α] {builtin configured : List (Rule α)}
    (hbuiltin : Rule.Compatible builtin)
    (hids : ((builtin ++ configured).map (·.id)).Nodup) (catchAll : Int32) :
    Apart ((Service.load builtin configured).analyze catchAll) (Lint.invalids configured) := by
  rw [List.map_append, List.nodup_append] at hids
  obtain ⟨-, hdistinct, hnew⟩ := hids
  refine ⟨hdistinct.sublist (Lint.ids_invalids_sublist configured), fun i hi j hj hid => ?_⟩
  obtain ⟨r, hr, -, e, he, rfl⟩ := Lint.mem_invalids.1 hi
  obtain ⟨t, ht, hj⟩ := Lint.exists_of_mem_analyze hj
  have hid : t.id = r.id := hj.symm.trans hid
  have hstored := (Service.load_perm hbuiltin configured).mem_iff.1 (Rule.mem_sortByPriority.1 ht)
  rcases List.mem_append.1 hstored with ht | ht
  · exact hnew t.id (List.mem_map_of_mem ht) r.id (List.mem_map_of_mem hr) hid
  · obtain ⟨u, hu, rfl⟩ := List.mem_map.1 ht
    obtain ⟨hu, tree, htree⟩ := Rule.of_mem_chosen hu
    obtain rfl : u = r := List.inj_on_of_nodup_map hdistinct hu hr hid
    rw [he] at htree
    cases htree

/-- If no identifier occurs twice in a file or among the rules of the system, every rule that does
not parse is reported once. -/
theorem Report.ofConfig_perm {issuer : Issuer} {c : Config}
    (hclient : ((App.shippedClientRules issuer c ++ c.clientRules).map (·.id)).Nodup)
    (hrelay : ((App.shippedRelayMappings issuer c ++ c.relayMappings).map (·.id)).Nodup)
    (path : Option String) :
    let loaded := (App.ofConfig issuer c).1.analyze
    let report := Report.ofConfig issuer path c
    report.clientRules.Perm (loaded.1 ++ Lint.invalids c.clientRules) ∧
      report.relayMappings.Perm (loaded.2 ++ Lint.invalids c.relayMappings) :=
  ⟨(reports_mergeIssues _ _ _).whole.2
      (apart_of_nodup (App.compatible_shippedClientRules issuer c) hclient _),
    (reports_mergeIssues _ _ _).whole.2
      (apart_of_nodup (App.compatible_shippedRelayMappings issuer c) hrelay _)⟩

/-! ### Two rules of one identifier -/

/-- A file with two rules of one identifier that do not parse. -/
def twinsText : String :=
  "[engine]\nuse_builtin_rules = false\n" ++
  "[[client_detection_rules]]\nid = \"00000000-0000-0000-0000-000000000001\"\nname = \"A\"\n" ++
  "expression = \"user_agent contains\"\n" ++
  "[[client_detection_rules]]\nid = \"00000000-0000-0000-0000-000000000001\"\nname = \"B\"\n" ++
  "expression = \"user_agent contains\"\n"

/-- A rule of the file. -/
def twin (name : String) : ClientRule where
  id := ⟨1⟩
  name := name
  expression := "user_agent contains"
  attributes := {}
  createdAt := Config.sampleIssuer.now
  updatedAt := Config.sampleIssuer.now

def twins : Config where
  engine := { useBuiltinRules := false }
  clientRules := [twin "A", twin "B"]

theorem parse?_twinsText :
    Config.parse? Config.sampleIssuer twinsText = some (twins, Config.sampleIssuer) := by
  have htext : twinsText = String.ofList _ :=
    Toml.append_eq_ofList (Toml.append_eq_ofList (Toml.append_eq_ofList
      (Toml.append_eq_ofList rfl rfl) rfl) rfl) rfl
  rw [Config.parse?, htext, Toml.Document.data?_ofList]
  decide +kernel

theorem parse_twin : ∃ e, ∀ name, Expression.parse (twin name).expression = .error e := by
  have hnone : (Expression.parse "user_agent contains").toOption = none := by decide +kernel
  cases hparse : Expression.parse "user_agent contains" with
  | error e => exact ⟨e, fun _ => hparse⟩
  | ok tree =>
    rw [hparse] at hnone
    cases hnone

theorem analyze_twins (issuer : Issuer) : (App.ofConfig issuer twins).1.analyze.1 = [] := by
  obtain ⟨e, he⟩ := parse_twin
  have hchosen :
      Rule.chosen (App.shippedClientRules issuer twins) twins.clientRules = [] := by
    refine List.eq_nil_iff_forall_not_mem.2 fun r hr => ?_
    obtain ⟨hr, tree, htree⟩ := Rule.of_mem_chosen hr
    have hexpression : ∀ r ∈ twins.clientRules, r.expression = (twin "A").expression := by decide
    rw [hexpression r hr, he] at htree
    cases htree
  have hstored := Service.load_perm (App.compatible_shippedClientRules issuer twins)
    twins.clientRules
  rw [hchosen] at hstored
  have hrules : (App.ofConfig issuer twins).1.client.store.rules = [] := List.perm_nil.1 hstored
  refine List.eq_nil_iff_forall_not_mem.2 fun i hi => ?_
  obtain ⟨r, hr, -⟩ := Lint.exists_of_mem_analyze hi
  have hr : r ∈ (App.ofConfig issuer twins).1.client.store.rules := Rule.mem_sortByPriority.1 hr
  rw [hrules] at hr
  cases hr

/-- Only the first one is reported. -/
theorem not_whole_twins :
    Config.parse? Config.sampleIssuer twinsText = some (twins, Config.sampleIssuer) ∧
      ∃ e, Expression.parse (twin "B").expression = .error e ∧
        (Report.ofConfig Config.sampleIssuer none twins).clientRules =
          [Lint.invalid (twin "A") e] ∧
        ¬(Report.ofConfig Config.sampleIssuer none twins).clientRules.Perm
          ((App.ofConfig Config.sampleIssuer twins).1.analyze.1 ++
            Lint.invalids twins.clientRules) := by
  obtain ⟨e, he⟩ := parse_twin
  have hsorted : Rule.sortByPriority (twins.clientRules.filter (·.enabled)) =
      [twin "A", twin "B"] := List.mergeSort_of_pairwise (by decide)
  have hfile : Lint.analyze twins.engine.catchAllPriority twins.clientRules =
      [Lint.invalid (twin "A") e, Lint.invalid (twin "B") e] := by
    rw [Lint.analyze, hsorted]
    simp only [Lint.run, he]
  have hinvalids : Lint.invalids twins.clientRules =
      [Lint.invalid (twin "A") e, Lint.invalid (twin "B") e] := by
    show [twin "A", twin "B"].filterMap Lint.invalid? = _
    simp only [List.filterMap_cons, List.filterMap_nil, Lint.invalid?, he]
  have hreport : (Report.ofConfig Config.sampleIssuer none twins).clientRules =
      [Lint.invalid (twin "A") e] := by
    show mergeIssues (App.ofConfig Config.sampleIssuer twins).1.analyze.1
      (Lint.analyze twins.engine.catchAllPriority twins.clientRules) = _
    rw [analyze_twins, hfile]
    rfl
  refine ⟨parse?_twinsText, e, he "B", hreport, fun hwhole => ?_⟩
  rw [hreport, analyze_twins, hinvalids] at hwhole
  cases hwhole.length_eq

end Cli

end StreamPolicy
