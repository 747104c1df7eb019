import Mathlib.Data.List.Forall2
import StreamPolicy.Proofs.Service.Change
import StreamPolicy.Proofs.Trial

/-!
# Decisions depend on definitions alone

Rules are `Alike` if they have the same identifier, definition and priority and are both enabled or
not. Lists of such rules come to the same decisions, since nobody looks at what else there is to a
rule. So a rule of the system, of which the definition cannot change, has no other way to change a
decision than by its priority and by being enabled (`update_alike`).
-/

namespace StreamPolicy

variable {α : Type} [DecidableEq α]

/-! ## Rules that are alike -/

namespace Rule

/-- The rules `r` and `s` differ at most in their times and in whether they are of the system. -/
structure Alike (r s : Rule α) : Prop where
  id : r.id = s.id
  sameDefinition : r.sameDefinition s = true
  priority : r.priority = s.priority
  enabled : r.enabled = s.enabled

omit [DecidableEq α] in
/-- A rule without what no decision looks at. Rules are `Alike` if these are equal. -/
def bare (r : Rule α) : Rule α :=
  { r with isSystem := false, createdAt := .epoch, updatedAt := .epoch }

theorem alike_iff {r s : Rule α} : r.Alike s ↔ r.bare = s.bare := by
  have hdefinition : r.sameDefinition s = true ↔ r.name = s.name ∧ r.description = s.description ∧
      r.expression = s.expression ∧ r.attributes = s.attributes := by
    simp [sameDefinition, and_assoc]
  constructor
  · rintro ⟨hid, hsame, hpriority, henabled⟩
    obtain ⟨hname, hdescription, hexpression, hattributes⟩ := hdefinition.1 hsame
    rw [bare, bare, hid, hname, hdescription, hexpression, hattributes, hpriority, henabled]
  · intro h
    simp only [bare, Rule.mk.injEq] at h
    obtain ⟨hid, hname, hdescription, hexpression, hpriority, henabled, -, hattributes, -⟩ := h
    exact ⟨hid, hdefinition.2 ⟨hname, hdescription, hexpression, hattributes⟩, hpriority, henabled⟩

namespace Alike

variable {r s : Rule α}

theorem refl (r : Rule α) : r.Alike r := alike_iff.2 rfl

theorem ref (h : r.Alike s) : r.ref = s.ref := by
  have hbare : r.bare.ref = s.bare.ref := congrArg Rule.ref (alike_iff.1 h)
  exact hbare

theorem attributes (h : r.Alike s) : r.attributes = s.attributes := by
  have hbare : r.bare.attributes = s.bare.attributes := congrArg Rule.attributes (alike_iff.1 h)
  exact hbare

theorem expression (h : r.Alike s) : r.expression = s.expression := by
  have hbare : r.bare.expression = s.bare.expression := congrArg Rule.expression (alike_iff.1 h)
  exact hbare

theorem tryOn (h : r.Alike s) (request : Request) (cache : ParseCache) :
    r.tryOn request cache = s.tryOn request cache := by
  rw [Rule.tryOn, Rule.tryOn, h.enabled, h.expression]

end Alike

/-! ## Lists of them -/

variable {rs ss : List (Rule α)}

theorem forall₂_alike_iff : List.Forall₂ Alike rs ss ↔ rs.map bare = ss.map bare := by
  rw [← List.forall₂_eq_eq_eq, List.forall₂_map_left_iff, List.forall₂_map_right_iff]
  exact ⟨fun h => h.imp fun _ _ => alike_iff.1, fun h => h.imp fun _ _ => alike_iff.2⟩

/-- Of lists that are alike, the enabled rules in order are alike. -/
theorem enabled_alike (h : List.Forall₂ Alike rs ss) : List.Forall₂ Alike
    (sortByPriority (rs.filter (·.enabled))) (sortByPriority (ss.filter (·.enabled))) := by
  have hbare : ∀ ts : List (Rule α), (sortByPriority (ts.filter (·.enabled))).map bare =
      sortByPriority ((ts.map bare).filter (·.enabled)) := by
    intro ts
    rw [List.filter_map]
    exact List.map_mergeSort fun _ _ _ _ => rfl
  rw [forall₂_alike_iff] at h ⊢
  rw [hbare, hbare, h]

theorem map_expression_of_alike (h : List.Forall₂ Alike rs ss) :
    rs.map (·.expression) = ss.map (·.expression) := by
  rw [← List.forall₂_eq_eq_eq, List.forall₂_map_left_iff, List.forall₂_map_right_iff]
  exact h.imp fun _ _ hr => hr.expression

end Rule

/-! ## Decisions -/

theorem Detection.run_congr {rules rules' : List ClientRule}
    (h : List.Forall₂ Rule.Alike rules rules') (request : Request) (p : Progress)
    (cache : ParseCache) : run request rules p cache = run request rules' p cache := by
  induction h generalizing p cache with
  | nil => rfl
  | @cons r r' rest rest' hr _ ih =>
    have hadd : ∀ captures, p.add r captures = p.add r' captures := by
      intro captures
      rw [Progress.add, Progress.add, hr.attributes, hr.ref]
    unfold run
    rw [hr.tryOn]
    simp only [hadd, ih]

theorem Detection.detect_of_alike {rules rules' : List ClientRule}
    (h : List.Forall₂ Rule.Alike rules rules') (request : Request) (cache : ParseCache) :
    detect rules request cache = detect rules' request cache := by
  rw [detect, run_congr h]
  rfl

theorem Decision.decide?_of_alike {mappings mappings' : List RelayMapping}
    (h : List.Forall₂ Rule.Alike mappings mappings') (request : Request) (source : StreamInfo)
    (cache : ParseCache) :
    decide? request source mappings cache = decide? request source mappings' cache := by
  induction h generalizing cache with
  | nil => rfl
  | @cons m m' rest rest' hm _ ih =>
    have hdecide : m.decide source = m'.decide source := by
      unfold Rule.decide
      rw [hm.attributes, hm.ref]
    unfold decide?
    rw [hm.tryOn]
    simp only [hdecide, ih]

/-! ## Services -/

namespace Service

/-- The rules in force are alike, and the same is known of their conditions. -/
structure Alike (s t : Service α) : Prop where
  snapshot : List.Forall₂ Rule.Alike s.snapshot t.snapshot
  cache : s.cache = t.cache

theorem Alike.detect {s t : Service ClientProfile} (h : s.Alike t) (request : Request) :
    (s.detect request).1 = (t.detect request).1 := by
  rw [Service.detect, Detection.detect_of_alike h.snapshot, h.cache]
  rfl

theorem Alike.decide {s t : Service RelayTargets} (h : s.Alike t) (request : Request)
    (source : StreamInfo) : (s.decide request source).1 = (t.decide request source).1 := by
  rw [Service.decide, Decision.decide?_of_alike h.snapshot, h.cache]
  rfl

variable [RuleKind α] {s : Service α} {now : Time} {r old t : Rule α}

omit [RuleKind α] in
/-- Stored rules stay alike when one of them is replaced by `r` or by `r'`, which are alike. -/
theorem withStore_alike {r' : Rule α} (hold : s.store.get? r.id = some old) (h : r.Alike r') :
    (s.withStore (s.store.insert r)).Alike (s.withStore (s.store.insert r')) := by
  have hstored := Store.get?_some hold
  have hrules : List.Forall₂ Rule.Alike (s.store.insert r).rules (s.store.insert r').rules := by
    show List.Forall₂ _ (Rule.place r _) (Rule.place r' _)
    rw [Rule.place_eq_map s.store.sorted ⟨old, hstored⟩,
      Rule.place_eq_map s.store.sorted ⟨old, h.id ▸ hstored⟩,
      List.forall₂_map_left_iff, List.forall₂_map_right_iff, List.forall₂_same]
    intro u _
    rw [h.id]
    split
    · exact h
    · exact .refl u
  have henabled : List.Forall₂ Rule.Alike (s.store.insert r).enabled (s.store.insert r').enabled :=
    Rule.enabled_alike hrules
  refine ⟨henabled, ?_⟩
  rw [cache_withStore, cache_withStore, Rule.map_expression_of_alike henabled]

/-- An update of a rule of the system comes to giving it the priority of `r` and enabling or
disabling it as `r` is. -/
theorem update_alike (hold : s.get r.id = .ok old) (hsys : old.isSystem = true)
    (hr : (s.update now r).1 = .ok t) :
    let revised := { old with priority := r.priority, enabled := r.enabled }
    (s.replace revised).1 = .ok revised ∧ (s.update now r).2.Alike (s.replace revised).2 := by
  intro revised
  rcases s.update_cases now r with ⟨e, he⟩ | ⟨old', hold', hfixed, -, he⟩
  · rw [he] at hr
    cases hr
  · obtain rfl : old' = old := by
      rcases s.store.get_cases r.id with ⟨e, hget⟩ | ⟨stored, hstored, hget⟩
      · cases hget.symm.trans hold
      · cases hget.symm.trans hold
        exact Option.some.inj (hold'.symm.trans hstored)
    have hid := (Store.get?_some hold').2
    have hstored : s.store.get? revised.id = some old' := Store.get?_id hold'
    have hsame : Rule.definition _ = _ := (Rule.sameDefinition_iff.1 (hfixed hsys)).symm
    rw [he, s.replace_of_get? hstored]
    exact ⟨rfl, withStore_alike hold' ⟨hid.symm, Rule.sameDefinition_iff.2 hsame, rfl, rfl⟩⟩

end Service

/-- Rules that are alike lead to the same decisions, whatever the caches hold. When an update of a
rule of the system is accepted, the decisions are those of `revised`, the rule with its new priority
and enabled or not, with everything else as it was. -/
theorem decisions_of_alike :
    (∀ (rules rules' : List ClientRule), List.Forall₂ Rule.Alike rules rules' → ∀ request,
      (∀ cache, Detection.detect rules request cache = Detection.detect rules' request cache) ∧
      ∀ cache cache' : ParseCache, cache.Faithful → cache'.Faithful →
        (Detection.detect rules request cache).1 = (Detection.detect rules' request cache').1) ∧
    (∀ (mappings mappings' : List RelayMapping), List.Forall₂ Rule.Alike mappings mappings' →
      ∀ request source,
      (∀ cache, Decision.decide? request source mappings cache =
        Decision.decide? request source mappings' cache) ∧
      ∀ cache cache' : ParseCache, cache.Faithful → cache'.Faithful →
        (Decision.decide? request source mappings cache).1 =
          (Decision.decide? request source mappings' cache').1) ∧
    (∀ (s : Service ClientProfile) (now : Time) (old r new : ClientRule),
      s.get r.id = .ok old → old.isSystem = true → (s.update now r).1 = .ok new →
      let revised := { old with priority := r.priority, enabled := r.enabled }
      (s.replace revised).1 = .ok revised ∧ ∀ request,
        ((s.update now r).2.detect request).1 = ((s.replace revised).2.detect request).1) ∧
    ∀ (s : Service RelayTargets) (now : Time) (old r new : RelayMapping),
      s.get r.id = .ok old → old.isSystem = true → (s.update now r).1 = .ok new →
      let revised := { old with priority := r.priority, enabled := r.enabled }
      (s.replace revised).1 = .ok revised ∧ ∀ request source,
        ((s.update now r).2.decide request source).1 =
          ((s.replace revised).2.decide request source).1 := by
  refine ⟨?_, ?_, ?_, ?_⟩
  · intro rules rules' h request
    refine ⟨Detection.detect_of_alike h request, fun cache cache' hc hc' => ?_⟩
    rw [Detection.detect_of_alike h, Detection.detect_fst rules' request hc,
      Detection.detect_fst rules' request hc']
  · intro mappings mappings' h request source
    refine ⟨Decision.decide?_of_alike h request source, fun cache cache' hc hc' => ?_⟩
    rw [Decision.decide?_of_alike h, (Decision.decide?_eq request source mappings' hc).1,
      (Decision.decide?_eq request source mappings' hc').1]
  · intro s now old r new hold hsys hnew
    obtain ⟨hreplaced, halike⟩ := Service.update_alike hold hsys hnew
    exact ⟨hreplaced, halike.detect⟩
  · intro s now old r new hold hsys hnew
    obtain ⟨hreplaced, halike⟩ := Service.update_alike hold hsys hnew
    exact ⟨hreplaced, halike.decide⟩

/-- Updates disable a rule and a mapping of the system, and claim in vain that these are the user's
own. -/
theorem decisions_of_alike_disabled :
    let rule : ClientRule :=
      { id := ⟨1⟩, name := "Everybody", isSystem := true, attributes := { format := some .dash }
        createdAt := .epoch, updatedAt := .epoch }
    let mapping : RelayMapping :=
      { id := ⟨2⟩, name := "Everything", isSystem := true, attributes := {}
        createdAt := .epoch, updatedAt := .epoch }
    let rule' : ClientRule := { rule with isSystem := false }
    let mapping' : RelayMapping := { mapping with isSystem := false }
    let s := ({} : Service ClientProfile).withStore (Store.empty.insert rule)
    let t := ({} : Service RelayTargets).withStore (Store.empty.insert mapping)
    ParseCache.empty.Faithful ∧ List.Forall₂ Rule.Alike [rule] [rule'] ∧
      List.Forall₂ Rule.Alike [mapping] [mapping'] ∧
      (Detection.detect [rule] {} .empty).1 =
        (Detection.detect [rule'] {} (ParseCache.empty.parse "").2).1 ∧
      Decision.decide? {} {} [mapping] .empty = Decision.decide? {} {} [mapping'] .empty ∧
      (s.update .epoch { rule' with enabled := false }).1 = .ok { rule with enabled := false } ∧
      (t.update .epoch { mapping' with enabled := false }).1 =
        .ok { mapping with enabled := false } ∧
      (∀ request, ((s.update .epoch { rule' with enabled := false }).2.detect request).1 =
        ((s.replace { rule with enabled := false }).2.detect request).1) ∧
      ∀ request source,
        ((t.update .epoch { mapping' with enabled := false }).2.decide request source).1 =
          ((t.replace { mapping with enabled := false }).2.decide request source).1 := by
  intro rule mapping rule' mapping' s t
  obtain ⟨hdetect, hdecide, hrule, hmapping⟩ := decisions_of_alike
  have hempty := ParseCache.faithful_empty
  have hrules : List.Forall₂ Rule.Alike [rule] [rule'] := .cons ⟨rfl, by decide, rfl, rfl⟩ .nil
  have hmappings : List.Forall₂ Rule.Alike [mapping] [mapping'] :=
    .cons ⟨rfl, by decide, rfl, rfl⟩ .nil
  have hupdated : (s.update .epoch { rule' with enabled := false }).1 =
      .ok { rule with enabled := false } := by decide +kernel
  have hupdated' : (t.update .epoch { mapping' with enabled := false }).1 =
      .ok { mapping with enabled := false } := by decide +kernel
  exact ⟨hempty, hrules, hmappings,
    (hdetect _ _ hrules {}).2 _ _ hempty (hempty.parse_snd ""),
    (hdecide _ _ hmappings {} {}).1 .empty, hupdated, hupdated',
    (hrule s .epoch rule _ _ rfl rfl hupdated).2, (hmapping t .epoch mapping _ _ rfl rfl hupdated').2⟩

end StreamPolicy
