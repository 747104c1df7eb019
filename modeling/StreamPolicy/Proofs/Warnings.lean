import Mathlib.Data.List.Induction
import Mathlib.Data.List.Nodup
import StreamPolicy.Proofs.Service.Admission

/-!
# Warnings and what is loaded

Two scans go through the rules of a configuration. `ruleWarnings` warns of names that are blank or
that an earlier rule of the file has. `Service.load` stores the rules, each beside those that it has
taken before. They keep different rules in mind, but no name of use is lost by leaving rules out, so
they agree: without rules of the system, a rule is left out exactly if there is a warning about its
name.
-/

namespace StreamPolicy

variable {α : Type}

/-! ## Names that are taken -/

namespace Rule

variable {r t : Rule α} {rs beside before after : List (Rule α)}

theorem compatible_nil : Compatible ([] : List (Rule α)) where
  named := List.forall_mem_nil _
  parses := List.forall_mem_nil _
  names := List.nodup_nil
  ids := List.nodup_nil

/-- The rules `rs` are left out for nothing but their names, if at all. -/
structure Sound (rs : List (Rule α)) : Prop where
  parses : ∀ r ∈ rs, ∃ e, Expression.parse r.expression = .ok e
  ids : (rs.map (·.id)).Nodup

theorem Sound.sublist (h : Sound rs) (hs : before.Sublist rs) : Sound before where
  parses r hr := h.parses r (hs.subset hr)
  ids := h.ids.sublist (hs.map _)

theorem Sound.eq_of_id (h : Sound rs) (hr : r ∈ rs) (ht : t ∈ rs) (hid : r.id = t.id) : r = t :=
  List.inj_on_of_nodup_map h.ids hr ht hid

theorem Sound.id_ne (h : Sound (before ++ r :: after)) (ht : t ∈ before ++ after) :
    t.id ≠ r.id := by
  have hids := h.ids
  rw [List.map_append, List.map_cons, List.nodup_middle, ← List.map_append] at hids
  exact fun hid => (List.nodup_cons.1 hids).1 (List.mem_map.2 ⟨t, ht, hid⟩)

theorem chosen_sublist : (chosen beside rs).Sublist rs := by
  induction rs generalizing beside with
  | nil => exact List.Sublist.slnil
  | cons r rs ih =>
    rw [chosen]
    split
    · exact ih.cons_cons r
    · exact ih.cons r

theorem chosen_subset : chosen beside rs ⊆ rs := chosen_sublist.subset

/-- Beside `chosen` rules, what a rule needs is a name of its own. -/
theorem Sound.joins_iff (h : Sound (before ++ r :: after)) :
    r.Joins (chosen [] before) ↔ Text.isBlankText r.name.toList = false ∧
      ∀ t ∈ chosen [] before, t.name ≠ r.name := by
  refine ⟨fun hr => ⟨hr.named, hr.nameFree⟩, fun ⟨hnamed, hfree⟩ => ⟨hnamed, ?_, hfree, ?_⟩⟩
  · exact h.parses r (List.mem_append_right _ List.mem_cons_self)
  · exact fun t ht => h.id_ne (List.mem_append_left _ (chosen_subset ht))

/-- A name of use is the name of a rule that is `chosen`, if of any. -/
theorem Sound.exists_chosen (h : Sound rs) (ht : t ∈ rs)
    (hnamed : Text.isBlankText t.name.toList = false) : ∃ u ∈ chosen [] rs, u.name = t.name := by
  induction rs using List.reverseRecOn with
  | nil => cases ht
  | append_singleton rs r ih =>
    rw [chosen_append, List.nil_append]
    rcases List.mem_append.1 ht with ht | ht
    · obtain ⟨u, hu, hname⟩ := ih (h.sublist (List.sublist_append_left rs [r])) ht
      exact ⟨u, List.mem_append_left _ hu, hname⟩
    · obtain rfl := List.mem_singleton.1 ht
      by_cases hjoins : t.Joins (chosen [] rs)
      · refine ⟨t, List.mem_append_right _ ?_, rfl⟩
        rw [chosen, if_pos hjoins]
        exact List.mem_cons_self
      · -- The rule is left out, so one that has been chosen before it has its name.
        simp only [h.joins_iff, hnamed, true_and, not_forall, not_not] at hjoins
        obtain ⟨u, hu, hname⟩ := hjoins
        exact ⟨u, List.mem_append_left _ hu, hname⟩

/-- A rule is chosen in its place or nowhere. -/
theorem Sound.mem_chosen_iff (h : Sound (before ++ r :: after)) :
    r ∈ chosen [] (before ++ r :: after) ↔ r.Joins (chosen [] before) := by
  have hbefore : r ∉ before := fun hr => h.id_ne (List.mem_append_left _ hr) rfl
  have hafter : r ∉ after := fun hr => h.id_ne (List.mem_append_right _ hr) rfl
  rw [chosen_append, List.nil_append, List.mem_append, chosen,
    or_iff_right (fun hr => hbefore (chosen_subset hr))]
  split
  · rename_i hjoins
    exact iff_of_true List.mem_cons_self hjoins
  · rename_i hjoins
    exact iff_of_false (fun hr => hafter (chosen_subset hr)) hjoins

end Rule

/-! ## Warnings about names -/

namespace Config

def Warning.isAboutName : Warning → Bool
  | .blankName _ | .repeatedName _ _ => true
  | .sharedPriority _ _ => false

variable [RuleKind α] {r : Rule α} {rs earlier before after : List (Rule α)}

/-- The warning about `r`, if its name is blank or taken. -/
def nameWarning (r : Rule α) : Warning :=
  if Text.isBlankText r.name.toList then .blankName (RuleKind.kind α)
  else .repeatedName (RuleKind.kind α) r.name

theorem nameWarnings_eq (earlier : List (Rule α)) (r : Rule α) :
    nameWarnings earlier r =
      if Text.isBlankText r.name.toList = false ∧ ∀ t ∈ earlier, t.name ≠ r.name then []
      else [nameWarning r] := by
  unfold nameWarnings nameWarning
  cases Text.isBlankText r.name.toList with
  | true => rfl
  | false =>
    have hany : earlier.any (·.name == r.name) = true ↔ ¬∀ t ∈ earlier, t.name ≠ r.name := by
      simp
    simp only [hany, true_and, Bool.false_eq_true, if_false]
    exact ite_not ..

theorem isAboutName_nameWarning (r : Rule α) : (nameWarning r).isAboutName = true := by
  unfold nameWarning
  split <;> rfl

theorem filter_nameWarnings : (nameWarnings earlier r).filter (·.isAboutName) =
    nameWarnings earlier r := by
  rw [nameWarnings_eq]
  split
  · rfl
  · exact List.filter_eq_self.2 fun w hw => List.mem_singleton.1 hw ▸ isAboutName_nameWarning r

theorem filter_priorityWarnings : (priorityWarnings earlier r).filter (·.isAboutName) = [] := by
  unfold priorityWarnings
  split <;> rfl

/-- Where it is known of each rule in its place whether there is a warning about its name, the
warnings about names are one for each rule that has one, in order. -/
theorem filter_ruleWarnings {p : Rule α → Prop} [DecidablePred p]
    (h : ∀ before r after, rs = before ++ r :: after →
      nameWarnings (earlier ++ before) r = if p r then [nameWarning r] else []) :
    (ruleWarnings earlier rs).filter (·.isAboutName) = (rs.filter p).map nameWarning := by
  induction rs generalizing earlier with
  | nil => rfl
  | cons r rs ih =>
    have hr := h [] r rs rfl
    have hrs : (ruleWarnings (earlier ++ [r]) rs).filter (·.isAboutName) =
        (rs.filter p).map nameWarning := ih fun before t after hsplit => by
      rw [List.append_assoc]
      exact h (r :: before) t after (congrArg (r :: ·) hsplit)
    rw [List.append_nil] at hr
    rw [ruleWarnings, List.filter_append, List.filter_append, filter_nameWarnings,
      filter_priorityWarnings, List.append_nil, hr, hrs]
    split
    · rename_i hp
      rw [List.filter_cons_of_pos (by simpa using hp), List.map_cons, List.singleton_append]
    · rename_i hp
      rw [List.filter_cons_of_neg (by simpa using hp), List.nil_append]

/-- There is a warning about the name of `r` exactly if `r` is not chosen in its place. -/
theorem nameWarnings_of_sound (h : Rule.Sound rs) (hsplit : rs = before ++ r :: after) :
    (r ∈ Rule.chosen [] rs ∧ nameWarnings before r = []) ∨
      (r ∉ Rule.chosen [] rs ∧ nameWarnings before r = [nameWarning r]) := by
  subst hsplit
  have hbefore : Rule.Sound before := h.sublist (List.sublist_append_left before _)
  have hfree : r.Joins (Rule.chosen [] before) ↔
      Text.isBlankText r.name.toList = false ∧ ∀ t ∈ before, t.name ≠ r.name := by
    rw [h.joins_iff]
    refine and_congr_right fun hnamed => ⟨fun hfree t ht hname => ?_, fun hfree t ht => ?_⟩
    · obtain ⟨u, hu, hu'⟩ := hbefore.exists_chosen ht (hname ▸ hnamed)
      exact hfree u hu (hu'.trans hname)
    · exact hfree t (Rule.chosen_subset ht)
  rw [h.mem_chosen_iff, hfree, nameWarnings_eq]
  split
  · rename_i hr
    exact .inl ⟨hr, rfl⟩
  · rename_i hr
    exact .inr ⟨hr, rfl⟩

end Config

/-! ## Services -/

namespace Service

open Config

variable [RuleKind α] {s : Service α} {r : Rule α} {rs : List (Rule α)}

/-- Where there are no rules of the system, the stored rules are the `chosen` ones. -/
theorem mem_load_iff (h : Rule.Sound rs) (hr : r ∈ rs) :
    r.asUser ∈ (load [] rs).store.rules ↔ r ∈ Rule.chosen [] rs := by
  rw [(load_perm Rule.compatible_nil rs).mem_iff, List.nil_append, List.mem_map]
  refine ⟨fun ⟨t, ht, heq⟩ => ?_, fun hr => ⟨r, hr, rfl⟩⟩
  obtain rfl := h.eq_of_id (Rule.chosen_subset ht) hr (Rule.mk.inj heq).1
  exact ht

variable [DecidableEq α]

/-- The rules of `rs` that `s` does not have, in the order of the file. -/
def leftOut (s : Service α) (rs : List (Rule α)) : List (Rule α) :=
  rs.filter fun r => r.asUser ∉ s.store.rules

/-- The warnings about names tell which rules of `rs` the service `s` does not have. -/
structure Explained (s : Service α) (rs : List (Rule α)) : Prop where
  /-- There is one warning about the name of a rule that is left out, and none about any other. -/
  each : ∀ before r after, rs = before ++ r :: after →
    nameWarnings before r = if r.asUser ∉ s.store.rules then [nameWarning r] else []
  /-- The warnings come in the order of the rules. -/
  warnings : (ruleWarnings [] rs).filter (·.isAboutName) = (s.leftOut rs).map nameWarning
  /-- The service has what is not left out, and nothing else. -/
  stored : s.store.rules.Perm ((rs.filter (·.asUser ∈ s.store.rules)).map Rule.asUser)
  /-- Without a warning about a name it has all rules. -/
  complete : (∀ w ∈ ruleWarnings [] rs, w.isAboutName = false) →
    s.store.rules.Perm (rs.map Rule.asUser)

/-- No rule stands twice in the file, so what is stored is what is not left out. -/
theorem load_perm_filter (h : Rule.Sound rs) : (load [] rs).store.rules.Perm
    ((rs.filter (·.asUser ∈ (load [] rs).store.rules)).map Rule.asUser) := by
  have hnodup : rs.Nodup := .of_map _ h.ids
  have hchosen : (Rule.chosen [] rs).Perm (rs.filter (·.asUser ∈ (load [] rs).store.rules)) := by
    refine (List.perm_ext_iff_of_nodup (hnodup.sublist Rule.chosen_sublist)
      (hnodup.filter _)).2 fun r => ?_
    rw [List.mem_filter, decide_eq_true_iff]
    refine ⟨fun hr => ?_, fun ⟨hr, hstored⟩ => (mem_load_iff h hr).1 hstored⟩
    exact ⟨Rule.chosen_subset hr, (mem_load_iff h (Rule.chosen_subset hr)).2 hr⟩
  exact (load_perm Rule.compatible_nil rs).trans (hchosen.map Rule.asUser)

omit [RuleKind α] in
theorem filter_of_leftOut_nil (h : s.leftOut rs = []) :
    rs.filter (·.asUser ∈ s.store.rules) = rs :=
  List.filter_eq_self.2 fun r hr => by simpa using List.filter_eq_nil_iff.1 h r hr

theorem explained_load (h : Rule.Sound rs) : (load [] rs).Explained rs := by
  have heach : ∀ before r after, rs = before ++ r :: after → nameWarnings before r =
      if r.asUser ∉ (load [] rs).store.rules then [nameWarning r] else [] := by
    intro before r after hsplit
    have hstored := mem_load_iff h (hsplit ▸ List.mem_append_right before List.mem_cons_self)
    rcases nameWarnings_of_sound h hsplit with ⟨hchosen, hwarnings⟩ | ⟨hleft, hwarnings⟩
    · rw [if_neg (not_not_intro (hstored.2 hchosen)), hwarnings]
    · rw [if_pos (mt hstored.1 hleft), hwarnings]
  have hwarnings : (ruleWarnings [] rs).filter (·.isAboutName) =
      ((load [] rs).leftOut rs).map nameWarning := filter_ruleWarnings heach
  refine ⟨heach, hwarnings, load_perm_filter h, fun hnone => ?_⟩
  have hleft : (load [] rs).leftOut rs = [] := by
    rw [List.filter_eq_nil_iff.2 (by simpa using hnone)] at hwarnings
    exact List.map_eq_nil_iff.1 hwarnings.symm
  have hstored := load_perm_filter h
  rwa [filter_of_leftOut_nil hleft] at hstored

end Service

/-! ## Applications -/

namespace App

open Config

/-- In an application of a configuration that brings all its rules itself, and whose rules have
conditions that parse and identifiers of their own, a rule is left out exactly if there is a warning
about its name. The warnings about names are those about the rules that are left out, in order, and
without any the application has all rules of the configuration. -/
theorem ofConfig_explained (issuer : Issuer) {c : Config}
    (hbuiltin : c.engine.useBuiltinRules = false) (hclient : Rule.Sound c.clientRules)
    (hrelay : Rule.Sound c.relayMappings) :
    (ofConfig issuer c).1.client.Explained c.clientRules ∧
      (ofConfig issuer c).1.relay.Explained c.relayMappings ∧
      c.warnings.filter (·.isAboutName) =
        ((ofConfig issuer c).1.client.leftOut c.clientRules).map nameWarning ++
          ((ofConfig issuer c).1.relay.leftOut c.relayMappings).map nameWarning := by
  have hshippedClient : shippedClientRules issuer c = [] := by
    rw [shippedClientRules, hbuiltin]
    rfl
  have hshippedRelay : shippedRelayMappings issuer c = [] := by
    rw [shippedRelayMappings, hbuiltin]
    rfl
  have hclient' : (ofConfig issuer c).1.client.Explained c.clientRules := by
    show (Service.load (shippedClientRules issuer c) c.clientRules).Explained c.clientRules
    rw [hshippedClient]
    exact Service.explained_load hclient
  have hrelay' : (ofConfig issuer c).1.relay.Explained c.relayMappings := by
    show (Service.load (shippedRelayMappings issuer c) c.relayMappings).Explained c.relayMappings
    rw [hshippedRelay]
    exact Service.explained_load hrelay
  refine ⟨hclient', hrelay', ?_⟩
  rw [warnings, List.filter_append, hclient'.warnings, hrelay'.warnings]

/-- Of five rules the blank ones and the second "A" are left out. -/
theorem ofConfig_explained_five :
    let rule (n : Nat) (name : String) : ClientRule :=
      { id := ⟨n⟩, name, attributes := {}, createdAt := .epoch, updatedAt := .epoch }
    let rules := [rule 1 "A", rule 2 " ", rule 3 "A", rule 4 " ", rule 5 "B"]
    let c : Config := { engine := { useBuiltinRules := false }, clientRules := rules }
    let client := (ofConfig ⟨⟨10⟩, .epoch⟩ c).1.client
    Rule.Sound c.clientRules ∧ Rule.Sound c.relayMappings ∧
      client.leftOut rules = [rule 2 " ", rule 3 "A", rule 4 " "] ∧
      c.warnings.filter (·.isAboutName) =
        [.blankName "client detection rule", .repeatedName "client detection rule" "A",
          .blankName "client detection rule"] := by
  intro rule rules c client
  have hempty : ∀ r ∈ rules, r.expression = "" := by decide
  have hclient : Rule.Sound rules :=
    ⟨fun r hr => ⟨_, hempty r hr ▸ Expression.parse_empty⟩, by decide⟩
  have hrelay : Rule.Sound c.relayMappings := ⟨List.forall_mem_nil _, List.nodup_nil⟩
  obtain ⟨-, -, hwarnings⟩ := ofConfig_explained ⟨⟨10⟩, .epoch⟩ rfl hclient hrelay
  have hleft : client.leftOut rules = [rule 2 " ", rule 3 "A", rule 4 " "] := by
    decide +kernel
  refine ⟨hclient, hrelay, hleft, ?_⟩
  rw [hwarnings, hleft]
  decide

end App

end StreamPolicy
