import StreamPolicy.Proofs.Service.Loading

/-!
# Rules of the system

No operation removes a rule of the system or changes what it is for (`fixed`). None makes a stored
rule one of the system or ends that it is one, and only seeding adds one. The rules of the system in
an application are therefore those that are shipped, whatever its configuration and its users say.
-/

namespace StreamPolicy

variable {α κ β : Type}

/-! ## One identifier -/

namespace Store

variable {s t : Store α} {r r' : Rule α} {seeds : Rule α → Prop}

/-- What one operation can make of the rule that has an identifier. -/
inductive Fate (seeds : Rule α → Prop) : Option (Rule α) → Option (Rule α) → Prop
  | absent : Fate seeds none none
  | added {new : Rule α} (hsys : new.isSystem = true → seeds new) : Fate seeds none (some new)
  | removed {old : Rule α} (huser : old.isSystem = false) : Fate seeds (some old) none
  | replaced {old new : Rule α} (hsys : new.isSystem = old.isSystem)
    (hfixed : old.isSystem = true → new.Revises old) : Fate seeds (some old) (some new)

theorem Fate.refl (o : Option (Rule α)) : Fate seeds o o := by
  cases o with
  | none => exact .absent
  | some r => exact .replaced rfl fun _ => .refl r

theorem Revised.fate {rs : List (Rule α)} (h : s.Revised rs) (id : Uuid) :
    s.get? id = none ∧ (rs.foldl Store.insert s).get? id = none ∨
      ∃ old new, s.get? id = some old ∧ (rs.foldl Store.insert s).get? id = some new ∧
        new.Revises old := by
  induction rs generalizing s with
  | nil =>
    cases hget : s.get? id with
    | none => exact .inl ⟨rfl, hget⟩
    | some r => exact .inr ⟨r, r, rfl, hget, .refl r⟩
  | cons r rs ih =>
    obtain ⟨⟨old, hold, hr⟩, hrest⟩ := List.forall_mem_cons.1 h
    have hfate := ih (Revised.insert hrest hold hr)
    rw [get?_insert] at hfate
    by_cases hid : id = r.id
    · rw [if_pos hid] at hfate
      rcases hfate with ⟨hnone, -⟩ | ⟨r', new, hr', hnew, hrevises⟩
      · cases hnone
      · cases hr'
        exact .inr ⟨old, new, hid ▸ hold, hnew, hrevises.trans hr⟩
    · rwa [if_neg hid] at hfate

theorem Fate.insert (h : Fate seeds (s.get? r.id) (some r)) (id : Uuid) :
    Fate seeds (s.get? id) ((s.insert r).get? id) := by
  rw [get?_insert]
  by_cases hid : id = r.id
  · rwa [if_pos hid, hid]
  · rw [if_neg hid]
    exact .refl _

theorem Change.fate (h : s.Change seeds t) (id : Uuid) : Fate seeds (s.get? id) (t.get? id) := by
  cases h with
  | same => exact .refl _
  | add hfree _ hsys =>
    refine Fate.insert ?_ id
    rw [hfree]
    exact .added hsys
  | replace hold _ hsys hfixed =>
    refine Fate.insert ?_ id
    rw [hold]
    exact .replaced hsys hfixed
  | @remove i old hold huser =>
    rw [get?_erase]
    by_cases hid : id = i
    · rw [if_pos hid, hid, hold]
      exact .removed huser
    · rw [if_neg hid]
      exact .refl _
  | revise hrs =>
    rcases hrs.fate id with ⟨hold, hnew⟩ | ⟨old, new, hold, hnew, hr⟩
    · rw [hold, hnew]
      exact .absent
    · rw [hold, hnew]
      exact .replaced hr.isSystem fun _ => hr

/-! ## One operation -/

theorem Change.kept (h : s.Change seeds t) (hr : r ∈ s.rules) (hsys : r.isSystem = true) :
    ∃ r' ∈ t.rules, r'.Revises r := by
  have hfate := h.fate r.id
  rw [mem_iff_get?.1 hr] at hfate
  generalize ht : t.get? r.id = o at hfate
  cases hfate with
  | removed huser =>
    rw [hsys] at huser
    cases huser
  | replaced _ hfixed => exact ⟨_, (get?_some ht).1, hfixed hsys⟩

/-- Whether a stored rule is one of the system stays as it is. -/
theorem Change.isSystem_eq (h : s.Change seeds t) (hr : r ∈ s.rules) (hr' : r' ∈ t.rules)
    (hid : r'.id = r.id) : r'.isSystem = r.isSystem := by
  have hfate := h.fate r.id
  rw [mem_iff_get?.1 hr, ← hid, mem_iff_get?.1 hr'] at hfate
  cases hfate with
  | replaced hsys _ => exact hsys

theorem Change.seeded_or_kept (h : s.Change seeds t) (hr' : r' ∈ t.rules)
    (hsys : r'.isSystem = true) : seeds r' ∨ ∃ r ∈ s.rules, r'.Revises r := by
  have hfate := h.fate r'.id
  rw [mem_iff_get?.1 hr'] at hfate
  generalize hs : s.get? r'.id = o at hfate
  cases hfate with
  | added hseeds => exact .inl (hseeds hsys)
  | replaced hsame hfixed => exact .inr ⟨_, (get?_some hs).1, hfixed (hsame ▸ hsys)⟩

end Store

/-! ## All rules of the system -/

namespace Rule

/-- What no operation changes about a rule of the system. -/
def fixed (r : Rule α) : Uuid × (String × String × String × α) × Time :=
  (r.id, r.definition, r.createdAt)

theorem Revises.fixed_eq {r s : Rule α} (h : r.Revises s) : r.fixed = s.fixed := by
  rw [fixed, fixed, h.id, h.definition, h.createdAt]

end Rule

namespace Store

variable {s t : Store α} {r : Rule α} {seeds : Rule α → Prop}

def systemRules (s : Store α) : List (Rule α) := s.rules.filter (·.isSystem)

theorem mem_systemRules : r ∈ s.systemRules ↔ r ∈ s.rules ∧ r.isSystem = true := List.mem_filter

theorem nodup_fixed (s : Store α) : (s.systemRules.map Rule.fixed).Nodup := by
  have hids : ((s.systemRules.map Rule.fixed).map Prod.fst).Nodup := by
    rw [List.map_map]
    exact s.nodup_ids.sublist (List.filter_sublist.map _)
  exact List.Pairwise.of_map Prod.fst (fun _ _ hne heq => hne (congrArg Prod.fst heq)) hids

theorem Change.systemRules_perm (h : s.Change seeds t)
    (hseeds : ∀ r, seeds r → r.isSystem = false) :
    (t.systemRules.map Rule.fixed).Perm (s.systemRules.map Rule.fixed) := by
  -- No two stored rules have one identifier, so the same members make a permutation.
  refine (List.perm_ext_iff_of_nodup t.nodup_fixed s.nodup_fixed).2 fun x => ?_
  simp only [List.mem_map, mem_systemRules]
  constructor
  · rintro ⟨r', ⟨hr', hsys⟩, rfl⟩
    rcases h.seeded_or_kept hr' hsys with hseed | ⟨r, hr, hrevises⟩
    · rw [hseeds r' hseed] at hsys
      cases hsys
    · exact ⟨r, ⟨hr, hrevises.isSystem ▸ hsys⟩, hrevises.fixed_eq.symm⟩
  · rintro ⟨r, ⟨hr, hsys⟩, rfl⟩
    obtain ⟨r', hr', hrevises⟩ := h.kept hr hsys
    exact ⟨r', ⟨hr', hrevises.isSystem ▸ hsys⟩, hrevises.fixed_eq⟩

end Store

/-! ## Runs -/

namespace Service

variable [RuleKind α] [DecidableEq α] {consult : Service α → κ → β × Service α} {s : Service α}

theorem run_kept (hc : ∀ s q, (consult s q).2.store = s.store) (ops : List (Op α κ)) {r : Rule α}
    (hr : r ∈ s.store.rules) (hsys : r.isSystem = true) :
    ∃ r' ∈ (s.run consult ops).store.rules, r'.Revises r := by
  induction ops generalizing s r with
  | nil => exact ⟨r, hr, .refl r⟩
  | cons op ops ih =>
    obtain ⟨r', hr', hrevises⟩ := (step_change hc s op).kept hr hsys
    obtain ⟨r'', hr'', hrevises'⟩ := ih hr' (hrevises.isSystem ▸ hsys)
    exact ⟨r'', hr'', hrevises'.trans hrevises⟩

theorem run_systemRules_perm (hc : ∀ s q, (consult s q).2.store = s.store) {ops : List (Op α κ)}
    (h : ∀ r, .seed r ∈ ops → r.isSystem = false) :
    ((s.run consult ops).store.systemRules.map Rule.fixed).Perm
      (s.store.systemRules.map Rule.fixed) := by
  induction ops generalizing s with
  | nil => exact .refl _
  | cons op ops ih =>
    have hstep := (step_change hc s op).systemRules_perm fun r hr =>
      h r (List.mem_cons.2 (.inl hr.symm))
    exact (ih fun r hr => h r (List.mem_cons_of_mem _ hr)).trans hstep

/-- How a service that is consulted by `consult` treats rules of the system. -/
structure GuardsSystem (consult : Service α → κ → β × Service α) : Prop where
  /-- Once such a rule is stored it stays, and nothing differs later but its priority, whether it is
  enabled and when it was last changed. -/
  kept : ∀ (s : Service α) (ops : List (Op α κ)), ∀ r ∈ s.store.rules, r.isSystem = true →
    ∃ r' ∈ (s.run consult ops).store.rules, r'.Revises r ∧ r'.sameDefinition r = true
  /-- No operation makes a stored rule one of the system or ends that it is one. -/
  unchanged : ∀ (s : Service α) (op : Op α κ), ∀ r ∈ s.store.rules,
    ∀ r' ∈ (s.step consult op).2.store.rules, r'.id = r.id → r'.isSystem = r.isSystem
  /-- Only seeding adds a rule of the system. -/
  seeded : ∀ (s : Service α) (op : Op α κ), ∀ r' ∈ (s.step consult op).2.store.rules,
    r'.isSystem = true → op = .seed r' ∨ ∃ r ∈ s.store.rules, r'.Revises r

theorem guardsSystem (hc : ∀ s q, (consult s q).2.store = s.store) : GuardsSystem consult where
  kept s ops r hr hsys := by
    obtain ⟨r', hr', hrevises⟩ := run_kept hc ops hr hsys
    exact ⟨r', hr', hrevises, Rule.sameDefinition_iff.2 hrevises.definition⟩
  unchanged s op r hr r' hr' hid := (step_change hc s op).isSystem_eq hr hr' hid
  seeded s op r' hr' hsys := (step_change hc s op).seeded_or_kept hr' hsys

omit [DecidableEq α] in
theorem systemRules_seeded {builtin : List (Rule α)} (h : Rule.Compatible builtin)
    (hsys : ∀ r ∈ builtin, r.isSystem = true) :
    (builtin.foldl seedIfValid ({} : Service α)).store.systemRules.Perm builtin := by
  have hempty : builtin ++ ({} : Service α).store.rules = builtin := List.append_nil builtin
  have hperm := perm_of_compatible (hempty.symm ▸ h)
  rw [hempty] at hperm
  have hfilter := hperm.filter (·.isSystem)
  rwa [List.filter_eq_self.2 hsys] at hfilter

/-- The rules `configured` add nothing to those of the system. -/
theorem load_systemRules_perm (hc : ∀ s q, (consult s q).2.store = s.store)
    {builtin : List (Rule α)} (h : Rule.Compatible builtin) (hsys : ∀ r ∈ builtin, r.isSystem = true)
    (configured : List (Rule α)) :
    ((load builtin configured).store.systemRules.map Rule.fixed).Perm (builtin.map Rule.fixed) := by
  rw [load_eq_run consult, run_append, run_seeds]
  refine (run_systemRules_perm hc fun r hr => ?_).trans ((systemRules_seeded h hsys).map Rule.fixed)
  simp only [List.mem_append, List.mem_map, List.mem_singleton] at hr
  rcases hr with ⟨_, ⟨r, -, rfl⟩, hseed⟩ | hseed
  · cases hseed
    rfl
  · cases hseed

/-- After loading and any operations that seed no rule of the system, the rules of the system are
the shipped ones, each with the definition it is shipped with. -/
theorem run_load_perm (hc : ∀ s q, (consult s q).2.store = s.store) (issuer : Issuer)
    {bs : List (Blueprint α)} (hbs : Blueprint.Shippable bs) (configured : List (Rule α))
    {ops : List (Op α κ)} (h : ∀ r, .seed r ∈ ops → r.isSystem = false) :
    (((load (Blueprint.issueAll issuer bs).1 configured).run consult ops).store.systemRules.map
      Rule.definition).Perm (bs.map Blueprint.definition) := by
  have hdefinition : Rule.definition = (·.2.1) ∘ (Rule.fixed : Rule α → _) := rfl
  have hbuiltin : (Blueprint.issueAll issuer bs).1.map Rule.definition =
      bs.map Blueprint.definition := Blueprint.map_issueAll fun _ _ => rfl
  -- The definition is a part of what is fixed, and fixed parts are the same from loading on.
  rw [← hbuiltin, hdefinition, ← List.map_map, ← List.map_map]
  refine List.Perm.map _ ((run_systemRules_perm hc h).trans ?_)
  exact load_systemRules_perm hc hbs.compatible hbs.isSystem_issueAll configured

end Service

/-! ## Applications -/

namespace App

/-- Services of both kinds guard the rules of the system. Those of an application are the shipped
ones, or none if it uses none, each with the definition it is shipped with, after any operations
that seed no further ones. -/
theorem systemRules_shipped :
    Service.GuardsSystem Service.detect ∧ Service.GuardsSystem Service.decideFor ∧
      ∀ (issuer : Issuer) (c : Config),
        (∀ ops : List (Op ClientProfile Request), (∀ r, .seed r ∈ ops → r.isSystem = false) →
          let s := (ofConfig issuer c).1.client.run Service.detect ops
          (s.store.systemRules.map Rule.definition).Perm
            ((if c.engine.useBuiltinRules then Builtin.clientRules else []).map
              Blueprint.definition)) ∧
        ∀ ops : List (Op RelayTargets (Request × StreamInfo)),
          (∀ r, .seed r ∈ ops → r.isSystem = false) →
          let s := (ofConfig issuer c).1.relay.run Service.decideFor ops
          (s.store.systemRules.map Rule.definition).Perm
            ((if c.engine.useBuiltinRules then Builtin.relayMappings else []).map
              Blueprint.definition) := by
  have hdetect := Service.consults_detect.store
  have hdecide := Service.consults_decideFor.store
  refine ⟨Service.guardsSystem hdetect, Service.guardsSystem hdecide, fun issuer c => ⟨?_, ?_⟩⟩
  · intro ops h
    exact Service.run_load_perm hdetect _ (Builtin.shippable_clientRules.ite _) _ h
  · intro ops h
    exact Service.run_load_perm hdecide _ (Builtin.shippable_relayMappings.ite _) _ h

/-- A rule that claims to be of the system, in the configuration and from a user, under the
identifier of a shipped one, which is deleted as well. -/
theorem systemRules_shipped_forged :
    let now : Time := ⟨⟨2024, 2, 29⟩, ⟨12, 0, 0, 0⟩, rfl⟩
    let forged : ClientRule :=
      { id := ⟨0⟩, name := "Mine", isSystem := true, attributes := {}, createdAt := now,
        updatedAt := now }
    let app := (ofConfig ⟨⟨0⟩, now⟩ { clientRules := [forged] }).1
    let ops : List (Op ClientProfile Request) :=
      [.create forged, .update now forged, .delete ⟨0⟩, .seed { forged with isSystem := false }]
    let relayOps : List (Op RelayTargets (Request × StreamInfo)) := [.delete ⟨9⟩]
    (∀ r, .seed r ∈ ops → r.isSystem = false) ∧ (∀ r, .seed r ∈ relayOps → r.isSystem = false) ∧
      ((app.client.run Service.detect ops).store.systemRules.map Rule.definition).Perm
        (Builtin.clientRules.map Blueprint.definition) ∧
      ((app.relay.run Service.decideFor relayOps).store.systemRules.map Rule.definition).Perm
        (Builtin.relayMappings.map Blueprint.definition) := by
  intro now forged app ops relayOps
  have hops : ∀ r, .seed r ∈ ops → r.isSystem = false := by
    intro r hr
    simp only [ops, List.mem_cons, reduceCtorEq, false_or, Op.seed.injEq, List.not_mem_nil,
      or_false] at hr
    rw [hr]
  have hrelay : ∀ r, .seed r ∈ relayOps → r.isSystem = false := by
    intro r hr
    simp [relayOps] at hr
  obtain ⟨-, -, h⟩ := systemRules_shipped
  obtain ⟨hclient, hdecide⟩ := h ⟨⟨0⟩, now⟩ { clientRules := [forged] }
  exact ⟨hops, hrelay, hclient ops hops, hdecide relayOps hrelay⟩

end App

end StreamPolicy
