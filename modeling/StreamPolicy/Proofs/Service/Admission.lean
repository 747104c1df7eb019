import StreamPolicy.Proofs.Service.Loading

/-!
# Which rules are loaded

Rules are loaded one after the other, each beside the ones that were taken before it. A rule is
taken when it `Joins` them: it has a name, its condition parses, and neither its name nor its
identifier is that of a rule taken before. A rule that is left out leaves nothing behind.
-/

namespace StreamPolicy

variable {α : Type}

/-! ## Choosing rules -/

namespace Rule

variable {r : Rule α} {rs rs' beside beside' : List (Rule α)}

/-- The rule as one that is none of the system, whatever it says. -/
def asUser (r : Rule α) : Rule α := { r with isSystem := false }

/-- The rule `r` can be loaded beside others. -/
structure Joins (beside : List (Rule α)) (r : Rule α) : Prop where
  named : Text.isBlankText r.name.toList = false
  parses : ∃ e, Expression.parse r.expression = .ok e
  nameFree : ∀ t ∈ beside, t.name ≠ r.name
  idFree : ∀ t ∈ beside, t.id ≠ r.id

theorem joins_iff : r.Joins beside ↔ Text.isBlankText r.name.toList = false ∧
    (Expression.parse r.expression).toOption.isSome = true ∧
    (∀ t ∈ beside, t.name ≠ r.name) ∧ ∀ t ∈ beside, t.id ≠ r.id := by
  have hparses : (Expression.parse r.expression).toOption.isSome = true ↔
      ∃ e, Expression.parse r.expression = .ok e := by
    cases Expression.parse r.expression <;> simp [Except.toOption]
  rw [hparses]
  constructor
  · rintro ⟨hnamed, hparses, hname, hid⟩
    exact ⟨hnamed, hparses, hname, hid⟩
  · rintro ⟨hnamed, hparses, hname, hid⟩
    exact ⟨hnamed, hparses, hname, hid⟩

instance : Decidable (r.Joins beside) := decidable_of_iff _ joins_iff.symm

theorem joins_asUser : r.asUser.Joins beside ↔ r.Joins beside :=
  ⟨fun ⟨hnamed, hparses, hname, hid⟩ => ⟨hnamed, hparses, hname, hid⟩,
    fun ⟨hnamed, hparses, hname, hid⟩ => ⟨hnamed, hparses, hname, hid⟩⟩

/-- The lists take up the same names and identifiers. -/
def SameLabels (rs rs' : List (Rule α)) : Prop :=
  ∀ l, l ∈ rs.map (fun t => (t.name, t.id)) ↔ l ∈ rs'.map (fun t => (t.name, t.id))

theorem SameLabels.symm (h : SameLabels beside beside') : SameLabels beside' beside :=
  fun l => (h l).symm

theorem SameLabels.cons (h : SameLabels beside beside') {r r' : Rule α} (hname : r.name = r'.name)
    (hid : r.id = r'.id) : SameLabels (r :: beside) (r' :: beside') := fun l => by
  rw [List.map_cons, List.map_cons, List.mem_cons, List.mem_cons, hname, hid, h l]

theorem SameLabels.of_perm (h : beside.Perm beside') : SameLabels beside beside' :=
  fun _ => (h.map _).mem_iff

theorem Joins.of_sameLabels (h : SameLabels beside beside') (hr : r.Joins beside) :
    r.Joins beside' := by
  have hlabel : ∀ t ∈ beside', ∃ t' ∈ beside, t'.name = t.name ∧ t'.id = t.id := fun t ht => by
    obtain ⟨t', ht', heq⟩ := List.mem_map.1 ((h _).2 (List.mem_map_of_mem ht))
    exact ⟨t', ht', congrArg Prod.fst heq, congrArg Prod.snd heq⟩
  refine ⟨hr.named, hr.parses, fun t ht => ?_, fun t ht => ?_⟩
  · obtain ⟨t', ht', hname, -⟩ := hlabel t ht
    exact hname ▸ hr.nameFree t' ht'
  · obtain ⟨t', ht', -, hid⟩ := hlabel t ht
    exact hid ▸ hr.idFree t' ht'

theorem joins_congr (h : SameLabels beside beside') : r.Joins beside ↔ r.Joins beside' :=
  ⟨.of_sameLabels h, .of_sameLabels h.symm⟩

/-- The rules that are taken when they come one after the other beside those that are there. -/
def chosen (beside : List (Rule α)) : List (Rule α) → List (Rule α)
  | [] => []
  | r :: rest => if r.Joins beside then r :: chosen (r :: beside) rest else chosen beside rest

theorem chosen_congr (h : SameLabels beside beside') : chosen beside rs = chosen beside' rs := by
  induction rs generalizing beside beside' with
  | nil => rfl
  | cons r rs ih =>
    rw [chosen, chosen, ih (h.cons rfl rfl), ih h]
    simp only [joins_congr h]

/-- What is taken of `rs'` depends on the rules of `rs` that are taken, and on no others. -/
theorem chosen_append : chosen beside (rs ++ rs') =
    chosen beside rs ++ chosen (beside ++ chosen beside rs) rs' := by
  induction rs generalizing beside with
  | nil => rw [List.nil_append, chosen, List.nil_append, List.append_nil]
  | cons r rs ih =>
    rw [List.cons_append, chosen, chosen]
    split
    · have hperm : (beside ++ r :: chosen (r :: beside) rs).Perm
          (r :: beside ++ chosen (r :: beside) rs) := List.perm_middle
      rw [ih, ← chosen_congr (SameLabels.of_perm hperm.symm), List.cons_append, List.cons_append]
    · exact ih

theorem of_mem_chosen (h : r ∈ chosen beside rs) :
    r ∈ rs ∧ ∃ e, Expression.parse r.expression = .ok e := by
  induction rs generalizing beside with
  | nil => cases h
  | cons t rs ih =>
    rw [chosen] at h
    split at h
    · rename_i hjoins
      rcases List.mem_cons.1 h with rfl | h
      · exact ⟨List.mem_cons_self, hjoins.parses⟩
      · exact (ih h).imp_left (List.mem_cons_of_mem t)
    · exact (ih h).imp_left (List.mem_cons_of_mem t)

/-- Rules that go together are all chosen. -/
theorem chosen_of_compatible (h : Compatible (beside ++ rs)) : chosen beside rs = rs := by
  induction rs generalizing beside with
  | nil => rfl
  | cons r rs ih =>
    have hmiddle := h.perm List.perm_middle
    have hjoins : r.Joins beside := by
      refine ⟨hmiddle.named r List.mem_cons_self, hmiddle.parses r List.mem_cons_self, ?_, ?_⟩
      · intro t ht hname
        exact (List.nodup_cons.1 hmiddle.names).1
          (List.mem_map.2 ⟨t, List.mem_append_left _ ht, hname⟩)
      · intro t ht hid
        exact (List.nodup_cons.1 hmiddle.ids).1
          (List.mem_map.2 ⟨t, List.mem_append_left _ ht, hid⟩)
    rw [chosen, if_pos hjoins, ih hmiddle]

end Rule

/-! ## Loading -/

namespace Store

variable {s : Store α} {r : Rule α}

/-- A rule can be added if the store `Admits` it and its identifier is free. -/
theorem joins_iff : r.Joins s.rules ↔ s.Admits r ∧ s.get? r.id = none := by
  rw [get?_eq_none_iff]
  constructor
  · rintro ⟨hnamed, hparses, hname, hid⟩
    exact ⟨⟨hnamed, hparses, fun t ht heq => absurd heq (hname t ht)⟩, hid⟩
  · rintro ⟨⟨hnamed, hparses, hunique⟩, hid⟩
    exact ⟨hnamed, hparses, fun t ht heq => hid t ht (hunique t ht heq), hid⟩

end Store

namespace Service

variable [RuleKind α] {s : Service α} {r : Rule α} {builtin beside rs : List (Rule α)}

theorem seedIfValid_of_not_joins (h : ¬r.Joins s.store.rules) : s.seedIfValid r = s := by
  unfold seedIfValid
  rcases s.seed_cases r with ⟨e, he⟩ | ⟨hcheck, hfree, -⟩
  · rw [he]
  · exact absurd (Store.joins_iff.2 ⟨check_eq_ok_iff.1 hcheck, hfree⟩) h

theorem seedIfValid_perm (h : r.Joins s.store.rules) :
    (s.seedIfValid r).store.rules.Perm (r :: s.store.rules) := by
  obtain ⟨hadmits, hfree⟩ := Store.joins_iff.1 h
  rw [store_seedIfValid hadmits hfree]
  exact Store.insert_perm hfree

/-- Rules that come one after the other are stored if they are `chosen` beside the stored ones. -/
theorem seeds_perm (rs : List (Rule α)) (h : Rule.SameLabels beside s.store.rules) :
    ((rs.map Rule.asUser).foldl seedIfValid s).store.rules.Perm
      (s.store.rules ++ (Rule.chosen beside rs).map Rule.asUser) := by
  induction rs generalizing s beside with
  | nil => rw [Rule.chosen, List.map_nil, List.append_nil]; exact .refl _
  | cons r rs ih =>
    have hjoins : r.Joins beside ↔ r.asUser.Joins s.store.rules :=
      (Rule.joins_congr h).trans Rule.joins_asUser.symm
    rw [Rule.chosen, List.map_cons, List.foldl_cons]
    by_cases hr : r.Joins beside
    · have hstored := seedIfValid_perm (hjoins.1 hr)
      have hlabels : Rule.SameLabels (r :: beside) (s.seedIfValid r.asUser).store.rules := by
        intro l
        have hcons : Rule.SameLabels (r :: beside) (r.asUser :: s.store.rules) := h.cons rfl rfl
        exact (hcons l).trans (Rule.SameLabels.of_perm hstored.symm l)
      rw [if_pos hr, List.map_cons]
      exact (ih hlabels).trans ((hstored.append_right _).trans List.perm_middle.symm)
    · rw [if_neg hr, seedIfValid_of_not_joins (mt hjoins.2 hr)]
      exact ih h

/-- The rules of the system go together, so all of them are stored. -/
theorem seeds_builtin_perm (h : Rule.Compatible builtin) :
    (builtin.foldl seedIfValid ({} : Service α)).store.rules.Perm builtin := by
  have hempty : builtin ++ ({} : Service α).store.rules = builtin := List.append_nil builtin
  have hperm := perm_of_compatible (hempty.symm ▸ h)
  rwa [hempty] at hperm

/-- The service `s` has the rules of the system and those `configured` that can be stored one after
the other. -/
structure Loads (s : Service α) (builtin configured : List (Rule α)) : Prop where
  /-- All rules of the system are stored, whatever the configuration says. -/
  shipped : ∀ r ∈ builtin, r ∈ s.store.rules
  /-- Beside them the chosen rules are stored as they are configured, and nothing else is. -/
  stored : s.store.rules.Perm (builtin ++ (Rule.chosen builtin configured).map Rule.asUser)
  /-- A rule is chosen in its place if it `Joins` those of the system and the ones chosen before. -/
  taken : ∀ before r after, configured = before ++ r :: after →
    r.Joins (builtin ++ Rule.chosen builtin before) →
    Rule.chosen builtin configured = Rule.chosen builtin before ++
      r :: Rule.chosen (builtin ++ (Rule.chosen builtin before ++ [r])) after
  /-- Otherwise it is as if it were not there. -/
  left : ∀ before r after, configured = before ++ r :: after →
    ¬r.Joins (builtin ++ Rule.chosen builtin before) →
    Rule.chosen builtin configured = Rule.chosen builtin (before ++ after) ∧
      s = load builtin (before ++ after)

theorem load_of_not_joins (h : Rule.Compatible builtin) {before after : List (Rule α)}
    (hr : ¬r.Joins (builtin ++ Rule.chosen builtin before)) :
    load builtin (before ++ r :: after) = load builtin (before ++ after) := by
  have hbuiltin := seeds_builtin_perm h
  have hbefore := seeds_perm before (Rule.SameLabels.of_perm hbuiltin.symm)
  -- The stored rules that the rule meets have the names and identifiers of the chosen ones.
  have hmet : ¬r.asUser.Joins ((before.map Rule.asUser).foldl seedIfValid
      (builtin.foldl seedIfValid ({} : Service α))).store.rules := by
    refine mt (fun hjoins => ?_) hr
    have hlabels : Rule.SameLabels (builtin ++ (Rule.chosen builtin before).map Rule.asUser)
        (builtin ++ Rule.chosen builtin before) := fun l => by
      rw [List.map_append, List.map_append, List.map_map]
      rfl
    have hperm := hbefore.trans (hbuiltin.append_right _)
    exact Rule.joins_asUser.1 ((hjoins.of_sameLabels (.of_perm hperm)).of_sameLabels hlabels)
  show (((before ++ r :: after).map Rule.asUser).foldl seedIfValid _).refresh =
    (((before ++ after).map Rule.asUser).foldl seedIfValid _).refresh
  rw [List.map_append, List.map_append, List.foldl_append, List.foldl_append, List.map_cons,
    List.foldl_cons, seedIfValid_of_not_joins hmet]

theorem load_perm (h : Rule.Compatible builtin) (configured : List (Rule α)) :
    (load builtin configured).store.rules.Perm
      (builtin ++ (Rule.chosen builtin configured).map Rule.asUser) := by
  have hbuiltin := seeds_builtin_perm h
  have hseeds := seeds_perm configured (Rule.SameLabels.of_perm hbuiltin.symm)
  exact hseeds.trans (hbuiltin.append_right _)

theorem loads_load (h : Rule.Compatible builtin) (configured : List (Rule α)) :
    (load builtin configured).Loads builtin configured where
  shipped r hr := (load_perm h configured).mem_iff.2 (List.mem_append_left _ hr)
  stored := load_perm h configured
  taken := by
    rintro before r after rfl hr
    rw [Rule.chosen_append, Rule.chosen, if_pos hr]
    have hlabels := Rule.SameLabels.of_perm (List.perm_append_singleton r
      (builtin ++ Rule.chosen builtin before)).symm
    rw [Rule.chosen_congr hlabels, List.append_assoc]
  left := by
    rintro before r after rfl hr
    refine ⟨?_, load_of_not_joins h hr⟩
    rw [Rule.chosen_append, Rule.chosen, if_neg hr, Rule.chosen_append]

end Service

/-! ## Applications -/

namespace App

/-- The client rules of the system in the application of `c`. -/
def shippedClientRules (issuer : Issuer) (c : Config) : List ClientRule :=
  (Blueprint.issueAll issuer (if c.engine.useBuiltinRules then Builtin.clientRules else [])).1

/-- The relay mappings of the system, which are issued after the client rules. -/
def shippedRelayMappings (issuer : Issuer) (c : Config) : List RelayMapping :=
  let client := if c.engine.useBuiltinRules then Builtin.clientRules else []
  (Blueprint.issueAll (Blueprint.issueAll issuer client).2
    (if c.engine.useBuiltinRules then Builtin.relayMappings else [])).1

theorem compatible_shippedClientRules (issuer : Issuer) (c : Config) :
    Rule.Compatible (shippedClientRules issuer c) :=
  (Builtin.shippable_clientRules.ite _).compatible

theorem compatible_shippedRelayMappings (issuer : Issuer) (c : Config) :
    Rule.Compatible (shippedRelayMappings issuer c) :=
  (Builtin.shippable_relayMappings.ite _).compatible

/-- Every configuration has an application, with the rules of the system that it asks for and
exactly those of its own rules that can be stored one after the other. -/
theorem ofConfig_loads (issuer : Issuer) (c : Config) :
    (ofConfig issuer c).1.client.Loads (shippedClientRules issuer c) c.clientRules ∧
      (ofConfig issuer c).1.relay.Loads (shippedRelayMappings issuer c) c.relayMappings :=
  ⟨Service.loads_load (compatible_shippedClientRules issuer c) c.clientRules,
    Service.loads_load (compatible_shippedRelayMappings issuer c) c.relayMappings⟩

end App

end StreamPolicy
