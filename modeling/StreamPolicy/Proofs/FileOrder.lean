import StreamPolicy.Proofs.Order
import StreamPolicy.Proofs.Saving
import StreamPolicy.Proofs.Service.Admission

/-!
# The order of rules in a file

A service lists rules of one priority by identifier, wherever they stand in the file (`ListsById`).
Identifiers that are issued on reading increase along the file (`Numbers`), so rules without one of
their own are listed as they stand there. Rules that have one need not be.
-/

namespace StreamPolicy

variable {α : Type}

/-! ## Loaded rules -/

namespace Service

/-- The service has `r` before `t`, and tries it before `t` if both are enabled. -/
def ListsBefore (s : Service α) (r t : Rule α) : Prop :=
  [r, t].Sublist s.store.list ∧
    (r.enabled = true → t.enabled = true → [r, t].Sublist s.snapshot)

/-- Rules of one priority that are `taken` from a file come by identifier. -/
def ListsById (s : Service α) (taken : List (Rule α)) : Prop :=
  ∀ r ∈ taken, ∀ t ∈ taken, r.priority = t.priority →
    (s.ListsBefore r.asUser t.asUser ↔ r.Precedes t)

theorem listsById_load [RuleKind α] {builtin : List (Rule α)} (h : Rule.Compatible builtin)
    (configured : List (Rule α)) :
    (load builtin configured).ListsById (Rule.chosen builtin configured) := by
  intro r hr t ht hpriority
  let s := load builtin configured
  have hstored : ∀ u ∈ Rule.chosen builtin configured, u.asUser ∈ s.store.rules := fun u hu =>
    (load_perm h configured).mem_iff.2 (List.mem_append_right _ (List.mem_map_of_mem hu))
  have hbefore : r.asUser.Before t.asUser ↔ r.Precedes t := Rule.before_iff_precedes hpriority
  have hlist : [r.asUser, t.asUser].Sublist s.store.list ↔ r.asUser.Before t.asUser :=
    Rule.sublist_iff_before s.store.pairwise_list (Rule.mem_sortByPriority.2 (hstored r hr))
      (Rule.mem_sortByPriority.2 (hstored t ht))
  refine ⟨fun hlists => hbefore.1 (hlist.1 hlists.1), fun hprecedes => ?_⟩
  refine ⟨hlist.2 (hbefore.2 hprecedes), fun hr' ht' => ?_⟩
  -- The snapshot was taken when all rules had been stored.
  have hlists : s.store.Lists s.snapshot := s.store.lists_enabled
  exact (Rule.sublist_iff_before hlists.ordered ((hlists.mem _).2 ⟨hstored r hr, hr'⟩)
    ((hlists.mem _).2 ⟨hstored t ht, ht'⟩)).2 (hbefore.2 hprecedes)

end Service

/-! ## Identifiers that are issued on reading -/

theorem Issuer.toNat_fresh (issuer : Issuer) (h : issuer.nextId.toNat + 1 < 2 ^ 128) :
    issuer.fresh.2.nextId.toNat = issuer.nextId.toNat + 1 := by
  show (issuer.nextId.bits + 1).toNat = issuer.nextId.bits.toNat + 1
  have hlt : issuer.nextId.bits.toNat + 1 < 2 ^ 128 := h
  bv_omega

namespace Rule

variable [RuleKind α] {issuer issuer' : Issuer} {d : Data} {ds : List Data} {r : Rule α}
  {rs : List (Rule α)}

/-- Whether the record `d` has no identifier for its rule. -/
def lacksId (α : Type) [RuleKind α] (d : Data) : Bool :=
  (d.fields? (fieldNames α)).any fun get => (get "id").isNone

/-- The rules that are read from those records `ds` that lack an identifier. -/
def unnumbered (ds : List Data) (rs : List (Rule α)) : List (Rule α) :=
  ((ds.zip rs).filter fun p => lacksId α p.1).map (·.2)

theorem unnumbered_cons (d : Data) (ds : List Data) (r : Rule α) (rs : List (Rule α)) :
    unnumbered (d :: ds) (r :: rs) =
      if lacksId α d then r :: unnumbered ds rs else unnumbered ds rs := by
  rw [unnumbered, List.zip_cons_cons, List.filter_cons]
  split <;> rfl

theorem read?_cases (h : read? issuer d = some (r, issuer')) :
    (lacksId α d = true ∧ r.id = issuer.nextId ∧ issuer' = issuer.fresh.2) ∨
      (lacksId α d = false ∧ issuer' = issuer) := by
  obtain ⟨get, hget, h⟩ := Option.bind_eq_some_iff.1 h
  obtain ⟨⟨id, next⟩, hid, h⟩ := Option.bind_eq_some_iff.1 h
  obtain ⟨hrid, hnext⟩ : r.id = id ∧ issuer' = next := by
    -- The other fields are read in turn.
    iterate 9 obtain ⟨_, -, h⟩ := Option.bind_eq_some_iff.1 h
    obtain ⟨rfl, rfl⟩ := Prod.mk.inj (Option.some.inj h)
    exact ⟨rfl, rfl⟩
  rw [← hrid, ← hnext] at hid
  rw [lacksId, hget, Option.any_some]
  cases hfield : get "id" with
  | none =>
    rw [hfield] at hid
    obtain ⟨hfresh, hissuer⟩ := Prod.mk.inj (Option.some.inj hid)
    exact .inl ⟨rfl, hfresh.symm, hissuer.symm⟩
  | some field =>
    rw [hfield] at hid
    obtain ⟨u, -, hu⟩ := Option.map_eq_some_iff.1 hid
    exact .inr ⟨rfl, (congrArg Prod.snd hu).symm⟩

theorem readAll?_cons (h : readAll? issuer (d :: ds) = some (rs, issuer')) :
    ∃ (r : Rule α) (between : Issuer) (rest : List (Rule α)),
      read? issuer d = some (r, between) ∧ readAll? between ds = some (rest, issuer') ∧
        rs = r :: rest := by
  rw [readAll?] at h
  cases hread : (read? issuer d : Option (Rule α × Issuer)) with
  | none =>
    rw [hread] at h
    cases h
  | some p =>
    rw [hread] at h
    obtain ⟨⟨rest, last⟩, hrest, heq⟩ := Option.map_eq_some_iff.1 h
    obtain ⟨rfl, rfl⟩ := Prod.mk.inj heq
    exact ⟨p.1, p.2, rest, rfl, hrest, rfl⟩

/-- The rules `rs` are read from `ds` by an issuer that has identifiers for all of them. -/
structure Numbers (issuer : Issuer) (ds : List Data) (rs : List (Rule α)) (issuer' : Issuer) :
    Prop where
  few : issuer'.nextId.toNat ≤ issuer.nextId.toNat + ds.length
  /-- Identifiers that are issued are not below the next one. -/
  above : ∀ r ∈ unnumbered ds rs, issuer.nextId.toNat ≤ r.id.toNat
  /-- They increase along the records. -/
  increasing : (unnumbered ds rs).Pairwise Precedes

theorem numbers_of_readAll? (h : readAll? issuer ds = some (rs, issuer'))
    (hroom : issuer.nextId.toNat + ds.length < 2 ^ 128) : Numbers issuer ds rs issuer' := by
  induction ds generalizing issuer rs with
  | nil =>
    obtain ⟨rfl, rfl⟩ := Prod.mk.inj (Option.some.inj h)
    exact ⟨Nat.le_refl _, List.forall_mem_nil _, List.Pairwise.nil⟩
  | cons d ds ih =>
    obtain ⟨r, between, rest, hread, hrest, rfl⟩ := readAll?_cons h
    rw [List.length_cons] at hroom
    rcases read?_cases hread with ⟨hlacks, hid, rfl⟩ | ⟨hlacks, rfl⟩
    · have hnext := issuer.toNat_fresh (by omega)
      have hrec := ih hrest (by omega)
      have hfew := hrec.few
      have hbehind : ∀ t ∈ unnumbered ds rest, r.id.toNat < t.id.toNat := by
        intro t ht
        have habove := hrec.above t ht
        rw [hid]
        omega
      refine ⟨by rw [List.length_cons]; omega, ?_, ?_⟩
      · rw [unnumbered_cons, if_pos hlacks, ← hid]
        exact List.forall_mem_cons.2 ⟨Nat.le_refl _, fun t ht => Nat.le_of_lt (hbehind t ht)⟩
      · rw [unnumbered_cons, if_pos hlacks]
        exact List.pairwise_cons.2 ⟨hbehind, hrec.increasing⟩
    · obtain ⟨hfew, habove, hincreasing⟩ := ih hrest (by omega)
      have hsame : unnumbered (d :: ds) (r :: rest) = unnumbered ds rest := by
        rw [unnumbered_cons, hlacks]
        rfl
      exact ⟨Nat.le_succ_of_le hfew, hsame ▸ habove, hsame ▸ hincreasing⟩

end Rule

/-! ## Rules of a file -/

namespace Config

variable {issuer issuer' : Issuer} {text : String} {c : Config}

def recordsOf : Option Data → List Data
  | some (.list ds) => ds
  | _ => []

/-- The records under `key` of the document `text`. -/
def records (text key : String) : List Data :=
  recordsOf (((Toml.Document.data? text).bind
    (·.fields? ["engine", clientKey, relayKey])).bind (· key))

theorem readAll?_of_readRules? [RuleKind α] {field : Option Data} {rs : List (Rule α)}
    (h : readRules? issuer field = some (rs, issuer')) :
    Rule.readAll? issuer (recordsOf field) = some (rs, issuer') := by
  unfold readRules? at h
  split at h
  · exact h
  · exact h
  · cases h

/-- The rules of a configuration are read from their records, the relay mappings by the issuer that
the client rules leave. -/
theorem readAll?_records (h : parse? issuer text = some (c, issuer')) :
    ∃ between, Rule.readAll? issuer (records text clientKey) = some (c.clientRules, between) ∧
      Rule.readAll? between (records text relayKey) = some (c.relayMappings, issuer') := by
  obtain ⟨data, hdata, hread⟩ := Option.bind_eq_some_iff.1 h
  simp only [read?, Option.bind_eq_bind, Option.bind_eq_some_iff] at hread
  obtain ⟨get, hget, engine, -, ⟨client, between⟩, hclient, ⟨relay, last⟩, hrelay, hread⟩ := hread
  obtain ⟨rfl, rfl⟩ := Prod.mk.inj (Option.some.inj hread)
  have hrecords : ∀ key, records text key = recordsOf (get key) := fun key => by
    rw [records, hdata, Option.bind_some, hget, Option.bind_some]
  rw [hrecords, hrecords]
  exact ⟨between, readAll?_of_readRules? hclient, readAll?_of_readRules? hrelay⟩

end Config

namespace Service

variable [RuleKind α] {s : Service α} {ds : List Data} {rs taken : List (Rule α)}

/-- Rules of one priority that are `taken` from a file and are `unnumbered` there are listed as they
stand in the file. -/
def KeepsFileOrder (s : Service α) (ds : List Data) (rs taken : List (Rule α)) : Prop :=
  ∀ r t, [r, t].Sublist (Rule.unnumbered ds rs) → r ∈ taken → t ∈ taken →
    r.priority = t.priority → s.ListsBefore r.asUser t.asUser

theorem ListsById.keepsFileOrder (h : s.ListsById taken) {issuer issuer' : Issuer}
    (hnumbers : Rule.Numbers issuer ds rs issuer') : s.KeepsFileOrder ds rs taken := by
  intro r t hsub hr ht hpriority
  exact (h r hr t ht hpriority).2 (List.pairwise_iff_forall_sublist.1 hnumbers.increasing hsub)

end Service

namespace App

open Config

/-- An application of any configuration lists rules of one priority by identifier. -/
theorem ofConfig_listsById (issuer : Issuer) (c : Config) :
    (ofConfig issuer c).1.client.ListsById
        (Rule.chosen (shippedClientRules issuer c) c.clientRules) ∧
      (ofConfig issuer c).1.relay.ListsById
        (Rule.chosen (shippedRelayMappings issuer c) c.relayMappings) :=
  ⟨Service.listsById_load (compatible_shippedClientRules issuer c) c.clientRules,
    Service.listsById_load (compatible_shippedRelayMappings issuer c) c.relayMappings⟩

/-- An application lists rules of one priority by identifier. Those that have none in the file are
listed as they stand there, as long as there are identifiers for all rules. -/
theorem ordered_of_parse {issuer issuer' : Issuer} {text : String} {c : Config}
    (h : Config.parse? issuer text = some (c, issuer')) :
    let app := (ofConfig issuer' c).1
    let client := Rule.chosen (shippedClientRules issuer' c) c.clientRules
    let relay := Rule.chosen (shippedRelayMappings issuer' c) c.relayMappings
    (app.client.ListsById client ∧ app.relay.ListsById relay) ∧
      (issuer.nextId.toNat + (records text clientKey).length + (records text relayKey).length <
          2 ^ 128 →
        app.client.KeepsFileOrder (records text clientKey) c.clientRules client ∧
        app.relay.KeepsFileOrder (records text relayKey) c.relayMappings relay) := by
  intro app client relay
  obtain ⟨hclient, hrelay⟩ := ofConfig_listsById issuer' c
  refine ⟨⟨hclient, hrelay⟩, fun hroom => ?_⟩
  obtain ⟨between, hread, hread'⟩ := readAll?_records h
  have hnumbers := Rule.numbers_of_readAll? hread (by omega)
  have hfew := hnumbers.few
  have hnumbers' := Rule.numbers_of_readAll? hread' (by omega)
  exact ⟨hclient.keepsFileOrder hnumbers, hrelay.keepsFileOrder hnumbers'⟩

/-! ### A file -/

/-- Two rules with identifiers of their own, the greater one first, and two rules without. -/
def swappedText : String :=
  "[engine]\nuse_builtin_rules = false\n" ++
  "[[client_detection_rules]]\nid = \"00000000-0000-0000-0000-000000000002\"\nname = \"A\"\n" ++
  "[[client_detection_rules]]\nid = \"00000000-0000-0000-0000-000000000001\"\nname = \"B\"\n" ++
  "[[client_detection_rules]]\nname = \"C\"\n[[client_detection_rules]]\nname = \"D\"\n"

def swappedIssuer : Issuer := ⟨⟨10⟩, .epoch⟩

def swappedRule (id : BitVec 128) (name : String) : ClientRule where
  id := ⟨id⟩
  name := name
  attributes := {}
  createdAt := .epoch
  updatedAt := .epoch

def swapped : Config where
  engine := { useBuiltinRules := false }
  clientRules := [swappedRule 2 "A", swappedRule 1 "B", swappedRule 10 "C", swappedRule 11 "D"]

theorem reads_swappedText :
    Config.parse? swappedIssuer swappedText = some (swapped, swappedIssuer.fresh.2.fresh.2) ∧
      (records swappedText clientKey).length = 4 ∧ (records swappedText relayKey).length = 0 ∧
      Rule.unnumbered (records swappedText clientKey) swapped.clientRules =
        [swappedRule 10 "C", swappedRule 11 "D"] := by
  have htext : swappedText = String.ofList _ :=
    Toml.append_eq_ofList (Toml.append_eq_ofList (Toml.append_eq_ofList rfl rfl) rfl) rfl
  rw [Config.parse?, records, records, htext, Toml.Document.data?_ofList]
  decide +kernel

theorem chosen_swapped (issuer : Issuer) :
    Rule.chosen (shippedClientRules issuer swapped) swapped.clientRules = swapped.clientRules := by
  have hempty : ∀ r ∈ swapped.clientRules, r.expression = "" := by decide
  have hcompatible : Rule.Compatible ([] ++ swapped.clientRules) := by
    refine ⟨by decide, fun r hr => ?_, by decide, by decide⟩
    exact ⟨_, hempty r hr ▸ Expression.parse_empty⟩
  exact Rule.chosen_of_compatible hcompatible

/-- B is listed before A, which stands before it in the file. D is listed behind C, as it stands. -/
theorem ordered_of_parse_swapped :
    let app := (ofConfig swappedIssuer.fresh.2.fresh.2 swapped).1
    Config.parse? swappedIssuer swappedText = some (swapped, swappedIssuer.fresh.2.fresh.2) ∧
      swappedIssuer.nextId.toNat + (records swappedText clientKey).length +
        (records swappedText relayKey).length < 2 ^ 128 ∧
      app.client.ListsBefore (swappedRule 1 "B") (swappedRule 2 "A") ∧
      app.client.ListsBefore (swappedRule 10 "C") (swappedRule 11 "D") := by
  intro app
  obtain ⟨hparse, hclient, hrelay, hunnumbered⟩ := reads_swappedText
  have hroom : swappedIssuer.nextId.toNat + (records swappedText clientKey).length +
      (records swappedText relayKey).length < 2 ^ 128 := by
    rw [hclient, hrelay]
    decide
  obtain ⟨⟨hbyId, -⟩, hfile⟩ := ordered_of_parse hparse
  obtain ⟨hkeeps, -⟩ := hfile hroom
  rw [chosen_swapped] at hbyId hkeeps
  refine ⟨hparse, hroom, ?_, ?_⟩
  · exact (hbyId (swappedRule 1 "B") (by decide) (swappedRule 2 "A") (by decide) rfl).2
      Nat.one_lt_two
  · refine hkeeps (swappedRule 10 "C") (swappedRule 11 "D") ?_ (by decide) (by decide) rfl
    rw [hunnumbered]

/-- So A does not come first, although it does in the file. -/
theorem not_listsBefore_swapped :
    let app := (ofConfig swappedIssuer.fresh.2.fresh.2 swapped).1
    Config.parse? swappedIssuer swappedText = some (swapped, swappedIssuer.fresh.2.fresh.2) ∧
      [swappedRule 2 "A", swappedRule 1 "B"].Sublist swapped.clientRules ∧
      Rule.chosen (shippedClientRules swappedIssuer.fresh.2.fresh.2 swapped) swapped.clientRules =
        swapped.clientRules ∧
      (swappedRule 2 "A").priority = (swappedRule 1 "B").priority ∧
      ¬app.client.ListsBefore (swappedRule 2 "A") (swappedRule 1 "B") := by
  intro app
  have hbyId := (ofConfig_listsById swappedIssuer.fresh.2.fresh.2 swapped).1
  rw [chosen_swapped] at hbyId
  refine ⟨reads_swappedText.1, by decide, chosen_swapped _, rfl, fun hlists => ?_⟩
  have hprecedes : 2 < 1 :=
    (hbyId (swappedRule 2 "A") (by decide) (swappedRule 1 "B") (by decide) rfl).1 hlists
  omega

end App

end StreamPolicy
