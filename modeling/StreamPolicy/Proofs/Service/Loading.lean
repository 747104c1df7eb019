import Mathlib.Algebra.Group.Nat.Defs
import Mathlib.Data.List.Perm.Basic
import StreamPolicy.App
import StreamPolicy.Proofs.Builtin
import StreamPolicy.Proofs.Service.Change

/-!
# Loading rules

A service is loaded by seeding rules one after the other. Rules that are `Compatible` are all
stored, and the rules that are shipped are of this kind (`Shippable`), whatever identifiers they are
given.
-/

namespace StreamPolicy

variable {α κ β γ : Type}

/-! ## Rules that go together -/

namespace Rule

variable {rs rs' : List (Rule α)}

theorem place_perm {r : Rule α} (h : ∀ s ∈ rs, s.id ≠ r.id) : (place r rs).Perm (r :: rs) := by
  fun_induction place r rs with
  | case1 | case2 => exact .refl _
  | case3 s rest _ heq => exact absurd (Uuid.toNat_inj.1 heq.symm) (h s List.mem_cons_self)
  | case4 s rest _ _ ih =>
    have hperm := ih fun t ht => h t (List.mem_cons_of_mem _ ht)
    exact (hperm.cons s).trans (.swap r s rest)

/-- Rules that can be stored one beside the other. -/
structure Compatible (rs : List (Rule α)) : Prop where
  named : ∀ r ∈ rs, Text.isBlankText r.name.toList = false
  parses : ∀ r ∈ rs, ∃ e, Expression.parse r.expression = .ok e
  names : (rs.map (·.name)).Nodup
  ids : (rs.map (·.id)).Nodup

theorem Compatible.perm (h : Compatible rs) (hp : rs.Perm rs') : Compatible rs' where
  named r hr := h.named r (hp.mem_iff.2 hr)
  parses r hr := h.parses r (hp.mem_iff.2 hr)
  names := (hp.map _).nodup_iff.1 h.names
  ids := (hp.map _).nodup_iff.1 h.ids

theorem Compatible.sublist (h : Compatible rs') (hs : rs.Sublist rs') : Compatible rs where
  named r hr := h.named r (hs.subset hr)
  parses r hr := h.parses r (hs.subset hr)
  names := h.names.sublist (hs.map _)
  ids := h.ids.sublist (hs.map _)

end Rule

namespace Store

variable {s : Store α} {r : Rule α}

theorem insert_perm (h : s.get? r.id = none) : (s.insert r).rules.Perm (r :: s.rules) := by
  refine Rule.place_perm fun t ht hid => ?_
  rw [← hid, mem_iff_get?.1 ht] at h
  cases h

theorem get?_of_compatible (h : Rule.Compatible (r :: s.rules)) : s.get? r.id = none := by
  have hfree := (List.nodup_cons.1 h.ids).1
  cases hget : s.get? r.id with
  | none => rfl
  | some t =>
    obtain ⟨ht, hid⟩ := get?_some hget
    exact absurd (List.mem_map.2 ⟨t, ht, hid⟩) hfree

theorem admits_of_compatible (h : Rule.Compatible (r :: s.rules)) : s.Admits r where
  named := h.named r List.mem_cons_self
  parses := h.parses r List.mem_cons_self
  unique t ht hname := absurd (List.mem_map.2 ⟨t, ht, hname⟩) (List.nodup_cons.1 h.names).1

end Store

namespace Service

variable [RuleKind α] {s : Service α}

theorem store_seedIfValid {r : Rule α} (hr : s.store.Admits r) (hfree : s.store.get? r.id = none) :
    (s.seedIfValid r).store = s.store.insert r := by
  unfold seedIfValid seed
  simp only [check_eq_ok_iff.2 hr, Store.create, hfree]

/-- Rules that go with the stored ones are all stored. -/
theorem perm_of_compatible {rs : List (Rule α)} (h : Rule.Compatible (rs ++ s.store.rules)) :
    (rs.foldl seedIfValid s).store.rules.Perm (rs ++ s.store.rules) := by
  induction rs generalizing s with
  | nil => exact .refl _
  | cons r rs ih =>
    have hr : Rule.Compatible (r :: s.store.rules) :=
      h.sublist ((List.sublist_append_right rs _).cons_cons r)
    have hfree := Store.get?_of_compatible hr
    have hstored : (s.seedIfValid r).store.rules.Perm (r :: s.store.rules) := by
      rw [store_seedIfValid (Store.admits_of_compatible hr) hfree]
      exact Store.insert_perm hfree
    have hshift : (rs ++ (s.seedIfValid r).store.rules).Perm (r :: rs ++ s.store.rules) :=
      (hstored.append_left rs).trans List.perm_middle
    exact (ih (h.perm hshift.symm)).trans hshift

variable [DecidableEq α] (consult : Service α → κ → β × Service α)

theorem run_append (s : Service α) (ops ops' : List (Op α κ)) :
    s.run consult (ops ++ ops') = (s.run consult ops).run consult ops' := List.foldl_append

theorem run_seeds (s : Service α) (rs : List (Rule α)) :
    s.run consult (rs.map .seed) = rs.foldl seedIfValid s := List.foldl_map

/-- Loading is a run of a new service. -/
theorem load_eq_run (builtin configured : List (Rule α)) :
    load builtin configured = ({} : Service α).run consult (builtin.map .seed ++
      ((configured.map fun r => { r with isSystem := false }).map .seed ++ [.refresh])) := by
  rw [run_append, run_append, run_seeds, run_seeds]
  rfl

end Service

/-! ## New rules -/

namespace Blueprint

variable {issuer : Issuer} {bs : List (Blueprint α)}

def definition (b : Blueprint α) : String × String × String × α :=
  (b.name, b.description, b.expression, b.attributes)

/-- What a rule has from its blueprint does not depend on when it is made. -/
theorem map_issueAll {f : Rule α → γ} {g : Blueprint α → γ}
    (h : ∀ issuer b, f (b.issue issuer).1 = g b) : (issueAll issuer bs).1.map f = bs.map g := by
  induction bs generalizing issuer with
  | nil => rfl
  | cons b bs ih => exact List.cons_eq_cons.2 ⟨h issuer b, ih⟩

theorem mem_issueAll {r : Rule α} (h : r ∈ (issueAll issuer bs).1) :
    ∃ b ∈ bs, ∃ issuer, r = (b.issue issuer).1 := by
  induction bs generalizing issuer with
  | nil => cases h
  | cons b bs ih =>
    rcases List.mem_cons.1 h with rfl | h
    · exact ⟨b, List.mem_cons_self, issuer, rfl⟩
    · obtain ⟨b', hb', hr⟩ := ih h
      exact ⟨b', List.mem_cons_of_mem _ hb', hr⟩

theorem id_issueAll {r : Rule α} (h : r ∈ (issueAll issuer bs).1) :
    ∃ k < bs.length, r.id.bits = issuer.nextId.bits + BitVec.ofNat 128 k := by
  induction bs generalizing issuer with
  | nil => cases h
  | cons b bs ih =>
    rcases List.mem_cons.1 h with rfl | h
    · exact ⟨0, Nat.succ_pos _, (BitVec.add_zero _).symm⟩
    · obtain ⟨k, hk, hid⟩ := ih h
      refine ⟨k + 1, Nat.succ_lt_succ hk, hid.trans ?_⟩
      show issuer.nextId.bits + 1 + BitVec.ofNat 128 k = _
      bv_omega

/-- Identifiers do not repeat before all of them have been issued. -/
theorem nodup_id_issueAll (h : bs.length ≤ 2 ^ 128) :
    ((issueAll issuer bs).1.map (·.id)).Nodup := by
  induction bs generalizing issuer with
  | nil => exact List.nodup_nil
  | cons b bs ih =>
    refine List.nodup_cons.2 ⟨fun hmem => ?_, ih (Nat.le_of_succ_le h)⟩
    obtain ⟨r, hr, hid⟩ := List.mem_map.1 hmem
    obtain ⟨k, hk, hbits⟩ := id_issueAll hr
    rw [hid] at hbits
    -- Adding a number between zero and the number of identifiers leads to another one.
    have hlt : k + 1 < 2 ^ 128 := Nat.lt_of_lt_of_le (Nat.succ_lt_succ hk) h
    have hnext : issuer.nextId.bits = issuer.nextId.bits + 1 + BitVec.ofNat 128 k := hbits
    bv_omega

/-- The rules made from `bs` can be stored one beside the other, and are of the system. -/
structure Shippable (bs : List (Blueprint α)) : Prop where
  named : ∀ b ∈ bs, Text.isBlankText b.name.toList = false
  parses : ∀ b ∈ bs, ∃ e, Expression.parse b.expression = .ok e
  names : (bs.map (·.name)).Nodup
  few : bs.length ≤ 2 ^ 128
  isSystem : ∀ b ∈ bs, b.isSystem = true

theorem shippable_nil : Shippable ([] : List (Blueprint α)) :=
  ⟨List.forall_mem_nil _, List.forall_mem_nil _, List.nodup_nil, Nat.zero_le _,
    List.forall_mem_nil _⟩

/-- Blueprints that are used or left out as a whole. -/
theorem Shippable.ite (h : Shippable bs) (use : Bool) : Shippable (if use then bs else []) := by
  cases use with
  | true => exact h
  | false => exact shippable_nil

theorem Shippable.compatible (h : Shippable bs) : Rule.Compatible (issueAll issuer bs).1 := by
  have hnames : (issueAll issuer bs).1.map (·.name) = bs.map (·.name) := map_issueAll fun _ _ => rfl
  refine ⟨fun r hr => ?_, fun r hr => ?_, hnames ▸ h.names, nodup_id_issueAll h.few⟩
  · obtain ⟨b, hb, i, rfl⟩ := mem_issueAll hr
    exact h.named b hb
  · obtain ⟨b, hb, i, rfl⟩ := mem_issueAll hr
    exact h.parses b hb

theorem Shippable.isSystem_issueAll (h : Shippable bs) :
    ∀ r ∈ (issueAll issuer bs).1, r.isSystem = true := by
  intro r hr
  obtain ⟨b, hb, i, rfl⟩ := mem_issueAll hr
  exact h.isSystem b hb

theorem parses_of_map {es : List Expression}
    (h : bs.map (fun b => Expression.parse b.expression) = es.map .ok) :
    ∀ b ∈ bs, ∃ e, Expression.parse b.expression = .ok e := by
  intro b hb
  have hmem : Expression.parse b.expression ∈ es.map .ok := by
    rw [← h]
    exact List.mem_map_of_mem hb
  obtain ⟨e, -, he⟩ := List.mem_map.1 hmem
  exact ⟨e, he.symm⟩

end Blueprint

namespace Builtin

theorem shippable_clientRules : Blueprint.Shippable clientRules where
  named := by decide
  parses := Blueprint.parses_of_map parse_clientRules
  names := by decide
  few := by decide
  isSystem := by decide

theorem shippable_relayMappings : Blueprint.Shippable relayMappings where
  named := by decide
  parses := Blueprint.parses_of_map parse_relayMappings
  names := by decide
  few := by decide
  isSystem := by decide

end Builtin

end StreamPolicy
