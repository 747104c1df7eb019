import Mathlib.Data.List.Forall2
import StreamPolicy.Proofs.Store
import StreamPolicy.Service

/-!
# What an operation can do

For each operation of a service: it is refused and the service stays as it was, or its checks have
passed and the rules change in one way. All but `seed` then take a new snapshot (`withStore`).
-/

namespace StreamPolicy

namespace Store

variable {α : Type} [RuleKind α] {s : Store α} {id : Uuid} {r : Rule α}

theorem get_cases (s : Store α) (id : Uuid) :
    (∃ e, s.get id = .error e) ∨ ∃ r, s.get? id = some r ∧ s.get id = .ok r := by
  unfold get
  cases h : s.get? id with
  | none => exact .inl ⟨_, rfl⟩
  | some r => exact .inr ⟨r, rfl, rfl⟩

theorem update_of_get? {old : Rule α} (h : s.get? r.id = some old) :
    s.update r = .ok (s.insert r) := by
  simp only [update, get, h]

/-- Replacing stored rules one after the other never stops on the way. -/
theorem updateAll_of_stored {rs : List (Rule α)} (h : ∀ r ∈ rs, ∃ old, s.get? r.id = some old) :
    s.updateAll rs = (.ok (), rs.foldl insert s) := by
  induction rs generalizing s with
  | nil => rfl
  | cons r rs ih =>
    obtain ⟨⟨old, hold⟩, hrest⟩ := List.forall_mem_cons.1 h
    -- What is stored of the rest still is when the first one has been replaced.
    have hkept : ∀ t ∈ rs, ∃ old, (s.insert r).get? t.id = some old := by
      intro t ht
      rw [get?_insert]
      by_cases hid : t.id = r.id
      · exact ⟨r, if_pos hid⟩
      · rw [if_neg hid]
        exact hrest t ht
    rw [updateAll, update_of_get? hold, List.foldl_cons]
    exact ih hkept

end Store

namespace Service

variable {α : Type}

@[simp] theorem store_withStore (s : Service α) (store : Store α) :
    (s.withStore store).store = store := rfl

@[simp] theorem snapshot_withStore (s : Service α) (store : Store α) :
    (s.withStore store).snapshot = store.enabled := rfl

@[simp] theorem cache_withStore (s : Service α) (store : Store α) :
    (s.withStore store).cache = s.cache.retain (store.enabled.map (·.expression)) := rfl

variable [RuleKind α] (s : Service α)

theorem seed_cases (r : Rule α) :
    (∃ e, s.seed r = (.error e, s)) ∨
      s.check r = .ok () ∧ s.store.get? r.id = none ∧
        s.seed r = (.ok r, { s with store := s.store.insert r }) := by
  unfold seed
  cases hc : s.check r with
  | error e => exact .inl ⟨e, rfl⟩
  | ok _ =>
    unfold Store.create
    cases hg : s.store.get? r.id with
    | some _ => exact .inl ⟨_, rfl⟩
    | none => exact .inr ⟨rfl, rfl, rfl⟩

theorem create_cases (r : Rule α) :
    (∃ e, s.create r = (.error e, s)) ∨
      s.check { r with isSystem := false } = .ok () ∧ s.store.get? r.id = none ∧
        s.create r = (.ok { r with isSystem := false },
          s.withStore (s.store.insert { r with isSystem := false })) := by
  unfold create
  rcases s.seed_cases { r with isSystem := false } with ⟨e, h⟩ | ⟨hc, hg, h⟩
  · exact .inl ⟨e, by rw [h]⟩
  · exact .inr ⟨hc, hg, by rw [h]; rfl⟩

theorem replace_of_get? {r old : Rule α} (h : s.store.get? r.id = some old) :
    s.replace r = (.ok r, s.withStore (s.store.insert r)) := by
  unfold replace
  rw [Store.update_of_get? h]

theorem update_cases [DecidableEq α] (now : Time) (r : Rule α) :
    (∃ e, s.update now r = (.error e, s)) ∨
      ∃ old, s.store.get? r.id = some old ∧
        (old.isSystem = true → old.sameDefinition r = true) ∧ s.check r = .ok () ∧
        s.update now r =
          let new := { r with
            isSystem := old.isSystem, createdAt := old.createdAt, updatedAt := now }
          (.ok new, s.withStore (s.store.insert new)) := by
  unfold update
  rcases s.store.get_cases r.id with ⟨e, hg⟩ | ⟨old, hg, hok⟩
  · exact .inl ⟨e, by simp only [get, hg]⟩
  · simp only [get, hok]
    by_cases hsys : (old.isSystem && !old.sameDefinition r) = true
    · exact .inl ⟨_, if_pos hsys⟩
    · rw [if_neg hsys]
      cases hc : s.check r with
      | error e => exact .inl ⟨e, rfl⟩
      | ok _ =>
        refine .inr ⟨old, hg, fun h => ?_, rfl, s.replace_of_get? hg⟩
        simpa [h] using hsys

theorem delete_cases (id : Uuid) :
    (∃ e, s.delete id = (.error e, s)) ∨
      ∃ old, s.store.get? id = some old ∧ old.isSystem = false ∧
        s.delete id = (.ok (), s.withStore (s.store.erase id)) := by
  unfold delete
  rcases s.store.get_cases id with ⟨e, hg⟩ | ⟨old, hg, hok⟩
  · exact .inl ⟨e, by simp only [get, hg]⟩
  · simp only [get, hok]
    by_cases hsys : old.isSystem = true
    · exact .inl ⟨_, if_pos hsys⟩
    · refine .inr ⟨old, hg, by simpa using hsys, ?_⟩
      rw [if_neg hsys]
      simp only [Store.delete, hok]

theorem setEnabled_cases (now : Time) (id : Uuid) (enabled : Bool) :
    (∃ e, s.setEnabled now id enabled = (.error e, s)) ∨
      ∃ old, s.store.get? id = some old ∧
        s.setEnabled now id enabled =
          let new := { old with enabled, updatedAt := now }
          (.ok new, s.withStore (s.store.insert new)) := by
  unfold setEnabled
  rcases s.store.get_cases id with ⟨e, hg⟩ | ⟨old, hg, hok⟩
  · exact .inl ⟨e, by simp only [get, hg]⟩
  · simp only [get, hok]
    have hold : s.store.get? old.id = some old := by rw [(Store.get?_some hg).2, hg]
    exact .inr ⟨old, hg, s.replace_of_get? hold⟩

/-- The rule `r` is what the identifier and the priority of `p` make of the stored one. -/
def Reprioritizes (now : Time) (p : Uuid × Int32) (r : Rule α) : Prop :=
  ∃ old, s.store.get? p.1 = some old ∧ r = { old with priority := p.2, updatedAt := now }

variable {s} in
/-- The first identifier that no rule has is reported. -/
theorem reprioritized_of_missing {before : List (Uuid × Int32)} {p : Uuid × Int32}
    (hbefore : ∀ q ∈ before, ∃ r, s.store.get? q.1 = some r) (hp : s.store.get? p.1 = none)
    (now : Time) (after : List (Uuid × Int32)) :
    s.reprioritized now (before ++ p :: after) = .error (.unknownId (RuleKind.kind α) p.1) := by
  induction before with
  | nil => simp only [List.nil_append, reprioritized, get, Store.get, hp]
  | cons q before ih =>
    obtain ⟨⟨old, hold⟩, hrest⟩ := List.forall_mem_cons.1 hbefore
    simp only [List.cons_append, reprioritized, get, Store.get, hold, ih hrest]

/-- There is such an identifier, or each rule gets its priority. -/
theorem reprioritized_cases (now : Time) (priorities : List (Uuid × Int32)) :
    (∃ before p after, priorities = before ++ p :: after ∧
      (∀ q ∈ before, ∃ r, s.store.get? q.1 = some r) ∧ s.store.get? p.1 = none) ∨
    ∃ rs, s.reprioritized now priorities = .ok rs ∧
      List.Forall₂ (s.Reprioritizes now) priorities rs := by
  induction priorities with
  | nil => exact .inr ⟨[], rfl, .nil⟩
  | cons p priorities ih =>
    cases hget : s.store.get? p.1 with
    | none => exact .inl ⟨[], p, priorities, rfl, List.forall_mem_nil _, hget⟩
    | some old =>
      rcases ih with ⟨before, q, after, rfl, hbefore, hq⟩ | ⟨rs, hrs, hall⟩
      · exact .inl ⟨p :: before, q, after, rfl, List.forall_mem_cons.2 ⟨⟨old, hget⟩, hbefore⟩, hq⟩
      · refine .inr ⟨{ old with priority := p.2, updatedAt := now } :: rs, ?_, ?_⟩
        · simp only [reprioritized, get, Store.get, hget, hrs]
        · exact .cons ⟨old, hget, rfl⟩ hall

omit [RuleKind α] in
variable {s} in
theorem exists_reprioritizes {now : Time} {priorities : List (Uuid × Int32)} {rs : List (Rule α)}
    (h : List.Forall₂ (s.Reprioritizes now) priorities rs) :
    ∀ r ∈ rs, ∃ p, s.Reprioritizes now p r := by
  induction h with
  | nil => exact List.forall_mem_nil _
  | cons hr _ ih => exact List.forall_mem_cons.2 ⟨⟨_, hr⟩, ih⟩

/-- Once all rules have been found, giving them their priorities is never refused. -/
theorem reorder_of_reprioritizes {now : Time} {priorities : List (Uuid × Int32)}
    {rs : List (Rule α)} (hrs : s.reprioritized now priorities = .ok rs)
    (hall : List.Forall₂ (s.Reprioritizes now) priorities rs) :
    s.reorder now priorities = (.ok (), s.withStore (rs.foldl Store.insert s.store)) := by
  have hstored : ∀ r ∈ rs, ∃ old, s.store.get? r.id = some old := by
    intro r hr
    obtain ⟨_, old, hold, rfl⟩ := exists_reprioritizes hall r hr
    exact ⟨old, Store.get?_id hold⟩
  simp only [reorder, hrs, Store.updateAll_of_stored hstored]

theorem reorder_cases (now : Time) (priorities : List (Uuid × Int32)) :
    (∃ e, s.reorder now priorities = (.error e, s)) ∨
      ∃ rs, s.reprioritized now priorities = .ok rs ∧
        s.reorder now priorities = (.ok (), s.withStore (rs.foldl Store.insert s.store)) := by
  rcases s.reprioritized_cases now priorities with ⟨_, p, _, rfl, hbefore, hp⟩ | ⟨rs, hrs, hall⟩
  · exact .inl ⟨_, by rw [reorder, reprioritized_of_missing hbefore hp]⟩
  · exact .inr ⟨rs, hrs, s.reorder_of_reprioritizes hrs hall⟩

end Service

end StreamPolicy
