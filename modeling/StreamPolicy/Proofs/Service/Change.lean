import StreamPolicy.Proofs.Service.Run

/-!
# What an operation does to the stored rules

An operation leaves the stored rules alone, or it adds, replaces or removes one, or it revises some
(`Change`). Each change comes with what has been checked before it: a rule that is put in has a name
of its own and a condition that parses (`Admits`), and rules of the system are at most revised
(`Revises`).
-/

namespace StreamPolicy

variable {α κ β : Type}

/-! ## Revised rules -/

namespace Rule

/-- What a rule is for: all that a rule of the system does not let one change. -/
def definition (r : Rule α) : String × String × String × α :=
  (r.name, r.description, r.expression, r.attributes)

theorem sameDefinition_iff [DecidableEq α] {r s : Rule α} :
    r.sameDefinition s = true ↔ r.definition = s.definition := by
  simp [sameDefinition, definition, and_assoc]

/-- The rule `new` differs from `old` at most in its priority, in whether it is enabled and in when
it was last changed. -/
structure Revises (new old : Rule α) : Prop where
  id : new.id = old.id
  definition : new.definition = old.definition
  isSystem : new.isSystem = old.isSystem
  createdAt : new.createdAt = old.createdAt

namespace Revises

variable {r s t : Rule α}

theorem refl (r : Rule α) : r.Revises r := ⟨rfl, rfl, rfl, rfl⟩

theorem symm (h : r.Revises s) : s.Revises r :=
  ⟨h.id.symm, h.definition.symm, h.isSystem.symm, h.createdAt.symm⟩

theorem trans (h : r.Revises s) (h' : s.Revises t) : r.Revises t :=
  ⟨h.id.trans h'.id, h.definition.trans h'.definition, h.isSystem.trans h'.isSystem,
    h.createdAt.trans h'.createdAt⟩

theorem name (h : r.Revises s) : r.name = s.name := congrArg Prod.fst h.definition

theorem expression (h : r.Revises s) : r.expression = s.expression :=
  congrArg (·.2.2.1) h.definition

end Revises

end Rule

/-! ## Changes -/

namespace Store

variable {s : Store α} {r : Rule α}

/-- The rule `r` may be stored beside the others: it has a name that no other rule has, and its
condition parses. -/
structure Admits (s : Store α) (r : Rule α) : Prop where
  named : Text.isBlankText r.name.toList = false
  parses : ∃ e, Expression.parse r.expression = .ok e
  unique : ∀ other ∈ s.rules, other.name = r.name → other.id = r.id

/-- Each of the rules is a version of one that is stored. -/
def Revised (s : Store α) (rs : List (Rule α)) : Prop :=
  ∀ r ∈ rs, ∃ old, s.get? r.id = some old ∧ r.Revises old

/-- Versions of stored rules are still such when one of them has taken its place. -/
theorem Revised.insert {rs : List (Rule α)} {old : Rule α} (h : s.Revised rs)
    (hold : s.get? r.id = some old) (hr : r.Revises old) : (s.insert r).Revised rs := by
  intro t ht
  obtain ⟨old', hold', ht⟩ := h t ht
  by_cases hid : t.id = r.id
  · obtain rfl : old = old' := by
      rw [hid, hold] at hold'
      exact Option.some.inj hold'
    exact ⟨r, by rw [get?_insert, if_pos hid], ht.trans hr.symm⟩
  · exact ⟨old', by rw [get?_insert, if_neg hid, hold'], ht⟩

/-- What one operation can do to the stored rules. Of the rules of the system, it adds none but
those that `seeds` holds of. -/
inductive Change (seeds : Rule α → Prop) (s : Store α) : Store α → Prop
  | same : Change seeds s s
  | add {r : Rule α} (hfree : s.get? r.id = none) (hr : s.Admits r)
    (hsys : r.isSystem = true → seeds r) : Change seeds s (s.insert r)
  | replace {old new : Rule α} (hold : s.get? new.id = some old) (hr : s.Admits new)
    (hsys : new.isSystem = old.isSystem) (hfixed : old.isSystem = true → new.Revises old) :
    Change seeds s (s.insert new)
  | remove {id : Uuid} {old : Rule α} (hold : s.get? id = some old)
    (huser : old.isSystem = false) : Change seeds s (s.erase id)
  | revise {rs : List (Rule α)} (h : s.Revised rs) : Change seeds s (rs.foldl insert s)

end Store

/-! ## Operations -/

def Op.Seeds (op : Op α κ) (r : Rule α) : Prop := op = .seed r

namespace Service

variable [RuleKind α] {s : Service α}

theorem checkName_eq_ok_iff {r : Rule α} :
    s.checkName r = .ok () ↔ ∀ t ∈ s.store.rules, t.name = r.name → t.id = r.id := by
  simp [checkName]

theorem checkRule_eq_ok_iff {r : Rule α} :
    checkRule r = .ok () ↔
      Text.isBlankText r.name.toList = false ∧ ∃ e, Expression.parse r.expression = .ok e := by
  unfold checkRule
  cases Text.isBlankText r.name.toList with
  | true => simp
  | false => cases Expression.parse r.expression <;> simp

theorem check_eq_ok_iff {r : Rule α} : s.check r = .ok () ↔ s.store.Admits r := by
  have hboth : s.check r = .ok () ↔ checkRule r = .ok () ∧ s.checkName r = .ok () := by
    unfold check
    cases checkRule r <;> simp
  rw [hboth, checkRule_eq_ok_iff, checkName_eq_ok_iff]
  constructor
  · rintro ⟨⟨hnamed, hparses⟩, hunique⟩
    exact ⟨hnamed, hparses, hunique⟩
  · rintro ⟨hnamed, hparses, hunique⟩
    exact ⟨⟨hnamed, hparses⟩, hunique⟩

/-- Rules with their new priorities are versions of stored ones. -/
theorem revised_of_reprioritized {now : Time} {priorities : List (Uuid × Int32)}
    {rs : List (Rule α)} (h : s.reprioritized now priorities = .ok rs) : s.store.Revised rs := by
  rcases s.reprioritized_cases now priorities with ⟨_, _, _, rfl, hbefore, hp⟩ | ⟨rs', hrs', hall⟩
  · rw [reprioritized_of_missing hbefore hp] at h
    cases h
  · obtain rfl : rs' = rs := Except.ok.inj (hrs'.symm.trans h)
    intro r hr
    obtain ⟨_, old, hold, rfl⟩ := exists_reprioritizes hall r hr
    exact ⟨old, Store.get?_id hold, rfl, rfl, rfl, rfl⟩

variable [DecidableEq α] {consult : Service α → κ → β × Service α}

theorem step_change (hc : ∀ s q, (consult s q).2.store = s.store) (s : Service α) (op : Op α κ) :
    s.store.Change op.Seeds (s.step consult op).2.store := by
  cases op with
  | create r =>
    rcases s.create_cases r with ⟨e, he⟩ | ⟨hcheck, hfree, he⟩
    · simp only [step, he]
      exact .same
    · simp only [step, he]
      refine .add hfree (check_eq_ok_iff.1 hcheck) fun hsys => ?_
      cases hsys
  | seed r =>
    rcases s.seed_cases r with ⟨e, he⟩ | ⟨hcheck, hfree, he⟩
    · simp only [step, he]
      exact .same
    · simp only [step, he]
      exact .add hfree (check_eq_ok_iff.1 hcheck) fun _ => rfl
  | update now r =>
    rcases s.update_cases now r with ⟨e, he⟩ | ⟨old, hold, hfixed, hcheck, he⟩
    · simp only [step, he]
      exact .same
    · simp only [step, he]
      obtain ⟨hnamed, hparses, hunique⟩ := check_eq_ok_iff.1 hcheck
      refine .replace hold ⟨hnamed, hparses, hunique⟩ rfl fun hsys => ⟨?_, ?_, rfl, rfl⟩
      · exact (Store.get?_some hold).2.symm
      · exact (Rule.sameDefinition_iff.1 (hfixed hsys)).symm
  | delete i =>
    rcases s.delete_cases i with ⟨e, he⟩ | ⟨old, hold, huser, he⟩
    · simp only [step, he]
      exact .same
    · simp only [step, he]
      exact .remove hold huser
  | setEnabled now i enabled =>
    rcases s.setEnabled_cases now i enabled with ⟨e, he⟩ | ⟨old, hold, he⟩
    · simp only [step, he]
      exact .same
    · simp only [step, he]
      have hrevised : s.store.Revised [{ old with enabled, updatedAt := now }] :=
        List.forall_mem_singleton.2 ⟨old, Store.get?_id hold, rfl, rfl, rfl, rfl⟩
      exact .revise hrevised
  | reorder now priorities =>
    rcases s.reorder_cases now priorities with ⟨e, he⟩ | ⟨rs, hrs, he⟩
    · simp only [step, he]
      exact .same
    · simp only [step, he]
      exact .revise (revised_of_reprioritized hrs)
  | refresh => exact .same
  | clearCache => exact .same
  | consult q =>
    show s.store.Change _ (consult s q).2.store
    rw [hc]
    exact .same

/-! ## Runs -/

/-- The service `s` after `ops`. -/
def run (consult : Service α → κ → β × Service α) (s : Service α) (ops : List (Op α κ)) :
    Service α :=
  ops.foldl (fun s op => (s.step consult op).2) s

end Service

end StreamPolicy
