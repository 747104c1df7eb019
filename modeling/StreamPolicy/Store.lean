import StreamPolicy.Rule.Basic
import StreamPolicy.Rule.Error

/-!
# Stored rules

A `Store` keeps rules by identifier, in the order of their identifiers. `list` and `enabled` come in
the order of priorities, and rules of one priority in the order of identifiers.
-/

namespace StreamPolicy

namespace Rule

def Precedes (r s : Rule α) : Prop := r.id.toNat < s.id.toNat

/-- Puts `r` in its place, where it takes over from a rule of the same identifier. -/
def place (r : Rule α) : List (Rule α) → List (Rule α)
  | [] => [r]
  | s :: rest =>
    if r.id.toNat < s.id.toNat then r :: s :: rest
    else if r.id.toNat = s.id.toNat then r :: rest
    else s :: place r rest

theorem mem_place {r s : Rule α} {rs : List (Rule α)} (h : s ∈ place r rs) : s = r ∨ s ∈ rs := by
  induction rs with
  | nil => simpa [place] using h
  | cons t rs ih =>
    unfold place at h
    split at h
    · simpa using h
    · split at h
      · rcases List.mem_cons.1 h with h | h
        · exact .inl h
        · exact .inr (List.mem_cons_of_mem _ h)
      · rcases List.mem_cons.1 h with h | h
        · exact .inr (h ▸ List.mem_cons_self)
        · exact (ih h).imp_right (List.mem_cons_of_mem _)

theorem pairwise_place (r : Rule α) {rs : List (Rule α)} (h : rs.Pairwise Precedes) :
    (place r rs).Pairwise Precedes := by
  induction rs with
  | nil => simp [place]
  | cons s rs ih =>
    obtain ⟨hs, hrs⟩ := List.pairwise_cons.1 h
    unfold place
    split
    · rename_i hlt
      refine List.pairwise_cons.2 ⟨fun t ht => ?_, h⟩
      rcases List.mem_cons.1 ht with rfl | ht
      · exact hlt
      · exact Nat.lt_trans hlt (hs t ht)
    · split
      · rename_i heq
        exact List.pairwise_cons.2 ⟨fun t ht => by have := hs t ht; unfold Precedes at *; omega, hrs⟩
      · refine List.pairwise_cons.2 ⟨fun t ht => ?_, ih hrs⟩
        rcases mem_place ht with rfl | ht
        · unfold Precedes; omega
        · exact hs t ht

end Rule

/-- Rules by identifier. -/
structure Store (α : Type) where
  rules : List (Rule α)
  sorted : rules.Pairwise Rule.Precedes

namespace Store

variable {α : Type}

def empty : Store α := ⟨[], List.Pairwise.nil⟩

instance : Inhabited (Store α) := ⟨empty⟩

/-- Stores `r` in place of a rule with its identifier. -/
def insert (s : Store α) (r : Rule α) : Store α := ⟨Rule.place r s.rules, Rule.pairwise_place r s.sorted⟩

def erase (s : Store α) (id : Uuid) : Store α := ⟨s.rules.filter (·.id != id), s.sorted.filter _⟩

def get? (s : Store α) (id : Uuid) : Option (Rule α) := s.rules.find? (·.id == id)

theorem get?_some {s : Store α} {id : Uuid} {r : Rule α} (h : s.get? id = some r) :
    r ∈ s.rules ∧ r.id = id := by
  refine ⟨List.mem_of_find?_eq_some h, ?_⟩
  simpa using List.find?_some h

/-- The rules by priority and identifier. -/
def list (s : Store α) : List (Rule α) := Rule.sortByPriority s.rules

/-- The enabled rules by priority and identifier. -/
def enabled (s : Store α) : List (Rule α) := Rule.sortByPriority (s.rules.filter (·.enabled))

/-- The first rule of `list` that has this name. -/
def findByName? (s : Store α) (name : String) : Option (Rule α) := s.list.find? (·.name == name)

/-! ## Operations that can be refused -/

variable [RuleKind α]

def get (s : Store α) (id : Uuid) : Except RuleError (Rule α) :=
  match s.get? id with
  | some r => .ok r
  | none => .error (.unknownId (RuleKind.kind α) id)

/-- Adds `r`, whose identifier has to be free. -/
def create (s : Store α) (r : Rule α) : Except RuleError (Store α) :=
  match s.get? r.id with
  | some _ => .error (.idTaken (RuleKind.kind α) r.id)
  | none => .ok (s.insert r)

/-- Replaces the rule with the identifier of `r`. -/
def update (s : Store α) (r : Rule α) : Except RuleError (Store α) :=
  match s.get r.id with
  | .ok _ => .ok (s.insert r)
  | .error e => .error e

/-- Replaces rules one after the other, up to the first that is not stored. What has been replaced
by then stays so. -/
def updateAll (s : Store α) : List (Rule α) → Except RuleError Unit × Store α
  | [] => (.ok (), s)
  | r :: rs =>
    match s.update r with
    | .error e => (.error e, s)
    | .ok s => s.updateAll rs

def delete (s : Store α) (id : Uuid) : Except RuleError (Store α) :=
  match s.get id with
  | .ok _ => .ok (s.erase id)
  | .error e => .error e

end Store

end StreamPolicy
