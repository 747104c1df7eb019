import Mathlib.Data.List.Basic
import StreamPolicy.Proofs.Expression.Mentions

/-!
# Walking over a tree

The conditions of an expression are found by a `Walk` that keeps a stack of nodes: it takes the node
on top, and puts the children of a group onto the stack in reverse, so that the first one is next.
Each round (`step?`) leaves one node less to be visited (`remaining`), those below the nodes of the
stack included, though the stack itself may grow. When the stack is empty, the walk has found the
leaf at each place of the tree where there is one, in the order of the places.
-/

namespace StreamPolicy

/-! ## Rounds -/

/-- A walk on its way: the leaves that it has found, and its stack, with the next node last. -/
structure Walk where
  found : List Condition
  stack : List Node

namespace Walk

/-- One round of a walk. There is none when the stack is empty. -/
def step? (w : Walk) : Option Walk :=
  match w.stack.getLast? with
  | none => none
  | some (.leaf c) => some ⟨w.found ++ [c], w.stack.dropLast⟩
  | some (.group _ _ children) => some ⟨w.found, w.stack.dropLast ++ children.reverse⟩

/-- So many rounds lead from one walk to another. -/
inductive Rounds : Nat → Walk → Walk → Prop
  | refl (w : Walk) : Rounds 0 w w
  | step {n : Nat} {w w' w'' : Walk} : w.step? = some w' → Rounds n w' w'' → Rounds (n + 1) w w''

def remaining (w : Walk) : Nat := Node.size.sizes w.stack

/-- What the walk has found, and the leaves of the trees on its stack from the top down. -/
def outlook (w : Walk) : List Condition := w.found ++ Node.leaves.leavesIn w.stack.reverse

theorem sizes_reverse (ns : List Node) : Node.size.sizes ns.reverse = Node.size.sizes ns := by
  induction ns with
  | nil => rfl
  | cons n ns ih =>
    rw [List.reverse_cons, Node.sizes_append, ih, Node.size.sizes, Node.size.sizes,
      Node.size.sizes]
    omega

/-- A walk is at its end, or a round visits one node and leaves the `outlook` as it is. -/
theorem step?_cases (w : Walk) :
    w.stack = [] ∧ w.step? = none ∨
      ∃ w', w.step? = some w' ∧ w.remaining = w'.remaining + 1 ∧ w'.outlook = w.outlook := by
  obtain ⟨found, stack⟩ := w
  rcases List.eq_nil_or_concat' stack with rfl | ⟨below, top, rfl⟩
  · exact .inl ⟨rfl, rfl⟩
  · refine .inr ?_
    cases top with
    | leaf c =>
      refine ⟨⟨found ++ [c], below⟩, by simp [step?], ?_, ?_⟩
      · simp [remaining, Node.size.sizes, Node.size]
      · simp [outlook, Node.leaves.leavesIn, Node.leaves]
    | group op negated children =>
      refine ⟨⟨found, below ++ children.reverse⟩, by simp [step?], ?_, ?_⟩
      · simp [remaining, sizes_reverse, Node.size.sizes, Node.size]
        omega
      · simp [outlook, Node.leavesIn_append, Node.leaves.leavesIn, Node.leaves]

/-- A walk ends after as many rounds as there are nodes `remaining`, and has then found what its
`outlook` was. -/
theorem rounds_remaining (w : Walk) : Rounds w.remaining w ⟨w.outlook, []⟩ := by
  generalize hn : w.remaining = n
  induction n generalizing w with
  | zero =>
    rcases step?_cases w with ⟨hstack, -⟩ | ⟨w', -, hremaining, -⟩
    · obtain ⟨found, stack⟩ := w
      obtain rfl : stack = [] := hstack
      have houtlook : outlook ⟨found, []⟩ = found := List.append_nil found
      rw [houtlook]
      exact .refl _
    · omega
  | succ n ih =>
    rcases step?_cases w with ⟨hstack, -⟩ | ⟨w', hstep, hremaining, houtlook⟩
    · rw [remaining, hstack] at hn
      cases hn
    · rw [← houtlook]
      exact .step hstep (ih w' (by omega))

end Walk

/-! ## Places -/

namespace Node

/-- The node at a place of a tree, which is told by the number of the child to go to at each node
on the way. -/
def at? : Node → List Nat → Option Node
  | n, [] => some n
  | .leaf _, _ :: _ => none
  | .group _ _ children, i :: place => children[i]?.bind (·.at? place)

/-- The places of the leaves of a tree, from left to right. -/
def places : Node → List (List Nat)
  | .leaf _ => [[]]
  | .group _ _ children => placesFrom 0 children
where
  /-- The places below children, the first of which has the number `i`. -/
  placesFrom : Nat → List Node → List (List Nat)
    | _, [] => []
    | i, n :: ns => n.places.map (i :: ·) ++ placesFrom (i + 1) ns

theorem mem_placesFrom {i : Nat} {ns : List Node} {p : List Nat} :
    p ∈ places.placesFrom i ns ↔
      ∃ j n q, ns[j]? = some n ∧ q ∈ n.places ∧ p = (i + j) :: q := by
  induction ns generalizing i with
  | nil => simp [places.placesFrom]
  | cons n ns ih =>
    rw [places.placesFrom, List.mem_append, List.mem_map, ih]
    constructor
    · rintro (⟨q, hq, rfl⟩ | ⟨j, m, q, hj, hq, rfl⟩)
      · exact ⟨0, n, q, rfl, hq, rfl⟩
      · exact ⟨j + 1, m, q, hj, hq, by rw [Nat.add_right_comm, Nat.add_assoc]⟩
    · rintro ⟨_ | j, m, q, hj, hq, rfl⟩
      · cases hj
        exact .inl ⟨q, hq, rfl⟩
      · exact .inr ⟨j, m, q, hj, hq, by rw [Nat.add_right_comm, Nat.add_assoc]⟩

theorem mem_places {n : Node} {p : List Nat} :
    p ∈ n.places ↔ ∃ c, n.at? p = some (.leaf c) := by
  induction p generalizing n with
  | nil =>
    cases n with
    | leaf c => simp [places, at?]
    | group op negated children => simp [places, at?, mem_placesFrom]
  | cons i p ih =>
    cases n with
    | leaf c => simp [places, at?]
    | group op negated children =>
      simp only [places, at?, mem_placesFrom, Nat.zero_add, List.cons.injEq,
        Option.bind_eq_some_iff]
      constructor
      · rintro ⟨j, m, q, hj, hq, rfl, rfl⟩
        obtain ⟨c, hc⟩ := ih.1 hq
        exact ⟨c, m, hj, hc⟩
      · rintro ⟨c, m, hi, hc⟩
        exact ⟨i, m, p, hi, ih.2 ⟨c, hc⟩, rfl, rfl⟩

mutual

theorem pairwise_places : (n : Node) → n.places.Pairwise (· < ·)
  | .leaf _ => List.pairwise_singleton _ _
  | .group _ _ children => pairwise_placesFrom 0 children

theorem pairwise_placesFrom (i : Nat) :
    (ns : List Node) → (places.placesFrom i ns).Pairwise (· < ·)
  | [] => .nil
  | n :: ns => by
    rw [places.placesFrom, List.pairwise_append, List.pairwise_map]
    refine ⟨?_, pairwise_placesFrom (i + 1) ns, ?_⟩
    · exact (pairwise_places n).imp fun h => List.cons_lt_cons_iff.2 (.inr ⟨rfl, h⟩)
    · intro p hp q hq
      obtain ⟨p', -, rfl⟩ := List.mem_map.1 hp
      obtain ⟨j, m, q', -, -, rfl⟩ := mem_placesFrom.1 hq
      exact List.cons_lt_cons_iff.2 (.inl (by omega))

end

mutual

theorem map_at?_places : (n : Node) → n.places.map n.at? = n.leaves.map fun c => some (.leaf c)
  | .leaf _ => rfl
  | .group op negated children => map_at?_placesFrom op negated [] children

/-- The children `ns` come behind others of the same group, `before`. -/
theorem map_at?_placesFrom (op : Connective) (negated : Bool) (before : List Node) :
    (ns : List Node) →
      (places.placesFrom before.length ns).map (at? (.group op negated (before ++ ns))) =
        (leaves.leavesIn ns).map fun c => some (.leaf c)
  | [] => rfl
  | n :: ns => by
    have hn : at? (.group op negated (before ++ n :: ns)) ∘ (before.length :: ·) = n.at? := by
      funext p
      simp [at?]
    have hns := map_at?_placesFrom op negated (before ++ [n]) ns
    rw [List.length_append, List.length_singleton, List.append_assoc, List.singleton_append] at hns
    rw [places.placesFrom, leaves.leavesIn, List.map_append, List.map_append, List.map_map, hn,
      map_at?_places n, hns]

end

/-- The conditions `cs` are the leaves of a tree that may be absent, one for each of `places`, and
these are all places where a leaf is. -/
structure ListsLeaves (root : Option Node) (places : List (List Nat)) (cs : List Condition) :
    Prop where
  complete : ∀ p, p ∈ places ↔ ∃ c, (root.bind (·.at? p)) = some (.leaf c)
  /-- What is below a child comes before what is below the next one, so no place comes twice. -/
  ordered : places.Pairwise (· < ·)
  leaves : (places.map fun p => root.bind (·.at? p)) = cs.map fun c => some (.leaf c)

theorem listsLeaves (n : Node) : ListsLeaves (some n) n.places n.leaves where
  complete _ := mem_places
  ordered := pairwise_places n
  leaves := map_at?_places n

theorem listsLeaves_none : ListsLeaves none [] [] where
  complete _ := by simp
  ordered := .nil
  leaves := rfl

end Node

/-! ## Conditions -/

namespace Expression

theorem conditions_eq_getD (e : Expression) :
    e.conditions = (e.root.map Node.leaves).getD [] := by
  rw [conditions_eq]
  cases e.root with
  | none => rfl
  | some n => exact List.append_nil n.leaves

/-- The conditions of an expression are the leaves of its tree as the recursion over the tree has
them. The walk with a stack has found just these when it ends, which it does after one round for
each node, and they are the leaf at each place of the tree where there is one, in the order of the
places. -/
theorem conditions_walked (e : Expression) :
    e.conditions = (e.root.map Node.leaves).getD [] ∧
      Walk.Rounds ((e.root.map Node.size).getD 0) ⟨[], e.root.toList⟩ ⟨e.conditions, []⟩ ∧
      Walk.step? ⟨e.conditions, []⟩ = none ∧
      ∃ places, Node.ListsLeaves e.root places e.conditions := by
  have hwalk := Walk.rounds_remaining ⟨[], e.root.toList⟩
  have hleaves := e.conditions_eq_getD
  refine ⟨hleaves, ?_, rfl, ?_⟩
  · cases hroot : e.root with
    | none =>
      rw [hroot] at hwalk hleaves
      rw [hleaves]
      exact hwalk
    | some n =>
      rw [hroot] at hwalk hleaves
      rw [hleaves]
      simpa [Walk.remaining, Walk.outlook, Node.size.sizes, Node.leaves.leavesIn] using hwalk
  · rw [hleaves]
    cases e.root with
    | none => exact ⟨_, Node.listsLeaves_none⟩
    | some n => exact ⟨_, n.listsLeaves⟩

end Expression

end StreamPolicy
