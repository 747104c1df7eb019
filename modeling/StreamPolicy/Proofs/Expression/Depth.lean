import StreamPolicy.Proofs.Expression.Bounded
import StreamPolicy.Proofs.Expression.Parsing

/-!
# No parsed tree is too deep

Parentheses that nest `n` levels make a tree of at most `2 * n + 3` levels. For `Parser.maxDepth`
this is `maxTreeDepth`, the limit of evaluation, which therefore never stops short at a tree that
was parsed.
-/

namespace StreamPolicy

open StreamPolicy.Parser Grammar

/-! ## How deep trees are -/

namespace Node

theorem depths_le_iff {ns : List Node} {d : Nat} : depth.depths ns ≤ d ↔ ∀ n ∈ ns, n.depth ≤ d := by
  induction ns with
  | nil => simp [depth.depths]
  | cons n ns ih => rw [depth.depths, Nat.max_le, ih, List.forall_mem_cons]

end Node

namespace Grammar

theorem depth_grouped_le {op : Connective} {k : Keyword} {item : List Token → Node → Prop} {d : Nat}
    (hi : ∀ ts n, item ts n → n.depth ≤ d) {ts : List Token} {n : Node}
    (h : Grouped op k item ts n) : n.depth ≤ d + 1 := by
  cases h with
  | one h => exact Nat.le_succ_of_le (hi _ _ h)
  | many h =>
    have hitems := h.forall (Q := fun _ => True) (fun ts n _ => hi ts n) fun _ _ => trivial
    rw [Node.depth, Nat.add_comm]
    exact Nat.succ_le_succ (Node.depths_le_iff.2 hitems)

theorem Flips.depth_eq {n m : Node} (h : Flips n m) : m.depth = n.depth := by
  cases h <;> rfl

theorem depth_negated_le {inner : List Token → Node → Prop} {d : Nat} (hd : 1 ≤ d)
    (hi : ∀ ts n, inner ts n → n.depth ≤ d) {ts : List Token} {n : Node}
    (h : Negated (Atom inner) ts n) : n.depth ≤ d := by
  induction h with
  | atom h =>
    cases h with
    | comparison _ => exact hd
    | parens h => exact hi _ _ h
  | not _ _ hf ih => rwa [hf.depth_eq]

theorem depth_disjunction_le {inner : List Token → Node → Prop} {d : Nat} (hd : 1 ≤ d)
    (hi : ∀ ts n, inner ts n → n.depth ≤ d) {ts : List Token} {n : Node}
    (h : Disjunction inner ts n) : n.depth ≤ d + 2 :=
  depth_grouped_le (fun _ _ => depth_grouped_le fun _ _ => depth_negated_le hd hi) h

theorem depth_tree_le {m : Nat} {ts : List Token} {n : Node} (h : Tree m ts n) :
    n.depth ≤ 2 * m + 3 := by
  induction m generalizing ts n with
  | zero => exact depth_disjunction_le (Nat.le_refl 1) (fun _ _ h => h.elim) h
  | succ m ih =>
    have hd := depth_disjunction_le (by omega) (fun _ _ => ih) h
    omega

end Grammar

theorem Expression.depth_le_of_parse {text : String} {e : Expression} (h : parse text = .ok e) :
    e.depth ≤ maxTreeDepth := by
  obtain ⟨ls, -, hd⟩ := parse_eq_ok_iff.1 h
  generalize tokens ls = ts at hd
  obtain ⟨ht, -⟩ := hd
  cases ht with
  | absent => exact Nat.zero_le _
  | present ht => exact depth_tree_le ht

theorem Expression.evaluateBounded_eq {text : String} {e : Expression} (h : parse text = .ok e)
    (ctx : Context) : e.evaluateBounded ctx = .ok (e.evaluate ctx) :=
  evaluateBounded_of_explored (Nat.le_trans (e.explored_le_depth ctx) (depth_le_of_parse h))

end StreamPolicy
