import StreamPolicy.Expression.Evaluation

/-!
# Evaluation within a number of levels

`Node.evaluateWithin` is refused just when it has to look at a node below the limit. It leaves each
group at the first child that decides it, and looks no deeper than `explored`, so that trees beyond
the limit may still be evaluated. No tree within the limit is refused, and whatever is answered is
what evaluation without a limit says.
-/

namespace StreamPolicy

/-- The value of a child that decides a group. -/
def Connective.decisive : Connective → Bool
  | .and => false
  | .or => true

namespace Node

/-! ## What evaluation looks at -/

/-- The levels down to the deepest node that evaluation looks at. -/
def explored (ctx : Context) : Node → Nat
  | .leaf _ => 1
  | .group op _ children => 1 + exploredIn ctx op children
where
  exploredIn (ctx : Context) (op : Connective) : List Node → Nat
    | [] => 0
    | n :: ns =>
      if n.evaluate ctx = op.decisive then n.explored ctx
      else max (n.explored ctx) (exploredIn ctx op ns)

theorem explored_pos (ctx : Context) (n : Node) : 0 < n.explored ctx := by
  cases n with
  | leaf c => exact Nat.one_pos
  | group op negated children =>
    rw [explored]
    omega

mutual

theorem explored_le_depth (ctx : Context) : (n : Node) → n.explored ctx ≤ n.depth
  | .leaf _ => Nat.le_refl 1
  | .group op _ children => Nat.add_le_add_left (exploredIn_le_depths ctx op children) 1

theorem exploredIn_le_depths (ctx : Context) (op : Connective) :
    (ns : List Node) → explored.exploredIn ctx op ns ≤ depth.depths ns
  | [] => Nat.le_refl 0
  | n :: ns => by
    have hn := explored_le_depth ctx n
    have hns := exploredIn_le_depths ctx op ns
    rw [explored.exploredIn, depth.depths]
    split <;> omega

end

/-! ## Answers -/

/-- The outcome of an evaluation that may look at `levels` levels and needs `needed` of them. -/
def answer (levels needed : Nat) (value : Bool) : Except EvalError Bool :=
  if needed ≤ levels then .ok value else .error (.tooDeep maxTreeDepth)

section Answers

variable {levels needed more : Nat} {value : Bool}

theorem answer_of_le (h : needed ≤ levels) : answer levels needed value = .ok value := if_pos h

theorem answer_of_lt (h : levels < needed) :
    answer levels needed value = .error (.tooDeep maxTreeDepth) := if_neg (Nat.not_le.2 h)

theorem answer_max (h : needed ≤ levels) :
    answer levels (max needed more) value = answer levels more value := by
  unfold answer
  simp only [Nat.max_le, h, true_and]

theorem map_answer (f : Bool → Bool) :
    (answer levels needed value).map f = answer (levels + 1) (1 + needed) (f value) := by
  rcases Nat.lt_or_ge levels needed with h | h
  · rw [answer_of_lt h, answer_of_lt (by omega)]
    rfl
  · rw [answer_of_le h, answer_of_le (by omega)]
    rfl

end Answers

/-! ## Groups -/

section Groups

variable {ctx : Context} {levels : Nat} {f : Node → Except EvalError Bool} {ns : List Node}

/-- AND stops at the first child that fails. -/
theorem allM_eq (h : ∀ n ∈ ns, f n = answer levels (n.explored ctx) (n.evaluate ctx)) :
    ns.allM f = answer levels (explored.exploredIn ctx .and ns) (evaluate.allOf ctx ns) := by
  induction ns with
  | nil => exact (answer_of_le (Nat.zero_le levels)).symm
  | cons n ns ih =>
    obtain ⟨hn, hns⟩ := List.forall_mem_cons.1 h
    rw [List.allM_cons, hn, explored.exploredIn, evaluate.allOf]
    rcases Nat.lt_or_ge levels (n.explored ctx) with hlevel | hlevel
    · rw [answer_of_lt hlevel, answer_of_lt]
      · rfl
      · split <;> omega
    · rw [answer_of_le hlevel]
      cases n.evaluate ctx with
      | false => exact (answer_of_le hlevel).symm
      | true => exact (ih hns).trans (answer_max hlevel).symm

/-- OR stops at the first child that matches. -/
theorem anyM_eq (h : ∀ n ∈ ns, f n = answer levels (n.explored ctx) (n.evaluate ctx)) :
    ns.anyM f = answer levels (explored.exploredIn ctx .or ns) (evaluate.anyOf ctx ns) := by
  induction ns with
  | nil => exact (answer_of_le (Nat.zero_le levels)).symm
  | cons n ns ih =>
    obtain ⟨hn, hns⟩ := List.forall_mem_cons.1 h
    rw [List.anyM_cons, hn, explored.exploredIn, evaluate.anyOf]
    rcases Nat.lt_or_ge levels (n.explored ctx) with hlevel | hlevel
    · rw [answer_of_lt hlevel, answer_of_lt]
      · rfl
      · split <;> omega
    · rw [answer_of_le hlevel]
      cases n.evaluate ctx with
      | false => exact (ih hns).trans (answer_max hlevel).symm
      | true => exact (answer_of_le hlevel).symm

end Groups

/-! ## Trees -/

/-- The tree is evaluated if what is `explored` is within `levels`. -/
theorem evaluateWithin_eq (ctx : Context) (levels : Nat) (n : Node) :
    n.evaluateWithin ctx levels = answer levels (n.explored ctx) (n.evaluate ctx) := by
  induction levels generalizing n with
  | zero => exact (answer_of_lt (n.explored_pos ctx)).symm
  | succ levels ih =>
    cases n with
    | leaf c => exact (answer_of_le (Nat.le_add_left 1 levels)).symm
    | group op negated children =>
      cases op with
      | and =>
        rw [evaluateWithin, allM_eq fun m _ => ih m]
        exact map_answer _
      | or =>
        rw [evaluateWithin, anyM_eq fun m _ => ih m]
        cases children with
        | nil => exact (answer_of_le (Nat.le_add_left 1 levels)).symm
        | cons child rest => exact map_answer _

/-! ## Trees below the limit -/

/-- Nothing behind a child that decides its group is looked at. -/
theorem explored_of_decisive {ctx : Context} {op : Connective} {n : Node}
    (h : n.evaluate ctx = op.decisive) (negated : Bool) (rest : List Node) :
    (group op negated (n :: rest)).explored ctx = 1 + n.explored ctx := by
  rw [explored, explored.exploredIn, if_pos h]

/-- The node `n` inside a number of groups. -/
def nested (op : Connective) (n : Node) : Nat → Node
  | 0 => n
  | levels + 1 => .group op false [n.nested op levels]

theorem explored_nested (op : Connective) (n : Node) (levels : Nat) (ctx : Context) :
    (n.nested op levels).explored ctx = levels + n.explored ctx := by
  induction levels with
  | zero => exact (Nat.zero_add _).symm
  | succ levels ih =>
    simp only [nested, explored, explored.exploredIn, ih, Nat.max_zero, ite_self]
    omega

end Node

/-! ## Expressions -/

namespace Expression

/-- The levels down to the deepest node that evaluation looks at; an absent tree has none. -/
def explored (e : Expression) (ctx : Context) : Nat := (e.root.map (Node.explored ctx)).getD 0

theorem explored_le_depth (e : Expression) (ctx : Context) : e.explored ctx ≤ e.depth := by
  unfold explored depth
  cases e.root with
  | none => exact Nat.le_refl 0
  | some root => exact root.explored_le_depth ctx

theorem evaluateBounded_eq_answer (e : Expression) (ctx : Context) :
    e.evaluateBounded ctx = Node.answer maxTreeDepth (e.explored ctx) (e.evaluate ctx) := by
  obtain ⟨root, assignments⟩ := e
  cases root with
  | none => exact (Node.answer_of_le (Nat.zero_le maxTreeDepth)).symm
  | some root => exact root.evaluateWithin_eq ctx maxTreeDepth

theorem evaluateBounded_of_explored {e : Expression} {ctx : Context}
    (h : e.explored ctx ≤ maxTreeDepth) : e.evaluateBounded ctx = .ok (e.evaluate ctx) := by
  rw [evaluateBounded_eq_answer, Node.answer_of_le h]

/-- An evaluation is refused if it has to look below `maxTreeDepth`, and for no other reason. -/
theorem evaluateBounded_eq_error_iff {e : Expression} {ctx : Context} {err : EvalError} :
    e.evaluateBounded ctx = .error err ↔
      maxTreeDepth < e.explored ctx ∧ err = .tooDeep maxTreeDepth := by
  rw [evaluateBounded_eq_answer]
  rcases Nat.lt_or_ge maxTreeDepth (e.explored ctx) with h | h
  · rw [Node.answer_of_lt h]
    simp [h, eq_comm]
  · rw [Node.answer_of_le h]
    simp [Nat.not_lt.2 h]

/-- Answers are those of `Expression.evaluate`, no tree within the limit is refused, and so every
tree that is refused is deeper. -/
theorem evaluateBounded_agrees (e : Expression) (ctx : Context) :
    (∀ b, e.evaluateBounded ctx = .ok b → b = e.evaluate ctx) ∧
    (e.depth ≤ maxTreeDepth → ∃ b, e.evaluateBounded ctx = .ok b) ∧
    ∀ err, e.evaluateBounded ctx = .error err →
      err = .tooDeep maxTreeDepth ∧ maxTreeDepth < e.depth := by
  have hdepth := e.explored_le_depth ctx
  refine ⟨fun b hb => ?_, fun hd => ?_, fun err herr => ?_⟩
  · have hnone : ¬maxTreeDepth < e.explored ctx := fun hlt => by
      rw [evaluateBounded_eq_error_iff.2 ⟨hlt, rfl⟩] at hb
      cases hb
    rw [evaluateBounded_of_explored (Nat.not_lt.1 hnone)] at hb
    exact (Except.ok.inj hb).symm
  · exact ⟨_, evaluateBounded_of_explored (Nat.le_trans hdepth hd)⟩
  · obtain ⟨hlt, rfl⟩ := evaluateBounded_eq_error_iff.1 herr
    exact ⟨rfl, Nat.lt_of_lt_of_le hlt hdepth⟩

/-- A tree with a level too many is refused, but not beside a child that decides their group. -/
theorem evaluateBounded_agrees_nested :
    let ctx : Context := { resolver := ⟨fun _ => none, fun _ _ => none⟩ }
    let leaf : Node := .leaf { field := .static "a", op := .equals, value := "" }
    let deep := leaf.nested .and maxTreeDepth
    let refused : Expression := { root := some deep }
    let answered : Expression := { root := some (.group .or false [leaf, deep]) }
    refused.evaluateBounded ctx = .error (.tooDeep maxTreeDepth) ∧ maxTreeDepth < refused.depth ∧
      answered.evaluateBounded ctx = .ok true ∧ answered.evaluate ctx = true ∧
      maxTreeDepth < answered.depth := by
  intro ctx leaf deep refused answered
  have hleaf : leaf.evaluate ctx = true := by decide
  have hlevels : refused.explored ctx = maxTreeDepth + 1 := leaf.explored_nested .and _ ctx
  have hfirst : answered.explored ctx = 2 := Node.explored_of_decisive hleaf false [deep]
  have hrefused : refused.evaluateBounded ctx = .error (.tooDeep maxTreeDepth) :=
    evaluateBounded_eq_error_iff.2 ⟨by rw [hlevels]; exact Nat.lt_succ_self _, rfl⟩
  obtain ⟨-, -, hdeeper⟩ := evaluateBounded_agrees refused ctx
  obtain ⟨hvalue, -, -⟩ := evaluateBounded_agrees answered ctx
  have hmatches : answered.evaluate ctx = true := by
    show (leaf.evaluate ctx || (deep.evaluate ctx || false)) = true
    rw [hleaf, Bool.true_or]
  have hdepth : refused.depth < answered.depth := by
    show deep.depth < 1 + max leaf.depth (max deep.depth 0)
    omega
  have hanswered : answered.evaluateBounded ctx = .ok true := by
    rw [evaluateBounded_of_explored (by rw [hfirst]; decide), hmatches]
  have hlimit := (hdeeper _ hrefused).2
  exact ⟨hrefused, hlimit, hanswered, (hvalue true hanswered).symm, Nat.lt_trans hlimit hdepth⟩

end Expression

end StreamPolicy
