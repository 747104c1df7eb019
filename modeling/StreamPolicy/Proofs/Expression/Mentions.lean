import StreamPolicy.Expression.Evaluation

/-!
# An expression depends on what it mentions

The fields of its conditions and those that its assignments take values from are all that an
expression looks at (`mentioned`). Contexts that `AgreeOn` these fields, and in which the same has
been captured, are told apart neither by its conditions nor by its assignments, though an assignment
may read what an earlier one has captured.
-/

namespace StreamPolicy

/-! ## Leaves -/

namespace Node

/-- The leaves of a tree, from left to right. -/
def leaves : Node → List Condition
  | .leaf c => [c]
  | .group _ _ children => leavesIn children
where
  leavesIn : List Node → List Condition
    | [] => []
    | n :: ns => n.leaves ++ leavesIn ns

theorem leavesIn_append (ms ns : List Node) :
    leaves.leavesIn (ms ++ ns) = leaves.leavesIn ms ++ leaves.leavesIn ns := by
  induction ms with
  | nil => rfl
  | cons m ms ih => rw [List.cons_append, leaves.leavesIn, leaves.leavesIn, ih, List.append_assoc]

theorem mem_leavesIn {c : Condition} {ns : List Node} :
    c ∈ leaves.leavesIn ns ↔ ∃ n ∈ ns, c ∈ n.leaves := by
  induction ns with
  | nil => simp [leaves.leavesIn]
  | cons n ns ih => simp [leaves.leavesIn, ih]

/-- The walk of `leavesOf`, with its list of nodes still to be visited, misses no leaf. -/
theorem leavesOf_eq (ns : List Node) : leavesOf ns = leaves.leavesIn ns := by
  fun_induction leavesOf ns with
  | case1 => rfl
  | case2 rest c ih => rw [ih]; rfl
  | case3 rest op negated children ih => rw [ih, leavesIn_append]; rfl

end Node

/-! ## Values of fields -/

/-- The target whose capture is read in place of a field. -/
def Field.target? : Field → Option Target
  | .static name => Target.ofName? name
  | .dynamic _ _ => none

def Source.field? : Source → Option Field
  | .field f => some f
  | .literal _ => none

namespace Context

variable {ctx ctx' : Context} {fields : List Field}

/-- A capture is seen by the fields that bear the name of its target, and by no other. -/
theorem resolve_record (ctx : Context) (t : Target) (v : String) (f : Field) :
    ({ ctx with captures := ctx.captures.record t v } : Context).resolve f =
      if f.target? = some t then some v else ctx.resolve f := by
  cases f with
  | dynamic scope key => rfl
  | static name =>
    cases htarget : Target.ofName? name with
    | none => simp [resolve, Field.target?, htarget]
    | some t' =>
      by_cases h : t' = t <;> simp [resolve, Field.target?, htarget, Captures.record, h]

/-- The same has been captured, and `fields` have the same values. -/
structure AgreeOn (fields : List Field) (ctx ctx' : Context) : Prop where
  captures : ctx.captures = ctx'.captures
  resolve : ∀ f ∈ fields, ctx.resolve f = ctx'.resolve f

theorem AgreeOn.valueOf (h : AgreeOn fields ctx ctx') {s : Source}
    (hs : ∀ f ∈ s.field?, f ∈ fields) : ctx.valueOf s = ctx'.valueOf s := by
  cases s with
  | field f => exact h.resolve f (hs f rfl)
  | literal text => rfl

theorem AgreeOn.assign (h : AgreeOn fields ctx ctx') {a : Assignment}
    (ha : ∀ f ∈ a.value.field?, f ∈ fields) : AgreeOn fields (ctx.assign a) (ctx'.assign a) := by
  unfold Context.assign
  rw [h.valueOf ha]
  cases ctx'.valueOf a.value with
  | none => exact h
  | some v =>
    refine ⟨by rw [h.captures], fun f hf => ?_⟩
    rw [resolve_record, resolve_record, h.resolve f hf]

/-- Assignments in a row see what the earlier ones captured, which is the same in both contexts. -/
theorem AgreeOn.assignAll {as : List Assignment} (h : AgreeOn fields ctx ctx')
    (has : ∀ a ∈ as, ∀ f ∈ a.value.field?, f ∈ fields) :
    AgreeOn fields (as.foldl Context.assign ctx) (as.foldl Context.assign ctx') := by
  induction as generalizing ctx ctx' with
  | nil => exact h
  | cons a as ih =>
    obtain ⟨ha, hrest⟩ := List.forall_mem_cons.1 has
    exact ih (h.assign ha) hrest

end Context

/-! ## Conditions -/

theorem Condition.holds_congr {c : Condition} {ctx ctx' : Context}
    (h : ctx.resolve c.field = ctx'.resolve c.field) : c.holds ctx = c.holds ctx' := by
  rw [holds, holds, h]

namespace Node

variable {ctx ctx' : Context} {f g : Node → Except EvalError Bool} {ns : List Node}

theorem allM_congr (h : ∀ n ∈ ns, f n = g n) : ns.allM f = ns.allM g := by
  induction ns with
  | nil => rfl
  | cons n ns ih =>
    obtain ⟨hn, hns⟩ := List.forall_mem_cons.1 h
    rw [List.allM_cons, List.allM_cons, hn, ih hns]

theorem anyM_congr (h : ∀ n ∈ ns, f n = g n) : ns.anyM f = ns.anyM g := by
  induction ns with
  | nil => rfl
  | cons n ns ih =>
    obtain ⟨hn, hns⟩ := List.forall_mem_cons.1 h
    rw [List.anyM_cons, List.anyM_cons, hn, ih hns]

/-- A tree is evaluated alike, and refused alike, where its `leaves` hold alike. -/
theorem evaluateWithin_congr {levels : Nat} {n : Node}
    (h : ∀ c ∈ n.leaves, c.holds ctx = c.holds ctx') :
    n.evaluateWithin ctx levels = n.evaluateWithin ctx' levels := by
  induction levels generalizing n with
  | zero => rfl
  | succ levels ih =>
    cases n with
    | leaf c => exact congrArg Except.ok (h c (List.mem_singleton_self c))
    | group op negated children =>
      have hchildren : ∀ m ∈ children,
          m.evaluateWithin ctx levels = m.evaluateWithin ctx' levels :=
        fun m hm => ih fun c hc => h c (mem_leavesIn.2 ⟨m, hm, hc⟩)
      cases op with
      | and => rw [evaluateWithin, evaluateWithin, allM_congr hchildren]
      | or => rw [evaluateWithin, evaluateWithin, anyM_congr hchildren]

end Node

/-! ## Expressions -/

namespace Expression

theorem conditions_eq (e : Expression) :
    e.conditions = Node.leaves.leavesIn e.root.toList := Node.leavesOf_eq _

/-- The fields of the conditions and of the sources of the assignments. -/
def mentioned (e : Expression) : List Field :=
  e.conditions.map (·.field) ++ e.actions.filterMap (·.value.field?)

variable {e : Expression} {ctx ctx' : Context}

theorem evaluateBounded_congr (h : ∀ c ∈ e.conditions, ctx.resolve c.field = ctx'.resolve c.field) :
    e.evaluateBounded ctx = e.evaluateBounded ctx' := by
  unfold evaluateBounded
  rw [conditions_eq] at h
  cases hroot : e.root with
  | none => rfl
  | some root =>
    rw [hroot, Option.toList_some] at h
    exact Node.evaluateWithin_congr fun c hc =>
      Condition.holds_congr (h c (Node.mem_leavesIn.2 ⟨root, List.mem_singleton_self root, hc⟩))

/-- Contexts that agree on what `e` mentions give the same outcome and the same captures. -/
theorem apply_congr (h : ctx.AgreeOn e.mentioned ctx') : e.apply ctx = e.apply ctx' := by
  have hbounded : e.evaluateBounded ctx = e.evaluateBounded ctx' := evaluateBounded_congr
    fun c hc => h.resolve c.field (List.mem_append_left _ (List.mem_map_of_mem hc))
  have hsources : ∀ a ∈ e.actions, ∀ f ∈ a.value.field?, f ∈ e.mentioned :=
    fun a ha f hf => List.mem_append_right _ (List.mem_filterMap.2 ⟨a, ha, hf⟩)
  have hassigned := h.assignAll hsources
  unfold apply
  rw [hbounded, hassigned.captures, h.captures]

end Expression

end StreamPolicy
