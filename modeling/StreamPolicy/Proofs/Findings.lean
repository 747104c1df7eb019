import Mathlib.Data.Finset.Sort
import Mathlib.Data.String.Basic
import StreamPolicy.Proofs.Expression.Mentions
import StreamPolicy.Proofs.Lint
import StreamPolicy.Proofs.Order

/-!
# What is found about each rule

The findings about a list of rules come rule by rule, in the order of priorities. What is found
about a rule (`findings`) depends on the rule itself and on those before it, of which only the first
that matches every request and the first that searches fields of the rule are named (`shadow?`). The
loop that remembers both on the way comes to the same (`run_eq`).
-/

namespace StreamPolicy

/-! ## Fields of a condition -/

namespace Expression

/-- The fields of the leaves. -/
def fields (e : Expression) : Finset String :=
  ((Node.leaves.leavesIn e.root.toList).map (·.field.text)).toFinset

/-- The fields of the leaves that look for a text in them and are not negated. -/
def searched (e : Expression) : Finset String :=
  (((Node.leaves.leavesIn e.root.toList).filter fun c => c.op == .contains && !c.negated).map
    (·.field.text)).toFinset

/-- Whether the root is a conjunction that is not negated. -/
def isConjunction (e : Expression) : Bool :=
  match e.root with
  | some (.group .and false _) => true
  | _ => false

end Expression

namespace Lint

variable {α : Type} {catchAll : Int32} {passed : Passed} {rules : List (Rule α)} {r f : Rule α}
  {e : Expression}

/-! ## Findings rule by rule -/

/-- The finding that the earlier rule `f` searches some fields, and only fields of `e`. -/
def overlappedBy? (r : Rule α) (e : Expression) (f : Rule α) : Option Issue :=
  match Expression.parse f.expression with
  | .ok earlier =>
    if earlier.searched.Nonempty ∧ earlier.searched ⊆ e.fields then
      some (overlapped r f.ref (earlier.searched.sort (· ≤ ·)))
    else none
  | .error _ => none

/-- What shadows `r`: the first rule of `before` that matches every request, or else, for a
conjunction, the first one that searches fields of `e` alone. -/
def shadow? (before : List (Rule α)) (r : Rule α) (e : Expression) : Option Issue :=
  ((before.findSome? sweeping?).map (unreachable r)).or
    (if e.isConjunction then before.findSome? (overlappedBy? r e) else none)

/-- The findings about `r` behind the rules `before`. -/
def findings (catchAll : Int32) (before : List (Rule α)) (r : Rule α) : List Issue :=
  match Expression.parse r.expression with
  | .error err => [invalid r err]
  | .ok e =>
    (shadow? before r e).toList ++
      if e.isAlwaysTrue = true ∧ r.priority ≠ catchAll then [matchesAll r catchAll] else []

/-! ## Sets of fields -/

theorem pairwise_lt_eraseDups : ∀ {names : List String}, names.Pairwise (· ≤ ·) →
    names.eraseDups.Pairwise (· < ·)
  | [], _ => List.Pairwise.nil
  | name :: names, h => by
    obtain ⟨hname, hnames⟩ := List.pairwise_cons.1 h
    have hlt : (names.filter fun n => !n == name).length < names.length + 1 :=
      Nat.lt_succ_of_le (List.length_filter_le _ _)
    rw [List.eraseDups_cons]
    refine List.pairwise_cons.2 ⟨fun n hn => ?_, pairwise_lt_eraseDups (hnames.filter _)⟩
    rw [List.mem_eraseDups, List.mem_filter] at hn
    have hne : n ≠ name := by simpa using hn.2
    exact lt_of_le_of_ne (hname n hn.1) hne.symm
  termination_by names => names.length

/-- The strings of `sortedSet` are those of a set in order. -/
theorem sortedSet_eq (names : List String) : sortedSet names = names.toFinset.sort (· ≤ ·) := by
  have hsorted : (names.mergeSort fun a b => a ≤ b).Pairwise (· ≤ ·) := by
    refine (List.pairwise_mergeSort (fun a b c h h' => ?_) (fun a b => ?_) names).imp
      fun h => of_decide_eq_true h
    · exact decide_eq_true (le_trans (of_decide_eq_true h) (of_decide_eq_true h'))
    · simpa using le_total a b
  have hlt : (sortedSet names).Pairwise (· < ·) := pairwise_lt_eraseDups hsorted
  have hset : (sortedSet names).toFinset = names.toFinset := by
    refine List.toFinset.ext fun name => ?_
    rw [sortedSet, List.mem_eraseDups, List.mem_mergeSort]
  rw [← hset, (List.toFinset_sort (· ≤ ·) (hlt.imp ne_of_lt)).2 (hlt.imp le_of_lt)]

theorem containsFields_eq (e : Expression) : containsFields e = e.searched.sort (· ≤ ·) := by
  rw [containsFields, sortedSet_eq, Expression.conditions_eq]
  rfl

theorem conjunctionFields?_eq (e : Expression) :
    conjunctionFields? e = if e.isConjunction then some (e.fields.sort (· ≤ ·)) else none := by
  have hfields : sortedSet (e.conditions.map (·.field.text)) = e.fields.sort (· ≤ ·) := by
    rw [sortedSet_eq, Expression.conditions_eq]
    rfl
  unfold conjunctionFields? Expression.isConjunction
  rw [hfields]
  rcases e.root with _ | _ | ⟨_ | _, _ | _, _⟩ <;> rfl

/-! ## What is remembered on the way -/

namespace Passed

/-- The first remembered rule that searches fields of `e` alone. -/
def overlap? (passed : Passed) (r : Rule α) (e : Expression) : Option Issue :=
  (passed.tested.find? fun t => t.2.all (e.fields.sort (· ≤ ·)).contains).map
    fun t => overlapped r t.1 t.2

theorem shadows_eq (passed : Passed) (r : Rule α) (e : Expression) :
    shadows passed r e = ((passed.always.map (unreachable r)).or
      (if e.isConjunction then passed.overlap? r e else none)).toList := by
  unfold shadows overlap?
  rw [conjunctionFields?_eq]
  cases passed.always with
  | some earlier => rfl
  | none =>
    cases e.isConjunction with
    | false => rfl
    | true =>
      simp only [if_true]
      cases passed.tested.find? fun t => t.2.all (e.fields.sort (· ≤ ·)).contains with
      | none => rfl
      | some t => rfl

theorem all_contains_iff {earlier : Expression} :
    (earlier.searched.sort (· ≤ ·)).all (e.fields.sort (· ≤ ·)).contains = true ↔
      earlier.searched ⊆ e.fields := by
  simp [List.all_eq_true, Finset.subset_iff]

/-- A rule is remembered for the fields that it `searched`, if there are any. -/
theorem overlap?_add (passed : Passed) (r f : Rule α) (e earlier : Expression) :
    (passed.add f earlier).overlap? r e = (passed.overlap? r e).or
      (if earlier.searched.Nonempty ∧ earlier.searched ⊆ e.fields then
        some (overlapped r f.ref (earlier.searched.sort (· ≤ ·))) else none) := by
  unfold overlap? add
  rw [containsFields_eq]
  by_cases hempty : earlier.searched = ∅
  · simp [hempty]
  · have hne : earlier.searched.Nonempty := Finset.nonempty_iff_ne_empty.2 hempty
    have hsort : (earlier.searched.sort (· ≤ ·)).isEmpty = false := by
      obtain ⟨name, hname⟩ := hne
      exact List.isEmpty_eq_false_iff_exists_mem.2 ⟨name, (Finset.mem_sort _).2 hname⟩
    simp only [hsort, Bool.false_eq_true, if_false, List.find?_append, Option.map_or,
      List.find?_singleton, all_contains_iff, hne, true_and]
    split <;> rfl

/-- The rule that is remembered for its fields is the first one that searches fields of `e`
alone. -/
theorem overlap?_through (passed : Passed) (rules : List (Rule α)) (r : Rule α) (e : Expression) :
    (passed.through rules).overlap? r e =
      (passed.overlap? r e).or (rules.findSome? (overlappedBy? r e)) := by
  induction rules generalizing passed with
  | nil => exact Option.or_none.symm
  | cons f rules ih =>
    rw [through, List.foldl_cons, findSome?_cons_or, overlappedBy?]
    cases hparse : Expression.parse f.expression with
    | error err => exact ih passed
    | ok earlier =>
      refine (ih (passed.add f earlier)).trans ?_
      rw [overlap?_add, Option.or_assoc]

end Passed

theorem shadows_through (before : List (Rule α)) (r : Rule α) (e : Expression) :
    shadows (Passed.through {} before) r e = (shadow? before r e).toList := by
  rw [Passed.shadows_eq, always_through, Passed.overlap?_through]
  rfl

theorem alwaysTrue_eq (catchAll : Int32) (r : Rule α) (e : Expression) :
    alwaysTrue catchAll r e =
      if e.isAlwaysTrue = true ∧ r.priority ≠ catchAll then [matchesAll r catchAll] else [] := by
  unfold alwaysTrue
  simp only [Bool.and_eq_true, bne_iff_ne]

/-- The findings come rule by rule. -/
theorem run_eq (before rules : List (Rule α)) :
    run catchAll (Passed.through {} before) rules =
      (rules.zipIdx before.length).flatMap fun p =>
        findings catchAll ((before ++ rules).take p.2) p.1 := by
  induction rules generalizing before with
  | nil => rfl
  | cons r rules ih =>
    have hthrough : Passed.through {} (before ++ [r]) =
        match Expression.parse r.expression with
        | .error _ => Passed.through {} before
        | .ok e => (Passed.through {} before).add r e := by
      rw [Passed.through, List.foldl_append]
      rfl
    have hrest := ih (before ++ [r])
    rw [hthrough, List.append_assoc, List.length_append, List.length_singleton] at hrest
    rw [List.zipIdx_cons, List.flatMap_cons, List.take_left, findings, run]
    cases hparse : Expression.parse r.expression with
    | error err =>
      rw [hparse] at hrest
      exact congrArg (invalid r err :: ·) hrest
    | ok e =>
      rw [hparse] at hrest
      simp only [shadows_through, alwaysTrue_eq]
      exact congrArg (_ ++ ·) hrest

/-! ## Rules without influence -/

/-- Whether the condition of `r` parses. -/
def parses (r : Rule α) : Bool := (Expression.parse r.expression).toOption.isSome

/-- Rules that do not parse are found, and that is all. -/
theorem run_filter_parses (passed : Passed) (rules : List (Rule α)) :
    run catchAll passed (rules.filter parses) =
      (run catchAll passed rules).filter (·.kind != .invalidExpression) := by
  induction rules generalizing passed with
  | nil => rfl
  | cons r rules ih =>
    rw [List.filter_cons, parses, run]
    cases hparse : Expression.parse r.expression with
    | error err => exact ih passed
    | ok e =>
      have hother : (shadows passed r e ++ alwaysTrue catchAll r e).filter
          (·.kind != .invalidExpression) = shadows passed r e ++ alwaysTrue catchAll r e := by
        refine List.filter_eq_self.2 (List.forall_mem_append.2 ⟨fun i hi => ?_, fun i hi => ?_⟩)
        · rw [(of_mem_shadows hi).2]
          rfl
        · rw [(of_mem_alwaysTrue hi).2]
          rfl
      simp only [Except.toOption, Option.isSome_some, if_true, run, hparse, List.filter_append,
        ih, hother]

/-- The findings about the enabled rules come rule by rule, in the order of priorities, where rules
of one priority stay as they were. Disabled rules are not looked at, rules that do not parse shadow
nothing, and if priorities are distinct it does not matter in which order the rules are given. -/
theorem analyze_ruleByRule (catchAll : Int32) (rules : List (Rule α)) :
    let ordered := Rule.sortByPriority (rules.filter (·.enabled))
    Rule.SortsStably (rules.filter (·.enabled)) ordered ∧
    analyze catchAll rules =
      ordered.zipIdx.flatMap (fun p => findings catchAll (ordered.take p.2) p.1) ∧
    analyze catchAll (rules.filter (·.enabled)) = analyze catchAll rules ∧
    analyze catchAll (rules.filter parses) =
      (analyze catchAll rules).filter (·.kind != .invalidExpression) ∧
    ∀ rules' : List (Rule α), rules.Perm rules' →
      ((rules.filter (·.enabled)).map (·.priority)).Nodup →
      analyze catchAll rules' = analyze catchAll rules := by
  refine ⟨Rule.sortsStably_sortByPriority _, run_eq [] _, ?_, ?_, fun rules' hperm hdistinct => ?_⟩
  · simp only [analyze, List.filter_filter, Bool.and_self]
  · rw [analyze, analyze, List.filter_comm, Rule.sortByPriority_filter, run_filter_parses]
  · rw [analyze, analyze, Rule.sortByPriority_of_perm (hperm.filter (·.enabled)) hdistinct]

/-- A rule of a greater priority value is found to be unreachable wherever it stands. -/
theorem analyze_ruleByRule_swapped :
    [anyAgent, someAgent].Perm [someAgent, anyAgent] ∧
      (([anyAgent, someAgent].filter (·.enabled)).map (·.priority)).Nodup ∧
      analyze 999 [someAgent, anyAgent] =
        [matchesAll anyAgent 999, unreachable someAgent anyAgent.ref] := by
  obtain ⟨-, -, -, -, hgiven⟩ := analyze_ruleByRule 999 [anyAgent, someAgent]
  have hperm : [anyAgent, someAgent].Perm [someAgent, anyAgent] := List.Perm.swap _ _ _
  have hdistinct : (([anyAgent, someAgent].filter (·.enabled)).map (·.priority)).Nodup := by decide
  exact ⟨hperm, hdistinct, (hgiven _ hperm hdistinct).trans analyze_agents⟩

end Lint

end StreamPolicy
