import StreamPolicy.Lint
import StreamPolicy.Proofs.Builtin
import StreamPolicy.Request.Basic

/-!
# Rules that are taken to match every request

`Node.isAlwaysTrue` classifies trees by their form, but the empty text is contained only in fields
that exist, and a field seldom has its own name as its value. A classified tree matches wherever it
is `Grounded`: where the tests hold that its classification rests on. A rule is said to be
`unreachable` only behind a rule that `Sweeps`, whose tree is classified.
-/

namespace StreamPolicy

/-! ## Leaves -/

namespace Condition

variable {c : Condition} {ctx : Context}

/-- The field of `c` exists if it is tested for the empty text, and has its own name as its value if
it is compared with that; a missing field has the empty text. -/
def Grounded (c : Condition) (ctx : Context) : Prop :=
  match c.op with
  | .contains => (ctx.resolve c.field).isSome = true
  | .equals => (ctx.resolve c.field).getD "" = c.field.text
  | _ => True

/-- Whether a classified leaf holds depends on its field alone, which `Grounded` looks at. -/
theorem holds_iff_grounded (h : c.isAlwaysTrue = true) : c.holds ctx = true ↔ c.Grounded ctx := by
  obtain ⟨field, op, value, negated⟩ := c
  simp only [isAlwaysTrue, Bool.and_eq_true, Bool.not_eq_true'] at h
  obtain ⟨rfl, h⟩ := h
  cases op with
  | contains =>
    obtain rfl : value = "" := by simpa using h
    cases hv : ctx.resolve field <;>
      simp [holds, Grounded, Operator.test, Operator.missing?, Operator.holds, Text.occursIn_nil,
        hv]
  | equals =>
    obtain rfl : field.text = value := by simpa using h
    have hholds : holds ⟨field, .equals, field.text, false⟩ ctx =
        ((ctx.resolve field).getD "" == field.text) := by
      cases hv : ctx.resolve field <;>
        simp [holds, Operator.test, Operator.missing?, Operator.holds, hv]
    rw [hholds, beq_iff_eq]
    exact Iff.rfl
  | _ => cases h

end Condition

/-! ## Trees -/

namespace Node

variable {ctx : Context} {ns : List Node}

/-- The tests hold that a classification rests on. A group of alternatives is classified by one of
them, so that only that one is looked at. -/
inductive Grounded (ctx : Context) : Node → Prop
  | leaf {c : Condition} : c.Grounded ctx → Grounded ctx (.leaf c)
  | and {negated : Bool} {ns : List Node} :
    (∀ n ∈ ns, Grounded ctx n) → Grounded ctx (.group .and negated ns)
  | empty {negated : Bool} : Grounded ctx (.group .or negated [])
  | or {negated : Bool} {n : Node} {ns : List Node} :
    n ∈ ns → n.isAlwaysTrue = true → Grounded ctx n → Grounded ctx (.group .or negated ns)

theorem allAre_iff : isAlwaysTrue.allAre ns = true ↔ ∀ n ∈ ns, n.isAlwaysTrue = true := by
  induction ns with
  | nil => simp [isAlwaysTrue.allAre]
  | cons n ns ih => simp [isAlwaysTrue.allAre, ih]

theorem allOf_iff : evaluate.allOf ctx ns = true ↔ ∀ n ∈ ns, n.evaluate ctx = true := by
  induction ns with
  | nil => simp [evaluate.allOf]
  | cons n ns ih => simp [evaluate.allOf, ih]

theorem anyOf_iff : evaluate.anyOf ctx ns = true ↔ ∃ n ∈ ns, n.evaluate ctx = true := by
  induction ns with
  | nil => simp [evaluate.anyOf]
  | cons n ns ih => simp [evaluate.anyOf, ih]

/-- A classified tree matches where it is `Grounded`. -/
theorem Grounded.evaluate {n : Node} (hg : Grounded ctx n) (h : n.isAlwaysTrue = true) :
    n.evaluate ctx = true := by
  induction hg with
  | leaf hc => exact (Condition.holds_iff_grounded h).2 hc
  | and _ ih =>
    simp only [isAlwaysTrue, Bool.and_eq_true, Bool.not_eq_true'] at h
    obtain ⟨rfl, hall⟩ := h
    have hevaluate := allOf_iff.2 fun n hn => ih n hn (allAre_iff.1 hall n hn)
    rw [Node.evaluate, hevaluate]
    rfl
  | empty =>
    simp only [isAlwaysTrue, Bool.and_eq_true, Bool.not_eq_true'] at h
    obtain ⟨rfl, -⟩ := h
    rfl
  | or hn hclassified _ ih =>
    simp only [isAlwaysTrue, Bool.and_eq_true, Bool.not_eq_true'] at h
    obtain ⟨rfl, -⟩ := h
    rw [Node.evaluate, anyOf_iff.2 ⟨_, hn, ih hclassified⟩, Bool.or_true]
    rfl

end Node

/-! ## Expressions -/

namespace Expression

def Grounded (e : Expression) (ctx : Context) : Prop := ∀ n ∈ e.root, Node.Grounded ctx n

theorem evaluate_of_isAlwaysTrue {e : Expression} {ctx : Context} (h : e.isAlwaysTrue = true)
    (hg : e.Grounded ctx) : e.evaluate ctx = true := by
  obtain ⟨root, assignments⟩ := e
  cases root with
  | none => rfl
  | some n => exact (hg n rfl).evaluate h

end Expression

/-! ## Findings -/

namespace Lint

variable {α : Type} {catchAll : Int32} {passed : Passed} {rules : List (Rule α)} {r : Rule α}

/-- The condition of `r` is classified as matching every request. -/
def Sweeps (r : Rule α) : Prop :=
  ∃ e, Expression.parse r.expression = .ok e ∧ e.isAlwaysTrue = true

/-- What is known once the rules of a list have been passed. -/
def Passed.through (passed : Passed) (rules : List (Rule α)) : Passed :=
  rules.foldl (fun p r => match Expression.parse r.expression with
    | .error _ => p
    | .ok e => p.add r e) passed

/-- How a rule that `Sweeps` is named in findings about later ones. -/
def sweeping? (r : Rule α) : Option RuleRef :=
  match Expression.parse r.expression with
  | .ok e => if e.isAlwaysTrue then some r.ref else none
  | .error _ => none

theorem sweeping?_eq_some_iff {ref : RuleRef} : sweeping? r = some ref ↔ r.ref = ref ∧ Sweeps r := by
  unfold sweeping? Sweeps
  cases Expression.parse r.expression with
  | error err => simp
  | ok e => simp [and_comm]

theorem findSome?_cons_or {β γ : Type} (g : β → Option γ) (b : β) (bs : List β) :
    (b :: bs).findSome? g = (g b).or (bs.findSome? g) := by
  rw [List.findSome?_cons]
  cases g b <;> rfl

/-- The rule that is remembered in `always` is the first one that `Sweeps`. -/
theorem always_through (passed : Passed) (rules : List (Rule α)) :
    (passed.through rules).always = passed.always.or (rules.findSome? sweeping?) := by
  induction rules generalizing passed with
  | nil => exact Option.or_none.symm
  | cons r rules ih =>
    rw [Passed.through, List.foldl_cons, findSome?_cons_or, sweeping?]
    cases hparse : Expression.parse r.expression with
    | error err => exact ih passed
    | ok e =>
      refine (ih (passed.add r e)).trans ?_
      have hadd : (passed.add r e).always =
          passed.always.or (if e.isAlwaysTrue then some r.ref else none) := by
        unfold Passed.add
        cases passed.always <;> rfl
      rw [hadd, Option.or_assoc]

theorem sweeps_of_always {ref : RuleRef} (h : (Passed.through {} rules).always = some ref) :
    ∃ f ∈ rules, f.ref = ref ∧ Sweeps f := by
  rw [always_through, Option.none_or] at h
  obtain ⟨f, hf, hsweeping⟩ := List.exists_of_findSome?_eq_some h
  exact ⟨f, hf, sweeping?_eq_some_iff.1 hsweeping⟩

theorem of_mem_shadows {i : Issue} {e : Expression} (h : i ∈ shadows passed r e) :
    i.ruleId = r.id ∧ i.kind = .possiblyShadowed := by
  unfold shadows at h
  split at h
  · rw [List.mem_singleton.1 h]
    exact ⟨rfl, rfl⟩
  · split at h
    · cases h
    · split at h
      · rw [List.mem_singleton.1 h]
        exact ⟨rfl, rfl⟩
      · cases h

theorem of_mem_alwaysTrue {i : Issue} {e : Expression} (h : i ∈ alwaysTrue catchAll r e) :
    i.ruleId = r.id ∧ i.kind = .alwaysTrue := by
  unfold alwaysTrue at h
  split at h
  · rw [List.mem_singleton.1 h]
    exact ⟨rfl, rfl⟩
  · cases h

/-- A finding is about one of the rules, in view of those before it. -/
theorem mem_run {i : Issue} (h : i ∈ run catchAll passed rules) :
    ∃ before r after, rules = before ++ r :: after ∧
      ((∃ e, i = invalid r e) ∨ ∃ e, Expression.parse r.expression = .ok e ∧
        (i ∈ shadows (passed.through before) r e ∨ i ∈ alwaysTrue catchAll r e)) := by
  induction rules generalizing passed with
  | nil => cases h
  | cons r rules ih =>
    rw [run] at h
    cases hparse : Expression.parse r.expression with
    | error err =>
      simp only [hparse, List.mem_cons] at h
      rcases h with rfl | h
      · exact ⟨[], r, rules, rfl, .inl ⟨err, rfl⟩⟩
      · obtain ⟨before, t, after, rfl, hi⟩ := ih h
        refine ⟨r :: before, t, after, rfl, ?_⟩
        rwa [Passed.through, List.foldl_cons, hparse]
    | ok e =>
      simp only [hparse, List.mem_append] at h
      rcases h with h | h
      · exact ⟨[], r, rules, rfl, .inr ⟨e, hparse, h⟩⟩
      · obtain ⟨before, t, after, rfl, hi⟩ := ih h
        refine ⟨r :: before, t, after, rfl, ?_⟩
        rwa [Passed.through, List.foldl_cons, hparse]

theorem unreachable_ne_overlapped (r r' : Rule α) (ref ref' : RuleRef) (fields : List String) :
    unreachable r ref ≠ overlapped r' ref' fields := by
  intro h
  have hhead := congrArg (·.message.toList.head?) h
  simp [unreachable, overlapped, issue, toString] at hhead

/-- A rule is said to be `unreachable` only behind an enabled rule that `Sweeps`. -/
theorem sweeps_of_unreachable {ref : RuleRef} (h : unreachable r ref ∈ analyze catchAll rules) :
    ∃ before later after, Rule.sortByPriority (rules.filter (·.enabled)) = before ++ later :: after ∧
      later.ref = r.ref ∧ ∃ f ∈ before, f.ref = ref ∧ Sweeps f := by
  obtain ⟨before, later, after, hrules, hissue⟩ := mem_run h
  refine ⟨before, later, after, hrules, ?_⟩
  rcases hissue with ⟨e, he⟩ | ⟨e, -, he | he⟩
  · cases congrArg Issue.kind he
  · unfold shadows at he
    cases halways : (Passed.through {} before).always with
    | some earlier =>
      simp only [halways, List.mem_singleton] at he
      have hid : later.id = r.id := congrArg Issue.ruleId he.symm
      have hname : later.name = r.name := congrArg Issue.ruleName he.symm
      have hpriority : later.priority = r.priority := congrArg Issue.priority he.symm
      have href : earlier = ref := Option.some.inj (congrArg Issue.shadowedBy he.symm)
      obtain ⟨f, hf, hfref, hsweeps⟩ := sweeps_of_always halways
      exact ⟨by rw [Rule.ref, Rule.ref, hid, hname, hpriority], f, hf, hfref.trans href, hsweeps⟩
    | none =>
      simp only [halways] at he
      split at he
      · cases he
      · split at he
        · exact absurd (List.mem_singleton.1 he) (unreachable_ne_overlapped _ _ _ _ _)
        · cases he
  · unfold alwaysTrue at he
    split at he
    · cases congrArg Issue.kind (List.mem_singleton.1 he)
    · cases he

/-- A classified tree matches every request in which it is `Grounded`, and wherever a rule is said
to be `unreachable`, a rule that `Sweeps` comes before it. -/
theorem matches_of_classified :
    (∀ (e : Expression) (request : Request), e.isAlwaysTrue = true → e.Grounded request.context →
      e.evaluate request.context = true) ∧
    ∀ (catchAll : Int32) (rules : List (Rule α)) (r : Rule α) (ref : RuleRef),
      unreachable r ref ∈ analyze catchAll rules →
      ∃ before later after f e,
        Rule.sortByPriority (rules.filter (·.enabled)) = before ++ later :: after ∧
        later.ref = r.ref ∧ f ∈ before ∧ f.ref = ref ∧ Expression.parse f.expression = .ok e ∧
        e.isAlwaysTrue = true ∧
        ∀ request : Request, e.Grounded request.context → e.evaluate request.context = true := by
  refine ⟨fun e request h hg => e.evaluate_of_isAlwaysTrue h hg, fun catchAll rules r ref h => ?_⟩
  obtain ⟨before, later, after, hrules, hlater, f, hf, href, e, hparse, he⟩ :=
    sweeps_of_unreachable h
  exact ⟨before, later, after, f, e, hrules, hlater, hf, href, hparse, he,
    fun request hg => e.evaluate_of_isAlwaysTrue he hg⟩

/-! ### A field that is missing -/

/-- A rule that looks for the empty text in the user agent. -/
def anyAgent : ClientRule where
  id := ⟨1⟩
  name := "Any"
  expression := "user_agent contains \"\""
  priority := 5
  attributes := {}
  createdAt := .epoch
  updatedAt := .epoch

def someAgent : ClientRule where
  id := ⟨2⟩
  name := "Some"
  expression := "user_agent contains \"VLC\""
  priority := 10
  attributes := {}
  createdAt := .epoch
  updatedAt := .epoch

theorem parse_anyAgent : Expression.parse anyAgent.expression = .ok (Builtin.mentions [""]) :=
  show Expression.parse (Builtin.agentContains [""]) = _ from
    Builtin.parse_agentContains (by decide) (by decide)

theorem parse_someAgent : Expression.parse someAgent.expression = .ok (Builtin.mentions ["VLC"]) :=
  show Expression.parse (Builtin.agentContains ["VLC"]) = _ from
    Builtin.parse_agentContains (by decide) (by decide)

theorem analyze_agents : analyze 999 [anyAgent, someAgent] =
    [matchesAll anyAgent 999, unreachable someAgent anyAgent.ref] := by
  have hsorted : Rule.sortByPriority ([anyAgent, someAgent].filter (·.enabled)) =
      [anyAgent, someAgent] := List.mergeSort_of_pairwise (by decide)
  rw [analyze, hsorted]
  simp only [run, parse_anyAgent, parse_someAgent]
  decide

/-- With a user agent the request matches, as the finding about `someAgent` says. -/
theorem matches_of_classified_agent :
    let e := Builtin.mentions [""]
    let request := Request.ofSteps [.header "User-Agent" "VLC/3.0"]
    e.isAlwaysTrue = true ∧ e.Grounded request.context ∧ e.evaluate request.context = true ∧
      unreachable someAgent anyAgent.ref ∈ analyze 999 [anyAgent, someAgent] ∧
      ∃ f e', f ∈ Rule.sortByPriority ([anyAgent, someAgent].filter (·.enabled)) ∧
        f.ref = anyAgent.ref ∧ Expression.parse f.expression = .ok e' ∧ e'.isAlwaysTrue = true := by
  intro e request
  have hclassified : e.isAlwaysTrue = true := by decide
  have hgrounded : e.Grounded request.context := by
    rintro n ⟨⟩
    have hagent : (request.fieldValue "user_agent").isSome = true := by decide
    exact .leaf hagent
  have hissue : unreachable someAgent anyAgent.ref ∈ analyze 999 [anyAgent, someAgent] := by
    rw [analyze_agents]
    exact List.mem_cons_of_mem _ List.mem_cons_self
  obtain ⟨hmatches, hbehind⟩ := matches_of_classified (α := ClientProfile)
  obtain ⟨before, later, after, f, e', hrules, -, hf, href, hparse, he', -⟩ :=
    hbehind 999 [anyAgent, someAgent] someAgent anyAgent.ref hissue
  refine ⟨hclassified, hgrounded, hmatches e request hclassified hgrounded, hissue, f, e', ?_, href,
    hparse, he'⟩
  rw [hrules]
  exact List.mem_append_left _ hf

/-- Without a user agent the request does not match, though the finding says that all do. -/
theorem not_matches_of_classified :
    let e := Builtin.mentions [""]
    let request : Request := {}
    e.isAlwaysTrue = true ∧ e.evaluate request.context = false ∧
      Expression.parse anyAgent.expression = .ok e ∧
      unreachable someAgent anyAgent.ref ∈ analyze 999 [anyAgent, someAgent] := by
  refine ⟨by decide, by decide, parse_anyAgent, ?_⟩
  rw [analyze_agents]
  exact List.mem_cons_of_mem _ List.mem_cons_self

end Lint

end StreamPolicy
