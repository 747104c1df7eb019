import StreamPolicy.Proofs.Detection
import StreamPolicy.Proofs.Expression.RoundTrip

/-!
# Conditions are evaluated in full

Evaluation gives up on trees deeper than `maxTreeDepth`, but no parsed tree is. Wherever a parsed
condition is used, the outcome is what `Expression.evaluate` says: where it is applied, where a text
is tried on a request, and where detection and relaying try a rule (`Rule.attempt?`).
-/

namespace StreamPolicy

/-! ## Trying a rule -/

namespace Rule

variable {α : Type} {request : Request} {cache : ParseCache}

/-- What comes of evaluating the condition of `r`, and what is captured then. A rule that is
disabled or does not parse has no condition to evaluate. -/
def attempt? (r : Rule α) (request : Request) (cache : ParseCache) :
    Option (Except EvalError Bool × Captures) :=
  if r.enabled then (cache.parse r.expression).1.toOption.map (·.apply request.context) else none

/-- Trying a rule is its `attempt?`: the rule matches if its condition is evaluated and holds. -/
theorem tryOn_eq_attempt? (r : Rule α) :
    (r.tryOn request cache).1 =
      match r.attempt? request cache with
      | none => .skipped
      | some (.ok true, captures) => .matched captures
      | some _ => .missed := by
  unfold tryOn attempt?
  cases r.enabled with
  | false => rfl
  | true =>
    simp only [if_true]
    cases (cache.parse r.expression).1 with
    | error err => rfl
    | ok e =>
      simp only [trialOf, Except.toOption, Option.map_some]
      split <;> simp_all

end Rule

/-! ## Parsed conditions -/

/-- The tree `e` of `text` is evaluated in full, whatever uses it. -/
structure Expression.EvaluatesInFull (text : String) (e : Expression) : Prop where
  depth : e.depth ≤ maxTreeDepth
  apply : ∀ ctx, (e.apply ctx).1 = .ok (e.evaluate ctx)
  test : ∀ resolver, (Expression.test text resolver).map Prod.fst = .ok (e.evaluate { resolver })
  /-- Detection and relaying try a rule with what the cache holds for `text`. -/
  attempt : ∀ {α : Type} (r : Rule α), r.expression = text → r.enabled = true →
    ∀ request cache, cache.Faithful →
      (r.attempt? request cache).map Prod.fst = some (.ok (e.evaluate request.context)) ∧
      ((∃ captures, (r.tryOn request cache).1 = .matched captures) ↔
        e.evaluate request.context = true)

namespace Expression

variable {text : String} {e : Expression}

theorem apply_fst (h : parse text = .ok e) (ctx : Context) :
    (e.apply ctx).1 = .ok (e.evaluate ctx) := by
  unfold apply
  rw [evaluateBounded_eq h]
  cases e.evaluate ctx <;> rfl

theorem attempt?_of_parse {α : Type} {r : Rule α} (h : parse r.expression = .ok e)
    (henabled : r.enabled = true) (request : Request) {cache : ParseCache} (hc : cache.Faithful) :
    r.attempt? request cache = some (e.apply request.context) := by
  rw [Rule.attempt?, if_pos henabled, hc.parse_fst, h]
  rfl

/-- No text parses to a tree that evaluation would stop short at. -/
theorem evaluatesInFull_of_parse (h : parse text = .ok e) : EvaluatesInFull text e where
  depth := depth_le_of_parse h
  apply := apply_fst h
  test resolver := by
    have hfst := apply_fst h { resolver }
    rw [test, h]
    simp only
    split
    · rename_i he
      rw [he] at hfst
      cases hfst
    · rename_i he
      rw [he] at hfst
      cases hfst
      rfl
  attempt := by
    rintro α r rfl henabled request cache hc
    have hfst := apply_fst h request.context
    have hattempt := attempt?_of_parse h henabled request hc
    refine ⟨by rw [hattempt, Option.map_some, hfst], ?_⟩
    rw [Rule.tryOn_eq_attempt?, hattempt]
    generalize e.apply request.context = outcome at hfst
    obtain ⟨_, captures⟩ := outcome
    cases hfst
    cases e.evaluate request.context <;> simp

/-- The deepest ladder that parses has a tree of as many levels as can be evaluated. -/
theorem evaluatesInFull_of_parse_ladder :
    let e : Expression := { root := some (ladderNode 64) }
    parse (ladder 64) = .ok e ∧ e.depth = maxTreeDepth ∧ EvaluatesInFull (ladder 64) e := by
  have h : parse (ladder 64) = .ok { root := some (ladderNode 64) } := parse_ladder (Nat.le_refl 64)
  exact ⟨h, depth_ladderNode 64, evaluatesInFull_of_parse h⟩

end Expression

/-! ## Lists of rules -/

/-- Detection evaluates as many conditions as there are rules to its stop (`reach`), if all rules
have one. -/
theorem Detection.evaluated_eq_reach {rules : List ClientRule} (request : Request)
    {cache : ParseCache} (hc : cache.Faithful) (h : ∀ r ∈ rules, r.condition?.isSome = true) :
    (detect rules request cache).1.evaluated = reach request rules := by
  have hle : reach request rules ≤ rules.length := by
    unfold reach
    cases hfind : (List.range rules.length).find? fun n =>
        (supplied request (rules.take n)).isComplete with
    | none => exact Nat.le_refl _
    | some n => exact Nat.le_of_lt (List.mem_range.1 (List.mem_of_find?_eq_some hfind))
  have htake : ∀ r ∈ rules.take (reach request rules), r.condition?.isSome = true :=
    fun r hr => h r (List.mem_of_mem_take hr)
  rw [detect_fst rules request hc, (progress_eq request rules).1]
  show (rules.take (reach request rules)).countP (fun r => r.condition?.isSome) = _
  rw [List.countP_eq_length.2 htake, List.length_take, Nat.min_eq_left hle]

theorem Decision.decide?_fst (request : Request) (source : StreamInfo)
    (mappings : List RelayMapping) {cache : ParseCache} (hc : cache.Faithful) :
    (decide? request source mappings cache).1 =
      (mappings.find? (·.matchesRequest request)).map (·.decide source) := by
  rw [(decide?_eq request source mappings hc).1]
  induction mappings with
  | nil => rfl
  | cons m rest ih =>
    rw [first?, List.find?_cons, Rule.trial_eq, Rule.matchesRequest]
    cases m.condition? with
    | none => exact ih
    | some e =>
      cases he : e.evaluate request.context with
      | false => simpa [he] using ih
      | true => simp [he]

end StreamPolicy
