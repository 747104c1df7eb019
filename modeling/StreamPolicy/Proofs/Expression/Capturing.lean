import Mathlib.Data.List.Induction
import StreamPolicy.Proofs.Expression.Mentions
import StreamPolicy.Proofs.Expression.Words

/-!
# What assignments capture

When an expression matches, each of its assignments looks for a value where the earlier ones have
left their captures (`Source.Gives`). A target has in the end what the last assignment gave it that
found a value (`Sets`), and if there was none, what it had before. When the expression does not
match, nothing is captured.
-/

namespace StreamPolicy

open Grammar

/-! ## Sources -/

/-- What a source gives where `captures` have been made. A static field that bears the name of a
target, in any letter case, gives what has been captured for it, if anything has. -/
inductive Source.Gives (s : Resolver) (captures : Captures) : Source → String → Prop
  | literal (text : String) : Gives s captures (.literal text) text
  | dynamic {scope : Scope} {key v : String} : s.dynamic scope key = some v →
    Gives s captures (.field (.dynamic scope key)) v
  | captured {name v : String} {t : Target} : Spells name.toList t.name → captures t = some v →
    Gives s captures (.field (.static name)) v
  | static {name v : String} : (∀ t : Target, Spells name.toList t.name → captures t = none) →
    s.static name = some v → Gives s captures (.field (.static name)) v

namespace Captures

variable {captures : Captures} {name v : String}

/-- A field reads what has been captured for the target whose name it bears. -/
theorem bind_eq_some_iff : (Target.ofName? name).bind captures = some v ↔
    ∃ t : Target, Spells name.toList t.name ∧ captures t = some v := by
  rw [Option.bind_eq_some_iff]
  refine exists_congr fun t => ?_
  rw [← Target.ofName?_eq_some_iff, String.ofList_toList]

theorem bind_eq_none_iff : (Target.ofName? name).bind captures = none ↔
    ∀ t : Target, Spells name.toList t.name → captures t = none := by
  simp only [Option.eq_none_iff_forall_ne_some, ne_eq, bind_eq_some_iff, not_exists, not_and]
  exact ⟨fun h t hspells v => h v t hspells, fun h v t hspells => h t hspells v⟩

end Captures

namespace Context

variable {ctx : Context} {as : List Assignment} {a : Assignment} {i : Nat} {t : Target} {v : String}

theorem gives_iff {src : Source} :
    src.Gives ctx.resolver ctx.captures v ↔ ctx.valueOf src = some v := by
  constructor
  · intro h
    cases h with
    | literal text => rfl
    | dynamic h => exact h
    | captured hspells hcaptured =>
      rw [valueOf, resolve, Captures.bind_eq_some_iff.2 ⟨_, hspells, hcaptured⟩]
      rfl
    | static hnone h =>
      rw [valueOf, resolve, Captures.bind_eq_none_iff.2 hnone]
      exact h
  · intro h
    cases src with
    | literal text =>
      obtain rfl : text = v := Option.some.inj h
      exact .literal text
    | field f =>
      cases f with
      | dynamic scope key => exact .dynamic h
      | static name =>
        rw [valueOf, resolve] at h
        cases hbind : (Target.ofName? name).bind ctx.captures with
        | some w =>
          rw [hbind] at h
          obtain rfl : w = v := Option.some.inj h
          obtain ⟨t, hspells, hcaptured⟩ := Captures.bind_eq_some_iff.1 hbind
          exact .captured hspells hcaptured
        | none =>
          rw [hbind] at h
          exact .static (Captures.bind_eq_none_iff.1 hbind) h

/-! ## Assignments in a row -/

/-- Assignment number `i` gives the target `t` the value `v`. -/
def Sets (ctx : Context) (as : List Assignment) (i : Nat) (t : Target) (v : String) : Prop :=
  ∃ src, as[i]? = some ⟨t, src⟩ ∧ ((as.take i).foldl assign ctx).valueOf src = some v

theorem Sets.lt (h : ctx.Sets as i t v) : i < as.length := by
  obtain ⟨src, hget, -⟩ := h
  exact (List.getElem?_eq_some_iff.1 hget).1

theorem resolver_assign (ctx : Context) (a : Assignment) :
    (ctx.assign a).resolver = ctx.resolver := by
  unfold assign
  split <;> rfl

theorem resolver_assignAll (ctx : Context) (as : List Assignment) :
    (as.foldl assign ctx).resolver = ctx.resolver := by
  induction as generalizing ctx with
  | nil => rfl
  | cons a as ih => rw [List.foldl_cons, ih, resolver_assign]

theorem captures_assign (ctx : Context) (a : Assignment) (t : Target) :
    (ctx.assign a).captures t =
      ((if a.target = t then ctx.valueOf a.value else none) <|> ctx.captures t) := by
  unfold assign
  cases ctx.valueOf a.value with
  | none => simp
  | some v =>
    by_cases ht : a.target = t
    · simp [Captures.record, ht]
    · simp [Captures.record, ht, Ne.symm ht]

/-- One assignment more sets its target, if its source has a value by then. -/
theorem sets_concat : ctx.Sets (as ++ [a]) i t v ↔ ctx.Sets as i t v ∨
    i = as.length ∧ a.target = t ∧ (as.foldl assign ctx).valueOf a.value = some v := by
  rcases Nat.lt_trichotomy i as.length with hlt | rfl | hgt
  · have htake : (as ++ [a]).take i = as.take i := List.take_append_of_le_length (by omega)
    simp only [Sets, List.getElem?_append_left hlt, htake]
    refine ⟨.inl, ?_⟩
    rintro (h | ⟨rfl, -⟩)
    · exact h
    · omega
  · have hnot : ¬ctx.Sets as as.length t v := fun h => Nat.lt_irrefl _ h.lt
    have htake : (as ++ [a]).take as.length = as := List.take_left
    obtain ⟨target, src⟩ := a
    simp only [hnot, false_or, true_and]
    simp only [Sets, List.getElem?_concat_length, htake, Option.some.injEq, Assignment.mk.injEq]
    constructor
    · rintro ⟨_, ⟨rfl, rfl⟩, hv⟩
      exact ⟨rfl, hv⟩
    · rintro ⟨rfl, hv⟩
      exact ⟨src, ⟨rfl, rfl⟩, hv⟩
  · have hnot : ¬ctx.Sets as i t v := fun h => Nat.lt_asymm h.lt hgt
    have hnot' : ¬ctx.Sets (as ++ [a]) i t v := by
      intro h
      have hlt := h.lt
      simp only [List.length_append, List.length_singleton] at hlt
      omega
    have hne : i ≠ as.length := Nat.ne_of_gt hgt
    simp only [hnot, hnot', hne, false_and, or_false]

theorem captures_assignAll : (as.foldl assign ctx).captures t = some v ↔
    (∃ i, ctx.Sets as i t v ∧ ∀ j w, i < j → ¬ctx.Sets as j t w) ∨
      (∀ i w, ¬ctx.Sets as i t w) ∧ ctx.captures t = some v := by
  induction as using List.reverseRecOn with
  | nil =>
    have hnone : ∀ i w, ¬ctx.Sets [] i t w := fun i w h => absurd h.lt (Nat.not_lt_zero i)
    simp [hnone]
  | append_singleton as a ih =>
    rw [List.foldl_append, List.foldl_cons, List.foldl_nil]
    by_cases ha : a.target = t ∧ ∃ w, (as.foldl assign ctx).valueOf a.value = some w
    · -- The last assignment has a value, and takes over from all others.
      obtain ⟨rfl, w, hw⟩ := ha
      have hlast : ctx.Sets (as ++ [a]) as.length a.target w := sets_concat.2 (.inr ⟨rfl, rfl, hw⟩)
      rw [captures_assign, if_pos rfl, hw]
      constructor
      · intro h
        obtain rfl : w = v := Option.some.inj h
        refine .inl ⟨as.length, hlast, fun j w' hj h' => ?_⟩
        have hlt := h'.lt
        rw [List.length_append, List.length_singleton] at hlt
        omega
      · rintro (⟨i, hi, hnone⟩ | ⟨hnone, -⟩)
        · rcases sets_concat.1 hi with h | ⟨-, -, hv⟩
          · exact absurd hlast (hnone _ _ h.lt)
          · exact hw.symm.trans hv
        · exact absurd hlast (hnone _ _)
    · -- It has another target or no value, and changes nothing here.
      have hsame : ∀ i w, ctx.Sets (as ++ [a]) i t w ↔ ctx.Sets as i t w := by
        intro i w
        rw [sets_concat, or_iff_left_iff_imp]
        rintro ⟨-, htarget, hw⟩
        exact absurd ⟨htarget, w, hw⟩ ha
      have hnone :
          (if a.target = t then (as.foldl assign ctx).valueOf a.value else none) = none := by
        split
        · rename_i htarget
          exact Option.eq_none_iff_forall_ne_some.2 fun w hw => ha ⟨htarget, w, hw⟩
        · rfl
      have hkept :
          ((as.foldl assign ctx).assign a).captures t = (as.foldl assign ctx).captures t := by
        rw [captures_assign, hnone]
        rfl
      simp only [hkept, hsame, ih]

end Context

/-! ## Expressions -/

namespace Expression

variable {e : Expression} {ctx : Context} {i : Nat} {t : Target} {v : String}

/-- The expression with the first `n` of its assignments only. -/
def upTo (e : Expression) (n : Nat) : Expression :=
  { e with assignments := e.assignments.map (·.take n) }

/-- What is captured when the first `n` of the assignments have been made. -/
def capturedBy (e : Expression) (ctx : Context) (n : Nat) : Captures := ((e.upTo n).apply ctx).2

/-- Assignment number `i` gives `t` the value `v`, in view of what those before it captured. -/
def Sets (e : Expression) (ctx : Context) (i : Nat) (t : Target) (v : String) : Prop :=
  ∃ src, e.actions[i]? = some ⟨t, src⟩ ∧ src.Gives ctx.resolver (e.capturedBy ctx i) v

theorem actions_upTo (e : Expression) (n : Nat) : (e.upTo n).actions = e.actions.take n := by
  obtain ⟨root, assignments⟩ := e
  cases assignments with
  | none => exact List.take_nil.symm
  | some as => rfl

theorem apply_of_matches (h : e.evaluateBounded ctx = .ok true) :
    e.apply ctx = (.ok true, (e.actions.foldl Context.assign ctx).captures) := by
  rw [apply, h]

theorem sets_iff (h : e.evaluateBounded ctx = .ok true) :
    e.Sets ctx i t v ↔ ctx.Sets e.actions i t v := by
  have hcaptured : e.capturedBy ctx i = ((e.actions.take i).foldl Context.assign ctx).captures := by
    have hfirst : (e.upTo i).evaluateBounded ctx = .ok true := h
    rw [capturedBy, apply_of_matches hfirst, actions_upTo]
  refine exists_congr fun src => and_congr_right fun _ => ?_
  rw [hcaptured, ← Context.resolver_assignAll ctx (e.actions.take i), Context.gives_iff]

/-- Unless the condition is evaluated and matches, its outcome is all there is. If it matches, each
target has what the last assignment gave it whose source had a value by then, and what had been
captured before if there is no such assignment. -/
theorem apply_lastAssignment (e : Expression) (ctx : Context) :
    (e.evaluateBounded ctx ≠ .ok true → e.apply ctx = (e.evaluateBounded ctx, ctx.captures)) ∧
    (e.evaluateBounded ctx = .ok true → (e.apply ctx).1 = .ok true ∧ ∀ t v,
      (e.apply ctx).2 t = some v ↔
        (∃ i, e.Sets ctx i t v ∧ ∀ j w, i < j → ¬e.Sets ctx j t w) ∨
          (∀ i w, ¬e.Sets ctx i t w) ∧ ctx.captures t = some v) := by
  refine ⟨fun h => ?_, fun h => ?_⟩
  · unfold apply
    split
    · rename_i hok
      exact absurd hok h
    · rfl
  · rw [apply_of_matches h]
    refine ⟨rfl, fun t v => ?_⟩
    simp only [sets_iff h]
    exact Context.captures_assignAll

/-- A format is taken from what has just been captured; the query that is asked for it after that
does not have it. Behind a condition that fails, the format captured earlier stays. -/
theorem apply_lastAssignment_chained :
    let ctx : Context :=
      { resolver := { static := fun _ => some "tv", dynamic := fun _ _ => none }
        captures := Captures.empty.record .format "dash" }
    let e : Expression :=
      { root := none
        assignments := some [⟨.videoCodec, .literal "av1"⟩,
          ⟨.format, .field (.static "Preferred_Video_Codec")⟩,
          ⟨.format, .field (.dynamic .query "format")⟩] }
    let e' : Expression := { e with root := some (.leaf ⟨.static "host", .equals, "pc", false⟩) }
    e.evaluateBounded ctx = .ok true ∧ (e.apply ctx).2 .format = some "av1" ∧
      (∃ i, e.Sets ctx i .format "av1" ∧ ∀ j w, i < j → ¬e.Sets ctx j .format w) ∧
      e'.evaluateBounded ctx = .ok false ∧ e'.apply ctx = (.ok false, ctx.captures) := by
  intro ctx e e'
  have hmatches : e.evaluateBounded ctx = .ok true := rfl
  have hfails : e'.evaluateBounded ctx = .ok false := by decide
  have hformat : (e.apply ctx).2 .format = some "av1" := by decide
  refine ⟨hmatches, hformat, ?_, hfails, ?_⟩
  · rcases (((apply_lastAssignment e ctx).2 hmatches).2 .format "av1").1 hformat with h | ⟨-, hold⟩
    · exact h
    · exact absurd hold (by decide)
  · rw [(apply_lastAssignment e' ctx).1 (by rw [hfails]; decide), hfails]

end Expression

end StreamPolicy
