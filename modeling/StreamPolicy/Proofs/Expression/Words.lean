import StreamPolicy.Proofs.Expression.Grammar

/-!
# What single tokens stand for

The parser looks names up in lists with `byName`; the grammar says by `Spells` how they are written.
For every token, both give the same keyword, field, operator, value, target and source:
`keyword?_eq_some_iff`, `field_eq_ok_iff` and so on. What `Quoted.resolve` and `Text.trim` compute
is what `Resolves` and `Padded` say.
-/

namespace StreamPolicy

open Grammar

theorem Text.asciiLower_ofList (w : List Char) :
    Text.asciiLower (String.ofList w) = String.ofList (w.map Char.toLower) := by
  simp [Text.asciiLower]

/-- Names in small letters that differ are told apart in any letter case. -/
theorem byName_eq_some_iff {α : Type} {all : List α} {name : α → String}
    (hlow : ∀ a ∈ all, Text.asciiLower (name a) = name a)
    (hinj : ∀ a ∈ all, ∀ b ∈ all, name a = name b → a = b) {w : List Char} {a : α} :
    byName all name (String.ofList w) = some a ↔ a ∈ all ∧ Spells w (name a) := by
  have hsame : ∀ b ∈ all,
      Text.sameIgnoringCase (name b) (String.ofList w) = true ↔ Spells w (name b) := by
    intro b hb
    rw [Text.sameIgnoringCase, hlow b hb, Text.asciiLower_ofList, beq_iff_eq, Spells,
      ← String.toList_inj, String.toList_ofList, eq_comm]
  unfold byName
  constructor
  · intro h
    have hmem := List.mem_of_find?_eq_some h
    have hsome := List.find?_some h
    exact ⟨hmem, (hsame a hmem).1 hsome⟩
  · rintro ⟨hmem, hs⟩
    cases hf : all.find? fun b => Text.sameIgnoringCase (name b) (String.ofList w) with
    | none => exact absurd ((hsame a hmem).2 hs) (List.find?_eq_none.1 hf a hmem)
    | some b =>
      have hb := List.mem_of_find?_eq_some hf
      have hsome := List.find?_some hf
      have hs' : Spells w (name b) := (hsame b hb).1 hsome
      rw [hinj b hb a hmem (String.toList_inj.1 (hs'.symm.trans hs))]

theorem Target.ofName?_eq_some_iff {w : List Char} {t : Target} :
    ofName? (String.ofList w) = some t ↔ Spells w t.name := by
  rw [ofName?, byName_eq_some_iff (by decide) (by decide)]
  exact and_iff_right (by cases t <;> decide)

theorem Operator.takesPattern_iff {op : Operator} :
    op.takesPattern = true ↔ op = .matchesPattern ∨ op = .notMatchesPattern := by
  cases op <;> decide

/-! ## Escapes and blanks -/

theorem resolves_iff {cs ds : List Char} : Resolves cs ds ↔ Quoted.resolve cs = ds := by
  constructor
  · intro h
    induction h with
    | nil => rfl
    | plain hc _ ih =>
      rw [Quoted.resolve, ih]
      exact fun _ _ h => absurd h hc
    | lineFeed _ ih => rw [Quoted.resolve, ih]; rfl
    | tab _ ih => rw [Quoted.resolve, ih]; rfl
    | escaped hn ht _ ih =>
      rw [Quoted.resolve, ih, Quoted.unescape]
      · exact hn
      · exact ht
    | last => rfl
  · rintro rfl
    fun_induction Quoted.resolve cs with
    | case1 => exact .nil
    | case2 c cs ih =>
      unfold Quoted.unescape
      split
      · exact .lineFeed ih
      · exact .tab ih
      · rename_i hn ht
        exact .escaped hn ht ih
    | case3 c cs hc ih =>
      by_cases hback : c = '\\'
      · -- A backslash that nothing follows.
        cases cs with
        | nil => exact hback ▸ .last
        | cons d cs => exact (hc d cs hback rfl).elim
      · exact .plain hback ih

theorem padded_iff {name cs : List Char} (hne : name ≠ [])
    (hfirst : name.head?.any Text.isBlank = false)
    (hlast : name.getLast?.any Text.isBlank = false) : Padded name cs ↔ Text.trim cs = name := by
  constructor
  · rintro ⟨before, after, rfl, h⟩
    exact Text.trim_append hne hfirst hlast h
  · rintro rfl
    exact Text.exists_trim cs

theorem padded_scope {s : Scope} {cs : List Char} :
    Padded s.name.toList cs ↔ Text.trim cs = s.name.toList := by
  apply padded_iff <;> cases s <;> decide

namespace Parser

theorem ofWord?_eq : Keyword.ofWord? = byName [.and, .or, .not, .set] spelling := rfl

theorem keyword?_eq_some_iff {t : Token} {k : Keyword} :
    keyword? t = some k ↔ IsKeyword k t := by
  have hword : ∀ w, Keyword.ofWord? (String.ofList w) = some k ↔ Spells w (spelling k) := by
    intro w
    rw [ofWord?_eq, byName_eq_some_iff (by decide) (by decide)]
    exact and_iff_right (by cases k <;> decide)
  constructor
  · intro h
    unfold keyword? at h
    split at h
    · cases h; exact .and
    · cases h; exact .or
    · cases h; exact .not
    · exact .word ((hword _).1 h)
    · cases h
  · rintro (_ | _ | _ | h)
    · rfl
    · rfl
    · rfl
    · exact (hword _).2 h

theorem isKeyword_unique {j k : Keyword} {t : Token} (hj : IsKeyword j t) (hk : IsKeyword k t) :
    j = k := by
  have hj := keyword?_eq_some_iff.2 hj
  rw [keyword?_eq_some_iff.2 hk] at hj
  injection hj with hj
  exact hj.symm

theorem isPlain_iff {w : List Char} : IsPlain w ↔ keyword? (.word w) = none := by
  constructor
  · intro h
    exact Option.eq_none_iff_forall_ne_some.2 fun k hk => h k (keyword?_eq_some_iff.1 hk)
  · intro h k hk
    rw [keyword?_eq_some_iff.2 hk] at h
    cases h

theorem scope_ofName?_eq_some_iff {w : List Char} {s : Scope} :
    Scope.ofName? (String.ofList w) = some s ↔ w = s.name.toList := by
  have hw : ∀ s : Scope, (s.name == String.ofList w) = true ↔ w = s.name.toList := by
    intro s
    rw [beq_iff_eq, ← String.toList_inj, String.toList_ofList, eq_comm]
  constructor
  · intro h
    have hsome := List.find?_some h
    exact (hw s).1 hsome
  · rintro rfl
    cases s <;> decide

theorem operator_eq_ok_iff {l : Lexeme} {op : Operator} :
    operator l = .ok op ↔ IsOperator l.token op := by
  have hword : ∀ w, Operator.ofName? (String.ofList w) = some op ↔ Spells w op.name := by
    intro w
    rw [Operator.ofName?, byName_eq_some_iff (by decide) (by decide)]
    exact and_iff_right (by cases op <;> decide)
  obtain ⟨t, start⟩ := l
  constructor
  · intro h
    unfold operator at h
    split at h
    · cases h; rename_i ht; exact ht ▸ .equal
    · cases h; rename_i ht; exact ht ▸ .notEqual
    · cases h; rename_i ht; exact ht ▸ .like
    · cases h; rename_i ht; exact ht ▸ .notLike
    · rename_i w ht
      split at h
      · rename_i hn
        cases h
        exact ht ▸ .word ((hword w).1 hn)
      · cases h
    · cases h
    · cases h
  · rintro (_ | _ | _ | _ | h)
    · rfl
    · rfl
    · rfl
    · rfl
    · simp only [operator, (hword _).2 h]

theorem target_eq_ok_iff {l : Lexeme} {t : Target} : target l = .ok t ↔ IsTarget l.token t := by
  obtain ⟨tok, start⟩ := l
  constructor
  · intro h
    unfold target at h
    split at h
    · rename_i w ht
      split at h
      · rename_i hn
        cases h
        exact ht ▸ .word (Target.ofName?_eq_some_iff.1 hn)
      · cases h
    · cases h
  · rintro ⟨h⟩
    simp only [target, Target.ofName?_eq_some_iff.2 h]

theorem literal?_eq_some_iff {t : Token} {s : String} : literal? t = some s ↔ IsValue t s := by
  constructor
  · intro h
    unfold literal? at h
    split at h
    · cases h
      exact .literal (.quoted _ (resolves_iff.2 rfl))
    · split at h
      · rename_i w hw
        cases h
        exact .word (isPlain_iff.2 (Option.isNone_iff_eq_none.1 hw))
      · cases h
    · cases h
  · rintro (⟨_, h⟩ | h)
    · rw [literal?, resolves_iff.1 h]
    · simp only [literal?, isPlain_iff.1 h, Option.isNone_none, if_true]

/-- A field token begins a condition, which no keyword does. -/
theorem field_eq_ok_iff {l : Lexeme} {f : Field} :
    beginsCondition l.token = true ∧ field l = .ok f ↔ IsField l.token f := by
  obtain ⟨t, start⟩ := l
  constructor
  · rintro ⟨hb, h⟩
    unfold field at h
    split at h
    · rename_i w ht
      cases h
      simp only at ht
      subst ht
      exact .static (isPlain_iff.2 (Option.isNone_iff_eq_none.1 hb))
    · rename_i scope key ht
      split at h
      · rename_i s hs
        cases h
        simp only at ht
        subst ht
        exact .dynamic (padded_scope.2 (scope_ofName?_eq_some_iff.1 hs))
      · cases h
    · cases h
  · rintro (h | h)
    · exact ⟨by simp only [beginsCondition, isPlain_iff.1 h, Option.isNone_none], rfl⟩
    · exact ⟨rfl, by simp only [field, scope_ofName?_eq_some_iff.2 (padded_scope.1 h)]⟩

theorem source_eq_ok_iff {l : Lexeme} {v : Source} : source l = .ok v ↔ IsSource l.token v := by
  obtain ⟨t, start⟩ := l
  constructor
  · intro h
    unfold source at h
    split at h
    · rename_i ht
      cases h
      simp only at ht
      subst ht
      exact .literal (.quoted _ (resolves_iff.2 rfl))
    · split at h
      · rename_i hb
        cases hf : field ⟨t, start⟩ with
        | error e => rw [hf] at h; cases h
        | ok f =>
          rw [hf] at h
          cases h
          exact .field (field_eq_ok_iff.1 ⟨hb, hf⟩)
      · cases h
  · rintro (⟨_, h⟩ | h)
    · simp only [source, resolves_iff.1 h]
    · have hl : IsField (Lexeme.mk t start).token _ := h
      obtain ⟨hb, hf⟩ := field_eq_ok_iff.2 hl
      cases h with
      | static _ => simp only [source, hb, if_true, hf]; rfl
      | dynamic _ => simp only [source, hb, if_true, hf]; rfl

theorem make?_eq_some_iff {f : Field} {op : Operator} {v : String} {c : Condition} :
    Condition.make? f op v = some c ↔
      (op = .matchesPattern ∨ op = .notMatchesPattern → (Pattern.compile? v).isSome = true) ∧
        c = { field := f, op, value := v } := by
  rw [← Operator.takesPattern_iff]
  unfold Condition.make?
  cases op.takesPattern <;> cases Pattern.compile? v <;> simp [eq_comm]

end Parser

end StreamPolicy
