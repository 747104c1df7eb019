import StreamPolicy.Proofs.Service.Change

/-!
# Refused operations

Why an operation is refused, and with which error (`Refuses`). Whatever the reason is, the stored
rules, the snapshot and the cache stay as they are, also where several rules would have been
changed.
-/

namespace StreamPolicy

variable {α κ β : Type} [RuleKind α]

/-! ## Reasons -/

namespace Store

/-- Why `r` cannot be stored beside the others. Of several reasons the first one counts. -/
inductive Rejects (s : Store α) (r : Rule α) : RuleError → Prop
  | blank (hname : Text.isBlankText r.name.toList = true) :
    Rejects s r (.blankName (RuleKind.kind α))
  | unparsable {e : ParseError} (hname : Text.isBlankText r.name.toList = false)
    (hparse : Expression.parse r.expression = .error e) :
    Rejects s r (.invalidRule (RuleKind.kind α) r.name e)
  | nameTaken {other : Rule α} (hname : Text.isBlankText r.name.toList = false)
    (hparses : ∃ e, Expression.parse r.expression = .ok e) (hother : other ∈ s.rules)
    (hsame : other.name = r.name) (hid : other.id ≠ r.id) :
    Rejects s r (.nameTaken (RuleKind.kind α) r.name)

/-- Why `r` cannot be added. Its identifier is looked at last. -/
inductive RejectsNew (s : Store α) (r : Rule α) : RuleError → Prop
  | rejected {e : RuleError} (h : s.Rejects r e) : RejectsNew s r e
  | idTaken {old : Rule α} (h : s.Admits r) (hold : s.get? r.id = some old) :
    RejectsNew s r (.idTaken (RuleKind.kind α) r.id)

end Store

namespace Service

/-- Why an operation on the rules is refused. Nothing else is ever refused. -/
inductive Refuses (s : Service α) : Op α κ → RuleError → Prop
  /-- A rule that is created is none of the system, whatever it says. -/
  | create {r : Rule α} {e : RuleError} (h : s.store.RejectsNew { r with isSystem := false } e) :
    Refuses s (.create r) e
  | seed {r : Rule α} {e : RuleError} (h : s.store.RejectsNew r e) : Refuses s (.seed r) e
  | updateUnknown {now : Time} {r : Rule α} (h : s.store.get? r.id = none) :
    Refuses s (.update now r) (.unknownId (RuleKind.kind α) r.id)
  | updateFixed {now : Time} {r old : Rule α} (hold : s.store.get? r.id = some old)
    (hsys : old.isSystem = true) (h : old.definition ≠ r.definition) :
    Refuses s (.update now r) (.fixedDefinition (RuleKind.kind α) old.name)
  | update {now : Time} {r old : Rule α} {e : RuleError} (hold : s.store.get? r.id = some old)
    (hfixed : old.isSystem = true → old.definition = r.definition) (h : s.store.Rejects r e) :
    Refuses s (.update now r) e
  | deleteUnknown {id : Uuid} (h : s.store.get? id = none) :
    Refuses s (.delete id) (.unknownId (RuleKind.kind α) id)
  | deleteSystem {id : Uuid} {old : Rule α} (hold : s.store.get? id = some old)
    (hsys : old.isSystem = true) : Refuses s (.delete id) (.undeletable (RuleKind.kind α) old.name)
  | setEnabled {now : Time} {id : Uuid} {enabled : Bool} (h : s.store.get? id = none) :
    Refuses s (.setEnabled now id enabled) (.unknownId (RuleKind.kind α) id)
  /-- The first identifier is reported that no rule has. -/
  | reorder {now : Time} {priorities before after : List (Uuid × Int32)} {p : Uuid × Int32}
    (hsplit : priorities = before ++ p :: after)
    (hbefore : ∀ q ∈ before, ∃ r, s.store.get? q.1 = some r) (h : s.store.get? p.1 = none) :
    Refuses s (.reorder now priorities) (.unknownId (RuleKind.kind α) p.1)

variable {s t : Service α} {r : Rule α} {e : RuleError}

theorem check_eq_error_iff : s.check r = .error e ↔ s.store.Rejects r e := by
  constructor
  · intro h
    unfold check checkRule at h
    cases hname : Text.isBlankText r.name.toList with
    | true =>
      rw [hname] at h
      cases h
      exact .blank hname
    | false =>
      rw [hname] at h
      cases hparse : Expression.parse r.expression with
      | error err =>
        rw [hparse] at h
        cases h
        exact .unparsable hname hparse
      | ok tree =>
        simp only [hparse, checkName, Bool.false_eq_true, if_false] at h
        split at h
        · rename_i htaken
          obtain ⟨other, hother, hsame⟩ := List.any_eq_true.1 htaken
          simp only [Bool.and_eq_true, beq_iff_eq, bne_iff_ne] at hsame
          cases h
          exact .nameTaken hname ⟨tree, hparse⟩ hother hsame.1 hsame.2
        · cases h
  · intro h
    cases h with
    | blank hname => simp only [check, checkRule, hname, if_true]
    | unparsable hname hparse => simp [check, checkRule, hname, hparse]
    | @nameTaken other hname hparses hother hsame hid =>
      obtain ⟨tree, hparse⟩ := hparses
      have htaken : (s.store.rules.any fun t => t.name == r.name && t.id != r.id) = true :=
        List.any_eq_true.2 ⟨other, hother, by simp [hsame, hid]⟩
      simp [check, checkRule, hname, hparse, checkName, htaken]

omit [RuleKind α] in
theorem eq_error_of_ofRule {p : Except RuleError (Rule α) × Service α}
    (h : p.map Reply.ofRule id = ((.refused e, t) : Reply α β × Service α)) : p = (.error e, t) := by
  obtain ⟨_ | _, s⟩ := p
  · cases h
    rfl
  · cases h

omit [RuleKind α] in
theorem eq_error_of_ofUnit {p : Except RuleError Unit × Service α}
    (h : p.map Reply.ofUnit id = ((.refused e, t) : Reply α β × Service α)) : p = (.error e, t) := by
  obtain ⟨_ | _, s⟩ := p
  · cases h
    rfl
  · cases h

/-! ## Refused for a reason -/

theorem rejectsNew_of_seed (h : s.seed r = (.error e, t)) :
    s.store.RejectsNew r e ∧ t = s := by
  unfold seed at h
  cases hcheck : s.check r with
  | error err =>
    rw [hcheck] at h
    cases h
    exact ⟨.rejected (check_eq_error_iff.1 hcheck), rfl⟩
  | ok _ =>
    rw [hcheck] at h
    simp only [Store.create] at h
    cases hget : s.store.get? r.id with
    | some old =>
      rw [hget] at h
      cases h
      exact ⟨.idTaken (check_eq_ok_iff.1 hcheck) hget, rfl⟩
    | none =>
      rw [hget] at h
      cases h

theorem rejectsNew_of_create (h : s.create r = (.error e, t)) :
    s.store.RejectsNew { r with isSystem := false } e ∧ t = s := by
  unfold create at h
  cases hseed : s.seed { r with isSystem := false } with
  | mk result s' =>
    rw [hseed] at h
    cases result with
    | error err =>
      cases h
      exact rejectsNew_of_seed hseed
    | ok new => cases h

theorem replace_ne_error {old : Rule α} (h : s.store.get? r.id = some old) :
    s.replace r ≠ (.error e, t) := by
  rw [s.replace_of_get? h]
  rintro ⟨⟩

theorem refuses_of_update [DecidableEq α] {now : Time} (h : s.update now r = (.error e, t)) :
    s.Refuses (.update now r : Op α κ) e ∧ t = s := by
  unfold update at h
  cases hget : s.store.get? r.id with
  | none =>
    simp only [get, Store.get, hget] at h
    cases h
    exact ⟨.updateUnknown hget, rfl⟩
  | some old =>
    simp only [get, Store.get, hget] at h
    by_cases hsys : (old.isSystem && !old.sameDefinition r) = true
    · rw [if_pos hsys] at h
      cases h
      rw [Bool.and_eq_true, Bool.not_eq_true', ← Bool.not_eq_true, Rule.sameDefinition_iff] at hsys
      exact ⟨.updateFixed hget hsys.1 hsys.2, rfl⟩
    · rw [if_neg hsys] at h
      cases hcheck : s.check r with
      | error err =>
        rw [hcheck] at h
        cases h
        refine ⟨.update hget (fun hsystem => ?_) (check_eq_error_iff.1 hcheck), rfl⟩
        exact Rule.sameDefinition_iff.1 (by simpa [hsystem] using hsys)
      | ok _ =>
        rw [hcheck] at h
        exact absurd h (replace_ne_error hget)

theorem refuses_of_delete {id : Uuid} (h : s.delete id = (.error e, t)) :
    s.Refuses (.delete id : Op α κ) e ∧ t = s := by
  unfold delete at h
  cases hget : s.store.get? id with
  | none =>
    simp only [get, Store.get, hget] at h
    cases h
    exact ⟨.deleteUnknown hget, rfl⟩
  | some old =>
    simp only [get, Store.delete, Store.get, hget] at h
    by_cases hsys : old.isSystem = true
    · rw [if_pos hsys] at h
      cases h
      exact ⟨.deleteSystem hget hsys, rfl⟩
    · rw [if_neg hsys] at h
      cases h

theorem refuses_of_setEnabled {now : Time} {id : Uuid} {enabled : Bool}
    (h : s.setEnabled now id enabled = (.error e, t)) :
    s.Refuses (.setEnabled now id enabled : Op α κ) e ∧ t = s := by
  unfold setEnabled at h
  cases hget : s.store.get? id with
  | none =>
    simp only [get, Store.get, hget] at h
    cases h
    exact ⟨.setEnabled hget, rfl⟩
  | some old =>
    simp only [get, Store.get, hget] at h
    have hold : s.store.get? ({ old with enabled, updatedAt := now } : Rule α).id = some old :=
      Store.get?_id hget
    exact absurd h (replace_ne_error hold)

theorem refuses_of_reorder {now : Time} {priorities : List (Uuid × Int32)}
    (h : s.reorder now priorities = (.error e, t)) :
    s.Refuses (.reorder now priorities : Op α κ) e ∧ t = s := by
  rcases s.reprioritized_cases now priorities with
    ⟨before, p, after, hsplit, hbefore, hp⟩ | ⟨rs, hrs, hall⟩
  · rw [reorder, hsplit, reprioritized_of_missing hbefore hp] at h
    cases h
    exact ⟨.reorder hsplit hbefore hp, rfl⟩
  · rw [s.reorder_of_reprioritizes hrs hall] at h
    cases h

/-! ## Reasons to refuse -/

theorem seed_of_rejectsNew (h : s.store.RejectsNew r e) : s.seed r = (.error e, s) := by
  cases h with
  | rejected h => simp only [seed, check_eq_error_iff.2 h]
  | idTaken hadmits hold => simp only [seed, check_eq_ok_iff.2 hadmits, Store.create, hold]

theorem step_of_refuses [DecidableEq α] (consult : Service α → κ → β × Service α) {op : Op α κ}
    (h : s.Refuses op e) : s.step consult op = (.refused e, s) := by
  cases h with
  | create h =>
    simp only [step, create, seed_of_rejectsNew h]
    rfl
  | seed h =>
    simp only [step, seed_of_rejectsNew h]
    rfl
  | updateUnknown hnone =>
    simp only [step, update, get, Store.get, hnone]
    rfl
  | @updateFixed now r old hold hsys hne =>
    have hfixed : old.sameDefinition r = false := by
      rw [← Bool.not_eq_true, Rule.sameDefinition_iff]
      exact hne
    simp only [step, update, get, Store.get, hold, hsys, hfixed, Bool.not_false, Bool.and_self,
      if_true]
    rfl
  | @update now r old e hold hfixed hrejects =>
    have hallowed : ¬(old.isSystem && !old.sameDefinition r) = true := by
      simpa [← Rule.sameDefinition_iff] using hfixed
    simp only [step, update, get, Store.get, hold, if_neg hallowed, check_eq_error_iff.2 hrejects]
    rfl
  | deleteUnknown hnone =>
    simp only [step, delete, get, Store.get, hnone]
    rfl
  | deleteSystem hold hsys =>
    simp only [step, delete, get, Store.get, hold, hsys, if_true]
    rfl
  | setEnabled hnone =>
    simp only [step, setEnabled, get, Store.get, hnone]
    rfl
  | reorder hsplit hbefore hp =>
    simp only [step, reorder, hsplit, reprioritized_of_missing hbefore hp]
    rfl

/-- The operation `op` is refused exactly for one of the reasons, with the error that belongs to it,
and the whole service is then as it was before: what it stores, its snapshot and its cache. -/
theorem step_eq_refused_iff [DecidableEq α] (consult : Service α → κ → β × Service α)
    (s : Service α) (op : Op α κ) (e : RuleError) (t : Service α) :
    s.step consult op = (.refused e, t) ↔ s.Refuses op e ∧ t = s := by
  constructor
  · intro h
    cases op with
    | create r =>
      obtain ⟨hrejects, rfl⟩ := rejectsNew_of_create (eq_error_of_ofRule h)
      exact ⟨.create hrejects, rfl⟩
    | seed r =>
      obtain ⟨hrejects, rfl⟩ := rejectsNew_of_seed (eq_error_of_ofRule h)
      exact ⟨.seed hrejects, rfl⟩
    | update now r => exact refuses_of_update (eq_error_of_ofRule h)
    | delete id => exact refuses_of_delete (eq_error_of_ofUnit h)
    | setEnabled now id enabled => exact refuses_of_setEnabled (eq_error_of_ofRule h)
    | reorder now priorities => exact refuses_of_reorder (eq_error_of_ofUnit h)
    | refresh => cases h
    | clearCache => cases h
    | consult q => cases h
  · rintro ⟨h, rfl⟩
    exact step_of_refuses consult h

end Service

end StreamPolicy
