import StreamPolicy.Proofs.Expression.Depth
import StreamPolicy.Proofs.Trial

/-!
# Which rule an attribute comes from

Detection fills five attributes in one pass over the rules and stops when none is open. Each of them
is what the first rule that matches and supplies it says (`first?`), as if the others were not
there, and no rule behind the stop (`reach`) could have changed any.
-/

namespace StreamPolicy

/-! ## What a rule says -/

namespace Rule

variable {α : Type}

/-- The condition of `r`, if it is enabled and parses. -/
def condition? (r : Rule α) : Option Expression :=
  if r.enabled then (Expression.parse r.expression).toOption else none

/-- Whether `r` is enabled, parses and matches `request`. -/
def matchesRequest (request : Request) (r : Rule α) : Bool :=
  r.condition?.any (·.evaluate request.context)

/-- What the assignments of `r` capture from `request`. -/
def captured (request : Request) (r : Rule α) : Captures :=
  (((r.condition?.map Expression.actions).getD []).foldl Context.assign request.context).captures

/-- The value that `r` has for an attribute: what it captures for `target`, if `read` takes that,
and else its `own`. -/
def value? {ε β : Type} (target : Target) (read : String → Except ε β)
    (own : ClientProfile → Option β) (request : Request) (r : ClientRule) : Option β :=
  match r.captured request target with
  | none => own r.attributes
  | some raw =>
    match read raw with
    | .error _ => own r.attributes
    | .ok v => some v

theorem trial_eq (request : Request) (r : Rule α) :
    r.trial request =
      match r.condition? with
      | none => .skipped
      | some e => if e.evaluate request.context then .matched (r.captured request) else .missed := by
  unfold trial captured condition?
  cases r.enabled with
  | false => rfl
  | true =>
    cases hp : Expression.parse r.expression with
    | error err => simp [trialOf, Except.toOption]
    | ok e =>
      simp only [trialOf, Expression.apply, Expression.evaluateBounded_eq hp, if_true,
        Except.toOption]
      cases e.evaluate request.context <;> rfl

end Rule

namespace Detection

/-! ## All rules at once -/

def matching (request : Request) (rules : List ClientRule) : List ClientRule :=
  rules.filter (·.matchesRequest request)

/-- The first value that the rules which match have for an attribute. -/
def first? {ε β : Type} (target : Target) (read : String → Except ε β)
    (own : ClientProfile → Option β) (request : Request) (rules : List ClientRule) : Option β :=
  (matching request rules).findSome? (Rule.value? target read own request)

/-- What the rules supply, each attribute on its own. -/
def supplied (request : Request) (rules : List ClientRule) : ClientProfile where
  videoCodec := first? .videoCodec MediaKind.parse (·.videoCodec) request rules
  audioCodec := first? .audioCodec MediaKind.parse (·.audioCodec) request rules
  fmp4 := first? .supportsFmp4 parseFlag (·.fmp4) request rules
  mpegts := first? .supportsMpegts parseFlag (·.mpegts) request rules
  format := first? .format MediaKind.parse (·.format) request rules

/-- How many rules it takes until all attributes are supplied; all rules if that never happens. -/
def reach (request : Request) (rules : List ClientRule) : Nat :=
  ((List.range rules.length).find? fun n => (supplied request (rules.take n)).isComplete).getD
    rules.length

/-- How far detection has come behind some rules, said without the loop. -/
def summary (request : Request) (rules : List ClientRule) : Progress where
  profile := supplied request rules
  matchedRule := (matching request rules).head?.map Rule.ref
  evaluated := rules.countP fun r => r.condition?.isSome

/-! ## One rule more -/

theorem valid?_orElse {ε β : Type} (target : Target) (read : String → Except ε β)
    (own : ClientProfile → Option β) (request : Request) (r : ClientRule) :
    ((r.captured request).valid? target read <|> own r.attributes) =
      r.value? target read own request := by
  unfold Captures.valid? Rule.value?
  cases r.captured request target with
  | none => rfl
  | some raw => cases h : read raw <;> simp [h, Except.toOption]

section Append

variable {request : Request} {seen : List ClientRule} {r : ClientRule}

theorem matching_append_of_matches (h : r.matchesRequest request = true) :
    matching request (seen ++ [r]) = matching request seen ++ [r] := by
  simp [matching, h]

theorem matching_append_of_not (h : r.matchesRequest request = false) :
    matching request (seen ++ [r]) = matching request seen := by
  simp [matching, h]

theorem first?_append {ε β : Type} (target : Target) (read : String → Except ε β)
    (own : ClientProfile → Option β) (h : r.matchesRequest request = true) :
    first? target read own request (seen ++ [r]) =
      (first? target read own request seen <|>
        ((r.captured request).valid? target read <|> own r.attributes)) := by
  rw [first?, matching_append_of_matches h, List.findSome?_append, valid?_orElse, first?]
  cases (matching request seen).findSome? (Rule.value? target read own request) with
  | none => simp
  | some v => rfl

theorem supplied_append (h : r.matchesRequest request = true) :
    supplied request (seen ++ [r]) =
      (supplied request seen).orElse (r.attributes.supplied (r.captured request)) := by
  simp only [supplied, first?_append _ _ _ h]
  rfl

theorem supplied_append_of_not (h : r.matchesRequest request = false) :
    supplied request (seen ++ [r]) = supplied request seen := by
  simp only [supplied, first?, matching_append_of_not h]

/-- Behind one rule more, detection has come as much further as trying the rule takes it. -/
theorem summary_append :
    summary request (seen ++ [r]) =
      match r.trial request with
      | .skipped => summary request seen
      | .missed => { summary request seen with evaluated := (summary request seen).evaluated + 1 }
      | .matched captures => (summary request seen).add r captures := by
  cases hc : r.condition? with
  | none =>
    have hm : r.matchesRequest request = false := by rw [Rule.matchesRequest, hc]; rfl
    have ht : r.trial request = .skipped := by rw [Rule.trial_eq, hc]
    simp [ht, summary, supplied_append_of_not hm, matching_append_of_not hm, hc]
  | some e =>
    have hm : r.matchesRequest request = e.evaluate request.context := by
      rw [Rule.matchesRequest, hc]
      rfl
    cases he : e.evaluate request.context with
    | false =>
      have ht : r.trial request = .missed := by simp [Rule.trial_eq, hc, he]
      rw [he] at hm
      simp [ht, summary, supplied_append_of_not hm, matching_append_of_not hm, hc]
    | true =>
      have ht : r.trial request = .matched (r.captured request) := by
        simp [Rule.trial_eq, hc, he]
      rw [he] at hm
      simp only [ht, summary, Progress.add, supplied_append hm, matching_append_of_matches hm]
      cases matching request seen <;> simp [hc]

end Append

/-! ## The whole run -/

/-- The rules supply all attributes. -/
def Complete (request : Request) (rules : List ClientRule) : Prop :=
  (supplied request rules).isComplete = true

instance (request : Request) (rules : List ClientRule) : Decidable (Complete request rules) :=
  inferInstanceAs (Decidable (_ = true))

/-- The rule `r` ends the run if no attribute is open behind it. -/
theorem progress_cons {request : Request} {seen : List ClientRule} (r : ClientRule)
    (rest : List ClientRule) (h : ¬Complete request seen) :
    progress request (r :: rest) (summary request seen) =
      if Complete request (seen ++ [r]) then summary request (seen ++ [r])
      else progress request rest (summary request (seen ++ [r])) := by
  have hs : summary request (seen ++ [r]) = _ := summary_append
  -- Only a rule that matches can supply what was open before.
  have hopen : (summary request (seen ++ [r])).profile = (summary request seen).profile →
      ¬Complete request (seen ++ [r]) := by
    intro heq
    show ¬(summary request (seen ++ [r])).profile.isComplete = true
    rw [heq]
    exact h
  rw [progress]
  cases ht : r.trial request with
  | skipped =>
    simp only [ht] at hs
    rw [if_neg (hopen (by rw [hs])), hs]
  | missed =>
    simp only [ht] at hs
    rw [if_neg (hopen (by rw [hs])), hs]
  | matched captures =>
    simp only [ht] at hs
    simp only [← hs]
    rfl

/-- Detection comes as far as the fewest rules that supply all attributes, or else all rules. -/
theorem progress_summary {request : Request} (rest : List ClientRule) {seen : List ClientRule}
    (h : ¬Complete request seen) :
    ∃ n ≤ rest.length, progress request rest (summary request seen) =
        summary request (seen ++ rest.take n) ∧
      (∀ m < n, ¬Complete request (seen ++ rest.take m)) ∧
      (n < rest.length → Complete request (seen ++ rest.take n)) := by
  induction rest generalizing seen with
  | nil => exact ⟨0, Nat.le_refl 0, by simp [progress], nofun, nofun⟩
  | cons r rest ih =>
    have happ : ∀ m, seen ++ (r :: rest).take (m + 1) = seen ++ [r] ++ rest.take m := by
      intro m
      rw [List.take_succ_cons, List.append_assoc]
      rfl
    have hnone : ¬Complete request (seen ++ (r :: rest).take 0) := by
      rwa [List.take_zero, List.append_nil]
    rw [progress_cons r rest h]
    by_cases hc : Complete request (seen ++ [r])
    · have hone : seen ++ (r :: rest).take 1 = seen ++ [r] := rfl
      refine ⟨1, Nat.le_add_left 1 _, ?_, ?_, ?_⟩
      · rw [if_pos hc, hone]
      · intro m hm
        obtain rfl := Nat.lt_one_iff.1 hm
        exact hnone
      · intro _
        rwa [hone]
    · obtain ⟨n, hn, hrun, hbefore, hat⟩ := ih hc
      refine ⟨n + 1, Nat.succ_le_succ hn, ?_, ?_, ?_⟩
      · rw [if_neg hc, hrun, happ]
      · intro m hm
        cases m with
        | zero => exact hnone
        | succ m =>
          rw [happ]
          exact hbefore m (Nat.lt_of_succ_lt_succ hm)
      · intro hlt
        rw [happ]
        exact hat (Nat.lt_of_succ_lt_succ hlt)

theorem progress_eq (request : Request) (rules : List ClientRule) :
    progress request rules {} = summary request (rules.take (reach request rules)) ∧
      (reach request rules < rules.length → Complete request (rules.take (reach request rules))) := by
  have hnil : ¬Complete request [] := nofun
  obtain ⟨n, hn, hrun, hbefore, hat⟩ := progress_summary rules hnil
  have hreach : reach request rules = n := by
    have hopen : ∀ m < n, (!(supplied request (rules.take m)).isComplete) = true := by
      intro m hm
      simpa [Complete] using hbefore m hm
    unfold reach
    by_cases hlt : n < rules.length
    · have hall : (supplied request (rules.take n)).isComplete = true := hat hlt
      rw [List.find?_range_eq_some.2 ⟨hall, List.mem_range.2 hlt, hopen⟩]
      rfl
    · obtain rfl : n = rules.length := Nat.le_antisymm hn (Nat.not_lt.1 hlt)
      rw [List.find?_range_eq_none.2 hopen]
      rfl
  rw [hreach]
  exact ⟨hrun, hat⟩

/-! ## What detection says -/

theorem matching_eq (request : Request) (rules : List ClientRule) (n : Nat) :
    matching request rules =
      matching request (rules.take n) ++ matching request (rules.drop n) := by
  rw [matching, matching, matching, ← List.filter_append, List.take_append_drop]

theorem first?_take {ε β : Type} {target : Target} {read : String → Except ε β}
    {own : ClientProfile → Option β} {request : Request} {rules : List ClientRule} {n : Nat}
    (h : (first? target read own request (rules.take n)).isSome = true) :
    first? target read own request (rules.take n) = first? target read own request rules := by
  obtain ⟨v, hv⟩ := Option.isSome_iff_exists.1 h
  rw [hv]
  rw [first?] at hv
  rw [first?, matching_eq request rules n, List.findSome?_append, hv]
  rfl

/-- Rules behind some that supply all attributes change none. -/
theorem supplied_take {request : Request} {rules : List ClientRule} {n : Nat}
    (h : Complete request (rules.take n)) :
    supplied request (rules.take n) = supplied request rules := by
  simp only [Complete, supplied, ClientProfile.isComplete, Bool.and_eq_true] at h
  obtain ⟨⟨⟨⟨hv, ha⟩, hf⟩, hm⟩, ho⟩ := h
  simp only [supplied, first?_take hv, first?_take ha, first?_take hf, first?_take hm,
    first?_take ho]

theorem head?_matching_take {request : Request} {rules : List ClientRule} {n : Nat}
    (h : Complete request (rules.take n)) :
    (matching request (rules.take n)).head? = (matching request rules).head? := by
  cases hm : matching request (rules.take n) with
  | nil =>
    simp [Complete, supplied, first?, hm, ClientProfile.isComplete] at h
  | cons r rs =>
    rw [matching_eq request rules n, hm]
    rfl

/-- Every attribute of `d` is what the first rule that matches and has a value for it says. -/
structure FromFirst (request : Request) (rules : List ClientRule) (d : Detection) : Prop where
  videoCodec : d.videoCodec =
    (first? .videoCodec MediaKind.parse (·.videoCodec) request rules).getD .h264
  audioCodec : d.audioCodec =
    (first? .audioCodec MediaKind.parse (·.audioCodec) request rules).getD .aac
  fmp4 : d.fmp4 = (first? .supportsFmp4 parseFlag (·.fmp4) request rules).getD true
  mpegts : d.mpegts = (first? .supportsMpegts parseFlag (·.mpegts) request rules).getD true
  format : d.format = first? .format MediaKind.parse (·.format) request rules
  matchedRule : d.matchedRule = (matching request rules).head?.map Rule.ref
  source : d.source = .rule ↔ matching request rules ≠ []
  evaluated : d.evaluated =
    (rules.take (reach request rules)).countP fun r => r.condition?.isSome

theorem detect_fromFirst (rules : List ClientRule) (request : Request) {cache : ParseCache}
    (h : cache.Faithful) : FromFirst request rules (detect rules request cache).1 := by
  rw [detect_fst rules request h]
  obtain ⟨hrun, hat⟩ := progress_eq request rules
  have hall : supplied request (rules.take (reach request rules)) = supplied request rules ∧
      (matching request (rules.take (reach request rules))).head? =
        (matching request rules).head? := by
    by_cases hlt : reach request rules < rules.length
    · exact ⟨supplied_take (hat hlt), head?_matching_take (hat hlt)⟩
    · rw [List.take_of_length_le (Nat.not_lt.1 hlt)]
      exact ⟨rfl, rfl⟩
  rw [hrun, summary, hall.1, hall.2]
  refine ⟨rfl, rfl, rfl, rfl, rfl, rfl, ?_, rfl⟩
  cases matching request rules <;> simp [Progress.finish]

/-- Two rules that match every request: the codec is from the first, which says nothing of fMP4, and
that there is none of it from the second. -/
theorem detect_fromFirst_two :
    let wide : ClientRule :=
      { id := ⟨2⟩, name := "wide", createdAt := .epoch, updatedAt := .epoch,
        attributes := { videoCodec := some .h265, fmp4 := some false } }
    let narrow := { wide with id := ⟨1⟩, name := "narrow", attributes := { videoCodec := some .av1 } }
    let cache := (ParseCache.empty.parse "").2
    let d := (detect [narrow, wide] {} cache).1
    cache.Faithful ∧ FromFirst {} [narrow, wide] d ∧
      d = { videoCodec := .av1, audioCodec := .aac, fmp4 := false, mpegts := true, format := none,
            matchedRule := some narrow.ref, source := .rule, evaluated := 2 } := by
  intro wide narrow cache d
  have hcache : cache.Faithful := ParseCache.faithful_empty.parse_snd ""
  exact ⟨hcache, detect_fromFirst [narrow, wide] {} hcache, by decide +kernel⟩

end Detection

end StreamPolicy
