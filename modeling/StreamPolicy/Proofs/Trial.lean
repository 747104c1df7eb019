import StreamPolicy.Detection
import StreamPolicy.Relay
import StreamPolicy.Proofs.Cache

/-!
# Answers do not depend on the cache

What a rule says about a request is what its parsed condition says (`Rule.trial`). Detection and
relaying with a faithful cache come to the same as the recursions `progress` and `first?`, in which
there is no cache. All they do to a cache is to parse the conditions of rules with it.
-/

namespace StreamPolicy

/-! ## One rule -/

namespace Rule

variable {α : Type} {request : Request} {cache : ParseCache}

/-- What `r` says about `request`, with no cache. -/
def trial (r : Rule α) (request : Request) : Trial :=
  if r.enabled then trialOf request (Expression.parse r.expression) else .skipped

theorem tryOn_fst (r : Rule α) (h : cache.Faithful) :
    (r.tryOn request cache).1 = r.trial request := by
  unfold tryOn trial
  split
  · rw [← h.parse_fst]
  · rfl

/-- What parsing the condition of `r` keeps of a cache, trying `r` keeps. -/
theorem tryOn_keeps {P : ParseCache → Prop} {r : Rule α}
    (hparse : ∀ c, P c → P (c.parse r.expression).2) (h : P cache) :
    P (r.tryOn request cache).2 := by
  unfold tryOn
  split
  · exact hparse cache h
  · exact h

theorem tryOn_snd (r : Rule α) (h : cache.Faithful) : (r.tryOn request cache).2.Faithful :=
  tryOn_keeps (fun _ hc => hc.parse_snd r.expression) h

/-- Trying a rule is its `trial`, in one equation. -/
theorem tryOn_eq (r : Rule α) (request : Request) (h : cache.Faithful) :
    ∃ cache', cache'.Faithful ∧ r.tryOn request cache = (r.trial request, cache') :=
  ⟨_, r.tryOn_snd h, Prod.ext (r.tryOn_fst h) rfl⟩

end Rule

/-! ## Detection -/

namespace Detection

/-- How far detection comes with some rules. -/
def progress (request : Request) : List ClientRule → Progress → Progress
  | [], p => p
  | r :: rest, p =>
    match r.trial request with
    | .skipped => progress request rest p
    | .missed => progress request rest { p with evaluated := p.evaluated + 1 }
    | .matched captures =>
      if (p.add r captures).profile.isComplete then p.add r captures
      else progress request rest (p.add r captures)

theorem run_keeps {P : ParseCache → Prop} {request : Request} {rules : List ClientRule}
    {cache : ParseCache} (hparse : ∀ r ∈ rules, ∀ c, P c → P (c.parse r.expression).2)
    (p : Progress) (h : P cache) : P (run request rules p cache).2 := by
  induction rules generalizing p cache with
  | nil => exact h
  | cons r rest ih =>
    obtain ⟨hr, hrest⟩ := List.forall_mem_cons.1 hparse
    have htried : P (r.tryOn request cache).2 := Rule.tryOn_keeps hr h
    unfold run
    generalize r.tryOn request cache = tried at htried
    obtain ⟨trial, cache'⟩ := tried
    cases trial with
    | skipped => exact ih hrest p htried
    | missed => exact ih hrest _ htried
    | matched captures =>
      simp only
      split
      · exact htried
      · exact ih hrest _ htried

theorem run_fst (request : Request) (rules : List ClientRule) (p : Progress) {cache : ParseCache}
    (h : cache.Faithful) : (run request rules p cache).1 = progress request rules p := by
  induction rules generalizing p cache with
  | nil => rfl
  | cons r rest ih =>
    obtain ⟨cache', h', heq⟩ := r.tryOn_eq request h
    unfold run progress
    rw [heq]
    cases r.trial request with
    | skipped => exact ih p h'
    | missed => exact ih _ h'
    | matched captures =>
      simp only
      split
      · rfl
      · exact ih _ h'

theorem detect_fst (rules : List ClientRule) (request : Request) {cache : ParseCache}
    (h : cache.Faithful) :
    (detect rules request cache).1 = (progress request rules {}).finish := by
  rw [← run_fst request rules {} h]
  rfl

theorem detect_snd (rules : List ClientRule) (request : Request) {cache : ParseCache}
    (h : cache.Faithful) : (detect rules request cache).2.Faithful :=
  run_keeps (fun r _ _ hc => hc.parse_snd r.expression) {} h

end Detection

/-! ## Relaying -/

namespace Decision

/-- The decision of the first mapping that says `request` matches. -/
def first? (request : Request) (source : StreamInfo) : List RelayMapping → Option Decision
  | [] => none
  | m :: rest =>
    match m.trial request with
    | .matched _ => some (m.decide source)
    | _ => first? request source rest

theorem decide?_keeps {P : ParseCache → Prop} {request : Request} {source : StreamInfo}
    {mappings : List RelayMapping} {cache : ParseCache}
    (hparse : ∀ m ∈ mappings, ∀ c, P c → P (c.parse m.expression).2) (h : P cache) :
    P (decide? request source mappings cache).2 := by
  induction mappings generalizing cache with
  | nil => exact h
  | cons m rest ih =>
    obtain ⟨hm, hrest⟩ := List.forall_mem_cons.1 hparse
    have htried : P (m.tryOn request cache).2 := Rule.tryOn_keeps hm h
    unfold decide?
    generalize m.tryOn request cache = tried at htried
    obtain ⟨trial, cache'⟩ := tried
    cases trial with
    | skipped => exact ih hrest htried
    | missed => exact ih hrest htried
    | matched captures => exact htried

theorem decide?_eq (request : Request) (source : StreamInfo) (mappings : List RelayMapping)
    {cache : ParseCache} (h : cache.Faithful) :
    (decide? request source mappings cache).1 = first? request source mappings ∧
      (decide? request source mappings cache).2.Faithful := by
  refine ⟨?_, decide?_keeps (fun m _ _ hc => hc.parse_snd m.expression) h⟩
  induction mappings generalizing cache with
  | nil => rfl
  | cons m rest ih =>
    obtain ⟨cache', h', heq⟩ := m.tryOn_eq request h
    unfold decide? first?
    rw [heq]
    cases m.trial request with
    | skipped => exact ih h'
    | missed => exact ih h'
    | matched captures => rfl

end Decision

end StreamPolicy
