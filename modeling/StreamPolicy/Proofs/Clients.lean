import StreamPolicy.Proofs.Influence
import StreamPolicy.Proofs.Relaying
import StreamPolicy.Proofs.Data.Coding
import StreamPolicy.Proofs.Service.Loading

/-!
# What the shipped rules say about a client

Three of the shipped client rules take over what a request names outright (`Rule.TakesOver`), and
each of the others describes a family of clients in full (`Rule.Describes`). So a client gets what
its request names, and the rest from the first family that it belongs to (`Shipped.supplied_eq`).
Everybody belongs to the last one.
-/

namespace StreamPolicy

namespace Detection

variable {request : Request} {rules rest : List ClientRule} {r : ClientRule} {ε β : Type}
  {target : Target} {read : String → Except ε β} {own : ClientProfile → Option β}

/-! ## Rules that supply everything -/

/-- The five attributes. -/
def profile (d : Detection) : ClientProfile where
  videoCodec := some d.videoCodec
  audioCodec := some d.audioCodec
  fmp4 := some d.fmp4
  mpegts := some d.mpegts
  format := d.format

theorem profile_finish {p : Progress} (h : p.profile.isComplete = true) :
    p.finish.profile = p.profile := by
  obtain ⟨⟨video, audio, fmp4, mpegts, format⟩, matchedRule, evaluated⟩ := p
  simp only [ClientProfile.isComplete, Bool.and_eq_true, Option.isSome_iff_exists] at h
  obtain ⟨⟨⟨⟨⟨v, rfl⟩, a, rfl⟩, f, rfl⟩, m, rfl⟩, -⟩ := h
  rfl

/-- Rules that supply all attributes leave none to the defaults. -/
theorem detect_of_complete {cache : ParseCache} (hc : cache.Faithful) (h : Complete request rules) :
    (detect rules request cache).1.profile = supplied request rules ∧
      (detect rules request cache).1.source = .rule := by
  obtain ⟨hrun, hat⟩ := progress_eq request rules
  have hreach : Complete request (rules.take (reach request rules)) := by
    by_cases hlt : reach request rules < rules.length
    · exact hat hlt
    · rwa [List.take_of_length_le (Nat.not_lt.1 hlt)]
  rw [detect_fst rules request hc, hrun]
  generalize reach request rules = n at hreach
  have hprofile : (summary request (rules.take n)).profile.isComplete = true := hreach
  refine ⟨(profile_finish hprofile).trans (supplied_take hreach), ?_⟩
  show (if ((matching request (rules.take n)).head?.map Rule.ref).isSome then _ else _) = _
  cases hm : matching request (rules.take n) with
  | nil => simp [Complete, supplied, first?, hm, ClientProfile.isComplete] at hreach
  | cons r rs => rfl

theorem first?_singleton : first? target read own request [r] =
    if r.matchesRequest request then r.value? target read own request else none := by
  rw [first?, matching, List.filter_cons]
  split
  · exact List.findSome?_singleton
  · rfl

theorem first?_cons : first? target read own request (r :: rest) =
    (first? target read own request [r] <|> first? target read own request rest) := by
  have hsplit : matching request (r :: rest) = matching request [r] ++ matching request rest :=
    List.filter_append [r] rest
  rw [first?, hsplit, List.findSome?_append, first?, first?]
  cases (matching request [r]).findSome? (Rule.value? target read own request) <;> rfl

/-- The identifiers and the times of rules have no say in what is supplied. -/
theorem first?_issueAll (issuer issuer' : Issuer) (bs : List (Blueprint ClientProfile)) :
    first? target read own request (Blueprint.issueAll issuer bs).1 =
      first? target read own request (Blueprint.issueAll issuer' bs).1 := by
  induction bs generalizing issuer issuer' with
  | nil => rfl
  | cons b bs ih =>
    have hone : first? target read own request [(b.issue issuer).1] =
        first? target read own request [(b.issue issuer').1] := by
      rw [first?_singleton, first?_singleton]
      rfl
    show first? target read own request
        ((b.issue issuer).1 :: (Blueprint.issueAll (b.issue issuer).2 bs).1) =
      first? target read own request
        ((b.issue issuer').1 :: (Blueprint.issueAll (b.issue issuer').2 bs).1)
    rw [first?_cons, hone, ih (b.issue issuer).2 (b.issue issuer').2, ← first?_cons]

end Detection

/-! ## Rules that take over a field -/

theorem MediaKind.toOption_parse {α : Type} [MediaKind α] (s : String) :
    (parse s : Except UnknownName α).toOption = Named.ofName? s := by
  unfold parse
  cases (Named.ofName? s : Option α) <;> rfl

theorem Expression.evaluate_passed {f : Field} {t : Target} {ctx : Context} :
    (passed f t).evaluate ctx = true ↔ ∃ raw, ctx.resolve f = some raw ∧ raw ≠ "" := by
  show (Operator.notEquals.test (ctx.resolve f) "" != false) = true ↔ _
  cases ctx.resolve f with
  | none => simp [Operator.test, Operator.missing?, Operator.holds]
  | some raw => simp [Operator.test, Operator.holds]

/-- The rule `r` leaves its attributes to what the field `f` holds, which it captures for `t`. -/
structure Rule.TakesOver (r : ClientRule) (f : Field) (t : Target) : Prop where
  condition : r.condition? = some (.passed f t)
  attributes : r.attributes = {}

namespace Rule.TakesOver

variable {request : Request} {r : ClientRule} {f : Field} {t : Target}

theorem matchesRequest_iff (h : r.TakesOver f t) :
    r.matchesRequest request = true ↔ ∃ raw, request.context.resolve f = some raw ∧ raw ≠ "" := by
  rw [Rule.matchesRequest, h.condition]
  exact Expression.evaluate_passed

theorem captured {raw : String} (h : r.TakesOver f t)
    (hraw : request.context.resolve f = some raw) :
    r.captured request = Captures.empty.record t raw := by
  rw [Rule.captured, h.condition]
  show (request.context.assign ⟨t, .field f⟩).captures = _
  rw [Context.assign, Context.valueOf, hraw]
  rfl

end Rule.TakesOver

/-- What `f` holds, captured for `t`, and nothing else. -/
def Request.taken (request : Request) (f : Field) (t : Target) : Captures :=
  fun target => if target = t then request.context.resolve f else none

namespace Detection

variable {request : Request} {r : ClientRule} {rest : List ClientRule} {f : Field} {t : Target}

/-- A rule that takes over `f` supplies what `f` holds, if that can be `read`. An empty field does
not match, but could not be read anyway. -/
theorem first?_takesOver {ε β : Type} (h : r.TakesOver f t) (target : Target)
    (read : String → Except ε β) (own : ClientProfile → Option β) (hown : own {} = none)
    (hread : (read "").toOption = none) :
    first? target read own request (r :: rest) =
      ((request.taken f t).valid? target read <|> first? target read own request rest) := by
  suffices hone : first? target read own request [r] = (request.taken f t).valid? target read by
    rw [first?_cons, hone]
  rw [first?_singleton, Captures.valid?, Request.taken]
  by_cases hmatches : r.matchesRequest request = true
  · obtain ⟨raw, hraw, -⟩ := h.matchesRequest_iff.1 hmatches
    rw [if_pos hmatches, ← valid?_orElse, h.captured hraw, h.attributes, hown, Captures.valid?,
      Captures.record, hraw]
    simp [Captures.empty]
  · have hempty : ∀ raw, request.context.resolve f = some raw → raw = "" := by
      intro raw hraw
      by_contra hne
      exact hmatches (h.matchesRequest_iff.2 ⟨raw, hraw, hne⟩)
    rw [if_neg hmatches]
    cases hraw : request.context.resolve f with
    | none => rw [ite_self, Option.bind_none]
    | some raw =>
      rw [hempty raw hraw]
      by_cases htarget : target = t <;> simp [htarget, hread]

theorem supplied_takesOver (h : r.TakesOver f t) : supplied request (r :: rest) =
    (({} : ClientProfile).supplied (request.taken f t)).orElse (supplied request rest) := by
  simp only [supplied, first?_takesOver h .videoCodec MediaKind.parse (·.videoCodec) rfl rfl,
    first?_takesOver h .audioCodec MediaKind.parse (·.audioCodec) rfl rfl,
    first?_takesOver h .supportsFmp4 parseFlag (·.fmp4) rfl rfl,
    first?_takesOver h .supportsMpegts parseFlag (·.mpegts) rfl rfl,
    first?_takesOver h .format MediaKind.parse (·.format) rfl rfl]
  simp [ClientProfile.orElse, ClientProfile.supplied]

end Detection

/-! ## Rules that describe a family -/

/-- A rule that knows a client by its user agent alone, and says everything about it. -/
structure Rule.Describes (r : ClientRule) : Prop where
  condition : ∃ e, r.condition? = some e ∧ e.actions = [] ∧
    ∀ f ∈ e.mentioned, f = .static "user_agent"
  complete : r.attributes.isComplete = true

namespace Rule

variable {request q q' : Request} {r : ClientRule}

theorem Describes.captured (h : r.Describes) : r.captured request = Captures.empty := by
  obtain ⟨e, he, hactions, -⟩ := h.condition
  rw [Rule.captured, he, Option.map_some, Option.getD_some, hactions]
  rfl

/-- A rule matches both of two requests or none if they are the same in what it mentions. -/
theorem matchesRequest_congr (h : ∀ f ∈ r.mentioned, q.context.resolve f = q'.context.resolve f) :
    r.matchesRequest q = r.matchesRequest q' := by
  have htrial := trial_congr h
  rw [trial_eq, trial_eq] at htrial
  rw [matchesRequest, matchesRequest]
  cases hc : r.condition? with
  | none => rfl
  | some e =>
    rw [hc] at htrial
    simp only [Option.any_some]
    cases he : e.evaluate q.context <;> cases he' : e.evaluate q'.context <;>
      simp [he, he'] at htrial ⊢

theorem Describes.matchesRequest_congr (h : r.Describes) (hagent : q.userAgent = q'.userAgent) :
    r.matchesRequest q = r.matchesRequest q' := by
  obtain ⟨e, he, -, hfields⟩ := h.condition
  refine Rule.matchesRequest_congr fun f hf => ?_
  rw [mentioned, he] at hf
  rw [hfields f hf]
  exact hagent

end Rule

namespace Detection

variable {request : Request} {rules : List ClientRule} {r : ClientRule}

theorem first?_of_describes {ε β : Type} {target : Target} {read : String → Except ε β}
    {own : ClientProfile → Option β} (hfirst : (matching request rules).head? = some r)
    (hr : r.Describes) (hown : (own r.attributes).isSome = true) :
    first? target read own request rules = own r.attributes := by
  obtain ⟨rest, hmatching⟩ := List.head?_eq_some_iff.1 hfirst
  have hvalue : r.value? target read own request = own r.attributes := by
    rw [Rule.value?, hr.captured]
    rfl
  obtain ⟨v, hv⟩ := Option.isSome_iff_exists.1 hown
  rw [first?, hmatching, List.findSome?_cons, hvalue, hv]

/-- The first family `r` that a client belongs to says everything. -/
theorem supplied_of_describes (hfirst : (matching request rules).head? = some r)
    (hr : r.Describes) : supplied request rules = r.attributes := by
  have hcomplete := hr.complete
  simp only [ClientProfile.isComplete, Bool.and_eq_true] at hcomplete
  obtain ⟨⟨⟨⟨hv, ha⟩, hf⟩, hm⟩, ho⟩ := hcomplete
  simp only [supplied, first?_of_describes hfirst hr hv, first?_of_describes hfirst hr ha,
    first?_of_describes hfirst hr hf, first?_of_describes hfirst hr hm,
    first?_of_describes hfirst hr ho]

end Detection

/-! ## What a request names -/

namespace Request

/-- The request `q` has the name of `a` in `scope`, under `key`. Blanks around headers do not count,
and of several values of a parameter only the first one does. -/
def Asks {α : Type} [Named α] (q : Request) (scope : Scope) (key : String) (a : α) : Prop :=
  q.dynamicValue scope key = some (Named.name a)

instance {α : Type} [Named α] (q : Request) (scope : Scope) (key : String) (a : α) :
    Decidable (q.Asks scope key a) := inferInstanceAs (Decidable (_ = _))

theorem resolve_dynamic (q : Request) (scope : Scope) (key : String) :
    q.context.resolve (.dynamic scope key) = q.dynamicValue scope key := rfl

theorem asks_congr {α : Type} [Named α] {q q' : Request} {scope : Scope} {key : String}
    (h : q.dynamicValue scope key = q'.dynamicValue scope key) (a : α) :
    q.Asks scope key a ↔ q'.Asks scope key a := by
  rw [Asks, Asks, h]

/-- The value that `q` asks for. -/
def asked? {α : Type} [Named α] (q : Request) (scope : Scope) (key : String) : Option α :=
  (q.dynamicValue scope key).bind Named.ofName?

/-- The attribute `value` is what `q` asks for, or `own` if `q` asks for nothing. -/
def Settles {α : Type} [Named α] (q : Request) (scope : Scope) (key : String)
    (own value : Option α) : Prop :=
  ∀ a, value = some a ↔ q.Asks scope key a ∨ (∀ b : α, ¬q.Asks scope key b) ∧ own = some a

section Named

variable {α : Type} [Named α] [LawfulNamed α] {q q' : Request} {scope : Scope} {key : String}

theorem asked?_eq_some_iff {a : α} : q.asked? scope key = some a ↔ q.Asks scope key a := by
  rw [asked?, Option.bind_eq_some_iff, Asks]
  constructor
  · rintro ⟨raw, hraw, ha⟩
    have hname := List.find?_some ha
    rw [hraw, beq_iff_eq.1 hname]
  · intro h
    exact ⟨_, h, LawfulNamed.ofName?_name a⟩

theorem asked?_congr (h : ∀ a : α, q.Asks scope key a ↔ q'.Asks scope key a) :
    (q.asked? scope key : Option α) = q'.asked? scope key := by
  ext a
  exact asked?_eq_some_iff.trans ((h a).trans asked?_eq_some_iff.symm)

theorem settles_orElse (own : Option α) :
    q.Settles scope key own (q.asked? scope key <|> own) := by
  intro a
  simp only [← asked?_eq_some_iff]
  cases hasked : (q.asked? scope key : Option α) <;> simp

end Named

/-- What `q` names outright: two codecs and a format. -/
def wishes (q : Request) : ClientProfile where
  videoCodec := q.asked? .headers "x-video-codec"
  audioCodec := q.asked? .headers "x-audio-codec"
  format := q.asked? .query "format"

/-- The requests have the same user agent and ask for the same values, or none. -/
structure AsksLike (q q' : Request) : Prop where
  userAgent : q.userAgent = q'.userAgent
  videoCodec : ∀ v : VideoCodec,
    q.Asks .headers "x-video-codec" v ↔ q'.Asks .headers "x-video-codec" v
  audioCodec : ∀ a : AudioCodec,
    q.Asks .headers "x-audio-codec" a ↔ q'.Asks .headers "x-audio-codec" a
  format : ∀ f : StreamFormat, q.Asks .query "format" f ↔ q'.Asks .query "format" f

theorem AsksLike.wishes_eq {q q' : Request} (h : q.AsksLike q') : q.wishes = q'.wishes := by
  rw [wishes, wishes, asked?_congr h.videoCodec, asked?_congr h.audioCodec, asked?_congr h.format]

/-- The request without what it has in a scope under a key. -/
def without (q : Request) : Scope → String → Request
  | .headers, key =>
    { q with headers := ⟨q.headers.entries.filter fun e => e.1 != Text.asciiLower key⟩ }
  | .query, key => { q with params := q.params.filter fun e => e.1 != key }

section Without

variable {q : Request} {key name : String}

theorem header_without : (q.without .headers key).header name =
    if Text.asciiLower name = Text.asciiLower key then none else q.header name := by
  show List.lookup _ (q.headers.entries.filter fun e => e.1 != Text.asciiLower key) = _
  rw [ParseCache.lookup_filter_keys (· != Text.asciiLower key)]
  by_cases h : Text.asciiLower name = Text.asciiLower key
  · simp [h]
  · rw [if_pos (bne_iff_ne.2 h), if_neg h]
    rfl

theorem queryParam_without : (q.without .query key).queryParam name =
    if name = key then none else q.queryParam name := by
  show (((q.params.filter fun e => e.1 != key).filter (·.1 == name)).map Prod.snd).head? = _
  rw [List.filter_filter]
  by_cases h : name = key
  · subst h
    simp
  · have hsame : ∀ e ∈ q.params, (e.1 == name && e.1 != key) = (e.1 == name) := by
      intro e _
      by_cases he : e.1 = name <;> simp [he, h]
    rw [List.filter_congr hsame, if_neg h]
    rfl

variable {scope scope' : Scope} {key' : String}

theorem dynamicValue_without (q : Request) (scope : Scope) (key : String) :
    (q.without scope key).dynamicValue scope key = none := by
  cases scope with
  | headers =>
    show ((q.without .headers key).header key).map Text.trimmed = none
    rw [header_without, if_pos rfl]
    rfl
  | query => exact queryParam_without.trans (if_pos rfl)

theorem dynamicValue_without_of_ne (h : Text.asciiLower key' ≠ Text.asciiLower key) :
    (q.without scope key).dynamicValue scope' key' = q.dynamicValue scope' key' := by
  cases scope <;> cases scope'
  · show ((q.without .headers key).header key').map Text.trimmed = _
    rw [header_without, if_neg h]
    rfl
  · rfl
  · rfl
  · exact queryParam_without.trans (if_neg fun heq => h (congrArg Text.asciiLower heq))

theorem userAgent_without (h : Text.asciiLower "user-agent" ≠ Text.asciiLower key) :
    (q.without scope key).userAgent = q.userAgent := by
  cases scope with
  | headers => exact header_without.trans (if_neg h)
  | query => rfl

variable {α : Type} [Named α]

/-- A `key` under which nothing is named can be left out. -/
theorem asks_without (h : ∀ a : α, ¬q.Asks scope key a) (a : α) :
    q.Asks scope key a ↔ (q.without scope key).Asks scope key a := by
  refine iff_of_false (h a) ?_
  rw [Asks, dynamicValue_without]
  exact nofun

theorem asks_without_of_ne (h : Text.asciiLower key' ≠ Text.asciiLower key) (a : α) :
    q.Asks scope' key' a ↔ (q.without scope key).Asks scope' key' a := by
  rw [Asks, Asks, dynamicValue_without_of_ne h]

end Without

end Request

/-! ## The shipped rules -/

namespace Blueprint

variable {α : Type} {issuer : Issuer} {bs : List (Blueprint α)} {es : List Expression}

/-- Rules that are enabled have the conditions that their expressions parse to. -/
theorem conditions_issueAll (henabled : ∀ b ∈ bs, b.enabled = true)
    (hparse : bs.map (fun b => Expression.parse b.expression) = es.map .ok) :
    (issueAll issuer bs).1.map Rule.condition? = es.map some := by
  have hmap : (issueAll issuer bs).1.map Rule.condition? =
      bs.map fun b => if b.enabled then (Expression.parse b.expression).toOption else none :=
    map_issueAll fun _ _ => rfl
  have hall : ∀ b ∈ bs, (if b.enabled then (Expression.parse b.expression).toOption else none) =
      (Except.toOption ∘ fun b : Blueprint α => Expression.parse b.expression) b :=
    fun b hb => if_pos (henabled b hb)
  rw [hmap, List.map_congr_left hall, ← List.map_map, hparse, List.map_map]
  rfl

end Blueprint

namespace Builtin

/-- Three rules take over what a request names, and the others describe `families`, one of which is
that of all clients. -/
structure Shipped (rules families : List ClientRule) : Prop where
  wishes : ∃ video audio format, rules = video :: audio :: format :: families ∧
    video.TakesOver (.dynamic .headers "x-video-codec") .videoCodec ∧
    audio.TakesOver (.dynamic .headers "x-audio-codec") .audioCodec ∧
    format.TakesOver (.dynamic .query "format") .format
  describes : ∀ r ∈ families, r.Describes
  catchAll : ∃ r ∈ families, r.condition? = some { root := none }

theorem shipped_clientRules (issuer : Issuer) :
    Shipped (Blueprint.issueAll issuer clientRules).1
      ((Blueprint.issueAll issuer clientRules).1.drop 3) := by
  have hconditions : (Blueprint.issueAll issuer clientRules).1.map Rule.condition? =
      clientExpressions.map some :=
    Blueprint.conditions_issueAll (by decide) parse_clientRules
  have hattributes : (Blueprint.issueAll issuer clientRules).1.map (·.attributes) =
      clientRules.map (·.attributes) := Blueprint.map_issueAll fun _ _ => rfl
  generalize (Blueprint.issueAll issuer clientRules).1 = rules at hconditions hattributes
  obtain ⟨video, rest, rfl, hvideo, hrest⟩ := List.map_eq_cons_iff.1 hconditions
  obtain ⟨audio, rest, rfl, haudio, hrest⟩ := List.map_eq_cons_iff.1 hrest
  obtain ⟨format, families, rfl, hformat, hfamilies⟩ := List.map_eq_cons_iff.1 hrest
  obtain ⟨hvideo', hattributes⟩ := List.cons.inj hattributes
  obtain ⟨haudio', hattributes⟩ := List.cons.inj hattributes
  obtain ⟨hformat', hattributes⟩ := List.cons.inj hattributes
  refine ⟨⟨video, audio, format, rfl, ⟨hvideo, hvideo'⟩, ⟨haudio, haudio'⟩, hformat, hformat'⟩,
    fun r hr => ⟨?_, ?_⟩, ?_⟩
  · have hsilent : ∀ e ∈ clientExpressions.drop 3,
        e.actions = [] ∧ ∀ f ∈ e.mentioned, f = .static "user_agent" := by
      simp only [Expression.mentioned, Expression.conditions_eq]
      decide
    have hmem : r.condition? ∈ families.map Rule.condition? := List.mem_map_of_mem hr
    rw [hfamilies] at hmem
    obtain ⟨e, he, hcondition⟩ := List.mem_map.1 hmem
    exact ⟨e, hcondition.symm, hsilent e he⟩
  · have hcomplete : ∀ p ∈ (clientRules.drop 3).map (·.attributes), p.isComplete = true := by
      decide
    have hmem : r.attributes ∈ families.map (·.attributes) := List.mem_map_of_mem hr
    rw [hattributes] at hmem
    exact hcomplete _ hmem
  · have hlast : some { root := none } ∈ families.map Rule.condition? := by
      rw [hfamilies]
      decide
    exact List.mem_map.1 hlast

variable {q : Request} {rules families : List ClientRule} {r : ClientRule}

theorem Shipped.exists_first (h : Shipped rules families) :
    ∃ r, (Detection.matching q families).head? = some r ∧ r ∈ families := by
  obtain ⟨last, hlast, hcondition⟩ := h.catchAll
  have hmatches : last.matchesRequest q = true := by
    rw [Rule.matchesRequest, hcondition]
    rfl
  have hmem : last ∈ Detection.matching q families := List.mem_filter.2 ⟨hlast, hmatches⟩
  cases hmatching : Detection.matching q families with
  | nil =>
    rw [hmatching] at hmem
    cases hmem
  | cons r rs =>
    refine ⟨r, rfl, List.mem_of_mem_filter (p := Rule.matchesRequest q) ?_⟩
    rw [← Detection.matching, hmatching]
    exact List.mem_cons_self

/-- A client gets what its request names (`wishes`), and the rest from `r`, the first family it
belongs to. -/
theorem Shipped.supplied_eq (h : Shipped rules families)
    (hfirst : (Detection.matching q families).head? = some r) (hr : r ∈ families) :
    Detection.supplied q rules = q.wishes.orElse r.attributes := by
  obtain ⟨video, audio, format, rfl, hvideo, haudio, hformat⟩ := h.wishes
  rw [Detection.supplied_takesOver hvideo, Detection.supplied_takesOver haudio,
    Detection.supplied_takesOver hformat, Detection.supplied_of_describes hfirst (h.describes r hr)]
  simp [ClientProfile.orElse, ClientProfile.supplied, Captures.valid?, MediaKind.toOption_parse,
    Request.taken, Request.resolve_dynamic, Request.wishes, Request.asked?]

theorem Shipped.complete (h : Shipped rules families) : Detection.Complete q rules := by
  obtain ⟨r, hfirst, hr⟩ := h.exists_first (q := q)
  have hcomplete := (h.describes r hr).complete
  rw [Detection.Complete, h.supplied_eq hfirst hr]
  simp only [ClientProfile.isComplete, Bool.and_eq_true, ClientProfile.orElse] at hcomplete ⊢
  simp [hcomplete]

/-- Only what a request asks for and its user agent have a say. -/
theorem Shipped.supplied_congr {q' : Request} (h : Shipped rules families) (hq : q.AsksLike q') :
    Detection.supplied q rules = Detection.supplied q' rules := by
  have hmatching : Detection.matching q families = Detection.matching q' families :=
    List.filter_congr fun r hr => (h.describes r hr).matchesRequest_congr hq.userAgent
  obtain ⟨r, hfirst, hr⟩ := h.exists_first (q := q)
  rw [h.supplied_eq hfirst hr, h.supplied_eq (hmatching ▸ hfirst) hr, hq.wishes_eq]

end Builtin

/-! ## Whom the rules serve how -/

/-- Codecs and the format of `d` are what `q` names, where it does, and everything else is what `r`
says. -/
structure Detection.Serves (d : Detection) (q : Request) (r : ClientRule) : Prop where
  videoCodec : q.Settles .headers "x-video-codec" r.attributes.videoCodec (some d.videoCodec)
  audioCodec : q.Settles .headers "x-audio-codec" r.attributes.audioCodec (some d.audioCodec)
  fmp4 : r.attributes.fmp4 = some d.fmp4
  mpegts : r.attributes.mpegts = some d.mpegts
  format : q.Settles .query "format" r.attributes.format d.format

/-- The shipped rules, whenever they are made, say the same about the clients of both requests. -/
def Request.ServedLike (q q' : Request) : Prop :=
  ∀ (issuer issuer' : Issuer) (cache cache' : ParseCache), cache.Faithful → cache'.Faithful →
    (Detection.detect (Blueprint.issueAll issuer Builtin.clientRules).1 q cache).1.profile =
      (Detection.detect (Blueprint.issueAll issuer' Builtin.clientRules).1 q' cache').1.profile

namespace Detection

variable {q q' : Request} {rules families : List ClientRule} {r : ClientRule} {d : Detection}

theorem applies_of_first (h : (matching q families).head? = some r) :
    ∃ before after, families = before ++ r :: after ∧ (∀ b ∈ before, ¬b.Applies q) ∧
      r.Applies q := by
  rw [matching, List.head?_filter, List.find?_eq_some_iff_append] at h
  obtain ⟨hr, before, after, hsplit, hbefore⟩ := h
  refine ⟨before, after, hsplit, fun b hb => ?_, Rule.matchesRequest_iff.1 hr⟩
  rw [← Rule.matchesRequest_iff, Bool.not_eq_true, ← Bool.not_eq_true']
  exact hbefore b hb

theorem serves_of_profile (h : d.profile = q.wishes.orElse r.attributes) : d.Serves q r := by
  have hvideo : some d.videoCodec = (q.wishes.videoCodec <|> r.attributes.videoCodec) :=
    congrArg ClientProfile.videoCodec h
  have haudio : some d.audioCodec = (q.wishes.audioCodec <|> r.attributes.audioCodec) :=
    congrArg ClientProfile.audioCodec h
  have hformat : d.format = (q.wishes.format <|> r.attributes.format) :=
    congrArg ClientProfile.format h
  refine ⟨?_, ?_, (congrArg ClientProfile.fmp4 h).symm, (congrArg ClientProfile.mpegts h).symm, ?_⟩
  · rw [hvideo]
    exact Request.settles_orElse _
  · rw [haudio]
    exact Request.settles_orElse _
  · rw [hformat]
    exact Request.settles_orElse _

theorem servedLike_of_asksLike (h : q.AsksLike q') : q.ServedLike q' := by
  intro issuer issuer' cache cache' hc hc'
  have hrules := Builtin.shipped_clientRules issuer
  have hrules' := Builtin.shipped_clientRules issuer'
  have hissuer : supplied q' (Blueprint.issueAll issuer Builtin.clientRules).1 =
      supplied q' (Blueprint.issueAll issuer' Builtin.clientRules).1 := by
    simp only [supplied, first?_issueAll issuer issuer']
  rw [(detect_of_complete hc hrules.complete).1, (detect_of_complete hc' hrules'.complete).1,
    hrules.supplied_congr h, hissuer]

/-- Among the families, which are known by the user agent alone, the first that the client of `q`
belongs to says what `q` does not name. Nothing else has a say, and what has no name might as well
not be there. -/
theorem serves_clientRules (q : Request) :
    (∀ (issuer : Issuer) (cache : ParseCache), cache.Faithful →
      let rules := (Blueprint.issueAll issuer Builtin.clientRules).1
      let d := (detect rules q cache).1
      (∀ r ∈ rules.drop 3, r.Describes) ∧
      (∃ before r after, rules.drop 3 = before ++ r :: after ∧ (∀ b ∈ before, ¬b.Applies q) ∧
        r.Applies q ∧ d.Serves q r) ∧
      d.format.isSome = true ∧ d.source = .rule) ∧
    (∀ q', q.AsksLike q' → q.ServedLike q') ∧
    (∀ q', q.userAgent = q'.userAgent → q.header "x-video-codec" = q'.header "x-video-codec" →
      q.header "x-audio-codec" = q'.header "x-audio-codec" →
      q.queryParam "format" = q'.queryParam "format" → q.ServedLike q') ∧
    ((∀ v : VideoCodec, ¬q.Asks .headers "x-video-codec" v) →
      q.ServedLike (q.without .headers "x-video-codec")) ∧
    ((∀ a : AudioCodec, ¬q.Asks .headers "x-audio-codec" a) →
      q.ServedLike (q.without .headers "x-audio-codec")) ∧
    ((∀ f : StreamFormat, ¬q.Asks .query "format" f) →
      q.ServedLike (q.without .query "format")) := by
  refine ⟨fun issuer cache hc => ?_, fun q' => servedLike_of_asksLike, ?_, fun h => ?_, fun h => ?_,
    fun h => ?_⟩
  · intro rules d
    have hrules : Builtin.Shipped rules (rules.drop 3) := Builtin.shipped_clientRules issuer
    obtain ⟨r, hfirst, hr⟩ := hrules.exists_first (q := q)
    obtain ⟨hprofile, hsource⟩ := detect_of_complete hc (hrules.complete (q := q))
    have hserves : d.Serves q r := serves_of_profile (hprofile.trans (hrules.supplied_eq hfirst hr))
    refine ⟨hrules.describes, ?_, ?_, hsource⟩
    · obtain ⟨before, after, hsplit, hbefore, happlies⟩ := applies_of_first hfirst
      exact ⟨before, r, after, hsplit, hbefore, happlies, hserves⟩
    · have hcomplete : d.profile.isComplete = true := hprofile ▸ hrules.complete
      rw [ClientProfile.isComplete, Bool.and_eq_true] at hcomplete
      exact hcomplete.2
  · intro q' hagent hvideo haudio hformat
    exact servedLike_of_asksLike ⟨hagent, Request.asks_congr (congrArg (Option.map _) hvideo),
      Request.asks_congr (congrArg (Option.map _) haudio), Request.asks_congr hformat⟩
  · exact servedLike_of_asksLike ⟨(Request.userAgent_without (by decide)).symm,
      Request.asks_without h, Request.asks_without_of_ne (by decide),
      Request.asks_without_of_ne (by decide)⟩
  · exact servedLike_of_asksLike ⟨(Request.userAgent_without (by decide)).symm,
      Request.asks_without_of_ne (by decide), Request.asks_without h,
      Request.asks_without_of_ne (by decide)⟩
  · exact servedLike_of_asksLike ⟨(Request.userAgent_without (by decide)).symm,
      Request.asks_without_of_ne (by decide), Request.asks_without_of_ne (by decide),
      Request.asks_without h⟩

/-- A request that names a video codec, and has neither an audio codec nor a format that anybody
knows of. -/
theorem serves_clientRules_named :
    let q := Request.ofSteps [.header "User-Agent" "Firefox/128.0", .header "X-Video-Codec" " av1 ",
      .header "X-Audio-Codec" "AAC", .query "format" "hls", .query "format" "dash"]
    let rules := (Blueprint.issueAll ⟨⟨1⟩, .epoch⟩ Builtin.clientRules).1
    ParseCache.empty.Faithful ∧ q.Asks .headers "x-video-codec" VideoCodec.av1 ∧
      (detect rules q .empty).1.videoCodec = .av1 ∧
      (∀ a : AudioCodec, ¬q.Asks .headers "x-audio-codec" a) ∧
      q.ServedLike (q.without .headers "x-audio-codec") ∧
      (∀ f : StreamFormat, ¬q.Asks .query "format" f) ∧
      q.ServedLike (q.without .query "format") := by
  intro q rules
  obtain ⟨hserves, -, -, -, haudio, hformat⟩ := serves_clientRules q
  have hempty := ParseCache.faithful_empty
  obtain ⟨-, ⟨before, r, after, -, -, -, hr⟩, -⟩ := hserves ⟨⟨1⟩, .epoch⟩ .empty hempty
  have hnamed : q.Asks .headers "x-video-codec" VideoCodec.av1 := by decide
  have haudio' : ∀ a : AudioCodec, ¬q.Asks .headers "x-audio-codec" a := by
    intro a
    cases a <;> decide
  have hformat' : ∀ f : StreamFormat, ¬q.Asks .query "format" f := by
    intro f
    cases f <;> decide
  exact ⟨hempty, hnamed, Option.some.inj ((hr.videoCodec .av1).2 (.inl hnamed)), haudio',
    haudio haudio', hformat', hformat hformat'⟩

end Detection

end StreamPolicy
