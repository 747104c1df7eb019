import StreamPolicy.Proofs.Builtin
import StreamPolicy.Proofs.Detection
import StreamPolicy.Proofs.Expression.Mentions
import StreamPolicy.Proofs.Request.Building

/-!
# What can influence a decision

Rules look at a request through the fields that they mention (`Rule.mentioned`), and a field looks
at few parts of the request (`Field.parts`). Requests that have the same values for these fields get
the same decisions, and so do requests that differ only in parts of which no rule mentions a field.
-/

namespace StreamPolicy

/-! ## Parts of a request -/

/-- A part of a request; headers are named in small letters. -/
inductive Request.Part
  | method
  | address
  | authority
  | path
  | query
  | peer
  | header (name : String)
  | param (name : String)
  deriving DecidableEq, Repr

/-- What `q` has in a part, if it has the part. -/
def Request.part (q : Request) : Part → Option String
  | .method => some q.method
  | .address => some q.uri
  | .authority => q.authority
  | .path => some q.path
  | .query => some q.rawQuery
  | .peer => q.peer
  | .header name => q.headers.entries.lookup name
  | .param name => q.queryParam name

namespace Field

/-- The parts of a request that a static field is looked up in. -/
def staticParts : String → List Request.Part
  | "user_agent" => [.header "user-agent"]
  | "client_ip" => [.peer, .header "x-forwarded-for", .header "x-real-ip"]
  | "request_path" => [.path]
  | "request_url" => [.address]
  | "request_method" => [.method]
  | "host" => [.header "host", .authority]
  | "query_params" => [.query]
  | name => [.header
      (Text.asciiLower (String.ofList (name.toList.map fun c => if c == '_' then '-' else c)))]

def parts : Field → List Request.Part
  | .static name => staticParts name
  | .dynamic .headers key => [.header (Text.asciiLower key)]
  | .dynamic .query key => [.param key]

end Field

namespace Request

variable {q q' : Request}

/-- Headers are looked up under their names in small letters. -/
theorem header_eq_part (q : Request) (name : String) :
    q.header name = q.part (.header (Text.asciiLower name)) := rfl

theorem fieldValue_congr {name : String}
    (h : ∀ p ∈ Field.staticParts name, q.part p = q'.part p) :
    q.fieldValue name = q'.fieldValue name := by
  have hheader : ∀ {header : String}, Text.asciiLower header = header →
      q.part (.header header) = q'.part (.header header) → q.header header = q'.header header := by
    intro header hlower hpart
    rwa [header_eq_part, header_eq_part, hlower]
  fun_cases Field.staticParts name <;> simp only [Field.staticParts, List.forall_mem_cons] at h
  · exact hheader (by decide) h.1
  · obtain ⟨hpeer, hforwarded, hreal, -⟩ := h
    show (q.peer <|> q.firstHop <|> q.header "x-real-ip") =
      (q'.peer <|> q'.firstHop <|> q'.header "x-real-ip")
    have hpeer : q.peer = q'.peer := hpeer
    rw [hpeer, firstHop, firstHop, hheader (by decide) hforwarded, hheader (by decide) hreal]
  · exact h.1
  · exact h.1
  · exact h.1
  · obtain ⟨hhost, hauthority, -⟩ := h
    have hauthority : q.authority = q'.authority := hauthority
    show (q.header "host" <|> q.authority) = (q'.header "host" <|> q'.authority)
    rw [hauthority, hheader (by decide) hhost]
  · exact h.1
  · rw [fieldValue, fieldValue]
    · exact h.1
    all_goals assumption

/-- A field has the same value in requests that have the same in its `parts`. -/
theorem resolve_congr {f : Field} (h : ∀ p ∈ f.parts, q.part p = q'.part p) :
    q.context.resolve f = q'.context.resolve f := by
  cases f with
  | static name =>
    show ((Target.ofName? name).bind Captures.empty <|> q.fieldValue name) =
      ((Target.ofName? name).bind Captures.empty <|> q'.fieldValue name)
    rw [fieldValue_congr h]
  | dynamic scope key =>
    cases scope with
    | headers => exact congrArg (Option.map Text.trimmed) (h _ List.mem_cons_self)
    | query => exact h _ List.mem_cons_self

/-- The step can change the part. The address brings a query with it. -/
def Step.Changes : Step → Part → Prop
  | .method _, p => p = .method
  | .uri _, p => p ∈ [.address, .authority, .path, .query] ∨ ∃ name, p = .param name
  | .header name _, p => p = .header (Headers.normalName name)
  | .query name _, p => p = .param name
  | .clientIp _, p => p = .peer

theorem queryParam_append_of_ne {key name : String} (h : key ≠ name) (value : String) :
    ({ q with params := q.params ++ [(name, value)] } : Request).queryParam key =
      q.queryParam key := by
  simp [queryParam, queryValues, Ne.symm h]

theorem part_step {s : Step} {p : Part} (h : ¬s.Changes p) : (q.step s).part p = q.part p := by
  cases s with
  | method name =>
    cases p with
    | method => exact absurd rfl h
    | _ => rfl
  | uri text =>
    obtain ⟨hmethod, hpeer, hheaders⟩ := q.setUri_keeps text
    cases p with
    | method => exact congrArg some hmethod
    | peer => exact hpeer
    | header name => exact congrArg (fun hs => hs.entries.lookup name) hheaders
    | param name => exact absurd (.inr ⟨name, rfl⟩) h
    | _ => exact absurd (.inl (by decide)) h
  | header name value =>
    cases p with
    | header key => exact Headers.lookup_append_of_ne (fun heq => h (congrArg Part.header heq)) _ _
    | _ => rfl
  | query name value =>
    cases p with
    | param key => exact queryParam_append_of_ne (fun heq => h (congrArg Part.param heq)) value
    | _ => rfl
  | clientIp address =>
    cases p with
    | peer => exact absurd rfl h
    | _ => rfl

end Request

/-! ## Rules -/

variable {α : Type}

/-- The fields that the condition of `r` mentions, if `r` is enabled and parses. -/
def Rule.mentioned (r : Rule α) : List Field :=
  (r.condition?.map Expression.mentioned).getD []

theorem Rule.mentioned_of_parse {r : Rule α} {e : Expression} (henabled : r.enabled = true)
    (h : Expression.parse r.expression = .ok e) : r.mentioned = e.mentioned := by
  unfold mentioned condition?
  rw [henabled, h]
  rfl

/-- What `rules` mention has the same values in `q` and `q'`. -/
def Request.SameFor (rules : List (Rule α)) (q q' : Request) : Prop :=
  ∀ r ∈ rules, ∀ f ∈ r.mentioned, q.context.resolve f = q'.context.resolve f

namespace Request

variable {q q' : Request} {rules : List (Rule α)}

/-- Only parts of which a rule mentions a field are looked at. -/
theorem sameFor_of_parts
    (h : ∀ p, q.part p ≠ q'.part p → ∀ r ∈ rules, ∀ f ∈ r.mentioned, p ∉ f.parts) :
    SameFor rules q q' := by
  refine fun r hr f hf => resolve_congr fun p hp => ?_
  by_contra hne
  exact h p hne r hr f hf hp

end Request

theorem Rule.trial_congr {r : Rule α} {q q' : Request}
    (h : ∀ f ∈ r.mentioned, q.context.resolve f = q'.context.resolve f) :
    r.trial q = r.trial q' := by
  unfold trial trialOf
  cases henabled : r.enabled with
  | false => rfl
  | true =>
    cases hparse : Expression.parse r.expression with
    | error err => rfl
    | ok e =>
      rw [mentioned_of_parse henabled hparse] at h
      have happly : e.apply q.context = e.apply q'.context := Expression.apply_congr ⟨rfl, h⟩
      simp only [happly]

/-! ## Lists of rules -/

theorem Detection.progress_congr {rules : List ClientRule} {q q' : Request}
    (h : Request.SameFor rules q q') (p : Progress) : progress q rules p = progress q' rules p := by
  induction rules generalizing p with
  | nil => rfl
  | cons r rest ih =>
    obtain ⟨hr, hrest⟩ := List.forall_mem_cons.1 h
    unfold progress
    rw [Rule.trial_congr hr]
    simp only [ih hrest]

theorem Decision.first?_congr {mappings : List RelayMapping} {q q' : Request}
    (h : Request.SameFor mappings q q') (source : StreamInfo) :
    first? q source mappings = first? q' source mappings := by
  induction mappings with
  | nil => rfl
  | cons m rest ih =>
    obtain ⟨hm, hrest⟩ := List.forall_mem_cons.1 h
    unfold first?
    rw [Rule.trial_congr hm, ih hrest]

/-- Nothing but the fields that are mentioned can influence an outcome: neither what an expression
says and captures, nor what rules say about a client, nor what mappings decide. A part of the request
of which no rule mentions a field has no influence at all. -/
theorem decisions_of_sameFor :
    (∀ (e : Expression) (s s' : Resolver),
      (∀ f ∈ e.mentioned, Context.resolve { resolver := s } f = Context.resolve { resolver := s' } f) →
      e.apply { resolver := s } = e.apply { resolver := s' }) ∧
    (∀ (rules : List ClientRule) (q q' : Request) (cache cache' : ParseCache),
      cache.Faithful → cache'.Faithful → Request.SameFor rules q q' →
      (Detection.detect rules q cache).1 = (Detection.detect rules q' cache').1) ∧
    (∀ (mappings : List RelayMapping) (q q' : Request) (source : StreamInfo)
      (cache cache' : ParseCache),
      cache.Faithful → cache'.Faithful → Request.SameFor mappings q q' →
      (Decision.decide? q source mappings cache).1 =
        (Decision.decide? q' source mappings cache').1) ∧
    ∀ {α : Type} (rules : List (Rule α)) (q q' : Request),
      (∀ p, q.part p ≠ q'.part p → ∀ r ∈ rules, ∀ f ∈ r.mentioned, p ∉ f.parts) →
      Request.SameFor rules q q' := by
  refine ⟨fun e s s' h => Expression.apply_congr ⟨rfl, h⟩, ?_, ?_,
    fun rules q q' h => Request.sameFor_of_parts h⟩
  · intro rules q q' cache cache' hc hc' h
    rw [Detection.detect_fst rules q hc, Detection.detect_fst rules q' hc',
      Detection.progress_congr h]
  · intro mappings q q' source cache cache' hc hc' h
    rw [(Decision.decide?_eq q source mappings hc).1, (Decision.decide?_eq q' source mappings hc').1,
      Decision.first?_congr h]

/-- A header and a parameter that neither a rule nor a mapping mentions make no difference. -/
theorem decisions_of_sameFor_unmentioned :
    let rule : ClientRule :=
      { id := ⟨1⟩, name := "Asked for", attributes := {}, createdAt := .epoch, updatedAt := .epoch
        expression := Builtin.passes "@dynamic(request.headers):x-video-codec"
          "preferred_video_codec" }
    let mapping : RelayMapping :=
      { id := ⟨2⟩, name := "Browsers", attributes := {}, createdAt := .epoch, updatedAt := .epoch
        expression := Builtin.agentContains ["Mozilla"] }
    let q := Request.ofSteps [.header "User-Agent" "Mozilla/5.0", .header "X-Video-Codec" "h265"]
    let q' := (q.step (.header "X-Other" "1")).step (.query "format" "dash")
    let e := Expression.passed (.dynamic .headers "x-video-codec") .videoCodec
    Expression.parse rule.expression = .ok e ∧ e.apply q.context = e.apply q'.context ∧
      ParseCache.empty.Faithful ∧ Request.SameFor [rule] q q' ∧ Request.SameFor [mapping] q q' ∧
      (Detection.detect [rule] q .empty).1 = (Detection.detect [rule] q' .empty).1 ∧
      (Decision.decide? q {} [mapping] .empty).1 = (Decision.decide? q' {} [mapping] .empty).1 := by
  intro rule mapping q q' e
  obtain ⟨hexpressions, hdetections, hdecisions, hparts⟩ := decisions_of_sameFor
  have hparse : Expression.parse rule.expression = .ok e :=
    Expression.parse_passes (by decide) (.dynamic (by decide) (by decide)) .videoCodec
  have hparse' : Expression.parse mapping.expression = .ok (Builtin.mentions ["Mozilla"]) :=
    Builtin.parse_agentContains (by decide) (by decide)
  have hfields : e.mentioned =
      [.dynamic .headers "x-video-codec", .dynamic .headers "x-video-codec"] := by
    rw [Expression.mentioned, Expression.conditions_eq]
    rfl
  have hmentioned : rule.mentioned = e.mentioned := Rule.mentioned_of_parse rfl hparse
  have hmentioned' : mapping.mentioned = [.static "user_agent"] := by
    rw [Rule.mentioned_of_parse rfl hparse', Expression.mentioned, Expression.conditions_eq]
    rfl
  have hchanged : ∀ p, q.part p ≠ q'.part p →
      p ∈ [Request.Part.header "x-other", .param "format"] := by
    intro p hne
    by_contra hp
    have hother : p ≠ .header "x-other" := fun h => hp (h ▸ List.mem_cons_self)
    have hquery : ¬(Request.Step.query "format" "dash").Changes p :=
      fun h => hp (h ▸ List.mem_cons_of_mem _ List.mem_cons_self)
    have hname : Headers.normalName "X-Other" = "x-other" := by decide
    have hheader : ¬(Request.Step.header "X-Other" "1").Changes p := by
      rw [Request.Step.Changes, hname]
      exact hother
    exact hne ((Request.part_step hquery).trans (Request.part_step hheader)).symm
  have hsame : Request.SameFor [rule] q q' := by
    refine hparts _ _ _ fun p hp => List.forall_mem_singleton.2 ?_
    rw [hmentioned, hfields]
    have hunread : ∀ p ∈ [Request.Part.header "x-other", .param "format"],
        ∀ f ∈ [Field.dynamic .headers "x-video-codec", .dynamic .headers "x-video-codec"],
          p ∉ f.parts := by decide
    exact hunread p (hchanged p hp)
  have hsame' : Request.SameFor [mapping] q q' := by
    refine hparts _ _ _ fun p hp => List.forall_mem_singleton.2 ?_
    rw [hmentioned']
    have hunread : ∀ p ∈ [Request.Part.header "x-other", .param "format"],
        ∀ f ∈ [Field.static "user_agent"], p ∉ f.parts := by decide
    exact hunread p (hchanged p hp)
  have hempty := ParseCache.faithful_empty
  have hresolve := List.forall_mem_singleton.1 hsame
  rw [hmentioned] at hresolve
  exact ⟨hparse, hexpressions e q.resolver q'.resolver hresolve, hempty, hsame, hsame',
    hdetections [rule] q q' _ _ hempty hempty hsame,
    hdecisions [mapping] q q' {} _ _ hempty hempty hsame'⟩

end StreamPolicy
