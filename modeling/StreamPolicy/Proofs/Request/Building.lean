import Mathlib.Data.List.Induction
import StreamPolicy.Request.Basic

/-!
# What a request is built from

Each `Step` in building a request adds a value to a header, or parameters to the query, or neither.
A header has the values that it was given (`headerValues`), joined in the order of their arrival. A
query parameter has all values that came for it (`paramValues`), with an address or by themselves.
Headers and query know nothing of one another.
-/

namespace StreamPolicy

namespace Headers

/-- The values of a header in one text, if there are any. -/
def joined? : List String → Option String
  | [] => none
  | v :: vs => some (", ".intercalate (v :: vs))

theorem joined?_eq_none_iff {vs : List String} : joined? vs = none ↔ vs = [] := by
  cases vs <;> simp [joined?]

/-- One value more goes behind those that are there. -/
theorem joined?_concat (vs : List String) (v : String) :
    joined? (vs ++ [v]) =
      some (match joined? vs with
        | none => v
        | some old => old ++ ", " ++ v) := by
  cases vs with
  | nil => simp [joined?]
  | cons w ws =>
    have hne : w :: ws ≠ [] := List.cons_ne_nil w ws
    simp only [joined?, List.cons_append, Option.some.injEq]
    rw [← List.cons_append, String.intercalate_append_of_ne_nil hne (List.cons_ne_nil v []),
      String.intercalate_singleton]

theorem lookup_append_of_ne {key name : String} (h : key ≠ name) (value : String)
    (es : List (String × String)) : (append name value es).lookup key = es.lookup key := by
  have hkey : (key == name) = false := by simpa using h
  induction es with
  | nil => rw [append, List.lookup_cons, hkey]
  | cons e es ih =>
    obtain ⟨n, v⟩ := e
    rw [append]
    by_cases hn : n = name
    · subst hn
      simp [List.lookup_cons, hkey]
    · simp [hn, List.lookup_cons, ih]

theorem lookup_append_self (name value : String) (es : List (String × String)) :
    (append name value es).lookup name =
      some (match es.lookup name with
        | none => value
        | some old => old ++ ", " ++ value) := by
  induction es with
  | nil => simp [append]
  | cons e es ih =>
    obtain ⟨n, v⟩ := e
    rw [append]
    by_cases hn : n = name
    · simp [hn]
    · have hname : (name == n) = false := by simpa using Ne.symm hn
      simp [hn, List.lookup_cons, hname, ih]

end Headers

namespace Request

/-! ## Steps -/

def queryOf (uri : String) : String :=
  match Url.Location.parse? uri with
  | some l => l.query.getD ""
  | none => (splitPath uri).2

namespace Step

/-- The value that a step gives to the header `name`, without blanks around it. -/
def headerValue? (name : String) : Step → Option String
  | .header n v =>
    if Text.asciiLower (Text.trimmed n) = Text.asciiLower name then some (Text.trimmed v) else none
  | _ => none

def params : Step → List (String × String)
  | .uri text => Url.Form.parse (queryOf text)
  | .query name value => [(name, value)]
  | _ => []

def isHeader : Step → Bool
  | .header _ _ => true
  | _ => false

theorem headerValue?_header (n v name : String) : (header n v).headerValue? name =
    if Text.asciiLower (Text.trimmed n) = Text.asciiLower name then some (Text.trimmed v)
    else none := rfl

end Step

/-- An address says nothing about the method, the peer and the headers. -/
theorem setUri_keeps (q : Request) (uri : String) : (q.setUri uri).method = q.method ∧
    (q.setUri uri).peer = q.peer ∧ (q.setUri uri).headers = q.headers := by
  unfold setUri
  cases Url.Location.parse? uri with
  | none => exact ⟨rfl, rfl, rfl⟩
  | some l => exact ⟨rfl, rfl, rfl⟩

theorem params_setUri (q : Request) (uri : String) :
    (q.setUri uri).params = q.params ++ Url.Form.parse (queryOf uri) := by
  unfold setUri queryOf
  cases Url.Location.parse? uri with
  | none => rfl
  | some l => rfl

theorem params_step (q : Request) (s : Step) : (q.step s).params = q.params ++ s.params := by
  cases s with
  | uri text => exact q.params_setUri text
  | query name value => rfl
  | _ => exact (List.append_nil _).symm

/-- A step that gives a header a value puts it behind those that are there, and no other step
changes the header. -/
theorem header_step (q : Request) (s : Step) (name : String) :
    (q.step s).header name =
      match s.headerValue? name with
      | none => q.header name
      | some v =>
        some (match q.header name with
          | none => v
          | some old => old ++ ", " ++ v) := by
  cases s with
  | uri text => exact congrArg (fun hs => hs.get? name) (q.setUri_keeps text).2.2
  | header n v =>
    rw [Step.headerValue?_header]
    by_cases h : Text.asciiLower (Text.trimmed n) = Text.asciiLower name
    · rw [if_pos h]
      show (Headers.append (Headers.normalName n) _ q.headers.entries).lookup _ = _
      rw [Headers.normalName, h]
      exact Headers.lookup_append_self _ _ _
    · rw [if_neg h]
      exact Headers.lookup_append_of_ne (Ne.symm h) _ _
  | _ => rfl

/-! ## Steps in a row -/

/-- The values given to the header `name`, without blanks around them, in the order of their
arrival. -/
def headerValues (steps : List Step) (name : String) : List String :=
  steps.filterMap (Step.headerValue? name)

/-- The values given to the query parameter `key` in the order of their arrival. -/
def paramValues (steps : List Step) (key : String) : List String :=
  ((steps.flatMap Step.params).filter (·.1 == key)).map Prod.snd

theorem ofSteps_concat (steps : List Step) (s : Step) :
    ofSteps (steps ++ [s]) = (ofSteps steps).step s := List.foldl_append

theorem params_ofSteps (steps : List Step) : (ofSteps steps).params = steps.flatMap Step.params := by
  induction steps using List.reverseRecOn with
  | nil => rfl
  | append_singleton steps s ih =>
    rw [ofSteps_concat, params_step, ih, List.flatMap_append, List.flatMap_singleton]

theorem header_ofSteps (steps : List Step) (name : String) :
    (ofSteps steps).header name = Headers.joined? (headerValues steps name) := by
  induction steps using List.reverseRecOn with
  | nil => rfl
  | append_singleton steps s ih =>
    rw [ofSteps_concat, header_step, ih, headerValues, headerValues, List.filterMap_append]
    cases hs : s.headerValue? name with
    | none => simp [hs]
    | some v => simp [hs, Headers.joined?_concat]

theorem queryValues_ofSteps (steps : List Step) (key : String) :
    (ofSteps steps).queryValues key = paramValues steps key := by
  rw [queryValues, params_ofSteps, paramValues]

theorem headerValues_eq_nil_iff {steps : List Step} {name : String} :
    headerValues steps name = [] ↔ ¬∃ n v, Step.header n v ∈ steps ∧
      Text.asciiLower (Text.trimmed n) = Text.asciiLower name := by
  rw [headerValues, List.filterMap_eq_nil_iff]
  constructor
  · rintro h ⟨n, v, hmem, heq⟩
    have hnone := h _ hmem
    rw [Step.headerValue?_header, if_pos heq] at hnone
    cases hnone
  · intro h s hs
    cases s with
    | header n v =>
      rw [Step.headerValue?_header]
      exact if_neg fun heq => h ⟨n, v, hs, heq⟩
    | _ => rfl

/-! ## Headers and query -/

theorem headerValues_filter (steps : List Step) (name : String) :
    headerValues (steps.filter (·.isHeader)) name = headerValues steps name := by
  rw [headerValues, headerValues]
  induction steps with
  | nil => rfl
  | cons s steps ih =>
    cases s with
    | header n v =>
      rw [List.filter_cons_of_pos rfl, List.filterMap_cons, List.filterMap_cons, ih]
    | _ => exact ih

theorem paramValues_filter (steps : List Step) (key : String) :
    paramValues (steps.filter (!·.isHeader)) key = paramValues steps key := by
  have hparams : (steps.filter (!·.isHeader)).flatMap Step.params = steps.flatMap Step.params := by
    induction steps with
    | nil => rfl
    | cons s steps ih =>
      cases s with
      | header n v => exact ih
      | _ => rw [List.filter_cons_of_pos rfl, List.flatMap_cons, List.flatMap_cons, ih]
  rw [paramValues, hparams, paramValues]

/-- A header is there if a step names it, and has the values of all such steps. A parameter has the
values of all steps that bring it, and counts as the first of them. Headers come to the same without
all other steps, and parameters without those that give headers. -/
theorem ofSteps_lookups (steps : List Step) :
    let q := ofSteps steps
    let headed := ofSteps (steps.filter (·.isHeader))
    let bare := ofSteps (steps.filter (!·.isHeader))
    (∀ name, (q.header name = none ↔ ¬∃ n v, Step.header n v ∈ steps ∧
        Text.asciiLower (Text.trimmed n) = Text.asciiLower name) ∧
      q.header name = Headers.joined? (headerValues steps name)) ∧
    (∀ key, q.queryValues key = paramValues steps key ∧
      q.queryParam key = (paramValues steps key).head? ∧
      q.dynamicValue .query key = (paramValues steps key).head?) ∧
    (∀ name, headed.header name = q.header name ∧
      headed.dynamicValue .headers name = q.dynamicValue .headers name) ∧
    ∀ key, bare.queryValues key = q.queryValues key ∧ bare.queryParam key = q.queryParam key ∧
      bare.dynamicValue .query key = q.dynamicValue .query key := by
  intro q headed bare
  have hquery : ∀ key, q.queryValues key = paramValues steps key := queryValues_ofSteps steps
  have hfirst : ∀ key, q.queryParam key = (paramValues steps key).head? :=
    fun key => congrArg List.head? (hquery key)
  refine ⟨fun name => ⟨?_, header_ofSteps steps name⟩,
    fun key => ⟨hquery key, hfirst key, hfirst key⟩, fun name => ?_, fun key => ?_⟩
  · rw [header_ofSteps, Headers.joined?_eq_none_iff, headerValues_eq_nil_iff]
  · have hsame : headed.header name = q.header name := by
      rw [header_ofSteps, header_ofSteps, headerValues_filter]
    exact ⟨hsame, congrArg (Option.map Text.trimmed) hsame⟩
  · have hsame : bare.queryValues key = q.queryValues key := by
      rw [queryValues_ofSteps, queryValues_ofSteps, paramValues_filter]
    exact ⟨hsame, congrArg List.head? hsame, congrArg List.head? hsame⟩

end Request

end StreamPolicy
