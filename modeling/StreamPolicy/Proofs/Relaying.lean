import StreamPolicy.Proofs.Attempt
import StreamPolicy.Proofs.Builtin

/-!
# How a stream is relayed

The first mapping that `Applies` decides, and no other has a say. It decides about each component on
its own (`Relayed`): what a prober left blank is copied as it is, what the mapping accepts is copied
as what it is, and everything else is turned into what the mapping prefers.
-/

namespace StreamPolicy

/-! ## What probers mean -/

namespace MediaKind

variable {α : Type} [MediaKind α]

/-- The names that a prober may have for `a`. -/
def keys (a : α) : List String := Named.name a :: aliases a

/-- What counts of `text` is one of the names of `a`. -/
def Means (text : String) (a : α) : Prop := probeKey text ∈ keys a

instance (text : String) (a : α) : Decidable (Means text a) :=
  inferInstanceAs (Decidable (probeKey text ∈ keys a))

end MediaKind

/-- All values of a vocabulary are listed, and no two of them share a name. -/
class LawfulMedia (α : Type) [MediaKind α] : Prop where
  mem_all : ∀ a : α, a ∈ Named.all (α := α)
  eq_of_mem_keys : ∀ a ∈ Named.all (α := α), ∀ b ∈ Named.all (α := α),
    ∀ key ∈ MediaKind.keys a, key ∈ MediaKind.keys b → a = b

instance : LawfulMedia VideoCodec := ⟨fun a => by cases a <;> decide, by decide⟩

instance : LawfulMedia AudioCodec := ⟨fun a => by cases a <;> decide, by decide⟩

instance : LawfulMedia Container := ⟨fun a => by cases a <;> decide, by decide⟩

section Components

variable {α : Type} [MediaKind α] [LawfulMedia α]

theorem MediaKind.ofProbe?_eq_some_iff {text : String} {a : α} :
    ofProbe? text = some a ↔ Means text a := by
  have hfound : ∀ {b : α}, ofProbe? text = some b → Means text b := by
    intro b hb
    have hcontains := List.find?_some hb
    exact List.contains_iff_mem.1 hcontains
  refine ⟨hfound, fun h => ?_⟩
  cases hfind : (ofProbe? text : Option α) with
  | none =>
    exact absurd (List.contains_iff_mem.2 h) (List.find?_eq_none.1 hfind a (LawfulMedia.mem_all a))
  | some b =>
    rw [LawfulMedia.eq_of_mem_keys b (LawfulMedia.mem_all b) a (LawfulMedia.mem_all a) _
      (hfound hfind) h]

/-! ## Components -/

/-- What is done with the component `source` of a stream, and what it is then. -/
inductive Relayed (source : String) (accepted : List α) (preferred : α) :
    StreamAction → Option α → Prop
  | blank : Text.isBlankText source.toList = true → Relayed source accepted preferred .copy none
  | accepted {a : α} : Text.isBlankText source.toList = false → MediaKind.Means source a →
    a ∈ accepted → Relayed source accepted preferred .copy (some a)
  | turned : Text.isBlankText source.toList = false →
    (∀ a ∈ accepted, ¬MediaKind.Means source a) →
    Relayed source accepted preferred .transcode (some preferred)

omit [LawfulMedia α] in
theorem exists_relayed (source : String) (accepted : List α) (preferred : α) :
    ∃ action target, Relayed source accepted preferred action target := by
  cases hblank : Text.isBlankText source.toList with
  | true => exact ⟨_, _, .blank hblank⟩
  | false =>
    by_cases h : ∃ a ∈ accepted, MediaKind.Means source a
    · obtain ⟨a, ha, hmeans⟩ := h
      exact ⟨_, _, .accepted hblank hmeans ha⟩
    · exact ⟨_, _, .turned hblank fun a ha hmeans => h ⟨a, ha, hmeans⟩⟩

variable [BEq α] [LawfulBEq α] {source : String} {accepted : List α} {preferred : α}
  {action : StreamAction} {target : Option α}

theorem Relayed.decideComponent_eq (h : Relayed source accepted preferred action target) :
    decideComponent source accepted preferred = (action, target) := by
  unfold decideComponent
  cases h with
  | blank hblank => rw [if_pos hblank]
  | accepted hblank hmeans hmem =>
    rw [hblank, MediaKind.ofProbe?_eq_some_iff.2 hmeans]
    exact if_pos (List.contains_iff_mem.2 hmem)
  | turned hblank hnone =>
    rw [hblank]
    cases hprobe : (MediaKind.ofProbe? source : Option α) with
    | none => rfl
    | some a =>
      have hmem : ¬accepted.contains a = true := fun hmem =>
        hnone a (List.contains_iff_mem.1 hmem) (MediaKind.ofProbe?_eq_some_iff.1 hprobe)
      exact if_neg hmem

theorem decideComponent_eq_iff : decideComponent source accepted preferred = (action, target) ↔
    Relayed source accepted preferred action target := by
  refine ⟨fun h => ?_, Relayed.decideComponent_eq⟩
  obtain ⟨action', target', h'⟩ := exists_relayed source accepted preferred
  cases h'.decideComponent_eq.symm.trans h
  exact h'

theorem relayed_decideComponent (source : String) (accepted : List α) (preferred : α) :
    Relayed source accepted preferred (decideComponent source accepted preferred).1
      (decideComponent source accepted preferred).2 := decideComponent_eq_iff.1 rfl

end Components

/-! ## Decisions -/

/-- The rule `r` is enabled, parses and matches `request`. -/
def Rule.Applies {α : Type} (request : Request) (r : Rule α) : Prop :=
  r.enabled = true ∧
    ∃ e, Expression.parse r.expression = .ok e ∧ e.evaluate request.context = true

theorem Rule.matchesRequest_iff {α : Type} {request : Request} {r : Rule α} :
    r.matchesRequest request = true ↔ r.Applies request := by
  unfold matchesRequest condition? Applies
  cases r.enabled with
  | false => simp
  | true => cases Expression.parse r.expression <;> simp [Except.toOption]

namespace Decision

variable {m : RelayMapping} {source : StreamInfo} {d : Decision}

/-- The decision `d` is that of `m`: it deals with each component of `source` on its own, and the
stream has to be transcoded if any component has. -/
structure Follows (d : Decision) (m : RelayMapping) (source : StreamInfo) : Prop where
  mapping : d.mapping = m.ref
  video : Relayed source.video m.attributes.acceptedVideo m.attributes.videoCodec
    d.videoAction d.targetVideo
  audio : Relayed source.audio m.attributes.acceptedAudio m.attributes.audioCodec
    d.audioAction d.targetAudio
  container : Relayed source.container m.attributes.acceptedContainers m.attributes.container
    d.containerAction d.targetContainer
  transcodes : d.needsTranscode = true ↔
    d.videoAction = .transcode ∨ d.audioAction = .transcode ∨ d.containerAction = .transcode

theorem needsTranscode_iff (d : Decision) : d.needsTranscode = true ↔
    d.videoAction = .transcode ∨ d.audioAction = .transcode ∨ d.containerAction = .transcode := by
  rw [needsTranscode, List.contains_iff_mem]
  simp only [List.mem_cons, List.not_mem_nil, or_false, @eq_comm _ StreamAction.transcode]

/-- A mapping leaves no choice. -/
theorem follows_iff : d.Follows m source ↔ d = m.decide source := by
  constructor
  · rintro ⟨hmapping, hvideo, haudio, hcontainer, -⟩
    obtain ⟨mapping, videoAction, audioAction, containerAction, targetVideo, targetAudio,
      targetContainer⟩ := d
    simp only at hmapping hvideo haudio hcontainer
    simp only [Rule.decide, hvideo.decideComponent_eq, haudio.decideComponent_eq,
      hcontainer.decideComponent_eq, hmapping]
  · rintro rfl
    exact ⟨rfl, relayed_decideComponent _ _ _, relayed_decideComponent _ _ _,
      relayed_decideComponent _ _ _, needsTranscode_iff _⟩

/-! ## The mapping that decides -/

variable {request : Request} {mappings : List RelayMapping} {cache : ParseCache}

theorem decide?_eq_none_iff (hc : cache.Faithful) :
    (decide? request source mappings cache).1 = none ↔ ∀ m ∈ mappings, ¬m.Applies request := by
  rw [decide?_fst request source mappings hc, Option.map_eq_none_iff, List.find?_eq_none]
  simp only [Rule.matchesRequest_iff]

theorem decide?_eq_some_iff (hc : cache.Faithful) :
    (decide? request source mappings cache).1 = some d ↔
      ∃ before m after, mappings = before ++ m :: after ∧ (∀ b ∈ before, ¬b.Applies request) ∧
        m.Applies request ∧ d = m.decide source := by
  rw [decide?_fst request source mappings hc, Option.map_eq_some_iff]
  simp only [List.find?_eq_some_iff_append, Bool.not_eq_true', ← Bool.not_eq_true,
    Rule.matchesRequest_iff]
  constructor
  · rintro ⟨m, ⟨hm, before, after, hsplit, hbefore⟩, hd⟩
    exact ⟨before, m, after, hsplit, hbefore, hm, hd.symm⟩
  · rintro ⟨before, m, after, hsplit, hbefore, hm, hd⟩
    exact ⟨m, ⟨hm, before, after, hsplit, hbefore⟩, hd.symm⟩

/-- No decision is made just when no mapping applies. Otherwise it is that of the first mapping
which does, and it stays the same if mappings before that one are removed and those behind it
replaced. -/
theorem decide?_first (mappings : List RelayMapping) (request : Request) (source : StreamInfo)
    {cache : ParseCache} (hc : cache.Faithful) :
    ((decide? request source mappings cache).1 = none ↔ ∀ m ∈ mappings, ¬m.Applies request) ∧
    (∀ d, (decide? request source mappings cache).1 = some d ↔
      ∃ before m after, mappings = before ++ m :: after ∧ (∀ b ∈ before, ¬b.Applies request) ∧
        m.Applies request ∧ d.Follows m source) ∧
    ∀ before m after, mappings = before ++ m :: after → (∀ b ∈ before, ¬b.Applies request) →
      m.Applies request → ∀ kept rest cache', List.Sublist kept before → cache'.Faithful →
        (decide? request source (kept ++ m :: rest) cache').1 =
          (decide? request source mappings cache).1 := by
  refine ⟨decide?_eq_none_iff hc, fun d => ?_, ?_⟩
  · simp only [follows_iff]
    exact decide?_eq_some_iff hc
  · intro before m after hsplit hbefore hm kept rest cache' hkept hc'
    have hfull : (decide? request source mappings cache).1 = some (m.decide source) :=
      (decide?_eq_some_iff hc).2 ⟨before, m, after, hsplit, hbefore, hm, rfl⟩
    rw [hfull, decide?_eq_some_iff hc']
    exact ⟨kept, m, rest, rfl, fun b hb => hbefore b (hkept.subset hb), hm, rfl⟩

/-- A disabled, a broken and a foreign mapping are passed over. Of the mapping behind them, one
component is accepted, one is blank and one is turned. -/
theorem decide?_first_behind :
    let named (n : Nat) (text : String) : RelayMapping :=
      { id := ⟨n⟩, name := "Mapping", expression := text, attributes := {}, createdAt := .epoch
        updatedAt := .epoch }
    let disabled := { named 1 "" with enabled := false }
    let broken := named 2 "user_agent contains"
    let foreign := named 3 (Builtin.agentContains ["VLC"])
    let m := { named 4 "" with attributes := { acceptedVideo := [.h264, .h265] } }
    let source : StreamInfo := { video := "HEVC", audio := " ", container := "matroska" }
    let d : Decision :=
      { mapping := m.ref, videoAction := .copy, audioAction := .copy, containerAction := .transcode
        targetVideo := some .h265, targetAudio := none, targetContainer := some .mpegts }
    ParseCache.empty.Faithful ∧
      (∀ b ∈ [disabled, broken, foreign], ¬b.Applies {}) ∧ m.Applies {} ∧ d.Follows m source ∧
      (decide? {} source [disabled, broken, foreign, m, named 5 ""] .empty).1 = some d ∧
      (decide? {} source [foreign, m] .empty).1 = some d := by
  intro named disabled broken foreign m source d
  have hempty := ParseCache.faithful_empty
  have hdisabled : ¬disabled.Applies {} := fun h => Bool.false_ne_true h.1
  have hbroken : ¬broken.Applies {} := by
    rintro ⟨-, e, he, -⟩
    have hnone : (Expression.parse broken.expression).toOption = none := by decide +kernel
    rw [he] at hnone
    cases hnone
  have hforeign : ¬foreign.Applies {} := by
    rintro ⟨-, e, he, hmatches⟩
    have hparse : Expression.parse foreign.expression = .ok (Builtin.mentions ["VLC"]) :=
      Builtin.parse_agentContains (by decide) (by decide)
    cases he.symm.trans hparse
    exact absurd hmatches (by decide)
  have hbefore : ∀ b ∈ [disabled, broken, foreign], ¬b.Applies {} := by
    simp only [List.forall_mem_cons]
    exact ⟨hdisabled, hbroken, hforeign, List.forall_mem_nil _⟩
  have hm : m.Applies {} := ⟨rfl, _, Expression.parse_empty, rfl⟩
  have hfollows : d.Follows m source := follows_iff.2 (by decide)
  obtain ⟨-, hsome, hlocal⟩ :=
    decide?_first [disabled, broken, foreign, m, named 5 ""] {} source hempty
  have hd : (decide? {} source [disabled, broken, foreign, m, named 5 ""] .empty).1 = some d :=
    (hsome d).2 ⟨[disabled, broken, foreign], m, [named 5 ""], rfl, hbefore, hm, hfollows⟩
  have hkept : List.Sublist [foreign] [disabled, broken, foreign] := by simp
  exact ⟨hempty, hbefore, hm, hfollows, hd,
    (hlocal _ m _ rfl hbefore hm [foreign] [] .empty hkept hempty).trans hd⟩

end Decision

end StreamPolicy
