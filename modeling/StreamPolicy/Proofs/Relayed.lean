import StreamPolicy.Proofs.Relaying

/-!
# Streams that have been relayed

Each component of a relayed stream is what the decision made of it, and a prober calls it by its
name (`Delivers`). Which mapping decides does not depend on the stream. So if that mapping
`AcceptsPreferred`, it copies whatever has been relayed as it decided, however often that is relayed
again (`rounds`).
-/

namespace StreamPolicy

/-! ## Components -/

/-- Probers know the names that values have here, none of which is blank. -/
class WellNamed (α : Type) [MediaKind α] : Prop extends LawfulMedia α where
  means_name : ∀ a : α, MediaKind.Means (Named.name a) a
  name_not_blank : ∀ a : α, Text.isBlankText (Named.name a).toList = false

instance : WellNamed VideoCodec :=
  ⟨fun a => by cases a <;> decide, fun a => by cases a <;> decide⟩

instance : WellNamed AudioCodec :=
  ⟨fun a => by cases a <;> decide, fun a => by cases a <;> decide⟩

instance : WellNamed Container :=
  ⟨fun a => by cases a <;> decide, fun a => by cases a <;> decide⟩

section Components

variable {α : Type} [MediaKind α]

/-- What `text` says about a component whose target is known, or about one without a target. -/
def Names (text : String) : Option α → Prop
  | some a => text = Named.name a
  | none => Text.isBlankText text.toList = true

theorem names_getD (target : Option α) : Names ((target.map Named.name).getD "") target := by
  cases target with
  | none => rfl
  | some a => rfl

variable [WellNamed α] {source relayed : String} {accepted : List α} {preferred : α}
  {action : StreamAction} {target : Option α}

/-- A component that is what it was to be is copied, and stays what it is. -/
theorem Relayed.again (h : Relayed source accepted preferred action target)
    (haccepts : preferred ∈ accepted) (hnames : Names relayed target) :
    Relayed relayed accepted preferred .copy target := by
  have hnamed : ∀ a ∈ accepted, Relayed (Named.name a) accepted preferred .copy (some a) :=
    fun a ha => .accepted (WellNamed.name_not_blank a) (WellNamed.means_name a) ha
  cases h with
  | blank _ => exact .blank hnames
  | accepted _ _ hmem => exact hnames ▸ hnamed _ hmem
  | turned _ _ => exact hnames ▸ hnamed _ haccepts

end Components

/-! ## Decisions -/

/-- A mapping accepts what it prefers. -/
structure RelayTargets.AcceptsPreferred (t : RelayTargets) : Prop where
  video : t.videoCodec ∈ t.acceptedVideo
  audio : t.audioCodec ∈ t.acceptedAudio
  container : t.container ∈ t.acceptedContainers

namespace Decision

/-- The stream `s` consists of the targets of `d`. -/
structure Delivers (d : Decision) (s : StreamInfo) : Prop where
  video : Names s.video d.targetVideo
  audio : Names s.audio d.targetAudio
  container : Names s.container d.targetContainer

/-- What a prober says about a stream that has been relayed as `d` says. -/
def delivered (d : Decision) : StreamInfo where
  video := (d.targetVideo.map Named.name).getD ""
  audio := (d.targetAudio.map Named.name).getD ""
  container := (d.targetContainer.map Named.name).getD ""

theorem delivers_delivered (d : Decision) : d.Delivers d.delivered :=
  ⟨names_getD _, names_getD _, names_getD _⟩

/-- The decision of the same mapping as `d`, with the same targets, that copies everything. -/
def copied (d : Decision) : Decision :=
  { d with videoAction := .copy, audioAction := .copy, containerAction := .copy }

theorem needsTranscode_copied (d : Decision) : d.copied.needsTranscode = false := rfl

theorem delivered_copied (d : Decision) : d.copied.delivered = d.delivered := rfl

variable {m : RelayMapping} {source : StreamInfo} {d : Decision}

theorem Follows.again (h : d.Follows m source) (haccepts : m.attributes.AcceptsPreferred)
    {s : StreamInfo} (hs : d.Delivers s) : d.copied.Follows m s where
  mapping := h.mapping
  video := h.video.again haccepts.video hs.video
  audio := h.audio.again haccepts.audio hs.audio
  container := h.container.again haccepts.container hs.container
  transcodes := needsTranscode_iff _

/-! ## Relaying again and again -/

/-- The decisions about a stream that is relayed some number of times, each time as it has been
decided, with one cache. -/
def rounds (request : Request) (mappings : List RelayMapping) :
    Nat → StreamInfo → ParseCache → List Decision
  | 0, _, _ => []
  | n + 1, source, cache =>
    match decide? request source mappings cache with
    | (none, _) => []
    | (some d, cache) => d :: rounds request mappings n d.delivered cache

variable {request : Request} {mappings : List RelayMapping} {cache : ParseCache}

theorem rounds_succ (hc : cache.Faithful) (n : Nat)
    (hd : (decide? request source mappings cache).1 = some d) :
    ∃ cache' : ParseCache, cache'.Faithful ∧ rounds request mappings (n + 1) source cache =
      d :: rounds request mappings n d.delivered cache' := by
  refine ⟨_, (decide?_eq request source mappings hc).2, ?_⟩
  rw [rounds]
  generalize decide? request source mappings cache = decided at hd
  obtain ⟨_, _⟩ := decided
  cases hd
  rfl

/-- Where the stream that `d` delivers gets the decision `d`, it gets it ever after. -/
theorem rounds_of_stable (hc : cache.Faithful) (n : Nat)
    (h : ∀ cache : ParseCache, cache.Faithful →
      (decide? request d.delivered mappings cache).1 = some d) :
    rounds request mappings n d.delivered cache = List.replicate n d := by
  induction n generalizing cache with
  | zero => rfl
  | succ n ih =>
    obtain ⟨cache', hc', hrounds⟩ := rounds_succ hc n (h cache hc)
    rw [hrounds, ih hc', List.replicate_succ]

/-- If `m`, the first mapping that applies, accepts what it prefers, a stream that consists of the
targets of its decision is copied by `m`, with the same targets. A stream that is relayed as decided
is therefore transcoded the first time at most. -/
theorem decide?_again {mappings before after : List RelayMapping} {m : RelayMapping}
    (request : Request) (source : StreamInfo) (hsplit : mappings = before ++ m :: after)
    (hbefore : ∀ b ∈ before, ¬b.Applies request) (hm : m.Applies request)
    (haccepts : m.attributes.AcceptsPreferred) {cache : ParseCache} (hc : cache.Faithful) :
    ∃ d, d.Follows m source ∧ (decide? request source mappings cache).1 = some d ∧
      (∀ s cache', d.Delivers s → cache'.Faithful →
        (decide? request s mappings cache').1 = some d.copied ∧ d.copied.Follows m s ∧
          d.copied.needsTranscode = false) ∧
      ∀ n, rounds request mappings (n + 1) source cache = d :: List.replicate n d.copied := by
  have hfollows : (m.decide source).Follows m source := follows_iff.2 rfl
  have hfirst : (decide? request source mappings cache).1 = some (m.decide source) :=
    (decide?_eq_some_iff hc).2 ⟨before, m, after, hsplit, hbefore, hm, rfl⟩
  have hagain : ∀ s cache', (m.decide source).Delivers s → cache'.Faithful →
      (decide? request s mappings cache').1 = some (m.decide source).copied := by
    intro s cache' hs hc'
    have hcopied := hfollows.again haccepts hs
    exact (decide?_eq_some_iff hc').2 ⟨before, m, after, hsplit, hbefore, hm, follows_iff.1 hcopied⟩
  refine ⟨_, hfollows, hfirst, fun s cache' hs hc' => ?_, fun n => ?_⟩
  · exact ⟨hagain s cache' hs hc', hfollows.again haccepts hs, needsTranscode_copied _⟩
  · obtain ⟨cache', hc', hrounds⟩ := rounds_succ hc n hfirst
    rw [hrounds, ← delivered_copied, rounds_of_stable hc' n]
    exact fun cache'' hc'' => hagain _ cache'' (delivers_delivered _) hc''

/-- Behind a mapping for other clients, one component is accepted under another name, one is blank
and one is turned. Relayed three times, the stream is transcoded once. -/
theorem decide?_again_behind :
    let named (n : Nat) (text : String) : RelayMapping :=
      { id := ⟨n⟩, name := "Mapping", expression := text, attributes := {}, createdAt := .epoch
        updatedAt := .epoch }
    let foreign := named 1 (Builtin.agentContains ["VLC"])
    let m := { named 2 "" with
      attributes.acceptedVideo := [.h265, .h264]
      attributes.acceptedAudio := [.aac]
      attributes.acceptedContainers := [.mpegts] }
    let source : StreamInfo := { video := "HEVC", audio := " ", container := "matroska" }
    let d : Decision :=
      { mapping := m.ref, videoAction := .copy, audioAction := .copy, containerAction := .transcode
        targetVideo := some .h265, targetAudio := none, targetContainer := some .mpegts }
    (∀ b ∈ [foreign], ¬b.Applies {}) ∧ m.Applies {} ∧ m.attributes.AcceptsPreferred ∧
      ParseCache.empty.Faithful ∧
      d.Delivers { video := "h265", audio := "\t", container := "mpegts" } ∧
      (decide? {} { video := "h265", audio := "\t", container := "mpegts" } [foreign, m] .empty).1 =
        some d.copied ∧
      rounds {} [foreign, m] 3 source .empty = [d, d.copied, d.copied] := by
  intro named foreign m source d
  have hempty := ParseCache.faithful_empty
  have hforeign : ∀ b ∈ [foreign], ¬b.Applies {} := by
    rw [List.forall_mem_singleton]
    rintro ⟨-, e, he, hmatches⟩
    have hparse : Expression.parse foreign.expression = .ok (Builtin.mentions ["VLC"]) :=
      Builtin.parse_agentContains (by decide) (by decide)
    cases he.symm.trans hparse
    exact absurd hmatches (by decide)
  have hm : m.Applies {} := ⟨rfl, _, Expression.parse_empty, rfl⟩
  have haccepts : m.attributes.AcceptsPreferred := ⟨by decide, by decide, by decide⟩
  have hd : d = m.decide source := by decide
  have hdelivers : d.Delivers { video := "h265", audio := "\t", container := "mpegts" } :=
    ⟨rfl, rfl, rfl⟩
  obtain ⟨d', hfollows, -, hagain, hrounds⟩ :=
    decide?_again {} source rfl hforeign hm haccepts hempty
  obtain rfl : d' = d := (follows_iff.1 hfollows).trans hd.symm
  exact ⟨hforeign, hm, haccepts, hempty, hdelivers, (hagain _ _ hdelivers hempty).1, hrounds 2⟩

end Decision

end StreamPolicy
