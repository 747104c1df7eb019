import Mathlib.Data.Finset.Card
import StreamPolicy.Proofs.Cache

/-!
# Histories of a cache

A cache is asked for texts, given expressions for texts, and made to forget texts: each of these is
an `Event`. Whatever its history, a cache answers with the expression that was given last for a
text, unless the text has been forgotten since (`Stands`), and otherwise with what parsing gives. It
holds the texts that were asked for or given and have not been forgotten since (`Held`).
-/

namespace StreamPolicy.ParseCache

/-- What can happen to a cache. -/
inductive Event
  | asked (text : String)
  | given (text : String) (e : Expression)
  | retained (live : List String)
  | cleared

namespace Event

/-- The text that is asked for, if one is. -/
def asked? : Event → Option String
  | asked text => some text
  | _ => none

/-- The text is asked for or given an expression. -/
def Names (text : String) : Event → Prop
  | asked t | given t _ => t = text
  | retained _ | cleared => False

def Gives (text : String) (ev : Event) : Prop := ∃ e, ev = given text e

def Forgets (text : String) : Event → Prop
  | asked _ | given _ _ => False
  | retained live => text ∉ live
  | cleared => True

end Event

def after (c : ParseCache) : Event → ParseCache
  | .asked text => (c.parse text).2
  | .given text e => c.insert text (.ok e)
  | .retained live => c.retain live
  | .cleared => empty

/-- A new cache after `events`. -/
def run (events : List Event) : ParseCache := events.foldl after empty

/-- What `c` says whenever it is asked in the course of some events. -/
def answers (c : ParseCache) : List Event → List Parsed
  | [] => []
  | ev :: events =>
    (ev.asked?.map fun text => (c.parse text).1).toList ++ answers (c.after ev) events

/-! ## What has happened since -/

variable {P Q P' Q' : Event → Prop} {events : List Event} {ev : Event} {text : String}

/-- An event of the kind `P` has happened, and after it only events of the kind `Q`. -/
def Since (P Q : Event → Prop) (events : List Event) : Prop :=
  ∃ before ev later, events = before ++ ev :: later ∧ P ev ∧ ∀ ev' ∈ later, Q ev'

theorem since_nil : ¬Since P Q [] := by
  rintro ⟨before, ev, later, h, -⟩
  simp at h

theorem since_concat : Since P Q (events ++ [ev]) ↔ P ev ∨ Since P Q events ∧ Q ev := by
  constructor
  · rintro ⟨before, first, later, h, hp, hq⟩
    rcases List.eq_nil_or_concat later with rfl | ⟨later, last, rfl⟩
    · obtain ⟨-, rfl⟩ := List.append_singleton_inj.1 h
      exact .inl hp
    · rw [List.concat_eq_append, ← List.cons_append, ← List.append_assoc] at h
      obtain ⟨rfl, rfl⟩ := List.append_singleton_inj.1 h
      simp only [List.concat_eq_append, List.forall_mem_append, List.forall_mem_singleton] at hq
      exact .inr ⟨⟨before, first, later, rfl, hp, hq.1⟩, hq.2⟩
  · rintro (hp | ⟨⟨before, first, later, rfl, hp, hq⟩, hlast⟩)
    · exact ⟨events, ev, [], rfl, hp, List.forall_mem_nil _⟩
    · refine ⟨before, first, later ++ [ev], by simp, hp, ?_⟩
      exact List.forall_mem_append.2 ⟨hq, List.forall_mem_singleton.2 hlast⟩

theorem Since.imp (hP : ∀ ev, P ev → P' ev) (hQ : ∀ ev, Q ev → Q' ev) (h : Since P Q events) :
    Since P' Q' events := by
  obtain ⟨before, ev, later, heq, hp, hq⟩ := h
  exact ⟨before, ev, later, heq, hP ev hp, fun ev' h' => hQ ev' (hq ev' h')⟩

/-- The text has been asked for or given, and has not been forgotten since. -/
def Held (events : List Event) (text : String) : Prop :=
  Since (·.Names text) (¬·.Forgets text) events

/-- The expression `e` was the last one to be given for `text`, which has not been forgotten
since. -/
def Stands (events : List Event) (text : String) (e : Expression) : Prop :=
  Since (· = .given text e) (fun ev => ¬ev.Forgets text ∧ ¬ev.Gives text) events

theorem Stands.held {e : Expression} (h : Stands events text e) : Held events text := by
  refine h.imp ?_ fun _ hq => hq.1
  rintro _ rfl
  exact rfl

theorem Stands.unique {e e' : Expression} (h : Stands events text e) (h' : Stands events text e') :
    e = e' := by
  induction events using List.reverseRecOn with
  | nil => exact absurd h since_nil
  | append_singleton events ev ih =>
    rcases since_concat.1 h with rfl | ⟨hs, -, hgives⟩
    · rcases since_concat.1 h' with heq | ⟨-, -, hgives⟩
      · cases heq
        rfl
      · exact absurd ⟨e, rfl⟩ hgives
    · rcases since_concat.1 h' with rfl | ⟨hs', -, -⟩
      · exact absurd ⟨e', rfl⟩ hgives
      · exact ih hs hs'

/-! ## What a cache knows -/

/-- What is known of `text` after `events`. -/
inductive Known (events : List Event) (text : String) : Option Parsed → Prop
  | given {e : Expression} : Stands events text e → Known events text (some (.ok e))
  | parsed : Held events text → (∀ e, ¬Stands events text e) →
    Known events text (some (Expression.parse text))
  | nothing : ¬Held events text → Known events text none

/-- An event that neither `Names` nor `Forgets` the text changes nothing that is known of it. -/
theorem Known.quiet {parsed : Option Parsed} (h : Known events text parsed)
    (hnames : ¬ev.Names text) (hforgets : ¬ev.Forgets text) :
    Known (events ++ [ev]) text parsed := by
  have hgives : ¬ev.Gives text := by
    rintro ⟨e, rfl⟩
    exact hnames rfl
  have hheld : Held (events ++ [ev]) text ↔ Held events text := by
    simp only [Held, since_concat, hnames, hforgets, false_or, not_false_iff, and_true]
  have hstands : ∀ e, Stands (events ++ [ev]) text e ↔ Stands events text e := by
    intro e
    have hne : ev ≠ .given text e := fun heq => hgives ⟨e, heq⟩
    simp only [Stands, since_concat, hne, hforgets, hgives, false_or, not_false_iff, and_true]
  cases h with
  | given h => exact .given ((hstands _).2 h)
  | parsed h h' => exact .parsed (hheld.2 h) fun e he => h' e ((hstands e).1 he)
  | nothing h => exact .nothing fun h' => h (hheld.1 h')

/-- When `text` is asked for, what is known of it is the answer from then on. -/
theorem Known.asked {c : ParseCache} (h : Known events text (c.get? text)) :
    Known (events ++ [.asked text]) text (some (c.parse text).1) := by
  have hheld : Held (events ++ [.asked text]) text := since_concat.2 (.inl rfl)
  have hstands : ∀ e, Stands (events ++ [.asked text]) text e ↔ Stands events text e := by
    intro e
    simp [Stands, since_concat, Event.Forgets, Event.Gives]
  unfold parse
  generalize c.get? text = known at h
  cases h with
  | given h => exact .given ((hstands _).2 h)
  | parsed h h' => exact .parsed hheld fun e he => h' e ((hstands e).1 he)
  | nothing h => exact .parsed hheld fun e he => h ((hstands e).1 he).held

theorem known_of_forgets (h : ev.Forgets text) : Known (events ++ [ev]) text none := by
  refine .nothing fun hheld => ?_
  rcases since_concat.1 hheld with hnames | ⟨-, hforgets⟩
  · cases ev with
    | asked _ => exact h
    | given _ _ => exact h
    | retained _ => exact hnames
    | cleared => exact hnames
  · exact hforgets h

theorem Known.after {c : ParseCache} (h : Known events text (c.get? text)) :
    Known (events ++ [ev]) text ((c.after ev).get? text) := by
  cases ev with
  | asked t =>
    rw [ParseCache.after, get?_parse]
    by_cases ht : text = t
    · subst ht
      rw [if_pos rfl]
      exact h.asked
    · rw [if_neg ht]
      exact h.quiet (Ne.symm ht) id
  | given t e =>
    rw [ParseCache.after, get?_insert]
    by_cases ht : text = t
    · subst ht
      rw [if_pos rfl]
      exact .given (since_concat.2 (.inl rfl))
    · rw [if_neg ht]
      exact h.quiet (Ne.symm ht) id
  | retained live =>
    rw [ParseCache.after, get?_retain]
    by_cases hlive : text ∈ live
    · rw [if_pos hlive]
      exact h.quiet id (not_not_intro hlive)
    · rw [if_neg hlive]
      exact known_of_forgets hlive
  | cleared => exact known_of_forgets trivial

/-- After any events, what a cache holds for a text is what is `Known` of it. -/
theorem known_get?_run (events : List Event) (text : String) :
    Known events text ((run events).get? text) := by
  induction events using List.reverseRecOn with
  | nil => exact .nothing since_nil
  | append_singleton events ev ih =>
    rw [run, List.foldl_append]
    exact Known.after ih

/-! ## Answers and texts -/

theorem parse_of_stands {e : Expression} (h : Stands events text e) :
    ((run events).parse text).1 = .ok e := by
  have hknown := known_get?_run events text
  unfold parse
  generalize (run events).get? text = known at hknown
  cases hknown with
  | given h' => rw [h.unique h']
  | parsed _ h' => exact absurd h (h' e)
  | nothing h' => exact absurd h.held h'

theorem parse_of_not_stands (h : ∀ e, ¬Stands events text e) :
    ((run events).parse text).1 = Expression.parse text := by
  have hknown := known_get?_run events text
  unfold parse
  generalize (run events).get? text = known at hknown
  cases hknown with
  | given h' => exact absurd h' (h _)
  | parsed _ _ => rfl
  | nothing _ => rfl

theorem mem_texts_run : text ∈ (run events).texts ↔ Held events text := by
  have hknown := known_get?_run events text
  rw [mem_texts]
  generalize (run events).get? text = known at hknown
  cases hknown with
  | given h => simp [h.held]
  | parsed h _ => simp [h]
  | nothing h => simp [h]

/-- A faithful cache that is never given an expression answers as `Expression.parse` does. -/
theorem Faithful.answers_eq {c : ParseCache} (h : c.Faithful)
    (hgives : ∀ ev ∈ events, ∀ text, ¬ev.Gives text) :
    c.answers events = (events.filterMap Event.asked?).map Expression.parse := by
  induction events generalizing c with
  | nil => rfl
  | cons ev events ih =>
    obtain ⟨hev, hrest⟩ := List.forall_mem_cons.1 hgives
    cases ev with
    | asked text =>
      rw [answers, after, ih (h.parse_snd text) hrest]
      exact congrArg (· :: _) (h.parse_fst text)
    | given text e => exact absurd ⟨e, rfl⟩ (hev text)
    | retained live => exact ih (h.retain live) hrest
    | cleared => exact ih faithful_empty hrest

/-- After any history, a cache answers with the expression that `Stands` for a text, and otherwise
as `Expression.parse` does, and its size is the number of texts that are `Held`. Without given
expressions, all answers of a history are those of parsing. -/
theorem answers_of_history :
    (∀ (events : List Event) (text : String),
      (∀ e, Stands events text e → ((run events).parse text).1 = .ok e) ∧
      ((∀ e, ¬Stands events text e) → ((run events).parse text).1 = Expression.parse text)) ∧
    (∀ events : List Event, ∃ held : Finset String,
      (∀ text, text ∈ held ↔ Held events text) ∧ (run events).size = held.card) ∧
    ∀ events : List Event, (∀ ev ∈ events, ∀ text, ¬ev.Gives text) →
      answers empty events = (events.filterMap Event.asked?).map Expression.parse := by
  refine ⟨fun events text => ⟨fun e => parse_of_stands, parse_of_not_stands⟩, fun events => ?_,
    fun events => faithful_empty.answers_eq⟩
  refine ⟨(run events).texts.toFinset, fun text => ?_, ?_⟩
  · rw [List.mem_toFinset, mem_texts_run]
  · rw [List.toFinset_card_of_nodup (run events).nodup_texts, length_texts]

/-- An expression that stands is the answer until everything is forgotten. -/
theorem answers_of_history_given :
    let e : Expression := { root := none }
    let events : List Event := [.asked "x", .given "x" e, .retained ["x"], .asked "x"]
    let others : List Event := [.asked "", .cleared, .asked ""]
    Stands events "x" e ∧ ((run events).parse "x").1 = .ok e ∧
      (∀ e', ¬Stands (events ++ [.cleared]) "x" e') ∧
      ((run (events ++ [.cleared])).parse "x").1 = Expression.parse "x" ∧
      (∀ ev ∈ others, ∀ text, ¬ev.Gives text) ∧
      answers empty others = [Expression.parse "", Expression.parse ""] := by
  intro e events others
  obtain ⟨hanswer, -, hothers⟩ := answers_of_history
  have hstands : Stands events "x" e :=
    ⟨[.asked "x"], .given "x" e, [.retained ["x"], .asked "x"], rfl, rfl,
      by simp [Event.Forgets, Event.Gives]⟩
  have hcleared : ∀ e', ¬Stands (events ++ [.cleared]) "x" e' := by
    intro e' h
    rcases since_concat.1 h with heq | ⟨-, hforgets, -⟩
    · cases heq
    · exact hforgets trivial
  have hgives : ∀ ev ∈ others, ∀ text, ¬ev.Gives text := by simp [others, Event.Gives]
  exact ⟨hstands, (hanswer events "x").1 e hstands, hcleared,
    (hanswer (events ++ [.cleared]) "x").2 hcleared, hgives, hothers others hgives⟩

end StreamPolicy.ParseCache
