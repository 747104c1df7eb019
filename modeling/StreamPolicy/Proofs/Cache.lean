import StreamPolicy.Expression.Cache

/-!
# Faithful caches

A cache is `Faithful` when all it holds is what `Expression.parse` gives. Asking it, forgetting
texts and starting afresh keep it so, and a faithful cache answers as if there were none
(`Faithful.parse_fst`).
-/

namespace StreamPolicy.ParseCache

/-- Every entry is what `Expression.parse` gives for its text. -/
def Faithful (c : ParseCache) : Prop :=
  ∀ text parsed, c.get? text = some parsed → parsed = Expression.parse text

theorem lookup_filter_keys {β : Type} (p : String → Bool) (es : List (String × β)) (k : String) :
    (es.filter fun e => p e.1).lookup k = if p k then es.lookup k else none := by
  induction es with
  | nil => simp
  | cons e es ih =>
    obtain ⟨k', v⟩ := e
    by_cases hk : k = k'
    · subst hk
      cases hp : p k <;> simp [hp, ih]
    · have hne : (k == k') = false := by simpa using hk
      cases hp : p k' <;> simp [hp, List.lookup_cons, hne, ih]

@[simp] theorem get?_empty (text : String) : empty.get? text = none := rfl

theorem get?_filter (c : ParseCache) (p : String → Bool) (text : String) :
    (c.filter p).get? text = if p text then c.get? text else none :=
  lookup_filter_keys p c.entries text

theorem get?_insert (c : ParseCache) (text key : String) (parsed : Parsed) :
    (c.insert text parsed).get? key = if key = text then some parsed else c.get? key := by
  have hf := get?_filter c (· != text) key
  unfold get? at hf
  simp only [get?, insert, List.lookup_cons, hf]
  by_cases hk : key = text
  · simp [hk]
  · have hne : (key == text) = false := by simpa using hk
    simp [hk, hne]

theorem get?_retain (c : ParseCache) (texts : List String) (text : String) :
    (c.retain texts).get? text = if text ∈ texts then c.get? text else none := by
  rw [retain, get?_filter]
  simp only [List.contains_iff_mem]

/-- After `parse`, the answer for `text` is known, and nothing else has changed. -/
theorem get?_parse (c : ParseCache) (text key : String) :
    (c.parse text).2.get? key = if key = text then some (c.parse text).1 else c.get? key := by
  unfold parse
  cases hg : c.get? text with
  | none => exact c.get?_insert text key _
  | some parsed =>
    by_cases hk : key = text
    · simp only [hk, hg, if_true]
    · simp only [hk, if_false]

/-- The texts that the cache knows something of. -/
def texts (c : ParseCache) : List String := c.entries.map Prod.fst

theorem nodup_texts (c : ParseCache) : c.texts.Nodup := c.nodup

theorem length_texts (c : ParseCache) : c.texts.length = c.size := List.length_map _

theorem mem_texts {c : ParseCache} {text : String} :
    text ∈ c.texts ↔ ∃ parsed, c.get? text = some parsed := by
  rw [← Option.isSome_iff_exists, get?, List.lookup_isSome_iff]
  simp [texts]

theorem faithful_empty : empty.Faithful := by
  intro text parsed h
  simp at h

theorem Faithful.filter {c : ParseCache} (h : c.Faithful) (p : String → Bool) :
    (c.filter p).Faithful := by
  intro text parsed hg
  rw [get?_filter] at hg
  split at hg
  · exact h text parsed hg
  · cases hg

theorem Faithful.retain {c : ParseCache} (h : c.Faithful) (texts : List String) :
    (c.retain texts).Faithful := h.filter texts.contains

theorem Faithful.parse_fst {c : ParseCache} (h : c.Faithful) (text : String) :
    (c.parse text).1 = Expression.parse text := by
  unfold parse
  split
  · rename_i parsed hg
    exact h text parsed hg
  · rfl

theorem Faithful.parse_snd {c : ParseCache} (h : c.Faithful) (text : String) :
    (c.parse text).2.Faithful := by
  intro key parsed hg
  rw [get?_parse] at hg
  split at hg
  · rename_i hk
    obtain rfl := Option.some.inj hg
    rw [hk, h.parse_fst]
  · exact h key parsed hg

end StreamPolicy.ParseCache
