import Mathlib.Data.Finset.Card
import StreamPolicy.Proofs.Service.Change

/-!
# What a service caches

Answering a request caches the conditions of rules of the snapshot, and taking a snapshot forgets
the texts that are not in it. Between two snapshots rules may be seeded and requests answered, but
the cache is `CachedFrom` the snapshot: it holds no text but those there, and for each of them what
parsing gives.
-/

namespace StreamPolicy

variable {α κ β : Type}

/-! ## Caches of rules -/

/-- All that the cache holds is what parsing the conditions of `rules` gives. -/
structure ParseCache.CachedFrom (c : ParseCache) (rules : List (Rule α)) : Prop where
  live : ∀ text parsed, c.get? text = some parsed → ∃ r ∈ rules, r.expression = text
  faithful : c.Faithful

namespace ParseCache

variable {c : ParseCache} {rules : List (Rule α)}

theorem cachedFrom_empty (rules : List (Rule α)) : empty.CachedFrom rules where
  live text parsed h := by simp at h
  faithful := faithful_empty

theorem CachedFrom.parse (h : c.CachedFrom rules) {r : Rule α} (hr : r ∈ rules) :
    (c.parse r.expression).2.CachedFrom rules where
  live text parsed hget := by
    rw [get?_parse] at hget
    by_cases htext : text = r.expression
    · exact ⟨r, hr, htext.symm⟩
    · rw [if_neg htext] at hget
      exact h.live text parsed hget
  faithful := h.faithful.parse_snd r.expression

/-- What is left of a faithful cache when only the conditions of `rules` are kept. -/
theorem Faithful.cachedFrom_retain (h : c.Faithful) (rules : List (Rule α)) :
    (c.retain (rules.map (·.expression))).CachedFrom rules where
  live text parsed hget := by
    rw [get?_retain] at hget
    split at hget
    · rename_i htext
      exact List.mem_map.1 htext
    · cases hget
  faithful := h.retain _

theorem CachedFrom.size_le (h : c.CachedFrom rules) :
    c.size ≤ (rules.map (·.expression)).toFinset.card := by
  have hsub : c.texts.toFinset ⊆ (rules.map (·.expression)).toFinset := by
    intro text htext
    obtain ⟨parsed, hget⟩ := mem_texts.1 (List.mem_toFinset.1 htext)
    exact List.mem_toFinset.2 (List.mem_map.2 (h.live text parsed hget))
  calc c.size = c.texts.toFinset.card := by
        rw [List.toFinset_card_of_nodup c.nodup_texts, length_texts]
    _ ≤ (rules.map (·.expression)).toFinset.card := Finset.card_le_card hsub

end ParseCache

/-! ## Services -/

namespace Service

/-- The cache of `s` holds no condition but those of its snapshot, and so no more of them than there
are distinct ones in the snapshot. -/
structure CachesSnapshot (s : Service α) : Prop where
  live : ∀ text parsed, s.cache.get? text = some parsed →
    (∃ r ∈ s.snapshot, r.expression = text) ∧ parsed = Expression.parse text
  size : s.cache.size ≤ (s.snapshot.map (·.expression)).toFinset.card

/-- Consulting a service caches the conditions of its snapshot alone. -/
def KeepsCached (consult : Service α → κ → β × Service α) : Prop :=
  ∀ s q, s.cache.CachedFrom s.snapshot → (consult s q).2.cache.CachedFrom (consult s q).2.snapshot

theorem keepsCached_detect : KeepsCached detect := by
  intro s request h
  have hkept : (Detection.run request s.snapshot {} s.cache).2.CachedFrom s.snapshot :=
    Detection.run_keeps (P := (·.CachedFrom s.snapshot)) (fun r hr c hc => hc.parse hr) {} h
  exact hkept

theorem keepsCached_decideFor : KeepsCached decideFor := by
  intro s question h
  have hkept :
      (Decision.decide? question.1 question.2 s.snapshot s.cache).2.CachedFrom s.snapshot :=
    Decision.decide?_keeps (P := (·.CachedFrom s.snapshot)) (fun m hm c hc => hc.parse hm) h
  exact hkept

variable [RuleKind α] [DecidableEq α] {consult : Service α → κ → β × Service α} {s : Service α}

theorem cachedFrom_step (hc : KeepsCached consult) (h : s.cache.CachedFrom s.snapshot)
    (op : Op α κ) :
    (s.step consult op).2.cache.CachedFrom (s.step consult op).2.snapshot := by
  cases hr : op.refreshes with
  | true =>
    obtain ⟨e, he⟩ | ⟨reply, store, -, he⟩ := s.step_refreshes hr
    · rw [he]
      exact h
    · rw [he, snapshot_withStore, cache_withStore]
      exact h.faithful.cachedFrom_retain store.enabled
  | false =>
    cases op with
    | seed r =>
      -- A seeded rule is not in the snapshot yet, and is not cached.
      rcases s.seed_cases r with ⟨e, he⟩ | ⟨-, -, he⟩
      · simp only [step, he]
        exact h
      · simp only [step, he]
        exact h
    | clearCache => exact ParseCache.cachedFrom_empty s.snapshot
    | consult q => exact hc s q h
    | _ => cases hr

theorem cachedFrom_run (hc : KeepsCached consult) (h : s.cache.CachedFrom s.snapshot)
    (ops : List (Op α κ)) :
    (s.run consult ops).cache.CachedFrom (s.run consult ops).snapshot := by
  induction ops generalizing s with
  | nil => exact h
  | cons op ops ih => exact ih (cachedFrom_step hc h op)

theorem cachesSnapshot_run (hc : KeepsCached consult) (store : Store α) (ops : List (Op α κ)) :
    (({ store } : Service α).run consult ops).CachesSnapshot := by
  have h := cachedFrom_run (s := { store }) hc (ParseCache.cachedFrom_empty []) ops
  exact ⟨fun text parsed hget => ⟨h.live text parsed hget, h.faithful text parsed hget⟩, h.size_le⟩

/-- Whatever was stored when a service was set up and whatever has happened to it since, its cache
holds no condition but those of its snapshot. -/
theorem run_cachesSnapshot :
    (∀ (store : Store ClientProfile) (ops : List (Op ClientProfile Request)),
      (({ store } : Service ClientProfile).run detect ops).CachesSnapshot) ∧
    ∀ (store : Store RelayTargets) (ops : List (Op RelayTargets (Request × StreamInfo))),
      (({ store } : Service RelayTargets).run decideFor ops).CachesSnapshot :=
  ⟨cachesSnapshot_run keepsCached_detect, cachesSnapshot_run keepsCached_decideFor⟩

end Service

end StreamPolicy
