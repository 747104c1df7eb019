import StreamPolicy.Store

/-!
# Rules by identifier

A store has at most one rule for each identifier (`eq_of_id`). Looking a rule up after a change
gives the rule that was put in or what was there before, and every stored rule is found under its
own identifier.
-/

namespace StreamPolicy

theorem Uuid.toNat_inj {u v : Uuid} : u.toNat = v.toNat ↔ u = v := by
  obtain ⟨b⟩ := u
  obtain ⟨c⟩ := v
  simp [Uuid.toNat, BitVec.toNat_inj]

variable {α : Type}

/-! ## A rule put in its place -/

namespace Rule

theorem find?_place_self (r : Rule α) (rs : List (Rule α)) :
    (place r rs).find? (·.id == r.id) = some r := by
  fun_induction place r rs with
  | case1 => simp
  | case2 s rest => simp
  | case3 s rest => simp
  | case4 s rest _ hne ih =>
    have hid : s.id ≠ r.id := fun h => hne (congrArg Uuid.toNat h.symm)
    rw [List.find?_cons_of_neg (by simpa using hid), ih]

theorem find?_place_of_ne {r : Rule α} {id : Uuid} (h : r.id ≠ id) (rs : List (Rule α)) :
    (place r rs).find? (·.id == id) = rs.find? (·.id == id) := by
  have hr : (r.id == id) = false := by simpa using h
  fun_induction place r rs with
  | case1 | case2 => simp only [List.find?_cons, hr]
  | case3 s rest _ heq =>
    have hs : (s.id == id) = false := by rwa [← Uuid.toNat_inj.1 heq]
    simp only [List.find?_cons, hr, hs]
  | case4 s rest _ _ ih => rw [List.find?_cons, List.find?_cons, ih]

/-- A rule that takes over from one of its identifier takes its place. -/
theorem place_eq_map {r : Rule α} {rs : List (Rule α)} (hsorted : rs.Pairwise Precedes)
    (h : ∃ t ∈ rs, t.id = r.id) : place r rs = rs.map fun t => if t.id = r.id then r else t := by
  induction rs with
  | nil =>
    obtain ⟨t, ht, -⟩ := h
    cases ht
  | cons s rs ih =>
    obtain ⟨hs, hrs⟩ := List.pairwise_cons.1 hsorted
    -- The rules behind have greater identifiers than the first one.
    have hbehind : ∀ t ∈ rs, s.id.toNat < t.id.toNat := hs
    rw [place, List.map_cons]
    by_cases hid : s.id = r.id
    · have hrest : rs.map (fun t => if t.id = r.id then r else t) = rs := by
        refine (List.map_congr_left fun t ht => if_neg fun heq => ?_).trans (List.map_id _)
        have hlt := hbehind t ht
        rw [heq, hid] at hlt
        exact Nat.lt_irrefl _ hlt
      rw [if_neg (by rw [hid]; omega), if_pos (by rw [hid]), if_pos hid, hrest]
    · have hmem : ∃ t ∈ rs, t.id = r.id := by
        obtain ⟨t, ht, heq⟩ := h
        rcases List.mem_cons.1 ht with rfl | ht
        · exact absurd heq hid
        · exact ⟨t, ht, heq⟩
      obtain ⟨t, ht, heq⟩ := hmem
      have hlt := hbehind t ht
      rw [heq] at hlt
      rw [if_neg (by omega), if_neg (by omega), if_neg hid, ih hrs ⟨t, ht, heq⟩]

end Rule

/-! ## Looking rules up -/

namespace Store

variable {s : Store α} {r r' : Rule α} {id : Uuid}

theorem get?_insert (s : Store α) (r : Rule α) (id : Uuid) :
    (s.insert r).get? id = if id = r.id then some r else s.get? id := by
  by_cases h : id = r.id
  · rw [if_pos h, h]
    exact Rule.find?_place_self r s.rules
  · rw [if_neg h]
    exact Rule.find?_place_of_ne (Ne.symm h) s.rules

theorem get?_erase (s : Store α) (i id : Uuid) :
    (s.erase i).get? id = if id = i then none else s.get? id := by
  unfold get? erase
  rw [List.find?_filter]
  by_cases h : id = i
  · subst h
    simp
  · rw [if_neg h]
    congr 1
    funext r
    by_cases hr : r.id = id <;> simp [hr, h]

theorem get?_id (h : s.get? id = some r) : s.get? r.id = some r := by
  rwa [(get?_some h).2]

/-- Every rule is stored under its own identifier. -/
theorem mem_iff_get? : r ∈ s.rules ↔ s.get? r.id = some r := by
  refine ⟨fun h => ?_, fun h => (get?_some h).1⟩
  obtain ⟨rules, sorted⟩ := s
  unfold get?
  induction rules with
  | nil => cases h
  | cons t rules ih =>
    obtain ⟨ht, hsorted⟩ := List.pairwise_cons.1 sorted
    rcases List.mem_cons.1 h with rfl | h
    · simp
    · have hne : t.id ≠ r.id := fun heq => by
        have hlt := ht r h
        unfold Rule.Precedes at hlt
        rw [heq] at hlt
        exact Nat.lt_irrefl _ hlt
      rw [List.find?_cons_of_neg (by simpa using hne)]
      exact ih hsorted h

theorem get?_eq_none_iff : s.get? id = none ↔ ∀ t ∈ s.rules, t.id ≠ id := by
  simp [get?, List.find?_eq_none]

theorem nodup_ids (s : Store α) : (s.rules.map (·.id)).Nodup := by
  refine List.pairwise_map.2 (s.sorted.imp fun {r t} hlt hid => ?_)
  rw [Rule.Precedes, hid] at hlt
  exact Nat.lt_irrefl _ hlt

theorem eq_of_id (hr : r ∈ s.rules) (hr' : r' ∈ s.rules) (h : r'.id = r.id) : r' = r := by
  have hget := mem_iff_get?.1 hr'
  rw [h, mem_iff_get?.1 hr] at hget
  exact (Option.some.inj hget).symm

end Store

end StreamPolicy
