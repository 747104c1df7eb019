import StreamPolicy.Proofs.Service.Admission
import StreamPolicy.Proofs.Service.Valid

/-!
# Rules of users

The rules of users (`userRules`) are the stored ones that are none of the system, in order. A change
to a stored rule is seen among them as that change to the rule of its name.
-/

namespace StreamPolicy

variable {α : Type}

namespace Service

variable {s t : Service α} {r : Rule α} {builtin : List (Rule α)}

/-! ## Which rules they are -/

theorem userRules_perm (s : Service α) :
    s.userRules.Perm (s.store.rules.filter (!·.isSystem)) :=
  (Rule.sortByPriority_perm s.store.rules).filter _

theorem mem_userRules {r : Rule α} :
    r ∈ s.userRules ↔ r ∈ s.store.rules ∧ r.isSystem = false := by
  rw [s.userRules_perm.mem_iff, List.mem_filter, Bool.not_eq_true']

theorem pairwise_userRules (s : Service α) : s.userRules.Pairwise Rule.Before :=
  s.store.pairwise_list.filter _

theorem map_asUser_userRules (s : Service α) : s.userRules.map Rule.asUser = s.userRules := by
  have hself : ∀ r ∈ s.userRules, r.asUser = r := by
    intro r hr
    have huser := (mem_userRules.1 hr).2
    cases r
    cases huser
    rfl
  exact (List.map_congr_left hself).trans (List.map_id _)

/-- Of rules of the system and others, the others are rules of users. -/
theorem userRules_perm_of_stored {rs : List (Rule α)} (hsys : ∀ b ∈ builtin, b.isSystem = true)
    (hrs : ∀ r ∈ rs, r.isSystem = false) (h : s.store.rules.Perm (builtin ++ rs)) :
    s.userRules.Perm rs := by
  have hperm := s.userRules_perm.trans (h.filter _)
  have hbuiltin : builtin.filter (!·.isSystem) = [] :=
    List.filter_eq_nil_iff.2 fun b hb => by simp [hsys b hb]
  have husers : rs.filter (!·.isSystem) = rs :=
    List.filter_eq_self.2 fun r hr => by simp [hrs r hr]
  rwa [List.filter_append, hbuiltin, husers, List.nil_append] at hperm

/-! ## Changes -/

/-- Where each stored rule is changed by `f`, which leaves users their rules, so are those of
users. -/
theorem userRules_perm_map {f : Rule α → Rule α} (h : t.store.rules = s.store.rules.map f)
    (hf : ∀ r, (f r).isSystem = r.isSystem) : t.userRules.Perm (s.userRules.map f) := by
  have hperm := t.userRules_perm
  have hsame : ((fun r : Rule α => !r.isSystem) ∘ f) = fun r => !r.isSystem :=
    funext fun r => congrArg (!·) (hf r)
  rw [h, List.filter_map, hsame] at hperm
  exact hperm.trans (s.userRules_perm.symm.map f)

theorem Valid.id_eq_iff_name (h : s.Valid) (hr : r ∈ s.store.rules) {r' : Rule α}
    (hr' : r' ∈ s.store.rules) : r'.id = r.id ↔ r'.name = r.name := by
  refine ⟨fun hid => ?_, fun hname => (h.stored r hr).unique r' hr' hname⟩
  rw [Store.eq_of_id hr hr' hid]

/-- A new rule of a user comes to those there are. -/
theorem userRules_insert (hfree : s.store.get? r.id = none) (huser : r.isSystem = false) :
    (s.withStore (s.store.insert r)).userRules.Perm (s.userRules ++ [r]) := by
  have hperm := (s.withStore (s.store.insert r)).userRules_perm.trans
    ((Store.insert_perm hfree).filter _)
  rw [List.filter_cons_of_pos (by simpa using huser)] at hperm
  exact (hperm.trans (s.userRules_perm.symm.cons r)).trans (List.perm_append_singleton _ _).symm

/-- Removing a stored rule by its identifier removes it by its name. -/
theorem Valid.userRules_erase (h : s.Valid) (hr : r ∈ s.store.rules) :
    (s.withStore (s.store.erase r.id)).userRules.Perm (s.userRules.filter (·.name != r.name)) := by
  have hnames : s.store.rules.filter (·.id != r.id) = s.store.rules.filter (·.name != r.name) :=
    List.filter_congr fun t ht => by
      rw [Bool.eq_iff_iff, bne_iff_ne, bne_iff_ne, not_iff_not]
      exact h.id_eq_iff_name hr ht
  have hperm : (s.withStore (s.store.erase r.id)).userRules.Perm
      ((s.store.rules.filter (·.id != r.id)).filter (!·.isSystem)) := userRules_perm _
  rw [hnames, List.filter_comm] at hperm
  exact hperm.trans (s.userRules_perm.symm.filter _)

/-- Revising a stored rule in its place by `f` revises it among those of users, if it is one. -/
theorem Valid.userRules_revise (h : s.Valid) (hr : r ∈ s.store.rules) {f : Rule α → Rule α}
    (hid : ∀ t, (f t).id = t.id) (hsys : ∀ t, (f t).isSystem = t.isSystem) :
    (s.withStore (s.store.insert (f r))).userRules.Perm
      (s.userRules.map fun t => if t.name = r.name then f t else t) := by
  refine userRules_perm_map ?_ fun t => ?_
  · show Rule.place (f r) s.store.rules = _
    rw [Rule.place_eq_map s.store.sorted ⟨r, hr, (hid r).symm⟩]
    refine List.map_congr_left fun t ht => ?_
    simp only [hid, h.id_eq_iff_name hr ht]
    split
    · rename_i hname
      rw [h.stored.eq_of_name hr ht hname]
    · rfl
  · split
    · exact hsys t
    · rfl

/-! ## Loading -/

variable [RuleKind α]

theorem userRules_load (hbuiltin : Rule.Compatible builtin)
    (hsys : ∀ b ∈ builtin, b.isSystem = true) (configured : List (Rule α)) :
    (load builtin configured).userRules.Perm ((Rule.chosen builtin configured).map Rule.asUser) :=
  userRules_perm_of_stored hsys (List.forall_mem_map.2 fun _ _ => rfl)
    (load_perm hbuiltin configured)

/-! ## Operations on a stored rule -/

theorem Valid.findByName_cases (h : s.Valid) (name : String) :
    (∃ err, s.findByName name = .error err) ∨
      ∃ r ∈ s.store.rules, r.name = name ∧ s.findByName name = .ok r := by
  cases hfind : s.findByName name with
  | error err => exact .inl ⟨err, rfl⟩
  | ok r =>
    obtain ⟨hr, hname⟩ := h.findByName_eq_ok_iff.1 hfind
    exact .inr ⟨r, hr, hname, rfl⟩

/-- Enabling or disabling a stored rule is never refused. -/
theorem setEnabled_of_mem (hr : r ∈ s.store.rules) (now : Time) (enabled : Bool) :
    let new := { r with enabled, updatedAt := now }
    s.setEnabled now r.id enabled = (.ok new, s.withStore (s.store.insert new)) := by
  have hget := Store.mem_iff_get?.1 hr
  simp only [setEnabled, get, Store.get, hget]
  exact s.replace_of_get? hget

/-- Giving it another priority is not refused either. -/
theorem reorder_of_mem (hr : r ∈ s.store.rules) (now : Time) (priority : Int32) :
    s.reorder now [(r.id, priority)] =
      (.ok (), s.withStore (s.store.insert { r with priority, updatedAt := now })) := by
  have hget := Store.mem_iff_get?.1 hr
  have hrevised :
      s.reprioritized now [(r.id, priority)] = .ok [{ r with priority, updatedAt := now }] := by
    simp only [reprioritized, get, Store.get, hget]
  have hstore : s.store.update { r with priority, updatedAt := now } =
      .ok (s.store.insert { r with priority, updatedAt := now }) := Store.update_of_get? hget
  rw [reorder, hrevised]
  simp only [Store.updateAll, hstore]

end Service

end StreamPolicy
