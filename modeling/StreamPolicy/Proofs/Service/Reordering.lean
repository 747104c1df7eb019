import StreamPolicy.Proofs.Service.Run

/-!
# New priorities

Rules are given new priorities by a list, in which a rule may occur several times. All rules are
looked up before any is replaced, so that later copies of a rule know nothing of earlier ones. What
comes out is nevertheless that each rule has its `lastPriority?`.
-/

namespace StreamPolicy

variable {α : Type}

/-! ## The last priority in a list -/

/-- The priority that `priorities` give to `id` last. -/
def lastPriority? (priorities : List (Uuid × Int32)) (id : Uuid) : Option Int32 :=
  (priorities.reverse.find? (·.1 == id)).map (·.2)

section LastPriority

variable {priorities before after : List (Uuid × Int32)} {id : Uuid}

theorem lastPriority?_append (before after : List (Uuid × Int32)) (id : Uuid) :
    lastPriority? (before ++ after) id = (lastPriority? after id <|> lastPriority? before id) := by
  unfold lastPriority?
  rw [List.reverse_append, List.find?_append]
  cases after.reverse.find? (·.1 == id) <;> rfl

theorem lastPriority?_singleton (p : Uuid × Int32) (id : Uuid) :
    lastPriority? [p] id = if p.1 = id then some p.2 else none := by
  by_cases h : p.1 = id <;> simp [lastPriority?, h]

theorem lastPriority?_eq_none (h : ∀ p ∈ priorities, p.1 ≠ id) :
    lastPriority? priorities id = none := by
  have hnone : priorities.reverse.find? (·.1 == id) = none :=
    List.find?_eq_none.2 fun p hp => by simpa using h p (List.mem_reverse.1 hp)
  rw [lastPriority?, hnone, Option.map_none]

theorem lastPriority?_eq_some {priority : Int32} (h : ∀ p ∈ after, p.1 ≠ id) :
    lastPriority? (before ++ (id, priority) :: after) id = some priority := by
  rw [List.append_cons, lastPriority?_append, lastPriority?_eq_none h, lastPriority?_append,
    lastPriority?_singleton, if_pos rfl]
  rfl

end LastPriority

namespace Rule

/-- The rule `r` with the priority that is given to it last, if there is one. -/
def reprioritize (now : Time) (priorities : List (Uuid × Int32)) (r : Rule α) : Rule α :=
  match lastPriority? priorities r.id with
  | some priority => { r with priority, updatedAt := now }
  | none => r

variable {now : Time} {priorities : List (Uuid × Int32)} {r : Rule α}

theorem reprioritize_of_some {priority : Int32} (h : lastPriority? priorities r.id = some priority) :
    r.reprioritize now priorities = { r with priority, updatedAt := now } := by
  simp only [reprioritize, h]

theorem reprioritize_of_none (h : lastPriority? priorities r.id = none) :
    r.reprioritize now priorities = r := by
  simp only [reprioritize, h]

@[simp] theorem id_reprioritize (now : Time) (priorities : List (Uuid × Int32)) (r : Rule α) :
    (r.reprioritize now priorities).id = r.id := by
  unfold reprioritize
  split <;> rfl

end Rule

/-! ## Replacing rules one after the other -/

namespace Service

variable {s : Service α} {now : Time} {priorities : List (Uuid × Int32)}

/-- The invariant of the loop: what has been replaced has the last priority in `done`, although the
rules to come are copies of those at the beginning. -/
theorem rules_foldl_insert {rs : List (Rule α)}
    (hall : List.Forall₂ (s.Reprioritizes now) priorities rs) {done : List (Uuid × Int32)}
    {store : Store α} (hstore : store.rules = s.store.rules.map (Rule.reprioritize now done)) :
    (rs.foldl Store.insert store).rules =
      s.store.rules.map (Rule.reprioritize now (done ++ priorities)) := by
  induction hall generalizing done store with
  | nil => rw [List.append_nil, List.foldl_nil, hstore]
  | @cons p r priorities rs hr _ ih =>
    obtain ⟨old, hold, rfl⟩ := hr
    obtain ⟨hmem, hid⟩ := Store.get?_some hold
    rw [List.foldl_cons, List.append_cons]
    refine ih ?_
    have hplaced : ∃ t ∈ store.rules, t.id = old.id := by
      rw [hstore]
      exact ⟨_, List.mem_map_of_mem hmem, Rule.id_reprioritize now done old⟩
    refine (Rule.place_eq_map (r := { old with priority := p.2, updatedAt := now }) store.sorted
      hplaced).trans ?_
    rw [hstore, List.map_map]
    refine List.map_congr_left fun t ht => ?_
    rw [Function.comp_apply, Rule.id_reprioritize]
    by_cases h : t.id = old.id
    · obtain rfl : t = old := Store.eq_of_id hmem ht h
      have hlast : lastPriority? (done ++ [p]) t.id = some p.2 := by
        rw [lastPriority?_append, lastPriority?_singleton, if_pos hid.symm]
        rfl
      rw [if_pos rfl, Rule.reprioritize_of_some hlast]
    · have hlast : lastPriority? (done ++ [p]) t.id = lastPriority? done t.id := by
        rw [lastPriority?_append, lastPriority?_singleton,
          if_neg fun heq => h (heq.symm.trans hid.symm)]
        rfl
      rw [if_neg h, Rule.reprioritize, Rule.reprioritize, hlast]

/-! ## The whole operation -/

theorem stored_of_reprioritizes {rs : List (Rule α)}
    (hall : List.Forall₂ (s.Reprioritizes now) priorities rs) :
    ∀ p ∈ priorities, ∃ r ∈ s.store.rules, r.id = p.1 := by
  induction hall with
  | nil => exact List.forall_mem_nil _
  | cons hr _ ih =>
    obtain ⟨old, hold, -⟩ := hr
    exact List.forall_mem_cons.2 ⟨⟨old, Store.get?_some hold⟩, ih⟩

/-- The service `t` is `s` after its rules have been given new priorities. -/
structure Reordered (s : Service α) (now : Time) (priorities : List (Uuid × Int32))
    (t : Service α) : Prop where
  /-- A listed rule has its last priority and says when it was changed. -/
  listed : ∀ r ∈ s.store.rules, ∀ before priority after,
    priorities = before ++ (r.id, priority) :: after → (∀ p ∈ after, p.1 ≠ r.id) →
    { r with priority, updatedAt := now } ∈ t.store.rules
  /-- All other rules are as they were. -/
  others : ∀ r ∈ s.store.rules, (∀ p ∈ priorities, p.1 ≠ r.id) → r ∈ t.store.rules
  /-- No rule comes or goes. -/
  ids : t.store.rules.map (·.id) = s.store.rules.map (·.id)
  /-- The snapshot holds the enabled rules, by their new priorities and then by identifier. -/
  snapshot : t.store.Lists t.snapshot

theorem reordered_withStore {store : Store α}
    (h : store.rules = s.store.rules.map (Rule.reprioritize now priorities)) :
    s.Reordered now priorities (s.withStore store) where
  listed := by
    rintro r hr before priority after rfl hafter
    rw [store_withStore, h]
    exact List.mem_map.2 ⟨r, hr, Rule.reprioritize_of_some (lastPriority?_eq_some hafter)⟩
  others r hr hnone := by
    rw [store_withStore, h]
    exact List.mem_map.2 ⟨r, hr, Rule.reprioritize_of_none (lastPriority?_eq_none hnone)⟩
  ids := by
    rw [store_withStore, h, List.map_map]
    exact List.map_congr_left fun r _ => r.id_reprioritize now priorities
  snapshot := store.lists_enabled

variable [RuleKind α]

/-- Giving new priorities succeeds exactly if all identifiers in the list are those of stored rules.
Then each listed rule gets the priority that is given to it last, nothing else changes, and the
snapshot is taken in the new order. -/
theorem reorder_lastWins (s : Service α) (now : Time) (priorities : List (Uuid × Int32)) :
    ((s.reorder now priorities).1 = .ok () ↔
      ∀ p ∈ priorities, ∃ r ∈ s.store.rules, r.id = p.1) ∧
    ∀ t, s.reorder now priorities = (.ok (), t) → s.Reordered now priorities t := by
  rcases s.reprioritized_cases now priorities with
    ⟨before, p, after, hsplit, hbefore, hp⟩ | ⟨rs, hrs, hall⟩
  · have hrefused : s.reorder now priorities = (.error (.unknownId (RuleKind.kind α) p.1), s) := by
      rw [reorder, hsplit, reprioritized_of_missing hbefore hp]
    rw [hrefused]
    refine ⟨⟨fun h => (by cases h), fun h => ?_⟩, fun t h => (by cases h)⟩
    obtain ⟨r, hr, hid⟩ := h p (hsplit ▸ List.mem_append_right _ List.mem_cons_self)
    exact absurd hid (Store.get?_eq_none_iff.1 hp r hr)
  · have hstored := stored_of_reprioritizes hall
    have hrules : (rs.foldl Store.insert s.store).rules =
        s.store.rules.map (Rule.reprioritize now priorities) := by
      have hstart : s.store.rules = s.store.rules.map (Rule.reprioritize now []) :=
        (List.map_id _).symm
      exact rules_foldl_insert hall hstart
    rw [s.reorder_of_reprioritizes hrs hall]
    refine ⟨⟨fun _ => hstored, fun _ => rfl⟩, ?_⟩
    rintro t ⟨⟩
    exact reordered_withStore hrules

def playerRule : ClientRule where
  id := ⟨1⟩
  name := "Players"
  attributes := {}
  createdAt := .epoch
  updatedAt := .epoch

def browserRule : ClientRule := { playerRule with id := ⟨2⟩, name := "Browsers" }

/-- The list names the first rule twice, before and behind the other one. -/
theorem reorder_lastWins_twice :
    let s : Service ClientProfile := { store := (Store.empty.insert playerRule).insert browserRule }
    let priorities : List (Uuid × Int32) := [(⟨1⟩, 50), (⟨2⟩, 20), (⟨1⟩, 7)]
    (∀ p ∈ priorities, ∃ r ∈ s.store.rules, r.id = p.1) ∧
      ∃ t, s.reorder .epoch priorities = (.ok (), t) ∧ s.Reordered .epoch priorities t ∧
        { playerRule with priority := 7 } ∈ t.store.rules ∧
        { browserRule with priority := 20 } ∈ t.store.rules := by
  intro s priorities
  obtain ⟨hiff, hreordered⟩ := s.reorder_lastWins .epoch priorities
  have hstored : ∀ p ∈ priorities, ∃ r ∈ s.store.rules, r.id = p.1 := by decide
  have hreorder : s.reorder .epoch priorities = (.ok (), (s.reorder .epoch priorities).2) :=
    Prod.ext (hiff.2 hstored) rfl
  have h := hreordered _ hreorder
  refine ⟨hstored, _, hreorder, h, ?_, ?_⟩
  · exact h.listed playerRule (by decide) [(⟨1⟩, 50), (⟨2⟩, 20)] 7 [] rfl (by decide)
  · exact h.listed browserRule (by decide) [(⟨1⟩, 50)] 20 [(⟨1⟩, 7)] rfl (by decide)

end Service

end StreamPolicy
