import StreamPolicy.Proofs.Attempt
import StreamPolicy.Proofs.Service.Change

/-!
# Stored rules stay valid

No two stored rules have one name, no name is blank, and every condition parses (`Store.Valid`). All
operations keep it so, refused ones and those that check nothing included. The rules of a snapshot
come from the stored ones, so neither detection nor relaying ever has to pass one over.
-/

namespace StreamPolicy

variable {α κ β : Type}

/-! ## Stores -/

namespace Store

variable {s t : Store α} {r : Rule α}

/-- Every rule may be stored beside the others. -/
def Valid (s : Store α) : Prop := ∀ r ∈ s.rules, s.Admits r

theorem valid_empty : (empty : Store α).Valid := List.forall_mem_nil _

theorem mem_insert {other : Rule α} (h : other ∈ (s.insert r).rules) :
    other = r ∨ other ∈ s.rules := Rule.mem_place h

theorem Valid.insert (h : s.Valid) (hr : s.Admits r) : (s.insert r).Valid := by
  intro t ht
  rcases mem_insert ht with rfl | hstored
  · refine ⟨hr.named, hr.parses, fun other ho hname => ?_⟩
    rcases mem_insert ho with rfl | ho
    · rfl
    · exact hr.unique other ho hname
  · obtain ⟨hnamed, hparses, hunique⟩ := h t hstored
    refine ⟨hnamed, hparses, fun other ho hname => ?_⟩
    rcases mem_insert ho with rfl | ho
    · exact (hr.unique t hstored hname.symm).symm
    · exact hunique other ho hname

theorem Valid.erase (h : s.Valid) (id : Uuid) : (s.erase id).Valid := by
  intro r hr
  obtain ⟨hnamed, hparses, hunique⟩ := h r (List.mem_filter.1 hr).1
  exact ⟨hnamed, hparses, fun other ho => hunique other (List.mem_filter.1 ho).1⟩

/-- A version of a stored rule has its name and its condition. -/
theorem Valid.admits_of_revises {old : Rule α} (h : s.Valid) (hold : s.get? r.id = some old)
    (hr : r.Revises old) : s.Admits r := by
  obtain ⟨hnamed, hparses, hunique⟩ := h old (get?_some hold).1
  rw [← hr.name] at hnamed hunique
  rw [← hr.expression] at hparses
  rw [← hr.id] at hunique
  exact ⟨hnamed, hparses, hunique⟩

theorem Valid.revise {rs : List (Rule α)} (h : s.Valid) (hrs : s.Revised rs) :
    (rs.foldl Store.insert s).Valid := by
  induction rs generalizing s with
  | nil => exact h
  | cons r rs ih =>
    obtain ⟨⟨old, hold, hr⟩, hrest⟩ := List.forall_mem_cons.1 hrs
    exact ih (h.insert (h.admits_of_revises hold hr)) (Revised.insert hrest hold hr)

theorem Change.valid {seeds : Rule α → Prop} (hc : s.Change seeds t) (h : s.Valid) : t.Valid := by
  cases hc with
  | same => exact h
  | add _ hr _ => exact h.insert hr
  | replace _ hr _ _ => exact h.insert hr
  | remove _ _ => exact h.erase _
  | revise hrs => exact h.revise hrs

theorem Valid.eq_of_name {r' : Rule α} (h : s.Valid) (hr : r ∈ s.rules) (hr' : r' ∈ s.rules)
    (hname : r'.name = r.name) : r' = r :=
  eq_of_id hr hr' ((h r hr).unique r' hr' hname)

end Store

/-! ## Services -/

namespace Service

/-- The stored rules are valid, the snapshot has none that could not be tried, and no parse is
stale. -/
structure Valid (s : Service α) : Prop where
  stored : s.store.Valid
  live : ∀ r ∈ s.snapshot, r.enabled = true ∧ ∃ e, Expression.parse r.expression = .ok e
  faithful : s.cache.Faithful

theorem valid_empty : ({} : Service α).Valid where
  stored := Store.valid_empty
  live := List.forall_mem_nil _
  faithful := ParseCache.faithful_empty

theorem valid_withStore {s : Service α} {store : Store α} (hs : store.Valid)
    (hcache : s.cache.Faithful) : (s.withStore store).Valid where
  stored := hs
  live r hr := by
    obtain ⟨hmem, henabled⟩ := (store.lists_enabled.mem r).1 hr
    exact ⟨henabled, (hs r hmem).parses⟩
  faithful := hcache.retain _

variable [RuleKind α] [DecidableEq α] {consult : Service α → κ → β × Service α}
  {fresh : List (Rule α) → κ → β} {s : Service α}

theorem Valid.step (hc : Consults consult fresh) (h : s.Valid) (op : Op α κ) :
    (s.step consult op).2.Valid := by
  have hstored := (step_change hc.store s op).valid h.stored
  cases hr : op.refreshes with
  | true =>
    rcases s.step_refreshes hr with ⟨e, he⟩ | ⟨reply, store, -, he⟩
    · rwa [he]
    · rw [he] at hstored ⊢
      exact valid_withStore hstored h.faithful
  | false =>
    obtain ⟨hsnap, hcache⟩ := s.step_quiet hc hr
    refine ⟨hstored, ?_, hcache h.faithful⟩
    rw [hsnap]
    exact h.live

theorem Valid.run (hc : Consults consult fresh) (h : s.Valid) (ops : List (Op α κ)) :
    (s.run consult ops).Valid := by
  induction ops generalizing s with
  | nil => exact h
  | cons op ops ih => exact ih (h.step hc op)

/-! ## What validity comes to -/

/-- Names identify stored rules, which are stored under their own identifiers, and every rule of the
snapshot is tried on every request. -/
structure InOrder (s : Service α) : Prop where
  ownId : ∀ id r, s.store.get? id = some r ↔ r ∈ s.store.rules ∧ r.id = id
  named : ∀ r ∈ s.store.rules, Text.isBlankText r.name.toList = false
  parses : ∀ r ∈ s.store.rules, ∃ e, Expression.parse r.expression = .ok e
  distinct : (s.store.rules.map (·.name)).Nodup
  findByName : ∀ name r, s.findByName name = .ok r ↔ r ∈ s.store.rules ∧ r.name = name
  /-- Neither its text nor its tree keeps a rule of the snapshot from being evaluated. -/
  tried : ∀ r ∈ s.snapshot, ∃ e, Expression.parse r.expression = .ok e ∧
    ∀ request cache, cache.Faithful →
      (r.attempt? request cache).map Prod.fst = some (.ok (e.evaluate request.context))

omit [DecidableEq α] in
theorem Valid.findByName_eq_ok_iff (h : s.Valid) {name : String} {r : Rule α} :
    s.findByName name = .ok r ↔ r ∈ s.store.rules ∧ r.name = name := by
  have hlist : ∀ t, t ∈ s.store.list ↔ t ∈ s.store.rules := fun _ => Rule.mem_sortByPriority
  unfold findByName Store.findByName?
  constructor
  · intro hfind
    split at hfind
    · rename_i r' hr'
      cases hfind
      refine ⟨(hlist r).1 (List.mem_of_find?_eq_some hr'), by simpa using List.find?_some hr'⟩
    · cases hfind
  · rintro ⟨hr, rfl⟩
    cases hfind : s.store.list.find? (·.name == r.name) with
    | none =>
      exact absurd (beq_self_eq_true r.name) (List.find?_eq_none.1 hfind r ((hlist r).2 hr))
    | some r' =>
      have hr' : r' ∈ s.store.rules := (hlist r').1 (List.mem_of_find?_eq_some hfind)
      have hname : r'.name = r.name := by simpa using List.find?_some hfind
      rw [h.stored.eq_of_name hr hr' hname]

omit [DecidableEq α] in
theorem Valid.inOrder (h : s.Valid) : s.InOrder where
  ownId id r := by
    refine ⟨Store.get?_some, ?_⟩
    rintro ⟨hr, rfl⟩
    exact Store.mem_iff_get?.1 hr
  named r hr := (h.stored r hr).named
  parses r hr := (h.stored r hr).parses
  distinct := by
    refine List.pairwise_map.2 (s.store.sorted.imp_of_mem fun {r t} hr ht hlt hname => ?_)
    obtain rfl := h.stored.eq_of_name ht hr hname
    exact Nat.lt_irrefl _ hlt
  findByName name r := h.findByName_eq_ok_iff
  tried r hr := by
    obtain ⟨henabled, e, he⟩ := h.live r hr
    refine ⟨e, he, fun request cache hc => ?_⟩
    rw [Expression.attempt?_of_parse he henabled request hc, Option.map_some,
      Expression.apply_fst he]

omit [RuleKind α] [DecidableEq α] in
theorem Valid.condition?_isSome (h : s.Valid) : ∀ r ∈ s.snapshot, r.condition?.isSome = true := by
  intro r hr
  obtain ⟨henabled, e, he⟩ := h.live r hr
  simp [Rule.condition?, henabled, he, Except.toOption]

/-- After any operations on a new service, refused ones included, its rules are in order. Detection
counts every rule of the snapshot up to its stop as evaluated, and relaying follows the first one
whose condition holds. -/
theorem run_inOrder :
    (∀ ops : List (Op ClientProfile Request),
      let s := ({} : Service ClientProfile).run detect ops
      s.InOrder ∧
        ∀ request, (s.detect request).1.evaluated = Detection.reach request s.snapshot) ∧
    ∀ ops : List (Op RelayTargets (Request × StreamInfo)),
      let s := ({} : Service RelayTargets).run decideFor ops
      s.InOrder ∧ ∀ request source, (s.decide request source).1 =
        (s.snapshot.find? (·.matchesRequest request)).map (·.decide source) := by
  refine ⟨fun ops => ?_, fun ops => ?_⟩
  · have h := (valid_empty (α := ClientProfile)).run consults_detect ops
    exact ⟨h.inOrder, fun request =>
      Detection.evaluated_eq_reach request h.faithful h.condition?_isSome⟩
  · have h := (valid_empty (α := RelayTargets)).run consults_decideFor ops
    exact ⟨h.inOrder, fun request source =>
      Decision.decide?_fst request source _ h.faithful⟩

end Service

end StreamPolicy
