import Mathlib.Data.List.Nodup
import StreamPolicy.Store

/-!
# The order of rules

Rules are tried by priority, and rules of one priority by identifier (`Rule.Before`). A store lists
its rules in that order, because it keeps them by identifier and `sortByPriority` is stable.
-/

namespace StreamPolicy

namespace Rule

variable {α : Type}

/-- The rule `r` is tried before `s`. -/
def Before (r s : Rule α) : Prop :=
  r.priority < s.priority ∨ r.priority = s.priority ∧ r.id.toNat < s.id.toNat

section Before

variable {r s : Rule α} {rs : List (Rule α)}

theorem Before.asymm (h : r.Before s) : ¬s.Before r := by
  unfold Before at *
  simp only [Int32.lt_iff_toInt_lt, ← Int32.toInt_inj] at *
  omega

theorem before_iff_precedes (h : r.priority = s.priority) : r.Before s ↔ r.Precedes s := by
  simp [Before, Precedes, h]

/-- In a list in order, `r` comes before `s` if it is tried before `s`. -/
theorem sublist_iff_before (h : rs.Pairwise Before) (hr : r ∈ rs) (hs : s ∈ rs) :
    [r, s].Sublist rs ↔ r.Before s := by
  refine ⟨List.pairwise_iff_forall_sublist.1 h, fun hbefore => ?_⟩
  obtain ⟨front, behind, rfl⟩ := List.append_of_mem hr
  rcases List.mem_append.1 hs with hs | hs
  · have hsub : [s, r].Sublist (front ++ r :: behind) :=
      (List.singleton_sublist.2 hs).append (List.singleton_sublist.2 List.mem_cons_self)
    exact absurd (List.pairwise_iff_forall_sublist.1 h hsub) hbefore.asymm
  · rcases List.mem_cons.1 hs with rfl | hs
    · exact absurd hbefore hbefore.asymm
    · exact ((List.singleton_sublist.2 hs).cons_cons r).trans (List.sublist_append_right front _)

end Before

/-! ## Sorting -/

theorem sortByPriority_perm (rs : List (Rule α)) : (sortByPriority rs).Perm rs :=
  List.mergeSort_perm ..

@[simp] theorem mem_sortByPriority {r : Rule α} {rs : List (Rule α)} :
    r ∈ sortByPriority rs ↔ r ∈ rs := List.mem_mergeSort

theorem priority_le_trans (r s t : Rule α) (h : decide (r.priority ≤ s.priority) = true)
    (h' : decide (s.priority ≤ t.priority) = true) : decide (r.priority ≤ t.priority) = true := by
  simp only [decide_eq_true_eq] at *
  exact Int32.le_trans h h'

theorem priority_le_total (r s : Rule α) :
    (decide (r.priority ≤ s.priority) || decide (s.priority ≤ r.priority)) = true := by
  simpa using Int32.le_total r.priority s.priority

theorem pairwise_le_sortByPriority (rs : List (Rule α)) :
    (sortByPriority rs).Pairwise fun r s => r.priority ≤ s.priority := by
  have h := List.pairwise_mergeSort priority_le_trans priority_le_total rs
  exact h.imp fun h => by simpa using h

theorem filter_sortByPriority (rs : List (Rule α)) (p : Int32) :
    (sortByPriority rs).filter (·.priority == p) = rs.filter (·.priority == p) := by
  have hsorted : (rs.filter (·.priority == p)).Pairwise fun r s =>
      decide (r.priority ≤ s.priority) = true := by
    refine List.pairwise_of_forall_mem_list fun r hr s hs => ?_
    have hr' : r.priority = p := by simpa using (List.mem_filter.1 hr).2
    have hs' : s.priority = p := by simpa using (List.mem_filter.1 hs).2
    simp [hr', hs']
  have hsub : (rs.filter (·.priority == p)).Sublist (sortByPriority rs) :=
    List.sublist_mergeSort priority_le_trans priority_le_total hsorted List.filter_sublist
  have hsub' := hsub.filter (·.priority == p)
  rw [List.filter_filter] at hsub'
  simp only [Bool.and_self] at hsub'
  have hlen := ((sortByPriority_perm rs).filter (·.priority == p)).length_eq
  exact (hsub'.eq_of_length hlen.symm).symm

/-- The list `sorted` holds the rules `rs` in the order of their priorities, and those of one
priority in the order they had. -/
structure SortsStably (rs sorted : List (Rule α)) : Prop where
  perm : sorted.Perm rs
  ordered : sorted.Pairwise fun r s => r.priority ≤ s.priority
  stable : ∀ p, sorted.filter (·.priority == p) = rs.filter (·.priority == p)

theorem sortsStably_sortByPriority (rs : List (Rule α)) : SortsStably rs (sortByPriority rs) where
  perm := sortByPriority_perm rs
  ordered := pairwise_le_sortByPriority rs
  stable := filter_sortByPriority rs

section Stable

variable {rs ts : List (Rule α)}

theorem mem_iff_of_filter_priority
    (h : ∀ p, rs.filter (·.priority == p) = ts.filter (·.priority == p)) (r : Rule α) :
    r ∈ rs ↔ r ∈ ts := by
  have hr := congrArg (r ∈ ·) (h r.priority)
  simpa [List.mem_filter] using hr

/-- A list in the order of priorities is determined by its rules of each priority. -/
theorem eq_of_filter_priority (hrs : rs.Pairwise fun r s => r.priority ≤ s.priority)
    (hts : ts.Pairwise fun r s => r.priority ≤ s.priority)
    (h : ∀ p, rs.filter (·.priority == p) = ts.filter (·.priority == p)) : rs = ts := by
  have hmem := mem_iff_of_filter_priority h
  induction rs generalizing ts with
  | nil =>
    refine (List.eq_nil_iff_forall_not_mem.2 fun t ht => ?_).symm
    exact List.not_mem_nil ((hmem t).2 ht)
  | cons r rs ih =>
    cases ts with
    | nil => exact absurd ((hmem r).1 List.mem_cons_self) List.not_mem_nil
    | cons t ts =>
      obtain ⟨hr, hrs'⟩ := List.pairwise_cons.1 hrs
      obtain ⟨ht, hts'⟩ := List.pairwise_cons.1 hts
      -- The first rules have the least priority, and are the first ones of it.
      have hle : t.priority ≤ r.priority := by
        rcases List.mem_cons.1 ((hmem r).1 List.mem_cons_self) with rfl | hr
        · exact Int32.le_refl _
        · exact ht r hr
      have hge : r.priority ≤ t.priority := by
        rcases List.mem_cons.1 ((hmem t).2 List.mem_cons_self) with rfl | ht
        · exact Int32.le_refl _
        · exact hr t ht
      have hpriority : t.priority = r.priority := Int32.le_antisymm hle hge
      obtain rfl : r = t := by
        have hfirst := h r.priority
        simp only [List.filter_cons, hpriority, beq_self_eq_true, if_true,
          List.cons.injEq] at hfirst
        exact hfirst.1
      have hrest : ∀ p, rs.filter (·.priority == p) = ts.filter (·.priority == p) := by
        intro p
        have hp := h p
        simp only [List.filter_cons] at hp
        split at hp
        · exact (List.cons.inj hp).2
        · exact hp
      rw [ih hrs' hts' hrest (mem_iff_of_filter_priority hrest)]

theorem SortsStably.eq_sortByPriority (h : SortsStably rs ts) : ts = sortByPriority rs :=
  eq_of_filter_priority h.ordered (pairwise_le_sortByPriority rs) fun p => by
    rw [h.stable, filter_sortByPriority]

/-- Rules can be left out before or after sorting. -/
theorem sortByPriority_filter (rs : List (Rule α)) (keep : Rule α → Bool) :
    sortByPriority (rs.filter keep) = (sortByPriority rs).filter keep := by
  have hsorts : SortsStably (rs.filter keep) ((sortByPriority rs).filter keep) := by
    refine ⟨(sortByPriority_perm rs).filter keep, (pairwise_le_sortByPriority rs).filter keep, ?_⟩
    intro p
    rw [List.filter_comm, filter_sortByPriority, List.filter_comm]
  exact hsorts.eq_sortByPriority.symm

theorem sortByPriority_of_perm (h : rs.Perm ts) (hdistinct : (rs.map (·.priority)).Nodup) :
    sortByPriority rs = sortByPriority ts := by
  have hperm : (sortByPriority rs).Perm (sortByPriority ts) :=
    ((sortByPriority_perm rs).trans h).trans (sortByPriority_perm ts).symm
  refine List.Perm.eq_of_pairwise (fun r t hr ht hle hge => ?_) (pairwise_le_sortByPriority rs)
    (pairwise_le_sortByPriority ts) hperm
  have hr' : r ∈ rs := mem_sortByPriority.1 hr
  have ht' : t ∈ rs := h.mem_iff.2 (mem_sortByPriority.1 ht)
  exact List.inj_on_of_nodup_map hdistinct hr' ht' (Int32.le_antisymm hle hge)

end Stable

theorem pairwise_sortByPriority {rs : List (Rule α)} (h : rs.Pairwise Precedes) :
    (sortByPriority rs).Pairwise Before := by
  refine List.pairwise_iff_forall_sublist.2 fun {r s} hrs => ?_
  have hle := List.pairwise_iff_forall_sublist.1 (pairwise_le_sortByPriority rs) hrs
  rcases Int32.lt_or_eq_of_le hle with hlt | heq
  · exact .inl hlt
  · have hsub := hrs.filter (·.priority == s.priority)
    rw [filter_sortByPriority] at hsub
    simp only [List.filter_cons, heq, beq_self_eq_true, if_true, List.filter_nil] at hsub
    have hprec := List.pairwise_iff_forall_sublist.1 h (hsub.trans List.filter_sublist)
    exact .inr ⟨heq, hprec⟩

end Rule

namespace Store

variable {α : Type}

/-- The list `rs` holds the enabled rules of `s` and nothing else, each rule before those that are
tried after it. -/
structure Lists (s : Store α) (rs : List (Rule α)) : Prop where
  ordered : rs.Pairwise Rule.Before
  mem : ∀ r, r ∈ rs ↔ r ∈ s.rules ∧ r.enabled = true

theorem pairwise_list (s : Store α) : s.list.Pairwise Rule.Before :=
  Rule.pairwise_sortByPriority s.sorted

theorem lists_enabled (s : Store α) : s.Lists s.enabled where
  ordered := Rule.pairwise_sortByPriority (s.sorted.filter _)
  mem r := by simp [enabled, List.mem_filter]

end Store

end StreamPolicy
