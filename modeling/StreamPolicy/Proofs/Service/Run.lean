import StreamPolicy.Proofs.Order
import StreamPolicy.Proofs.Service.Operation
import StreamPolicy.Proofs.Trial

/-!
# Runs of a service

A run is any sequence of operations `Op` on a new service, refused ones included. Beside the
service, a `History` records which rules were stored when the last snapshot was taken. The snapshot
always lists those rules (`Sound.next`), and consulting the service comes to the same as reading its
snapshot with an empty cache (`Consults`).
-/

namespace StreamPolicy

/-- What can be asked of a service. A change that leaves its time on a rule says by `now` what time
it is. -/
inductive Op (α κ : Type)
  | create (rule : Rule α)
  | seed (rule : Rule α)
  | update (now : Time) (rule : Rule α)
  | delete (id : Uuid)
  | setEnabled (now : Time) (id : Uuid) (enabled : Bool)
  | reorder (now : Time) (priorities : List (Uuid × Int32))
  | refresh
  | clearCache
  | consult (question : κ)

/-- Whether an operation takes a snapshot unless it is refused. -/
def Op.refreshes {α κ : Type} : Op α κ → Bool
  | create _ | update .. | delete _ | setEnabled .. | reorder .. | refresh => true
  | seed _ | clearCache | consult _ => false

inductive Reply (α β : Type)
  | rule (rule : Rule α)
  | done
  | refused (error : RuleError)
  | answer (answer : β)

namespace Reply

variable {α β : Type}

def ofRule : Except RuleError (Rule α) → Reply α β
  | .ok r => rule r
  | .error e => refused e

def ofUnit : Except RuleError Unit → Reply α β
  | .ok () => done
  | .error e => refused e

def isRefusal : Reply α β → Bool
  | refused _ => true
  | _ => false

end Reply

variable {α κ β : Type}

/-- The reply to an operation and the service after it. How the service is consulted depends on what
its rules are for, so `consult` is `detect` or `decideFor`. -/
def Service.step [RuleKind α] [DecidableEq α] (consult : Service α → κ → β × Service α)
    (s : Service α) : Op α κ → Reply α β × Service α
  | .create r => (s.create r).map .ofRule id
  | .seed r => (s.seed r).map .ofRule id
  | .update now r => (s.update now r).map .ofRule id
  | .delete i => (s.delete i).map .ofUnit id
  | .setEnabled now i enabled => (s.setEnabled now i enabled).map .ofRule id
  | .reorder now priorities => (s.reorder now priorities).map .ofUnit id
  | .refresh => (.done, s.refresh)
  | .clearCache => (.done, s.clearCache)
  | .consult q => (consult s q).map .answer id

/-- A service, and the rules `recorded` when its last snapshot was taken. -/
structure History (α : Type) where
  service : Service α := {}
  recorded : Store α := Store.empty

namespace History

variable [RuleKind α] [DecidableEq α] (consult : Service α → κ → β × Service α)

def next (h : History α) (op : Op α κ) : History α :=
  let result := h.service.step consult op
  { service := result.2
    recorded :=
      if op.refreshes && !result.1.isRefusal then result.2.store else h.recorded }

/-- The history of a new service after `ops`. -/
def run (ops : List (Op α κ)) : History α := ops.foldl (next consult) {}

end History

/-! ## One step -/

/-- Consulting a service changes nothing but its cache, keeps a faithful cache faithful, and then
answers as `fresh` does from the snapshot alone. -/
structure Consults (consult : Service α → κ → β × Service α) (fresh : List (Rule α) → κ → β) :
    Prop where
  store : ∀ s q, (consult s q).2.store = s.store
  snapshot : ∀ s q, (consult s q).2.snapshot = s.snapshot
  cache : ∀ s q, s.cache.Faithful → (consult s q).2.cache.Faithful
  answer : ∀ s q, s.cache.Faithful → (consult s q).1 = fresh s.snapshot q

namespace Service

variable [RuleKind α] [DecidableEq α] {consult : Service α → κ → β × Service α}

/-- An operation that `refreshes` is refused, or the service has other rules after it. -/
theorem step_refreshes (s : Service α) {op : Op α κ} (h : op.refreshes = true) :
    (∃ e, s.step consult op = (.refused e, s)) ∨
      ∃ reply store, reply.isRefusal = false ∧ s.step consult op = (reply, s.withStore store) := by
  cases op with
  | create r =>
    rcases s.create_cases r with ⟨e, he⟩ | ⟨-, -, he⟩
    · exact .inl ⟨e, by simp only [step, he]; rfl⟩
    · exact .inr ⟨.rule _, _, rfl, by simp only [step, he]; rfl⟩
  | update now r =>
    rcases s.update_cases now r with ⟨e, he⟩ | ⟨_, -, -, -, he⟩
    · exact .inl ⟨e, by simp only [step, he]; rfl⟩
    · exact .inr ⟨.rule _, _, rfl, by simp only [step, he]; rfl⟩
  | delete i =>
    rcases s.delete_cases i with ⟨e, he⟩ | ⟨_, -, -, he⟩
    · exact .inl ⟨e, by simp only [step, he]; rfl⟩
    · exact .inr ⟨.done, _, rfl, by simp only [step, he]; rfl⟩
  | setEnabled now i enabled =>
    rcases s.setEnabled_cases now i enabled with ⟨e, he⟩ | ⟨_, -, he⟩
    · exact .inl ⟨e, by simp only [step, he]; rfl⟩
    · exact .inr ⟨.rule _, _, rfl, by simp only [step, he]; rfl⟩
  | reorder now priorities =>
    rcases s.reorder_cases now priorities with ⟨e, he⟩ | ⟨_, -, he⟩
    · exact .inl ⟨e, by simp only [step, he]; rfl⟩
    · exact .inr ⟨.done, _, rfl, by simp only [step, he]; rfl⟩
  | refresh => exact .inr ⟨.done, s.store, rfl, rfl⟩
  | seed r => cases h
  | clearCache => cases h
  | consult q => cases h

/-- Any other operation leaves the snapshot alone and keeps a faithful cache faithful. -/
theorem step_quiet {fresh : List (Rule α) → κ → β} (hc : Consults consult fresh) (s : Service α)
    {op : Op α κ} (h : op.refreshes = false) :
    (s.step consult op).2.snapshot = s.snapshot ∧
      (s.cache.Faithful → (s.step consult op).2.cache.Faithful) := by
  cases op with
  | seed r =>
    rcases s.seed_cases r with ⟨e, he⟩ | ⟨-, -, he⟩
    · simp only [step, he]
      exact ⟨rfl, id⟩
    · simp only [step, he]
      exact ⟨rfl, id⟩
  | clearCache => exact ⟨rfl, fun _ => ParseCache.faithful_empty⟩
  | consult q => exact ⟨hc.snapshot s q, hc.cache s q⟩
  | create r => cases h
  | update now r => cases h
  | delete i => cases h
  | setEnabled now i enabled => cases h
  | reorder now priorities => cases h
  | refresh => cases h

end Service

/-! ## All steps -/

namespace History

/-- The snapshot lists the rules `recorded`, and the cache holds no stale parse. -/
structure Sound (h : History α) : Prop where
  listed : h.recorded.Lists h.service.snapshot
  faithful : h.service.cache.Faithful

theorem sound_init : Sound ({} : History α) where
  listed := ⟨List.Pairwise.nil, fun r => by simp [Store.empty]⟩
  faithful := ParseCache.faithful_empty

variable [RuleKind α] [DecidableEq α] {consult : Service α → κ → β × Service α}
  {fresh : List (Rule α) → κ → β}

theorem Sound.next {h : History α} (hs : h.Sound) (hc : Consults consult fresh) (op : Op α κ) :
    (h.next consult op).Sound := by
  unfold History.next
  cases hr : op.refreshes with
  | true =>
    rcases h.service.step_refreshes hr with ⟨e, he⟩ | ⟨reply, store, hno, he⟩
    · rw [he]
      exact ⟨hs.listed, hs.faithful⟩
    · rw [he]
      refine ⟨?_, ?_⟩
      · simp only [hno, Bool.not_false, Bool.and_self, if_true, Service.store_withStore,
          Service.snapshot_withStore]
        exact store.lists_enabled
      · rw [Service.cache_withStore]
        exact hs.faithful.retain _
  | false =>
    obtain ⟨hsnap, hcache⟩ := h.service.step_quiet hc hr
    refine ⟨?_, hcache hs.faithful⟩
    show h.recorded.Lists _
    rw [hsnap]
    exact hs.listed

theorem sound_run (hc : Consults consult fresh) (ops : List (Op α κ)) : (run consult ops).Sound := by
  suffices ∀ h : History α, h.Sound → (ops.foldl (History.next consult) h).Sound from
    this {} sound_init
  induction ops with
  | nil => exact fun h hs => hs
  | cons op ops ih => exact fun h hs => ih _ (hs.next hc op)

/-- What a service promises at a point of its history. -/
structure UpToDate (consult : Service α → κ → β × Service α) (fresh : List (Rule α) → κ → β)
    (h : History α) : Prop where
  /-- The snapshot lists the rules that were stored when it was taken. -/
  snapshot : h.recorded.Lists h.service.snapshot
  /-- An operation that takes a snapshot and is not refused leaves one of what is stored then. -/
  refreshed : ∀ op : Op α κ, op.refreshes = true →
    (h.service.step consult op).1.isRefusal = false →
    (h.next consult op).service.store.Lists (h.next consult op).service.snapshot
  /-- Answers are those of `fresh` on the snapshot, without a cache. -/
  answers : ∀ q, (consult h.service q).1 = fresh h.service.snapshot q

theorem upToDate_run (hc : Consults consult fresh) (ops : List (Op α κ)) :
    (run consult ops).UpToDate consult fresh where
  snapshot := (sound_run hc ops).listed
  refreshed op hop hno := by
    have h := ((sound_run hc ops).next hc op).listed
    simpa only [History.next, hop, hno, Bool.not_false, Bool.and_self, if_true] using h
  answers q := hc.answer _ q (sound_run hc ops).faithful

end History

/-! ## Both kinds of services -/

/-- What a new detector says: `detect` with an empty cache. -/
def Detection.fresh (rules : List ClientRule) (request : Request) : Detection :=
  (Detection.detect rules request ParseCache.empty).1

/-- What a new decider says: `decide?` with an empty cache. -/
def Decision.fresh (mappings : List RelayMapping) (question : Request × StreamInfo) :
    Option Decision :=
  (Decision.decide? question.1 question.2 mappings ParseCache.empty).1

/-- A relay service is asked about a request and a stream. -/
def Service.decideFor (s : Service RelayTargets) (question : Request × StreamInfo) :
    Option Decision × Service RelayTargets :=
  s.decide question.1 question.2

theorem Service.consults_detect : Consults Service.detect Detection.fresh where
  store _ _ := rfl
  snapshot _ _ := rfl
  cache s q h := Detection.detect_snd s.snapshot q h
  answer s q h := by
    rw [Detection.fresh, Detection.detect_fst _ _ ParseCache.faithful_empty,
      ← Detection.detect_fst _ _ h]
    rfl

theorem Service.consults_decideFor : Consults Service.decideFor Decision.fresh where
  store _ _ := rfl
  snapshot _ _ := rfl
  cache s q h := (Decision.decide?_eq q.1 q.2 s.snapshot h).2
  answer s q h := by
    rw [Decision.fresh, (Decision.decide?_eq q.1 q.2 s.snapshot ParseCache.faithful_empty).1,
      ← (Decision.decide?_eq q.1 q.2 s.snapshot h).1]
    rfl

/-- In every run, of a service of client rules or of relay mappings, the snapshot lists the enabled
rules of the last refresh, these are the rules stored now after every change that is not refused,
and every answer is the one that a new detector or decider gives on that snapshot. -/
theorem History.run_upToDate :
    (∀ ops : List (Op ClientProfile Request),
      (History.run Service.detect ops).UpToDate Service.detect Detection.fresh) ∧
    ∀ ops : List (Op RelayTargets (Request × StreamInfo)),
      (History.run Service.decideFor ops).UpToDate Service.decideFor Decision.fresh :=
  ⟨fun ops => upToDate_run Service.consults_detect ops,
    fun ops => upToDate_run Service.consults_decideFor ops⟩

end StreamPolicy
