import StreamPolicy.Proofs.Saving
import StreamPolicy.Proofs.Service.System
import StreamPolicy.Proofs.Service.UserRules

/-!
# Saved applications

Whatever has been done to an application, the rules that it saves go together with those of the
system (`compatible_userRules`). A new application of its `savedConfig` therefore takes all of them,
and lists them in the same order.
-/

namespace StreamPolicy

variable {α κ β : Type}

/-! ## Lists of rules in order -/

namespace Rule

variable {rs rs' : List (Rule α)}

/-- There is only one way to put rules in the order of `Before`. -/
theorem eq_of_perm_of_before (h : rs.Perm rs') (hrs : rs.Pairwise Before)
    (hrs' : rs'.Pairwise Before) : rs = rs' :=
  h.eq_of_pairwise (fun _ _ _ _ hrs hsr => absurd hsr hrs.asymm) hrs hrs'

end Rule

/-! ## Rules of users -/

namespace Service

variable {s : Service α} {builtin : List (Rule α)}

variable [RuleKind α]

theorem Valid.compatible (h : s.Valid) : Rule.Compatible s.store.rules where
  named := h.inOrder.named
  parses := h.inOrder.parses
  names := h.inOrder.distinct
  ids := s.store.nodup_ids

/-- Rules of users go with rules of the system whose names are still stored. -/
theorem Valid.compatible_userRules (h : s.Valid) (hbuiltin : Rule.Compatible builtin)
    (hkept : ∀ b ∈ builtin, ∃ r ∈ s.store.rules, r.isSystem = true ∧ r.name = b.name)
    (hids : ∀ b ∈ builtin, ∀ r ∈ s.userRules, b.id ≠ r.id) :
    Rule.Compatible (builtin ++ s.userRules) := by
  have husers : Rule.Compatible s.userRules :=
    (h.compatible.sublist List.filter_sublist).perm s.userRules_perm.symm
  have hnames : ∀ b ∈ builtin, ∀ r ∈ s.userRules, b.name ≠ r.name := by
    intro b hb r hr hname
    obtain ⟨r', hr', hsys, hname'⟩ := hkept b hb
    obtain ⟨hstored, huser⟩ := mem_userRules.1 hr
    -- The rule of the user would be the one of the system.
    rw [h.stored.eq_of_name hstored hr' (hname'.trans hname), huser] at hsys
    cases hsys
  refine ⟨?_, ?_, ?_, ?_⟩
  · exact List.forall_mem_append.2 ⟨hbuiltin.named, husers.named⟩
  · exact List.forall_mem_append.2 ⟨hbuiltin.parses, husers.parses⟩
  · rw [List.map_append, List.nodup_append]
    exact ⟨hbuiltin.names, husers.names,
      List.forall_mem_map.2 fun b hb => List.forall_mem_map.2 (hnames b hb)⟩
  · rw [List.map_append, List.nodup_append]
    exact ⟨hbuiltin.ids, husers.ids,
      List.forall_mem_map.2 fun b hb => List.forall_mem_map.2 (hids b hb)⟩

/-! ## Services after loading again -/

/-- The service `new` has the rules that users had in `old` after `ops`. -/
structure Restores (ops : List (Op α κ)) (builtin : List (Rule α)) (old new : Service α) :
    Prop where
  /-- They are the same in all their fields, and in the same order. -/
  userRules : new.userRules = old.userRules
  /-- Beside them the rules of the system are stored, each once, and nothing else is. -/
  stored : new.store.rules.Perm (builtin ++ old.userRules)
  /-- The rules of the system were there before. -/
  kept : ∀ b ∈ builtin, ∃ r ∈ old.store.rules, r.isSystem = true ∧ r.definition = b.definition
  /-- There were no others, unless they had been seeded. -/
  others : (∀ r, .seed r ∈ ops → r.isSystem = false) →
    (old.store.systemRules.map Rule.definition).Perm (builtin.map Rule.definition)

variable [DecidableEq α] {consult : Service α → κ → β × Service α}
  {fresh : List (Rule α) → κ → β}

theorem valid_load (hc : Consults consult fresh) (builtin configured : List (Rule α)) :
    (load builtin configured).Valid := by
  rw [load_eq_run consult]
  exact valid_empty.run hc _

/-- Loading the rules that users have at any point of a run restores them, if the identifiers that
are issued to the rules of the system are new. -/
theorem restores_load (hc : Consults consult fresh) {bs : List (Blueprint α)}
    (hbs : Blueprint.Shippable bs) (issuer issuer' : Issuer) (configured : List (Rule α))
    (ops : List (Op α κ)) :
    let old := (load (Blueprint.issueAll issuer bs).1 configured).run consult ops
    let builtin := (Blueprint.issueAll issuer' bs).1
    (∀ b ∈ builtin, ∀ r ∈ old.userRules, b.id ≠ r.id) →
      Restores ops builtin old (load builtin old.userRules) := by
  intro old builtin hids
  have hbuiltin : Rule.Compatible builtin := hbs.compatible
  have hsys : ∀ b ∈ builtin, b.isSystem = true := hbs.isSystem_issueAll
  have hvalid : old.Valid := (valid_load hc _ configured).run hc ops
  -- Each rule of the system is of a blueprint of which a rule has been loaded before.
  have hkept : ∀ b ∈ builtin, ∃ r ∈ old.store.rules,
      r.isSystem = true ∧ r.definition = b.definition := by
    intro b hb
    obtain ⟨p, hp, i, rfl⟩ := Blueprint.mem_issueAll hb
    have hdefinitions : (Blueprint.issueAll issuer bs).1.map Rule.definition =
        bs.map Blueprint.definition := Blueprint.map_issueAll fun _ _ => rfl
    have hmem : p.definition ∈ (Blueprint.issueAll issuer bs).1.map Rule.definition := by
      rw [hdefinitions]
      exact List.mem_map_of_mem hp
    obtain ⟨r, hr, hdefinition⟩ := List.mem_map.1 hmem
    have hsystem : r.isSystem = true := hbs.isSystem_issueAll r hr
    obtain ⟨r', hr', hrevises⟩ := run_kept hc.store ops
      ((loads_load hbs.compatible configured).shipped r hr) hsystem
    exact ⟨r', hr', hrevises.isSystem.trans hsystem, hrevises.definition.trans hdefinition⟩
  have hcompatible := hvalid.compatible_userRules hbuiltin (fun b hb => by
    obtain ⟨r, hr, hsystem, hdefinition⟩ := hkept b hb
    exact ⟨r, hr, hsystem, congrArg Prod.fst hdefinition⟩) hids
  have hstored := load_perm hbuiltin old.userRules
  rw [Rule.chosen_of_compatible hcompatible, map_asUser_userRules] at hstored
  refine ⟨?_, hstored, hkept, fun hops => ?_⟩
  · have hperm := userRules_perm_of_stored hsys (fun r hr => (mem_userRules.1 hr).2) hstored
    exact Rule.eq_of_perm_of_before hperm (pairwise_userRules _) (pairwise_userRules _)
  · have hdefinition : builtin.map Rule.definition = bs.map Blueprint.definition :=
      Blueprint.map_issueAll fun _ _ => rfl
    rw [hdefinition]
    exact run_load_perm hc.store issuer hbs configured hops

end Service

/-! ## Applications after loading again -/

/-- The identifiers that `issuer` gives to the rules of the system are those of no rule of `c`. -/
structure Issuer.IsFreshFor (issuer : Issuer) (c : Config) : Prop where
  client : ∀ b ∈ App.shippedClientRules issuer c, ∀ r ∈ c.clientRules, b.id ≠ r.id
  relay : ∀ b ∈ App.shippedRelayMappings issuer c, ∀ r ∈ c.relayMappings, b.id ≠ r.id

namespace App

/-- The application `a` after operations on its services. -/
def run (a : App) (ops : List (Op ClientProfile Request))
    (relayOps : List (Op RelayTargets (Request × StreamInfo))) : App :=
  { a with client := a.client.run Service.detect ops
           relay := a.relay.run Service.decideFor relayOps }

@[simp] theorem client_run (a : App) (ops : List (Op ClientProfile Request))
    (relayOps : List (Op RelayTargets (Request × StreamInfo))) :
    (a.run ops relayOps).client = a.client.run Service.detect ops := rfl

@[simp] theorem relay_run (a : App) (ops : List (Op ClientProfile Request))
    (relayOps : List (Op RelayTargets (Request × StreamInfo))) :
    (a.run ops relayOps).relay = a.relay.run Service.decideFor relayOps := rfl

def savedConfig (a : App) : Config :=
  { engine := a.engine, clientRules := a.client.userRules, relayMappings := a.relay.userRules }

/-- The document `d` with the rules that `a` saves. -/
def saved (a : App) (d : Toml.Document) : Toml.Document :=
  Config.withRules d a.client.userRules a.relay.userRules

theorem updatedText?_eq (a : App) (text : String) :
    a.updatedText? text = (Toml.Document.parse? text).map fun d => (a.saved d).text := rfl

/-- The application `new`, loaded from what `old` had saved after some operations, has all of
that. -/
structure Restores (ops : List (Op ClientProfile Request))
    (relayOps : List (Op RelayTargets (Request × StreamInfo))) (issuer : Issuer) (old new : App) :
    Prop where
  engine : new.engine = old.engine
  client : Service.Restores ops (shippedClientRules issuer old.savedConfig) old.client new.client
  relay : Service.Restores relayOps (shippedRelayMappings issuer old.savedConfig) old.relay
    new.relay

theorem restores_savedConfig (issuer fresh : Issuer) (c : Config)
    (ops : List (Op ClientProfile Request))
    (relayOps : List (Op RelayTargets (Request × StreamInfo))) :
    let old := (ofConfig issuer c).1.run ops relayOps
    fresh.IsFreshFor old.savedConfig →
      Restores ops relayOps fresh old (ofConfig fresh old.savedConfig).1 := by
  intro old hfresh
  exact ⟨rfl, Service.restores_load Service.consults_detect (Builtin.shippable_clientRules.ite _)
      _ _ _ ops hfresh.client,
    Service.restores_load Service.consults_decideFor (Builtin.shippable_relayMappings.ite _)
      _ _ _ relayOps hfresh.relay⟩

/-- Whatever has been done to an application that was loaded from a document, it can be saved there.
If the document `ReadsBack`, a new application of it has the same rules of users in the same order,
and the rules of the system as before. -/
theorem restores_of_saved {issuer issuer' : Issuer} {text : String} {c : Config}
    (h : Config.parse? issuer text = some (c, issuer')) (ops : List (Op ClientProfile Request))
    (relayOps : List (Op RelayTargets (Request × StreamInfo))) :
    let old := (ofConfig issuer' c).1.run ops relayOps
    ∃ d, Toml.Document.parse? text = some d ∧
      old.updatedText? text = some (old.saved d).text ∧
      ((old.saved d).ReadsBack → ∀ fresh : Issuer, fresh.IsFreshFor old.savedConfig →
        Config.parse? fresh (old.saved d).text = some (old.savedConfig, fresh) ∧
          Restores ops relayOps fresh old (ofConfig fresh old.savedConfig).1) := by
  intro old
  obtain ⟨d, hd, hparse⟩ := Config.parse?_withRules h old.client.userRules old.relay.userRules
  refine ⟨d, hd, by rw [updatedText?_eq, hd, Option.map_some], fun hback fresh hfresh => ?_⟩
  exact ⟨hparse hback fresh, restores_savedConfig issuer' fresh c ops relayOps hfresh⟩

/-- The application that is loaded from the sample. -/
def sample : App := (ofConfig Config.sampleIssuer.fresh.2 { clientRules := [Config.sampleRule] }).1

theorem chosen_sampleRule :
    Rule.chosen (shippedClientRules Config.sampleIssuer.fresh.2
      { clientRules := [Config.sampleRule] }) [Config.sampleRule] = [Config.sampleRule] :=
  if_pos ⟨by decide, ⟨_, Expression.parse_empty⟩, by decide, by decide⟩

/-- The rule of the sample is stored, and can be disabled among the rules of users. -/
theorem userRules_sample :
    Config.sampleRule ∈ sample.client.store.rules ∧ sample.client.Valid ∧
      (sample.client.withStore (sample.client.store.insert Config.disabledRule)).userRules =
        [Config.disabledRule] ∧
      sample.relay.userRules = [] := by
  let issuer := Config.sampleIssuer.fresh.2
  let c : Config := { clientRules := [Config.sampleRule] }
  have hstored := Service.load_perm (compatible_shippedClientRules issuer c) c.clientRules
  rw [chosen_sampleRule] at hstored
  have hmem : Config.sampleRule ∈ sample.client.store.rules :=
    hstored.mem_iff.2 (List.mem_append_right _ (List.mem_singleton_self _))
  have hvalid : sample.client.Valid := Service.valid_load Service.consults_detect _ _
  have hloaded : sample.client.userRules.Perm [Config.sampleRule] :=
    Service.userRules_perm_of_stored (Builtin.shippable_clientRules.ite true).isSystem_issueAll
      (List.forall_mem_singleton.2 rfl) hstored
  have hdisabled := (hvalid.userRules_revise hmem
    (f := fun t => { t with enabled := false }) (fun _ => rfl) fun _ => rfl).trans
    (hloaded.map _)
  have hrelay := Service.userRules_load (compatible_shippedRelayMappings issuer c)
    (Builtin.shippable_relayMappings.ite true).isSystem_issueAll []
  exact ⟨hmem, hvalid, List.perm_singleton.1 hdisabled, List.perm_nil.1 hrelay⟩

/-- The rule of the sample is disabled, and the document saved and loaded again. -/
theorem restores_of_saved_sample :
    let ops : List (Op ClientProfile Request) :=
      [.setEnabled Config.sampleIssuer.now Config.sampleRule.id false]
    let old := sample.run ops []
    let fresh : Issuer := ⟨⟨200⟩, Config.sampleIssuer.now⟩
    old.savedConfig = { clientRules := [Config.disabledRule] } ∧
      ∃ d, Toml.Document.parse? Config.sampleText = some d ∧ (old.saved d).ReadsBack ∧
        fresh.IsFreshFor old.savedConfig ∧
        Config.parse? fresh (old.saved d).text = some (old.savedConfig, fresh) ∧
        Restores ops [] fresh old (ofConfig fresh old.savedConfig).1 := by
  intro ops old fresh
  obtain ⟨hmem, -, hdisabled, hrelay⟩ := userRules_sample
  have hclient : old.client.userRules = [Config.disabledRule] := by
    rw [client_run, Service.run, List.foldl_cons, List.foldl_nil, Service.step,
      Service.setEnabled_of_mem hmem, ← hdisabled]
    rfl
  have hrelay : old.relay.userRules = [] := by
    rw [relay_run, Service.run, List.foldl_nil, hrelay]
  have hsaved : old.savedConfig = { clientRules := [Config.disabledRule] } := by
    rw [savedConfig, hclient, hrelay]
    rfl
  obtain ⟨d, hd, -, h⟩ := restores_of_saved Config.parse?_sampleText ops []
  have hback : (old.saved d).ReadsBack := by
    rw [saved, hclient, hrelay]
    exact Config.readsBack_sampleText d hd
  have hfresh : fresh.IsFreshFor old.savedConfig := by
    rw [hsaved]
    exact ⟨by decide, by decide⟩
  obtain ⟨hparse, hrestores⟩ := h hback fresh hfresh
  exact ⟨hsaved, d, hd, hback, hfresh, hparse, hrestores⟩

end App

end StreamPolicy
