import StreamPolicy.Proofs.Data.Coding
import StreamPolicy.Rule.Client
import StreamPolicy.Rule.Relay

/-!
# Rules are read as they are written

The record of a rule leaves out an empty description and open attributes, and nothing else. Reading
fills in what is missing, and what it fills in is what was left out (`read?_toData`).
-/

namespace StreamPolicy

variable {α : Type}

/-- The attributes of a rule are read back from their fields, whatever stands beside them, and the
names of the fields are none of those that all rules have. -/
class LawfulKind (α : Type) [RuleKind α] : Prop where
  nodup : (Rule.fieldNames α).Nodup
  sublist : ∀ a : α, ((RuleKind.encodeFields a).map Prod.fst).Sublist (RuleKind.fieldNames α)
  decodeFields? : ∀ (a : α) (get : String → Option Data),
    (∀ name ∈ RuleKind.fieldNames α, get name = (RuleKind.encodeFields a).lookup name) →
      RuleKind.decodeFields? get = some a

namespace Data

variable [Coded α]

theorem lookup_eq_none {fields : List (String × Data)} {name : String}
    (h : name ∉ fields.map Prod.fst) : fields.lookup name = none := by
  refine List.lookup_eq_none_iff.2 fun p hp => ?_
  simpa using fun heq => h (List.mem_map.2 ⟨p, hp, heq.symm⟩)

theorem names_optionalField (name : String) (value : Option α) :
    ((optionalField name value).map Prod.fst).Sublist [name] := by
  cases value with
  | none => exact List.nil_sublist _
  | some a => exact .refl _

/-- What is found under a name does not depend on the order of the fields, if no two share one. -/
theorem lookup_perm {fields fields' : List (String × Data)} (h : fields.Perm fields')
    (hnodup : (fields.map Prod.fst).Nodup) (name : String) :
    fields.lookup name = fields'.lookup name := by
  induction h with
  | nil => rfl
  | cons f _ ih => rw [List.lookup_cons, List.lookup_cons, ih (List.nodup_cons.1 hnodup).2]
  | swap f g fields =>
    obtain ⟨k, d⟩ := f
    obtain ⟨k', d'⟩ := g
    have hne : k' ≠ k := fun heq => (List.nodup_cons.1 hnodup).1 (heq ▸ List.mem_cons_self)
    rw [List.lookup_cons, List.lookup_cons, List.lookup_cons, List.lookup_cons]
    cases hk : name == k with
    | false => rfl
    | true =>
      have hk' : (name == k') = false := by
        rw [beq_iff_eq.1 hk]
        exact beq_false_of_ne hne.symm
      rw [hk']
  | trans h _ ih ih' => exact (ih hnodup).trans (ih' ((h.map Prod.fst).nodup hnodup))

end Data

instance : LawfulKind ClientProfile where
  nodup := by decide
  sublist p := by
    simp only [RuleKind.encodeFields, List.map_append]
    exact ((((Data.names_optionalField _ p.videoCodec).append
      (Data.names_optionalField _ p.audioCodec)).append (Data.names_optionalField _ p.fmp4)).append
      (Data.names_optionalField _ p.mpegts)).append (Data.names_optionalField _ p.format)
  decodeFields? p get h := by
    simp only [RuleKind.fieldNames, List.forall_mem_cons] at h
    obtain ⟨hvideo, haudio, hfmp4, hts, hformat, -⟩ := h
    simp [RuleKind.decodeFields?, hvideo, haudio, hfmp4, hts, hformat, RuleKind.encodeFields,
      List.lookup_append, Data.lookup_optionalField, Data.orDefault_none_map]

instance : LawfulKind RelayTargets where
  nodup := by decide
  sublist t := .refl _
  decodeFields? t get h := by
    simp only [RuleKind.fieldNames, List.forall_mem_cons] at h
    obtain ⟨hvideo, haudio, hcontainers, hvideo', haudio', hcontainer, -⟩ := h
    simp [RuleKind.decodeFields?, hvideo, haudio, hcontainers, hvideo', haudio', hcontainer,
      RuleKind.encodeFields, List.lookup_cons]

namespace Rule

section Fields

variable (r : Rule α)

/-! ## The fields of a record -/

/-- The description, unless it is empty. -/
def description? : Option String := if r.description == "" then none else some r.description

theorem orDefault_description? : Data.orDefault "" (r.description?.map encode) =
    some r.description := by
  unfold description?
  split
  · rename_i h
    rw [beq_iff_eq.1 h]
    rfl
  · exact Data.orDefault_encode _ _

def leadingFields : List (String × Data) :=
  [("id", encode r.id), ("name", encode r.name)] ++
    Data.optionalField "description" r.description? ++
    [("expression", encode r.expression), ("priority", encode r.priority),
      ("enabled", encode r.enabled), ("is_system", encode r.isSystem)]

def trailingFields : List (String × Data) :=
  [("created_at", encode r.createdAt), ("updated_at", encode r.updatedAt)]

def leadingNames : List String :=
  ["id", "name", "description", "expression", "priority", "enabled", "is_system"]

def trailingNames : List String := ["created_at", "updated_at"]

theorem leadingNames_sublist : (r.leadingFields.map Prod.fst).Sublist leadingNames := by
  simp only [leadingFields, List.map_append]
  exact ((List.Sublist.refl ["id", "name"]).append (Data.names_optionalField _ _)).append
    (.refl ["expression", "priority", "enabled", "is_system"])

end Fields

section Records

variable [RuleKind α] (r : Rule α) {name : String}

/-- The fields of `toData`. -/
def fields : List (String × Data) :=
  r.leadingFields ++ RuleKind.encodeFields r.attributes ++ r.trailingFields

theorem toData_eq : r.toData = .record r.fields := by
  unfold toData fields leadingFields description?
  split <;> rfl

variable [LawfulKind α]

theorem names_sublist : (r.fields.map Prod.fst).Sublist (fieldNames α) := by
  simp only [fields, List.map_append]
  exact (r.leadingNames_sublist.append (LawfulKind.sublist r.attributes)).append
    (.refl trailingNames)

theorem nodup_names : (r.fields.map Prod.fst).Nodup := LawfulKind.nodup.sublist r.names_sublist

omit r in
theorem not_mem_names (h : name ∈ RuleKind.fieldNames α) :
    name ∉ leadingNames ∧ name ∉ trailingNames := by
  have hnodup := LawfulKind.nodup (α := α)
  rw [fieldNames, List.nodup_append, List.nodup_append] at hnodup
  obtain ⟨⟨-, -, hleading⟩, -, htrailing⟩ := hnodup
  exact ⟨fun hmem => hleading name hmem name h rfl,
    fun hmem => htrailing name (List.mem_append_right _ h) name hmem rfl⟩

/-- The fields of the attributes are found under their names. -/
theorem lookup_kind (h : name ∈ RuleKind.fieldNames α) :
    r.fields.lookup name = (RuleKind.encodeFields r.attributes).lookup name := by
  obtain ⟨hleading, htrailing⟩ := not_mem_names h
  have hbefore : r.leadingFields.lookup name = none :=
    Data.lookup_eq_none fun hmem => hleading (r.leadingNames_sublist.subset hmem)
  have hbehind : r.trailingFields.lookup name = none := Data.lookup_eq_none htrailing
  rw [fields, List.lookup_append, List.lookup_append, hbefore, hbehind, Option.none_or,
    Option.or_none]

/-- The fields that all rules have are found as if there were no others. -/
theorem lookup_common (h : name ∉ RuleKind.fieldNames α) :
    r.fields.lookup name = (r.leadingFields ++ r.trailingFields).lookup name := by
  have hkind : (RuleKind.encodeFields r.attributes).lookup name = none :=
    Data.lookup_eq_none fun hmem => h ((LawfulKind.sublist r.attributes).subset hmem)
  rw [fields, List.lookup_append, List.lookup_append, hkind, Option.or_none, List.lookup_append]

/-! ## Reading -/

/-- Every rule is read back from its record, and needs no new identifier. -/
theorem read?_toData (issuer : Issuer) : read? issuer r.toData = some (r, issuer) := by
  have hcommon : ∀ name ∈ leadingNames ++ trailingNames,
      r.fields.lookup name = (r.leadingFields ++ r.trailingFields).lookup name := by
    intro name hname
    refine r.lookup_common fun hkind => ?_
    obtain ⟨hleading, htrailing⟩ := not_mem_names hkind
    exact (List.mem_append.1 hname).elim hleading htrailing
  simp only [leadingNames, trailingNames, List.cons_append, List.nil_append,
    List.forall_mem_cons] at hcommon
  obtain ⟨hid, hname, hdescription, hexpression, hpriority, henabled, hsystem, hcreated, hupdated,
    -⟩ := hcommon
  have hattributes : RuleKind.decodeFields? (fun name => r.fields.lookup name) =
      some r.attributes := LawfulKind.decodeFields? r.attributes _ fun name h => r.lookup_kind h
  simp [read?, toData_eq, Data.fields?, hid, hname, hdescription, hexpression, hpriority,
    henabled, hsystem, hattributes, hcreated, hupdated, leadingFields, trailingFields,
    List.lookup_append, List.lookup_cons, List.lookup_nil, Data.lookup_optionalField,
    orDefault_description?, readId, decode?_encode]

theorem read?_perm (issuer : Issuer) {fields : List (String × Data)} (h : fields.Perm r.fields) :
    read? issuer (.record fields) = some (r, issuer) := by
  have hlookup : (fun name => fields.lookup name) = fun name => r.fields.lookup name :=
    funext fun name => (Data.lookup_perm h.symm r.nodup_names name).symm
  have hread := r.read?_toData issuer
  rw [toData_eq] at hread
  simpa only [read?, Data.fields?, hlookup] using hread

theorem readAll?_toData (issuer : Issuer) (rs : List (Rule α)) :
    readAll? issuer (rs.map toData) = some (rs, issuer) := by
  induction rs with
  | nil => rfl
  | cons r rs ih =>
    rw [List.map_cons, readAll?, r.read?_toData]
    simp only [ih, Option.map_some]

end Records

/-! ## What is left out -/

variable (r : Rule α)

/-- The record of a rule leaves out an empty description and what `isOpen`. -/
def leavesOut (isOpen : String → Bool) (name : String) : Bool :=
  (name == "description" && r.description == "") || isOpen name

theorem leavesOut_of_ne {isOpen : String → Bool} {name : String} (h : name ≠ "description") :
    r.leavesOut isOpen name = isOpen name := by
  rw [leavesOut, beq_false_of_ne h, Bool.false_and, Bool.false_or]

end Rule

/-- The fields of a profile without a value. -/
def ClientProfile.isOpen (p : ClientProfile) : String → Bool
  | "preferred_video_codec" => p.videoCodec.isNone
  | "preferred_audio_codec" => p.audioCodec.isNone
  | "supports_fmp4" => p.fmp4.isNone
  | "supports_mpegts" => p.mpegts.isNone
  | "preferred_format" => p.format.isNone
  | _ => false

theorem ClientProfile.names_encodeFields (p : ClientProfile) :
    (RuleKind.encodeFields p).map Prod.fst =
      (RuleKind.fieldNames ClientProfile).filter fun name => !p.isOpen name := by
  obtain ⟨v, a, f, m, s⟩ := p
  cases v <;> cases a <;> cases f <;> cases m <;> cases s <;> rfl

namespace Rule

variable [RuleKind α] [LawfulKind α] (r : Rule α) {isOpen : String → Bool}

omit [RuleKind α] [LawfulKind α] in
theorem names_leadingFields (h : ∀ name ∈ leadingNames, isOpen name = false) :
    r.leadingFields.map Prod.fst = leadingNames.filter fun name => !r.leavesOut isOpen name := by
  simp only [leadingNames, List.forall_mem_cons] at h
  obtain ⟨hid, hname, hdescription, hexpression, hpriority, henabled, hsystem, -⟩ := h
  cases hempty : r.description == "" <;>
    simp [leadingFields, leadingNames, description?, leavesOut, Data.optionalField, hempty, hid,
      hname, hdescription, hexpression, hpriority, henabled, hsystem]

/-- All other fields are there, each once and in order. -/
theorem names_fields
    (hkind : (RuleKind.encodeFields r.attributes).map Prod.fst =
      (RuleKind.fieldNames α).filter fun name => !isOpen name)
    (hcommon : ∀ name ∈ leadingNames ++ trailingNames, isOpen name = false) :
    r.fields.map Prod.fst = (fieldNames α).filter fun name => !r.leavesOut isOpen name := by
  have hleading := r.names_leadingFields fun name h =>
    hcommon name (List.mem_append_left trailingNames h)
  have hattributes : (RuleKind.fieldNames α).filter (fun name => !r.leavesOut isOpen name) =
      (RuleKind.fieldNames α).filter fun name => !isOpen name := by
    refine List.filter_congr fun name hname => ?_
    have hne : name ≠ "description" := fun heq => (not_mem_names hname).1 (heq ▸ by decide)
    rw [r.leavesOut_of_ne hne]
  have htrailing : trailingNames.filter (fun name => !r.leavesOut isOpen name) =
      trailingNames := by
    refine List.filter_eq_self.2 fun name hname => ?_
    have hne : name ≠ "description" := fun heq => absurd (heq ▸ hname) (by decide)
    rw [r.leavesOut_of_ne hne, hcommon name (List.mem_append_right leadingNames hname)]
    rfl
  calc r.fields.map Prod.fst
      = r.leadingFields.map Prod.fst ++ (RuleKind.encodeFields r.attributes).map Prod.fst ++
          trailingNames := by simp only [fields, List.map_append]; rfl
    _ = (leadingNames ++ RuleKind.fieldNames α ++ trailingNames).filter
          fun name => !r.leavesOut isOpen name := by
        rw [List.filter_append, List.filter_append, hleading, hkind, hattributes, htrailing]

/-- The rule `r` is read back from its record and from the fields of it in any order. Nothing is
missing in the record but what it `leavesOut`. -/
structure IsRestored (issuer : Issuer) (isOpen : String → Bool) (r : Rule α) : Prop where
  read : read? issuer r.toData = some (r, issuer)
  record : ∃ fields, r.toData = .record fields ∧
    fields.map Prod.fst = (fieldNames α).filter (fun name => !r.leavesOut isOpen name) ∧
    ∀ fields', fields'.Perm fields → read? issuer (.record fields') = some (r, issuer)

/-- Client rules and relay mappings are read back whatever values they hold. Of a mapping only the
description can be left out. -/
theorem restored (issuer : Issuer) :
    (∀ r : ClientRule, r.IsRestored issuer r.attributes.isOpen) ∧
    ∀ m : RelayMapping, m.IsRestored issuer fun _ => false := by
  constructor
  · intro r
    have hcommon : ∀ name ∈ leadingNames ++ trailingNames, r.attributes.isOpen name = false := by
      simp [leadingNames, trailingNames, ClientProfile.isOpen]
    exact ⟨r.read?_toData issuer, r.fields, r.toData_eq,
      r.names_fields r.attributes.names_encodeFields hcommon, fun _ => r.read?_perm issuer⟩
  · intro m
    have hkind : (RuleKind.encodeFields m.attributes).map Prod.fst =
        (RuleKind.fieldNames RelayTargets).filter fun _ => !false :=
      (List.filter_eq_self.2 fun _ _ => rfl).symm
    exact ⟨m.read?_toData issuer, m.fields, m.toData_eq, m.names_fields hkind fun _ _ => rfl,
      fun _ => m.read?_perm issuer⟩

end Rule

end StreamPolicy
