import StreamPolicy.Config
import StreamPolicy.Proofs.Rule.Record
import StreamPolicy.Proofs.Toml.Exchange

/-!
# Rules are written back to their document

A document with other lists of rules (`withRules`) means the configuration with those lists: the
settings are as they were, and each rule is read back as it was written.
-/

namespace StreamPolicy

namespace Toml

variable {items : Items} {key k : String} {tables : List (List (String × Data))}

namespace Items

theorem lookup_toData (items : Items) (k : String) :
    (Item.toData.fields items).lookup k = (items.lookup k).map Item.toData := by
  induction items with
  | nil => rfl
  | cons x items ih =>
    obtain ⟨j, item⟩ := x
    rw [Item.toData.fields, List.lookup_cons, List.lookup_cons, ih]
    cases k == j <;> rfl

theorem toData_ofFields (fields : List (String × Data)) :
    Item.toData.fields (ofFields fields) = fields := by
  induction fields with
  | nil => rfl
  | cons f fields ih =>
    show (f.1, f.2) :: Item.toData.fields (ofFields fields) = _
    rw [ih]

theorem toData_tables (tables : List (List (String × Data))) :
    (Item.tables (tables.map ofFields)).toData = .list (tables.map .record) := by
  have hrecords : Item.toData.records (tables.map ofFields) = tables.map .record := by
    induction tables with
    | nil => rfl
    | cons fields tables ih =>
      rw [List.map_cons, Item.toData.records, toData_ofFields, ih, List.map_cons]
  exact congrArg Data.list hrecords

theorem lookup_withTables_self (h : items.lookup key = none) :
    (items.withTables key tables).lookup key =
      if tables.isEmpty then none else some (.tables (tables.map ofFields)) := by
  unfold withTables
  split
  · exact h
  · exact lookup_behind h

theorem lookup_withTables_of_ne (h : k ≠ key) :
    (items.withTables key tables).lookup k = items.lookup k := by
  unfold withTables
  split
  · rfl
  · have hk : (k == key) = false := by simpa using h
    rw [List.lookup_append, List.lookup_cons, hk]
    exact Option.or_none

end Items

/-- The characters of a text that is put together are those of its parts. -/
theorem append_eq_ofList {a b : String} {cs cs' : List Char} (ha : a = String.ofList cs)
    (hb : b = String.ofList cs') : a ++ b = String.ofList (cs ++ cs') := by
  rw [ha, hb, String.ofList_append]

/-- What `d` is written as reads back as what it means. -/
def Document.ReadsBack (d : Document) : Prop := Document.data? d.text = d.table?.map Items.toData

instance : DecidablePred Document.ReadsBack := fun d =>
  inferInstanceAs (Decidable (Document.data? d.text = d.table?.map Items.toData))

namespace Document

/-- What the characters `cs` mean when they are read as a document. -/
def meaning? (cs : List Char) : Option Items :=
  (entries? (if cs.head? == some '\uFEFF' then cs.tail else cs)).bind fun r =>
    tableOf? (r.1.map (·.content))

/-- The characters that a document is written with. -/
def chars (d : Document) : List Char :=
  d.entries.flatMap (fun e => e.leading ++ ended e.body) ++ d.trailing

theorem data?_ofList (cs : List Char) :
    data? (String.ofList cs) = (meaning? cs).map Items.toData := by
  unfold data? parse? meaning?
  simp only [String.toList_ofList]
  cases entries? (if cs.head? == some '\uFEFF' then cs.tail else cs) with
  | none => rfl
  | some r =>
    obtain ⟨entries, trailing⟩ := r
    show ((if (tableOf? (entries.map (·.content))).isSome then some ⟨entries, trailing⟩
      else none : Option Document).bind table?).map _ = (tableOf? (entries.map (·.content))).map _
    cases htable : tableOf? (entries.map (·.content)) with
    | none => rfl
    | some items => exact congrArg (Option.map Items.toData) htable

/-- Whether a document reads back is a matter of its `chars`, which need not be put together to a
text for that. -/
theorem readsBack_iff {d : Document} :
    d.ReadsBack ↔ (meaning? d.chars).map Items.toData = d.table?.map Items.toData := by
  rw [← data?_ofList]
  rfl

end Document

end Toml

namespace Config

open Toml

variable {α : Type} [RuleKind α] [LawfulKind α]

omit [LawfulKind α] in
theorem tables_eq (rs : List (Rule α)) : tables rs = rs.map Rule.fields := by
  unfold tables
  simp only [Rule.toData_eq]

theorem nodup_tables (rs : List (Rule α)) :
    ∀ fields ∈ tables rs, (fields.map Prod.fst).Nodup := by
  rw [tables_eq]
  exact List.forall_mem_map.2 fun r _ => r.nodup_names

omit [LawfulKind α] in
theorem records_tables (rs : List (Rule α)) :
    (tables rs).map Data.record = rs.map Rule.toData := by
  rw [tables_eq, List.map_map]
  exact List.map_congr_left fun r _ => r.toData_eq.symm

/-- A list of rules is read back as it was written, and an empty one where there is none. -/
theorem readRules?_list (issuer : Issuer) (rs : List (Rule α)) :
    readRules? issuer (if rs.isEmpty then none else some (.list (rs.map Rule.toData))) =
      some (rs, issuer) := by
  cases rs with
  | nil => rfl
  | cons r rs => exact Rule.readAll?_toData issuer (r :: rs)

/-- A list of rules is read back from its `tables`, and an empty one from none. -/
theorem readRules?_tables (issuer : Issuer) (rs : List (Rule α)) :
    readRules? issuer ((if (tables rs).isEmpty then none
      else some (Item.tables ((tables rs).map Items.ofFields))).map Item.toData) =
        some (rs, issuer) := by
  have hempty : (tables rs).isEmpty = rs.isEmpty := List.isEmpty_map
  rw [hempty, apply_ite (Option.map Item.toData), Option.map_none, Option.map_some,
    Items.toData_tables, records_tables, readRules?_list]

/-- Which fields of a document a configuration is read from. -/
theorem read?_toData {issuer : Issuer} {items : Items} : read? issuer items.toData =
    (Data.orDefault {} ((items.lookup "engine").map Item.toData)).bind fun engine =>
      (readRules? issuer ((items.lookup clientKey).map Item.toData)).bind fun client =>
        (readRules? client.2 ((items.lookup relayKey).map Item.toData)).bind fun relay =>
          some ({ engine, clientRules := client.1, relayMappings := relay.1 }, relay.2) := by
  simp only [read?, Items.toData, Data.fields?, Items.lookup_toData]
  rfl

variable {d : Document} {items : Items} {issuer issuer' : Issuer} {c : Config}

/-- With other lists of rules a document means the configuration with those lists. -/
theorem read?_withRules (htable : d.table? = some items)
    (hread : read? issuer items.toData = some (c, issuer')) (rules : List ClientRule)
    (mappings : List RelayMapping) :
    ∃ items', (withRules d rules mappings).table? = some items' ∧
      ∀ issuer, read? issuer items'.toData =
        some ({ engine := c.engine, clientRules := rules, relayMappings := mappings }, issuer) := by
  have hclient := Document.table?_replace clientKey (nodup_tables rules) htable
  have hboth := Document.table?_replace relayKey (nodup_tables mappings) hclient
  refine ⟨_, hboth, fun issuer => ?_⟩
  rw [read?_toData, Items.lookup_withTables_self Items.lookup_without_self,
    Items.lookup_withTables_of_ne (k := clientKey) (by decide),
    Items.lookup_without_of_ne (k := clientKey) (by decide),
    Items.lookup_withTables_self Items.lookup_without_self,
    Items.lookup_withTables_of_ne (k := "engine") (by decide),
    Items.lookup_without_of_ne (k := "engine") (by decide),
    Items.lookup_withTables_of_ne (k := "engine") (by decide),
    Items.lookup_without_of_ne (k := "engine") (by decide)]
  have hengine : Data.orDefault {} ((items.lookup "engine").map Item.toData) = some c.engine := by
    rw [read?_toData, Option.bind_eq_some_iff] at hread
    obtain ⟨engine, hengine, hread⟩ := hread
    simp only [Option.bind_eq_some_iff, Option.some.injEq, Prod.mk.injEq] at hread
    obtain ⟨client, -, relay, -, rfl, -⟩ := hread
    exact hengine
  rw [hengine, Option.bind_some, readRules?_tables, Option.bind_some, readRules?_tables,
    Option.bind_some]

/-- Written back, a configuration is read with the settings it had and with the rules that were
written, if the document `ReadsBack`. -/
theorem parse?_withRules {text : String} (h : parse? issuer text = some (c, issuer'))
    (rules : List ClientRule) (mappings : List RelayMapping) :
    ∃ d, Document.parse? text = some d ∧
      ((withRules d rules mappings).ReadsBack → ∀ issuer,
        parse? issuer (withRules d rules mappings).text =
          some ({ engine := c.engine, clientRules := rules, relayMappings := mappings },
            issuer)) := by
  rw [parse?, Option.bind_eq_some_iff] at h
  obtain ⟨data, hdata, hread⟩ := h
  obtain ⟨items, hitems, rfl⟩ := Option.map_eq_some_iff.1 hdata
  obtain ⟨d, hd, htable⟩ := Option.bind_eq_some_iff.1 hitems
  obtain ⟨items', htable', hread'⟩ := read?_withRules htable hread rules mappings
  refine ⟨d, hd, fun hback issuer => ?_⟩
  rw [parse?, show Document.data? _ = _ from hback, htable', Option.map_some, Option.bind_some,
    hread']

/-! ## A document -/

/-- A document with a rule of a user. -/
def sampleText : String :=
  "[[client_detection_rules]]\nname = \"Kodi\"\npreferred_video_codec = \"h265\"\n"

def sampleIssuer : Issuer := ⟨⟨99⟩, ⟨⟨2024, 2, 29⟩, ⟨12, 0, 0, 0⟩, rfl⟩⟩

def sampleRule : ClientRule :=
  { id := ⟨99⟩, name := "Kodi", attributes := { videoCodec := some .h265 },
    createdAt := sampleIssuer.now, updatedAt := sampleIssuer.now }

def disabledRule : ClientRule := { sampleRule with enabled := false }

theorem parse?_sampleText : parse? sampleIssuer sampleText =
    some ({ clientRules := [sampleRule] }, sampleIssuer.fresh.2) := by decide +kernel

/-- With its rule disabled the document reads back. -/
theorem readsBack_sampleText : ∀ d, Document.parse? sampleText = some d →
    (withRules d [disabledRule] []).ReadsBack := by
  have hall : (Document.parse? sampleText).all fun d =>
      let d' := withRules d [disabledRule] []
      (Document.meaning? d'.chars).map Items.toData = d'.table?.map Items.toData := by
    decide +kernel
  intro d hd
  rw [hd] at hall
  exact Document.readsBack_iff.2 (of_decide_eq_true hall)

end Config

end StreamPolicy
