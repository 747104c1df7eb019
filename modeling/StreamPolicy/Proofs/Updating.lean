import StreamPolicy.Cli.Run
import StreamPolicy.Proofs.Cache
import StreamPolicy.Proofs.Saving

/-!
# Rules are written to a file

Writing rules to a file (`Files.updateRules`) exchanges two lists in the document there and keeps
the fields of all other keys (`Exchanges`). What is no document, or cannot be read, is left alone.
-/

namespace StreamPolicy

/-! ## Fields of a document -/

namespace Toml

variable {items : Items} {key : String}

namespace Items

theorem fields_without : Item.toData.fields (items.without key) =
    (Item.toData.fields items).filter (·.1 != key) := by
  induction items with
  | nil => rfl
  | cons x items ih =>
    obtain ⟨k, item⟩ := x
    rw [Item.toData.fields, List.filter_cons, ← ih, without, List.filter_cons]
    split <;> rfl

theorem fields_append (items items' : Items) : Item.toData.fields (items ++ items') =
    Item.toData.fields items ++ Item.toData.fields items' := by
  induction items with
  | nil => rfl
  | cons x items ih =>
    obtain ⟨k, item⟩ := x
    rw [List.cons_append, Item.toData.fields, Item.toData.fields, ih, List.cons_append]

end Items

namespace Document

variable {d : Document} {text : String}

def fields (d : Document) : List (String × Data) := Item.toData.fields (d.table?.getD [])

/-- The document that characters are read as. -/
def ofChars? (cs : List Char) : Option Document :=
  (entries? (if cs.head? == some '\uFEFF' then cs.tail else cs)).bind fun r =>
    if (tableOf? (r.1.map (·.content))).isSome then some ⟨r.1, r.2⟩ else none

theorem parse?_eq (text : String) : parse? text = ofChars? text.toList := by
  simp only [parse?, ofChars?]
  cases entries? _ with
  | none => rfl
  | some r => rfl

/-- Whether `d` reads back, as its characters tell. -/
def rereads (d : Document) : Bool :=
  decide ((meaning? d.chars).map Items.toData = d.table?.map Items.toData)

theorem rereads_iff : d.rereads = true ↔ d.ReadsBack := decide_eq_true_iff.trans readsBack_iff.symm

theorem parse?_empty : parse? "" = some ⟨[], []⟩ := by
  have hentries : entries? [] = some ([], []) := by
    rw [entries?, skipTrivia]
    rfl
  rw [parse?_eq, ofChars?, String.toList_empty, List.head?_nil, if_neg (by decide), hentries]
  rfl

theorem exists_table_of_parse? (h : parse? text = some d) : ∃ items, d.table? = some items := by
  rw [parse?_eq, ofChars?, Option.bind_eq_some_iff] at h
  obtain ⟨r, -, hr⟩ := h
  split at hr
  · rename_i htable
    cases hr
    exact Option.isSome_iff_exists.1 htable
  · cases hr

/-- A document that reads back is found again with the fields it has. -/
theorem ReadsBack.exists_parse? (h : d.ReadsBack) (htable : d.table? = some items) :
    ∃ d', parse? d.text = some d' ∧ d'.fields = d.fields := by
  have hdata : ((parse? d.text).bind table?).map Items.toData = some items.toData := by
    rw [← Option.map_some, ← htable]
    exact h
  obtain ⟨items', hitems', heq⟩ := Option.map_eq_some_iff.1 hdata
  obtain ⟨d', hd', htable'⟩ := Option.bind_eq_some_iff.1 hitems'
  refine ⟨d', hd', ?_⟩
  rw [fields, fields, htable, htable']
  exact Data.record.inj heq

end Document

end Toml

namespace Config

open Toml

/-- The list `ds` under `key`. An empty one is left out. -/
def listField (key : String) (ds : List Data) : List (String × Data) :=
  if ds.isEmpty then [] else [(key, .list ds)]

/-- The key is none of a list of rules. -/
def isSetting (key : String) : Bool := key != clientKey && key != relayKey

def settings (fields : List (String × Data)) : List (String × Data) :=
  fields.filter fun x => isSetting x.1

/-- The `fields` of a document with other lists of rules. -/
def updatedFields (rules : List ClientRule) (mappings : List RelayMapping)
    (fields : List (String × Data)) : List (String × Data) :=
  settings fields ++ (listField clientKey (rules.map Rule.toData) ++
    listField relayKey (mappings.map Rule.toData))

variable {d : Document} {items : Items} {rules : List ClientRule} {mappings : List RelayMapping}
  {fields : List (String × Data)} {key k : String} {ds : List Data}

theorem lookup_listField_self :
    (listField key ds).lookup key = if ds.isEmpty then none else some (.list ds) := by
  unfold listField
  split
  · rfl
  · rw [List.lookup_cons, beq_self_eq_true]

theorem lookup_listField_of_ne (h : k ≠ key) : (listField key ds).lookup k = none := by
  unfold listField
  split
  · rfl
  · rw [List.lookup_cons, beq_eq_false_iff_ne.2 h]
    rfl

theorem filter_listField {p : String → Bool} :
    (listField key ds).filter (fun x => p x.1) = if p key then listField key ds else [] := by
  unfold listField
  split
  · exact (ite_self _).symm
  · rw [List.filter_cons, List.filter_nil]

theorem settings_updatedFields :
    settings (updatedFields rules mappings fields) = settings fields := by
  have hclient : isSetting clientKey = false := by decide
  have hrelay : isSetting relayKey = false := by decide
  rw [updatedFields, settings, List.filter_append, List.filter_append,
    filter_listField (p := isSetting), filter_listField (p := isSetting), hclient, hrelay, settings,
    List.filter_filter]
  simp only [Bool.and_self, Bool.false_eq_true, if_false, List.append_nil]

theorem updatedFields_updatedFields :
    updatedFields rules mappings (updatedFields rules mappings fields) =
      updatedFields rules mappings fields := by
  rw [updatedFields, settings_updatedFields]
  rfl

theorem fields_withTables {α : Type} [RuleKind α] (rs : List (Rule α)) :
    Item.toData.fields (items.withTables key (tables rs)) =
      Item.toData.fields items ++ listField key (rs.map Rule.toData) := by
  cases rs with
  | nil => exact (List.append_nil _).symm
  | cons r rs =>
    show Item.toData.fields (items ++ [(key, .tables ((tables (r :: rs)).map Items.ofFields))]) = _
    rw [Items.fields_append, Item.toData.fields, Items.toData_tables, records_tables]
    rfl

/-- A document with other lists of rules has them behind its settings. -/
theorem fields_withRules (rules : List ClientRule) (mappings : List RelayMapping)
    (htable : d.table? = some items) :
    (withRules d rules mappings).fields = updatedFields rules mappings d.fields ∧
      ∃ items', (withRules d rules mappings).table? = some items' := by
  have hclient := Document.table?_replace clientKey (nodup_tables rules) htable
  have hboth := Document.table?_replace relayKey (nodup_tables mappings) hclient
  have hkept : (clientKey != relayKey) = true := by decide
  refine ⟨?_, _, hboth⟩
  rw [Document.fields, Document.fields, htable, Option.getD_some, withRules, hboth,
    Option.getD_some, fields_withTables, Items.fields_without, fields_withTables,
    Items.fields_without, List.filter_append, filter_listField (p := (· != relayKey)), hkept,
    if_pos rfl, List.filter_filter, List.append_assoc]
  simp only [updatedFields, settings, isSetting, Bool.and_comm]

/-- The fields `new` have other lists of rules, each of which is read as it was given, and are those
of `old` otherwise. -/
structure Exchanges (rules : List ClientRule) (mappings : List RelayMapping)
    (old new : List (String × Data)) : Prop where
  client : new.lookup clientKey =
    if rules.isEmpty then none else some (.list (rules.map Rule.toData))
  relay : new.lookup relayKey =
    if mappings.isEmpty then none else some (.list (mappings.map Rule.toData))
  readsClient : ∀ issuer, readRules? issuer (new.lookup clientKey) = some (rules, issuer)
  readsRelay : ∀ issuer, readRules? issuer (new.lookup relayKey) = some (mappings, issuer)
  /-- What stands under another key is the same, with all that is in it. -/
  others : ∀ key, key ≠ clientKey → key ≠ relayKey → new.lookup key = old.lookup key

theorem lookup_settings :
    (settings fields).lookup k = if isSetting k then fields.lookup k else none :=
  ParseCache.lookup_filter_keys isSetting fields k

theorem exchanges_updatedFields :
    Exchanges rules mappings fields (updatedFields rules mappings fields) := by
  have hne : clientKey ≠ relayKey := by decide
  have hlookup : ∀ k, (updatedFields rules mappings fields).lookup k =
      (if isSetting k then fields.lookup k else none).or
        (((listField clientKey (rules.map Rule.toData)).lookup k).or
          ((listField relayKey (mappings.map Rule.toData)).lookup k)) := fun k => by
    rw [updatedFields, List.lookup_append, List.lookup_append, lookup_settings]
  have hclient : (updatedFields rules mappings fields).lookup clientKey =
      if rules.isEmpty then none else some (.list (rules.map Rule.toData)) := by
    rw [hlookup, if_neg (by decide), Option.none_or, lookup_listField_self,
      lookup_listField_of_ne hne, Option.or_none, List.isEmpty_map]
  have hrelay : (updatedFields rules mappings fields).lookup relayKey =
      if mappings.isEmpty then none else some (.list (mappings.map Rule.toData)) := by
    rw [hlookup, if_neg (by decide), Option.none_or, lookup_listField_of_ne hne.symm,
      Option.none_or, lookup_listField_self, List.isEmpty_map]
  refine ⟨hclient, hrelay, fun issuer => ?_, fun issuer => ?_, fun key hkey hkey' => ?_⟩
  · rw [hclient, readRules?_list]
  · rw [hrelay, readRules?_list]
  · have hsetting : isSetting key = true := by simp [isSetting, hkey, hkey']
    rw [hlookup, if_pos hsetting, lookup_listField_of_ne hkey, lookup_listField_of_ne hkey',
      Option.none_or, Option.or_none]

end Config

/-! ## Files -/

namespace Cli

open Toml

/-- The document is at a path. Where nothing is, it is an empty one. -/
inductive FileState.Holds : FileState → Document → Prop
  | missing : Holds .missing ⟨[], []⟩
  | text {content : String} {d : Document} (h : Document.parse? content = some d) :
    Holds (.text content) d

variable {files : Files} {path : String} {d : Document} {state : FileState}
  {rules : List ClientRule} {mappings : List RelayMapping}

theorem FileState.Holds.exists_table (h : state.Holds d) : ∃ items, d.table? = some items := by
  cases h with
  | missing => exact ⟨[], rfl⟩
  | text hd => exact Document.exists_table_of_parse? hd

namespace Files

theorem documentText_of_holds (h : (files path).Holds d) :
    ∃ content, files.documentText path = .ok content ∧ Document.parse? content = some d := by
  unfold documentText
  generalize files path = state at h
  cases h with
  | missing => exact ⟨"", rfl, Document.parse?_empty⟩
  | text hd => exact ⟨_, rfl, hd⟩

theorem updateRules_of_holds (rules : List ClientRule) (mappings : List RelayMapping)
    (h : (files path).Holds d) : files.updateRules path rules mappings =
      (.ok (), files.write path (Config.withRules d rules mappings).text) := by
  obtain ⟨content, hcontent, hd⟩ := documentText_of_holds h
  simp only [updateRules, hcontent, Config.updatedText?, hd, Option.map_some]

/-- Lists of rules have been written to the document `d` at `path`, which is `d'` afterwards. -/
structure Updates (files after : Files) (path : String) (rules : List ClientRule)
    (mappings : List RelayMapping) (d d' : Document) : Prop where
  done : files.updateRules path rules mappings = (.ok (), after)
  elsewhere : ∀ p, p ≠ path → after p = files p
  holds : (after path).Holds d'
  exchanges : Config.Exchanges rules mappings d.fields d'.fields

theorem updates_of_readsBack (h : (files path).Holds d)
    (hback : (Config.withRules d rules mappings).ReadsBack) :
    ∃ after d', files.Updates after path rules mappings d d' ∧
      d'.fields = Config.updatedFields rules mappings d.fields := by
  obtain ⟨items, htable⟩ := h.exists_table
  obtain ⟨hfields, items', htable'⟩ := Config.fields_withRules rules mappings htable
  obtain ⟨d', hd', hfields'⟩ := hback.exists_parse? htable'
  rw [hfields] at hfields'
  have hafter : files.write path (Config.withRules d rules mappings).text path =
      .text (Config.withRules d rules mappings).text := if_pos rfl
  refine ⟨_, d', ⟨updateRules_of_holds rules mappings h, fun p hp => if_neg hp, ?_, ?_⟩, hfields'⟩
  · rw [hafter]
    exact .text hd'
  · rw [hfields']
    exact Config.exchanges_updatedFields

/-- Rules are written to a file that is missing or holds a document: both lists are exchanged and
nothing else is changed, and exchanging them once more makes no difference. So it is for what the
file holds afterwards, if what is written `ReadsBack`. Any other file is left as it is. -/
theorem updateRules_spec (files : Files) (path : String) (rules : List ClientRule)
    (mappings : List RelayMapping) :
    (∀ reason, files path = .unreadable reason →
      files.updateRules path rules mappings = (.error (.unreadable path reason), files)) ∧
    (∀ content, files path = .text content → Document.parse? content = none →
      files.updateRules path rules mappings = (.error (.noConfig path), files)) ∧
    ∀ d, (files path).Holds d →
      files.updateRules path rules mappings =
        (.ok (), files.write path (Config.withRules d rules mappings).text) ∧
      Config.Exchanges rules mappings d.fields (Config.withRules d rules mappings).fields ∧
      (Config.withRules (Config.withRules d rules mappings) rules mappings).fields =
        (Config.withRules d rules mappings).fields ∧
      ((Config.withRules d rules mappings).ReadsBack →
        ∃ after d', files.Updates after path rules mappings d d' ∧
          ((Config.withRules d' rules mappings).ReadsBack →
            ∃ again d'', after.Updates again path rules mappings d' d'' ∧
              d''.fields = d'.fields)) := by
  refine ⟨fun reason hstate => ?_, fun content hstate hparse => ?_, fun d hd => ?_⟩
  · simp only [updateRules, documentText, hstate]
  · simp only [updateRules, documentText, hstate, Config.updatedText?, hparse, Option.map_none]
  · obtain ⟨items, htable⟩ := hd.exists_table
    obtain ⟨hexchanged, items', htable'⟩ := Config.fields_withRules rules mappings htable
    have htwice := (Config.fields_withRules rules mappings htable').1
    rw [hexchanged, Config.updatedFields_updatedFields, ← hexchanged] at htwice
    have hexchanges : Config.Exchanges rules mappings d.fields
        (Config.withRules d rules mappings).fields :=
      hexchanged ▸ Config.exchanges_updatedFields
    refine ⟨updateRules_of_holds rules mappings hd, hexchanges, htwice, fun hback => ?_⟩
    obtain ⟨after, d', hupdates, hfields⟩ := updates_of_readsBack hd hback
    refine ⟨after, d', hupdates, fun hback' => ?_⟩
    obtain ⟨again, d'', hupdates', hfields'⟩ := updates_of_readsBack hupdates.holds hback'
    refine ⟨again, d'', hupdates', ?_⟩
    rw [hfields', hfields, Config.updatedFields_updatedFields]

/-- A file with settings and a list that is written as a value. -/
def tunedText : String :=
  "client_detection_rules = []\n[engine]\ncatch_all_priority = 500\n"

/-- The file reads back with a rule in it, and with the rule written once more. -/
theorem readsBack_tunedText : ∃ d, Document.parse? tunedText = some d ∧
    d.fields.lookup "engine" = some (.record [("catch_all_priority", .int 500)]) ∧
    (Config.withRules d [Config.sampleRule] []).ReadsBack ∧
    ∀ d', Document.parse? (Config.withRules d [Config.sampleRule] []).text = some d' →
      (Config.withRules d' [Config.sampleRule] []).ReadsBack := by
  have hall : (Document.parse? tunedText).any fun d =>
      let written := Config.withRules d [Config.sampleRule] []
      decide (d.fields.lookup "engine" = some (.record [("catch_all_priority", .int 500)])) &&
        written.rereads && (Document.ofChars? written.chars).all fun d' =>
          (Config.withRules d' [Config.sampleRule] []).rereads := by
    decide +kernel
  obtain ⟨d, hd, hchecks⟩ := (Option.any_eq_true _ _).1 hall
  simp only [Bool.and_eq_true, decide_eq_true_eq, Document.rereads_iff,
    Option.all_eq_true] at hchecks
  obtain ⟨⟨hengine, hback⟩, hagain⟩ := hchecks
  refine ⟨d, hd, hengine, hback, fun d' hd' => hagain d' ?_⟩
  rwa [Document.parse?_eq, Document.text, String.toList_ofList] at hd'

/-- The rule is written to the file and read from it, and the settings are still there. -/
theorem updateRules_spec_tuned :
    let files : Files := fun p => if p = "tvforge.toml" then .text tunedText else .missing
    let rules := [Config.sampleRule]
    ∃ d after d' again d'', (files "tvforge.toml").Holds d ∧
      (Config.withRules d rules []).ReadsBack ∧
      files.Updates after "tvforge.toml" rules [] d d' ∧
      d'.fields.lookup "engine" = some (.record [("catch_all_priority", .int 500)]) ∧
      (Config.withRules d' rules []).ReadsBack ∧
      after.Updates again "tvforge.toml" rules [] d' d'' ∧ d''.fields = d'.fields := by
  intro files rules
  obtain ⟨d, hd, hengine, hback, hback'⟩ := readsBack_tunedText
  have hholds : (files "tvforge.toml").Holds d := .text hd
  obtain ⟨-, -, hspec⟩ := updateRules_spec files "tvforge.toml" rules []
  obtain ⟨hwritten, -, -, hspec⟩ := hspec d hholds
  obtain ⟨after, d', hupdates, hagain⟩ := hspec hback
  have hengine' : d'.fields.lookup "engine" =
      some (.record [("catch_all_priority", .int 500)]) := by
    rw [hupdates.exchanges.others "engine" (by decide) (by decide), hengine]
  -- What the file holds afterwards is what was written.
  obtain rfl : after = files.write "tvforge.toml" (Config.withRules d rules []).text :=
    (Prod.mk.inj (hupdates.done.symm.trans hwritten)).2
  have hheld : (FileState.text (Config.withRules d rules []).text).Holds d' := hupdates.holds
  have hback'' : (Config.withRules d' rules []).ReadsBack := by
    cases hheld with
    | text hd' => exact hback' d' hd'
  obtain ⟨again, d'', hupdates', hfields⟩ := hagain hback''
  exact ⟨d, _, d', again, d'', hholds, hback, hupdates, hengine', hback'', hupdates', hfields⟩

/-- Not every document reads back: a line end before a list that is written as a value ends up in
the headers of the tables. -/
example : (Document.parse? "\nrules = []\n").any fun d => !(d.replace "rules" [[]]).rereads := by
  decide +kernel

end Files

/-- A run that keeps its changes writes the rules of users to the file that it has loaded. -/
theorem filesAfter_runPersist {app : App} {content : String} {lines : List String}
    (h : files path = .text content) :
    (runPersist app (some (path, content)) lines).filesAfter files =
      (files.updateRules path app.client.userRules app.relay.userRules).2 := by
  simp only [runPersist, Files.updateRules, Files.documentText, h, App.updatedText?]
  cases Config.updatedText? content app.client.userRules app.relay.userRules with
  | none => rfl
  | some written => rfl

end Cli

end StreamPolicy
