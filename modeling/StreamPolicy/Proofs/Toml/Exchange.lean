import Mathlib.Data.List.Basic
import StreamPolicy.Toml.Document

/-!
# What an exchange of sections means

Every pair and every section of a document touches a single key of its table, the first one of its
path (`AltersOnly`). What stands under one key can therefore be taken out (`without`) with no effect
on the others, and a list of tables can be put in its place (`withTables`).
-/

namespace StreamPolicy.Toml

/-! ## Steps that touch one key -/

namespace Items

variable {key k : String} {items items' : Items}

/-- The table without what stands under `key`. -/
def without (key : String) (items : Items) : Items := items.filter fun x => x.1 != key

/-- A key that is not there goes to the end. -/
theorem set_of_lookup_none {item : Item} (h : items.lookup key = none) :
    set key item items = items ++ [(key, item)] := by
  fun_induction set key item items with
  | case1 => rfl
  | case2 k i rest heq => simp [beq_iff_eq.1 heq] at h
  | case3 k i rest hne ih =>
    have hne' : (key == k) = false := by
      simpa using fun heq : key = k => hne (beq_iff_eq.2 heq.symm)
    rw [List.lookup_cons, hne'] at h
    rw [ih h, List.cons_append]

theorem lookup_without_self : (items.without key).lookup key = none := by
  refine List.lookup_eq_none_iff.2 fun p hp => ?_
  have hne : p.1 ≠ key := by simpa using (List.mem_filter.1 hp).2
  simpa using hne.symm

theorem lookup_without_of_ne (h : k ≠ key) : (items.without key).lookup k = items.lookup k := by
  induction items with
  | nil => rfl
  | cons x items ih =>
    unfold without at ih ⊢
    by_cases hx : x.1 = key
    · have hk : (k == x.1) = false := by simpa [hx] using h
      rw [List.filter_cons_of_neg (by simpa using hx), List.lookup_cons, hk, ih]
    · rw [List.filter_cons_of_pos (by simpa using hx), List.lookup_cons, List.lookup_cons, ih]

theorem without_set_self (item : Item) : (set key item items).without key = items.without key := by
  fun_induction set key item items with
  | case1 => simp [without]
  | case2 k i rest h => simp [without, beq_iff_eq.1 h]
  | case3 k i rest h ih =>
    unfold without at ih ⊢
    rw [List.filter_cons, List.filter_cons, ih]

theorem without_set_of_ne {item : Item} (h : k ≠ key) :
    (set k item items).without key = set k item (items.without key) := by
  fun_induction set k item items with
  | case1 => simp [without, set, h]
  | case2 j i rest heq =>
    obtain rfl := beq_iff_eq.1 heq
    simp [without, set, h]
  | case3 j i rest hne ih =>
    unfold without at ih ⊢
    rw [List.filter_cons, List.filter_cons, ih]
    split
    · rw [set, if_neg hne]
    · rfl

/-- What `step` does depends on what stands under `key`, and changes nothing else. -/
def AltersOnly (key : String) (step : Items → Option Items) : Prop :=
  ∃ change : Option Item → Option Item, ∀ items,
    step items = (change (items.lookup key)).map fun item => set key item items

/-- What changing the table at the end of the path `ks` makes of what stands under its first key. -/
def alterUnder (isDotted : Bool) (change : Origin → Items → Option Items) (ks : Path) :
    Option Item → Option Item
  | none =>
    let origin := if isDotted then .dotted else .implied
    (alterAt isDotted change ks origin []).map fun sub => .table origin sub
  | some (.value _) => none
  | some (.table origin sub) =>
    if isDotted && origin == .opened then none
    else (alterAt isDotted change ks origin sub).map fun sub => .table origin sub
  | some (.tables all) => all.getLast?.bind fun last =>
    (alterAt isDotted change ks .opened last).map fun sub => .tables (all.dropLast ++ [sub])

theorem altersOnly_alterAt (isDotted : Bool) (change : Origin → Items → Option Items)
    (key : String) (ks : Path) (origin : Origin) : AltersOnly key (alterAt isDotted change (key :: ks) origin) := by
  refine ⟨alterUnder isDotted change ks, fun items => ?_⟩
  rw [alterAt]
  cases items.lookup key with
  | none => simp only [alterUnder, Option.map_map]; rfl
  | some item =>
    cases item with
    | value d => rfl
    | table origin sub =>
      simp only [alterUnder]
      split
      · rfl
      · rw [Option.map_map]
        rfl
    | tables all =>
      simp only [alterUnder]
      cases all.getLast? with
      | none => rfl
      | some last => simp only [Option.bind_some, Option.map_map]; rfl

theorem altersOnly_addPair {p : Pair} (h : p.path.head? = some key) :
    AltersOnly key fun items => addPair items p := by
  obtain ⟨path, value⟩ := p
  obtain ⟨ks, rfl⟩ : ∃ ks, path = key :: ks := List.head?_eq_some_iff.1 h
  unfold addPair
  cases ks with
  | nil =>
    -- The key alone is put at the end, which is where setting puts a free key.
    refine ⟨fun item => if item.isSome then none else some (.value value), fun items => ?_⟩
    show (if items.lookup key |>.isSome then none else some (items ++ [(key, .value value)])) = _
    cases hfree : items.lookup key with
    | none => simp [set_of_lookup_none hfree]
    | some item => rfl
  | cons k ks => exact altersOnly_alterAt true _ key ((k :: ks).dropLast) .opened

/-- What opening a table makes of what stands under its key. -/
def openUnder (isArray : Bool) (pairs : List Pair) : Option Item → Option Item
  | none => (addPairs [] pairs).map fun t => if isArray then .tables [t] else .table .opened t
  | some (.table .implied old) =>
    if isArray then none else (addPairs old pairs).map fun t => .table .opened t
  | some (.tables all) =>
    if isArray then (addPairs [] pairs).map fun t => .tables (all ++ [t]) else none
  | some _ => none

theorem addSection_single (isArray : Bool) (pairs : List Pair) (items : Items) :
    addSection items ⟨[key], isArray, pairs⟩ =
      (openUnder isArray pairs (items.lookup key)).map fun item => set key item items := by
  simp only [addSection, List.getLast?_singleton, List.dropLast_singleton, alterAt]
  cases isArray with
  | false =>
    cases items.lookup key with
    | none => simp only [openUnder, Option.map_map]; rfl
    | some item =>
      cases item with
      | value d => rfl
      | table origin old =>
        cases origin with
        | implied => simp only [openUnder, Bool.false_eq_true, if_false, Option.map_map]; rfl
        | opened | dotted => rfl
      | tables all => rfl
  | true =>
    cases items.lookup key with
    | none => simp only [openUnder, Option.map_map]; rfl
    | some item =>
      cases item with
      | value d => rfl
      | table origin old => cases origin <;> rfl
      | tables all => simp only [openUnder, if_true, Option.map_map]; rfl

theorem altersOnly_addSection {s : Section} (h : s.path.head? = some key) :
    AltersOnly key fun items => addSection items s := by
  obtain ⟨path, isArray, pairs⟩ := s
  obtain ⟨ks, rfl⟩ : ∃ ks, path = key :: ks := List.head?_eq_some_iff.1 h
  cases ks with
  | nil => exact ⟨openUnder isArray pairs, addSection_single isArray pairs⟩
  | cons k ks => exact altersOnly_alterAt false _ key ((k :: ks).dropLast) .opened

theorem head?_of_addSection {s : Section} (h : addSection items s = some items') :
    ∃ k, s.path.head? = some k := by
  cases hpath : s.path with
  | nil =>
    rw [addSection, hpath] at h
    cases h
  | cons k ks => exact ⟨k, rfl⟩

theorem head?_of_addPair {p : Pair} (h : addPair items p = some items') :
    ∃ k, p.path.head? = some k := by
  cases hpath : p.path with
  | nil =>
    rw [addPair, hpath] at h
    cases h
  | cons k ks => exact ⟨k, rfl⟩

/-! ## Leaving steps out -/

theorem AltersOnly.without_eq {step : Items → Option Items} (hs : AltersOnly key step)
    (h : step items = some items') : items'.without key = items.without key := by
  obtain ⟨change, hchange⟩ := hs
  rw [hchange, Option.map_eq_some_iff] at h
  obtain ⟨item, -, rfl⟩ := h
  exact without_set_self item

theorem AltersOnly.without_of_ne {step : Items → Option Items} (hs : AltersOnly k step)
    (hk : k ≠ key) (h : step items = some items') :
    step (items.without key) = some (items'.without key) := by
  obtain ⟨change, hchange⟩ := hs
  rw [hchange, Option.map_eq_some_iff] at h
  obtain ⟨item, hitem, rfl⟩ := h
  rw [hchange, lookup_without_of_ne hk, hitem, Option.map_some, without_set_of_ne hk]

theorem head?_of_foldlM {β : Type} {step : Items → β → Option Items} (head? : β → Option String)
    (hhead : ∀ b items items', step items b = some items' → ∃ k, head? b = some k) {bs : List β}
    (h : bs.foldlM step items = some items') : ∀ b ∈ bs, ∃ k, head? b = some k := by
  induction bs generalizing items with
  | nil => exact List.forall_mem_nil _
  | cons b bs ih =>
    rw [List.foldlM_cons, Option.bind_eq_bind, Option.bind_eq_some_iff] at h
    obtain ⟨next, hnext, hrest⟩ := h
    exact List.forall_mem_cons.2 ⟨hhead b items next hnext, ih hrest⟩

/-- Leaving out the steps that touch a key leaves out what stands under it. -/
theorem foldlM_without {β : Type} {step : Items → β → Option Items} (head? : β → Option String)
    (halters : ∀ b k, head? b = some k → AltersOnly k fun items => step items b)
    (hhead : ∀ b items items', step items b = some items' → ∃ k, head? b = some k) {bs : List β}
    (h : bs.foldlM step items = some items') :
    (bs.filter fun b => head? b != some key).foldlM step (items.without key) =
      some (items'.without key) := by
  induction bs generalizing items with
  | nil =>
    cases h
    rfl
  | cons b bs ih =>
    rw [List.foldlM_cons, Option.bind_eq_bind, Option.bind_eq_some_iff] at h
    obtain ⟨next, hnext, hrest⟩ := h
    obtain ⟨k, hk⟩ := hhead b items next hnext
    by_cases hkey : k = key
    · have hout : ¬(head? b != some key) = true := by simp [hk, hkey]
      rw [List.filter_cons_of_neg (p := fun b => head? b != some key) hout,
        ← (halters b key (hkey ▸ hk)).without_eq hnext]
      exact ih hrest
    · have hin : (head? b != some key) = true := by simp [hk, hkey]
      rw [List.filter_cons_of_pos (p := fun b => head? b != some key) hin, List.foldlM_cons,
        (halters b k hk).without_of_ne hkey hnext]
      exact ih hrest

/-! ## Fresh tables -/

/-- A table that holds `fields` and nothing else. -/
def ofFields (fields : List (String × Data)) : Items := fields.map fun f => (f.1, .value f.2)

def pairsOf (fields : List (String × Data)) : List Pair := fields.map fun f => ⟨[f.1], f.2⟩

theorem addPair_single {value : Data} (h : items.lookup key = none) :
    addPair items ⟨[key], value⟩ = some (items ++ [(key, .value value)]) := by
  show (if (items.lookup key).isSome then none else some (items ++ [(key, .value value)])) = _
  rw [h]
  rfl

theorem addPairs_fields {fields : List (String × Data)} (hnodup : (fields.map Prod.fst).Nodup)
    (hfree : ∀ name ∈ fields.map Prod.fst, items.lookup name = none) :
    addPairs items (pairsOf fields) = some (items ++ ofFields fields) := by
  induction fields generalizing items with
  | nil => exact congrArg some (List.append_nil items).symm
  | cons f fields ih =>
    obtain ⟨hf, hnodup⟩ := List.nodup_cons.1 hnodup
    obtain ⟨hfirst, hfree⟩ := List.forall_mem_cons.1 hfree
    have hnext : ∀ name ∈ fields.map Prod.fst,
        (items ++ [(f.1, Item.value f.2)]).lookup name = none := by
      intro name hname
      have hne : (name == f.1) = false := by simpa using fun heq : name = f.1 => hf (heq ▸ hname)
      rw [List.lookup_append, hfree name hname, List.lookup_cons, hne]
      rfl
    show ((addPair items ⟨[f.1], f.2⟩).bind fun items => addPairs items (pairsOf fields)) = _
    rw [addPair_single hfirst, Option.bind_some, ih hnodup hnext, List.append_assoc]
    rfl

/-- The sections that make up the list of `tables` under `key`. -/
def sectionsOf (key : String) (tables : List (List (String × Data))) : List Section :=
  tables.map fun fields => ⟨[key], true, pairsOf fields⟩

/-- The table with a list of tables under `key`, which is free. Of an empty list nothing is seen. -/
def withTables (key : String) (tables : List (List (String × Data))) (items : Items) : Items :=
  if tables.isEmpty then items else items ++ [(key, .tables (tables.map ofFields))]

theorem lookup_behind {item : Item} (h : items.lookup key = none) :
    (items ++ [(key, item)]).lookup key = some item := by
  rw [List.lookup_append, h, List.lookup_cons, beq_self_eq_true]
  rfl

theorem set_behind {item item' : Item} (h : items.lookup key = none) :
    set key item (items ++ [(key, item')]) = items ++ [(key, item)] := by
  induction items with
  | nil => simp [set]
  | cons x items ih =>
    rw [List.lookup_cons] at h
    split at h
    · cases h
    · rename_i hne
      have hx : ¬(x.1 == key) = true := by
        simpa using fun heq : x.1 = key => (beq_eq_false_iff_ne.1 hne) heq.symm
      rw [List.cons_append, set, if_neg hx, ih h, List.cons_append]

theorem addSections_behind {tables : List (List (String × Data))} {all : List Items}
    (hnodup : ∀ fields ∈ tables, (fields.map Prod.fst).Nodup) (h : items.lookup key = none) :
    (sectionsOf key tables).foldlM addSection (items ++ [(key, .tables all)]) =
      some (items ++ [(key, .tables (all ++ tables.map ofFields))]) := by
  induction tables generalizing all with
  | nil => simp [sectionsOf]
  | cons fields tables ih =>
    obtain ⟨hfields, hnodup⟩ := List.forall_mem_cons.1 hnodup
    have hpairs : addPairs [] (pairsOf fields) = some (ofFields fields) :=
      addPairs_fields hfields fun _ _ => rfl
    have hfirst : addSection (items ++ [(key, .tables all)]) ⟨[key], true, pairsOf fields⟩ =
        some (items ++ [(key, .tables (all ++ [ofFields fields]))]) := by
      rw [addSection_single, lookup_behind h]
      simp only [openUnder, if_true, hpairs, Option.map_some, set_behind h]
    show ((addSection _ _).bind fun items => (sectionsOf key tables).foldlM addSection items) = _
    rw [hfirst, Option.bind_some, ih hnodup, List.append_assoc]
    rfl

theorem addSections_fresh {tables : List (List (String × Data))}
    (hnodup : ∀ fields ∈ tables, (fields.map Prod.fst).Nodup) (h : items.lookup key = none) :
    (sectionsOf key tables).foldlM addSection items = some (withTables key tables items) := by
  cases tables with
  | nil => rfl
  | cons fields tables =>
    obtain ⟨hfields, hnodup⟩ := List.forall_mem_cons.1 hnodup
    have hpairs : addPairs [] (pairsOf fields) = some (ofFields fields) :=
      addPairs_fields hfields fun _ _ => rfl
    have hfirst : addSection items ⟨[key], true, pairsOf fields⟩ =
        some (items ++ [(key, .tables [ofFields fields])]) := by
      rw [addSection_single, h]
      simp only [openUnder, if_true, hpairs, Option.map_some, set_of_lookup_none h]
    show ((addSection _ _).bind fun items => (sectionsOf key tables).foldlM addSection items) = _
    rw [hfirst, Option.bind_some, addSections_behind hnodup h]
    rfl

end Items

/-! ## Entries -/

variable {contents contents' : List Content} {key : String}

/-- Contents that begin with a header add sections to those before them. -/
theorem sections_append (contents : List Content) (h : (sections contents').1 = []) :
    sections (contents ++ contents') =
      ((sections contents).1, (sections contents).2 ++ (sections contents').2) := by
  induction contents with
  | nil => exact Prod.ext h rfl
  | cons c contents ih =>
    cases c with
    | pair p => simp only [List.cons_append, sections, ih]
    | header isArray path => simp only [List.cons_append, sections, ih, List.cons_append]

namespace Document

variable {d : Document} {entries : List Entry}

/-- The entries that do not stand under `key`, where the first ones stand under that of `owner`. -/
def entriesWithout (key : String) (owner : Option String) (entries : List Entry) : List Entry :=
  (withOwners owner entries).filterMap fun (owner, e) =>
    if owner == some key then none else some e

theorem entriesWithout_pair {e : Entry} {p : Pair} (he : e.content = .pair p)
    (owner : Option String) :
    entriesWithout key owner (e :: entries) =
      if (owner <|> p.path.head?) = some key then entriesWithout key owner entries
      else e :: entriesWithout key owner entries := by
  simp only [entriesWithout, withOwners, he, List.filterMap_cons, beq_iff_eq]
  split
  · rename_i h
    split at h
    · rw [if_pos ‹_›]
    · cases h
  · rename_i h
    split at h
    · cases h
    · cases h
      rw [if_neg ‹_›]

theorem entriesWithout_header {e : Entry} {isArray : Bool} {path : Path}
    (he : e.content = .header isArray path) (owner : Option String) :
    entriesWithout key owner (e :: entries) =
      if path.head? = some key then entriesWithout key path.head? entries
      else e :: entriesWithout key path.head? entries := by
  simp only [entriesWithout, withOwners, he, List.filterMap_cons, beq_iff_eq]
  split
  · rename_i h
    split at h
    · rw [if_pos ‹_›]
    · cases h
  · rename_i h
    split at h
    · cases h
    · cases h
      rw [if_neg ‹_›]

/-- Without the entries of `key`, the pairs and the sections of that key are gone. -/
theorem sections_entriesWithout (key : String)
    (hpaths : ∀ s ∈ (sections (entries.map (·.content))).2, s.path ≠ []) (owner : Option String) :
    sections ((entriesWithout key owner entries).map (·.content)) =
      ((sections (entries.map (·.content))).1.filter fun p =>
          (owner <|> p.path.head?) != some key,
        (sections (entries.map (·.content))).2.filter fun s => s.path.head? != some key) := by
  induction entries generalizing owner with
  | nil => rfl
  | cons e entries ih =>
    cases he : e.content with
    | pair p =>
      simp only [List.map_cons, he, sections] at hpaths ⊢
      rw [entriesWithout_pair he, List.filter_cons]
      by_cases howner : (owner <|> p.path.head?) = some key
      · rw [if_pos howner, ih hpaths, if_neg (mt bne_iff_ne.1 (not_not_intro howner))]
      · rw [if_neg howner, List.map_cons, he, sections, ih hpaths, if_pos (bne_iff_ne.2 howner)]
    | header isArray path =>
      simp only [List.map_cons, he, sections, List.forall_mem_cons] at hpaths ⊢
      obtain ⟨hpath, hpaths⟩ := hpaths
      obtain ⟨k, ks, rfl⟩ := List.exists_cons_of_ne_nil hpath
      have howner : ∀ p : Pair, (some k <|> p.path.head?) = some k := fun _ => rfl
      have hrest := ih hpaths (some k)
      simp only [howner] at hrest
      rw [entriesWithout_header he, List.head?_cons, List.filter_cons, List.head?_cons,
        List.filter_nil]
      -- The pairs below the header stay or go with it, whatever their keys are.
      by_cases hk : some k = some key
      · have hout : ¬(some k != some key) = true := mt bne_iff_ne.1 (not_not_intro hk)
        rw [if_pos hk, hrest, if_neg hout, List.filter_eq_nil_iff.2 fun _ _ => hout]
      · have hin : (some k != some key) = true := bne_iff_ne.2 hk
        rw [if_neg hk, List.map_cons, he, sections, hrest, if_pos hin,
          List.filter_eq_self.2 fun _ _ => hin]

/-! ## Documents -/

variable {items : Items} {tables : List (List (String × Data))}

theorem tableOf?_eq_some_iff : tableOf? contents = some items ↔
    ∃ top, Items.addPairs [] (sections contents).1 = some top ∧
      (sections contents).2.foldlM Items.addSection top = some items := by
  rcases h : sections contents with ⟨ps, ss⟩
  simp only [tableOf?, h]
  cases Items.addPairs [] ps with
  | none => simp
  | some top => simp

theorem table?_erase (key : String) (h : d.table? = some items) :
    (d.erase key).table? = some (items.without key) := by
  obtain ⟨top, htop, hitems⟩ := tableOf?_eq_some_iff.1 h
  have hpaths : ∀ s ∈ (sections (d.entries.map (·.content))).2, s.path ≠ [] := by
    intro s hs hnil
    obtain ⟨k, hk⟩ := Items.head?_of_foldlM (fun s : Section => s.path.head?)
      (fun _ _ _ => Items.head?_of_addSection) hitems s hs
    rw [hnil] at hk
    cases hk
  have hsections := sections_entriesWithout key hpaths none
  refine tableOf?_eq_some_iff.2 ⟨top.without key, ?_, ?_⟩
  · show Items.addPairs [] (sections ((entriesWithout key none d.entries).map _)).1 = _
    rw [hsections]
    exact Items.foldlM_without (fun p : Pair => p.path.head?)
      (fun _ _ => Items.altersOnly_addPair) (fun _ _ _ => Items.head?_of_addPair) htop
  · show (sections ((entriesWithout key none d.entries).map _)).2.foldlM _ _ = _
    rw [hsections]
    exact Items.foldlM_without (fun s : Section => s.path.head?)
      (fun _ _ => Items.altersOnly_addSection) (fun _ _ _ => Items.head?_of_addSection) hitems

theorem sections_pairs (fields : List (String × Data)) :
    sections ((fields.map pairEntry).map (·.content)) = (Items.pairsOf fields, []) := by
  induction fields with
  | nil => rfl
  | cons f fields ih =>
    simp only [List.map_cons, pairEntry, sections]
    rw [show sections _ = _ from ih]
    rfl

theorem sections_tables (key : String) (spelling : List Char)
    (tables : List (List (String × Data))) :
    sections ((tables.flatMap (sectionEntries key spelling)).map (·.content)) =
      ([], Items.sectionsOf key tables) := by
  induction tables with
  | nil => rfl
  | cons fields tables ih =>
    have hfirst := sections_append ((fields.map pairEntry).map (·.content)) (congrArg Prod.fst ih)
    rw [sections_pairs, ih] at hfirst
    simp only [List.flatMap_cons, List.map_append, sectionEntries, List.map_cons, sections,
      List.cons_append]
    rw [show sections _ = _ from hfirst]
    rfl

theorem table?_replace (key : String) (hnodup : ∀ fields ∈ tables, (fields.map Prod.fst).Nodup)
    (h : d.table? = some items) :
    (d.replace key tables).table? = some ((items.without key).withTables key tables) := by
  obtain ⟨top, htop, hitems⟩ := tableOf?_eq_some_iff.1 (table?_erase key h)
  have htables := sections_tables key (d.spelling key) tables
  have happend := sections_append ((d.erase key).entries.map (·.content))
    (congrArg Prod.fst htables)
  have hcontents : (d.replace key tables).entries.map (·.content) =
      (d.erase key).entries.map (·.content) ++
        (tables.flatMap (sectionEntries key (d.spelling key))).map (·.content) := List.map_append
  refine tableOf?_eq_some_iff.2 ⟨top, ?_, ?_⟩
  · rw [hcontents, happend]
    exact htop
  · rw [hcontents, happend, htables, List.foldlM_append, hitems]
    exact Items.addSections_fresh hnodup Items.lookup_without_self

end Document

end StreamPolicy.Toml
