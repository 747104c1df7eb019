import StreamPolicy.Data.Basic

/-!
# Tables

Tables are put together from pairs (`addPair`) and sections (`addSection`). A table is `opened` by a
header, `implied` by the header of a table inside it, or made by a `dotted` key, and this decides
what may be added to it: a table is opened only once, and dotted keys add only to what dotted keys
have made.
-/

namespace StreamPolicy.Toml

/-- What a table owes its existence to. -/
inductive Origin
  | opened
  | implied
  | dotted
  deriving DecidableEq, Repr

inductive Item
  | value (d : Data)
  | table (origin : Origin) (items : List (String × Item))
  | tables (all : List (List (String × Item)))
  deriving Inhabited, Repr

abbrev Items := List (String × Item)

/-- A key with dots, as the list of its parts. -/
abbrev Path := List String

/-- A key and its value. -/
structure Pair where
  path : Path
  value : Data
  deriving Repr

/-- A header and the pairs below it. -/
structure Section where
  path : Path
  isArray : Bool
  pairs : List Pair
  deriving Repr

namespace Items

/-- Sets what stands under `key`. -/
def set (key : String) (item : Item) : Items → Items
  | [] => [(key, item)]
  | (k, i) :: rest => if k == key then (k, item) :: rest else (k, i) :: set key item rest

/-- Changes the table at the end of a path. Tables on the way are made if need be, and of a list of
tables the last one is meant. Dotted keys do not lead into tables that were `opened`. -/
def alterAt (isDotted : Bool) (change : Origin → Items → Option Items) :
    Path → Origin → Items → Option Items
  | [], origin, items => change origin items
  | k :: ks, _, items =>
    match items.lookup k with
    | none =>
      let origin := if isDotted then .dotted else .implied
      (alterAt isDotted change ks origin []).map fun sub => set k (.table origin sub) items
    | some (.value _) => none
    | some (.table origin sub) =>
      if isDotted && origin == .opened then none
      else (alterAt isDotted change ks origin sub).map fun sub => set k (.table origin sub) items
    | some (.tables all) =>
      match all.getLast? with
      | none => none
      | some last => (alterAt isDotted change ks .opened last).map fun sub =>
          set k (.tables (all.dropLast ++ [sub])) items

/-- Adds a value under a key that is free. The key alone goes into the table at hand, a key with
dots into one that dotted keys have made. -/
def addPair (items : Items) (p : Pair) : Option Items :=
  match p.path.getLast? with
  | none => none
  | some key =>
    let above := p.path.dropLast
    let put := fun (origin : Origin) (sub : Items) =>
      if (origin == .dotted) == above.isEmpty || (sub.lookup key).isSome then none
      else some (sub ++ [(key, .value p.value)])
    alterAt true put above .opened items

def addPairs (items : Items) (ps : List Pair) : Option Items := ps.foldlM addPair items

/-- Adds a table with its pairs, or one more table to a list of tables. -/
def addSection (items : Items) (s : Section) : Option Items :=
  match s.path.getLast? with
  | none => none
  | some key =>
    let put := fun (_ : Origin) (sub : Items) =>
      match s.isArray, sub.lookup key with
      | false, none => (addPairs [] s.pairs).map fun t => set key (.table .opened t) sub
      | false, some (.table .implied old) =>
        (addPairs old s.pairs).map fun t => set key (.table .opened t) sub
      | true, none => (addPairs [] s.pairs).map fun t => set key (.tables [t]) sub
      | true, some (.tables all) =>
        (addPairs [] s.pairs).map fun t => set key (.tables (all ++ [t])) sub
      | _, _ => none
    alterAt false put s.path.dropLast .opened items

end Items

def Item.toData : Item → Data
  | .value d => d
  | .table _ items => .record (fields items)
  | .tables all => .list (records all)
where
  fields : List (String × Item) → List (String × Data)
    | [] => []
    | (k, i) :: rest => (k, i.toData) :: fields rest
  records : List (List (String × Item)) → List Data
    | [] => []
    | t :: ts => .record (fields t) :: records ts

def Items.toData (items : Items) : Data := .record (Item.toData.fields items)

end StreamPolicy.Toml
