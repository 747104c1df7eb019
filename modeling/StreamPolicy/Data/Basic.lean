import StreamPolicy.Data.Named

/-!
# Data

`Data` are the values that records are written as, in configuration files and in answers. A type is
`Coded` when its values can be written with `encode` and read back with `decode?`, which refuses
data of any other form.
-/

namespace StreamPolicy

inductive Data
  | null
  | bool (b : Bool)
  | int (n : Int)
  | text (s : String)
  | list (items : List Data)
  | record (fields : List (String × Data))
  /-- A number with a fraction or an exponent, as it is written. -/
  | decimal (written : String)
  /-- A date or a time, as it is written. -/
  | moment (written : String)
  deriving Inhabited, Repr

class Coded (α : Type) where
  encode : α → Data
  decode? : Data → Option α

export Coded (encode decode?)

namespace Data

/-- Looks up the fields of a record. A list gives them in the order of `names`; it may be shorter
but not longer. -/
def fields? (names : List String) : Data → Option (String → Option Data)
  | .record fields => some fun name => fields.lookup name
  | .list items => if items.length ≤ names.length then some fun name => (names.zip items).lookup name
    else none
  | _ => none

/-- Reads a field that has to be there. -/
def required [Coded α] (field : Option Data) : Option α := field.bind decode?

/-- Reads a field that is `value` when it is not there. -/
def orDefault [Coded α] (value : α) : Option Data → Option α
  | none => some value
  | some d => decode? d

end Data

/-! ## Scalars -/

instance : Coded Bool where
  encode := .bool
  decode?
    | .bool b => some b
    | _ => none

instance : Coded String where
  encode := .text
  decode?
    | .text s => some s
    | _ => none

instance : Coded Nat where
  encode n := .int n
  decode?
    | .int n => if 0 ≤ n && n < UInt64.size then some n.toNat else none
    | _ => none

instance : Coded Int32 where
  encode n := .int n.toInt
  decode?
    | .int n => if Int32.minValue.toInt ≤ n && n ≤ Int32.maxValue.toInt then some (Int32.ofInt n)
      else none
    | _ => none

/-- A name may also be given as a record whose only field has that name and no value. -/
instance (priority := low) [Named α] : Coded α where
  encode a := .text (Named.name a)
  decode?
    | .text s => Named.ofName? s
    | .record [(s, .null)] => Named.ofName? s
    | _ => none

/-! ## Containers -/

/-- The value `none` is written as `null`. -/
instance [Coded α] : Coded (Option α) where
  encode
    | none => .null
    | some a => encode a
  decode?
    | .null => some none
    | d => (decode? d).map some

instance [Coded α] : Coded (List α) where
  encode as := .list (as.map encode)
  decode?
    | .list ds => ds.mapM decode?
    | _ => none

/-- The field `name`, which is left out when `value` is `none`. -/
def Data.optionalField [Coded α] (name : String) (value : Option α) : List (String × Data) :=
  match value with
  | none => []
  | some a => [(name, encode a)]

end StreamPolicy
