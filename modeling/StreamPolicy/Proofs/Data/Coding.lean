import StreamPolicy.Media.Basic
import StreamPolicy.Proofs.Data.Timestamp

/-!
# Data are read as they are written

A coding is lawful (`LawfulCoded`) when every value is read back from what it is written as. None of
the values that fields hold is written as `null`, so an optional field tells a value from none.
-/

namespace StreamPolicy

variable {α : Type}

/-- Every value has a name of its own. -/
class LawfulNamed (α : Type) [Named α] : Prop where
  ofName?_name : ∀ a : α, Named.ofName? (Named.name a) = some a

/-- Every value is read back from what it is written as, which is never `null`. -/
class LawfulCoded (α : Type) [Coded α] : Prop where
  decode?_encode : ∀ a : α, decode? (encode a) = some a
  encode_ne_null : ∀ a : α, encode a ≠ .null

export LawfulCoded (decode?_encode encode_ne_null)

/-! ## Names -/

instance : LawfulNamed VideoCodec := ⟨fun a => by cases a <;> decide⟩

instance : LawfulNamed AudioCodec := ⟨fun a => by cases a <;> decide⟩

instance : LawfulNamed Container := ⟨fun a => by cases a <;> decide⟩

instance : LawfulNamed StreamFormat := ⟨fun a => by cases a <;> decide⟩

instance (priority := low) [Named α] [LawfulNamed α] : LawfulCoded α where
  decode?_encode a := LawfulNamed.ofName?_name a
  encode_ne_null _ := Data.noConfusion

/-! ## Scalars -/

instance : LawfulCoded Bool where
  decode?_encode _ := rfl
  encode_ne_null _ := Data.noConfusion

instance : LawfulCoded String where
  decode?_encode _ := rfl
  encode_ne_null _ := Data.noConfusion

instance : LawfulCoded Int32 where
  decode?_encode n := by
    show (if _ then some (Int32.ofInt n.toInt) else none) = some n
    rw [Int32.ofInt_toInt, if_pos]
    simpa using ⟨n.minValue_le_toInt, n.toInt_le⟩
  encode_ne_null _ := Data.noConfusion

instance : LawfulCoded Uuid where
  decode?_encode := Uuid.parse?_text
  encode_ne_null _ := Data.noConfusion

instance : LawfulCoded Time where
  decode?_encode := Time.parse?_text
  encode_ne_null _ := Data.noConfusion

/-! ## Containers -/

instance [Coded α] [LawfulCoded α] : LawfulCoded (List α) where
  decode?_encode as := by
    show (as.map encode).mapM decode? = some as
    induction as with
    | nil => rfl
    | cons a as ih =>
      rw [List.map_cons, List.mapM_cons, ih, decode?_encode]
      rfl
  encode_ne_null _ := Data.noConfusion

/-! ## Fields -/

namespace Data

variable [Coded α] [LawfulCoded α]

@[simp] theorem required_encode (a : α) : required (some (encode a)) = some a := decode?_encode a

@[simp] theorem orDefault_encode (value a : α) : orDefault value (some (encode a)) = some a :=
  decode?_encode a

omit [LawfulCoded α] in
theorem lookup_optionalField (name name' : String) (value : Option α) :
    (optionalField name value).lookup name' =
      if name' == name then value.map encode else none := by
  cases value with
  | none => simp [optionalField]
  | some a => cases h : name' == name <;> simp [optionalField, List.lookup_cons, h]

/-- A field that was left out stands for no value. -/
theorem orDefault_none_map (value : Option α) :
    orDefault none (value.map encode) = some value := by
  cases value with
  | none => rfl
  | some a =>
    have hne := encode_ne_null a
    have hread := decode?_encode a
    rw [Option.map_some]
    -- Only null would be read as none.
    generalize encode a = d at hne hread ⊢
    cases d with
    | null => exact absurd rfl hne
    | _ => exact congrArg (Option.map some) hread

end Data

/-! ## Comparing data -/

namespace Data

def same : Data → Data → Bool
  | .null, .null => true
  | .bool b, .bool b' => b == b'
  | .int n, .int n' => n == n'
  | .text s, .text s' => s == s'
  | .list ds, .list ds' => sames ds ds'
  | .record fields, .record fields' => sameFields fields fields'
  | .decimal s, .decimal s' => s == s'
  | .moment s, .moment s' => s == s'
  | _, _ => false
where
  sames : List Data → List Data → Bool
    | [], [] => true
    | d :: ds, d' :: ds' => d.same d' && sames ds ds'
    | _, _ => false
  sameFields : List (String × Data) → List (String × Data) → Bool
    | [], [] => true
    | (k, d) :: rest, (k', d') :: rest' => k == k' && d.same d' && sameFields rest rest'
    | _, _ => false

mutual

theorem same_iff : (d d' : Data) → (d.same d' = true ↔ d = d')
  | .null, d' => by cases d' <;> simp [same]
  | .bool b, d' => by cases d' <;> simp [same]
  | .int n, d' => by cases d' <;> simp [same]
  | .text s, d' => by cases d' <;> simp [same]
  | .list ds, d' => by cases d' <;> simp [same, sames_iff]
  | .record fields, d' => by cases d' <;> simp [same, sameFields_iff]
  | .decimal s, d' => by cases d' <;> simp [same]
  | .moment s, d' => by cases d' <;> simp [same]

theorem sames_iff : (ds ds' : List Data) → (same.sames ds ds' = true ↔ ds = ds')
  | [], ds' => by cases ds' <;> simp [same.sames]
  | d :: ds, ds' => by cases ds' <;> simp [same.sames, same_iff d, sames_iff ds]

theorem sameFields_iff : (fields fields' : List (String × Data)) →
    (same.sameFields fields fields' = true ↔ fields = fields')
  | [], fields' => by cases fields' <;> simp [same.sameFields]
  | (k, d) :: fields, fields' => by
    cases fields' <;> simp [same.sameFields, same_iff d, sameFields_iff fields, Prod.ext_iff]

end

instance : DecidableEq Data := fun d d' => decidable_of_iff _ (same_iff d d')

end Data

end StreamPolicy
