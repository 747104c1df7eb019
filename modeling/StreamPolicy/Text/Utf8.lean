/-!
# UTF-8

`encode` gives the bytes of a text, and `decodeLossy` the text of bytes that need not be well
formed. Where a sequence breaks off, the bytes read so far are one fault and reading goes on with
the byte that broke it.
-/

namespace StreamPolicy.Text.Utf8

def encode (cs : List Char) : List UInt8 := cs.flatMap String.utf8EncodeChar

/-- The bits that a lead byte contributes, how many bytes follow it, and the bounds of the first of
them. The bounds shut out overlong forms, surrogates and numbers that are no code points. -/
structure Lead where
  bits : Nat
  count : Nat
  low : Nat := 0x80
  high : Nat := 0xBF

def lead? (b : Nat) : Option Lead :=
  if 0xC2 ≤ b && b ≤ 0xDF then some ⟨b - 0xC0, 1, 0x80, 0xBF⟩
  else if b == 0xE0 then some ⟨0, 2, 0xA0, 0xBF⟩
  else if b == 0xED then some ⟨13, 2, 0x80, 0x9F⟩
  else if 0xE1 ≤ b && b ≤ 0xEF then some ⟨b - 0xE0, 2, 0x80, 0xBF⟩
  else if b == 0xF0 then some ⟨0, 3, 0x90, 0xBF⟩
  else if 0xF1 ≤ b && b ≤ 0xF3 then some ⟨b - 0xF0, 3, 0x80, 0xBF⟩
  else if b == 0xF4 then some ⟨4, 3, 0x80, 0x8F⟩
  else none

/-- Reads `count` continuation bytes, the first of them from `low` to `high`, onto the `bits` so
far. -/
def continuation (bits low high : Nat) : Nat → List UInt8 → Option Nat × List UInt8
  | 0, bs => (some bits, bs)
  | _ + 1, [] => (none, [])
  | count + 1, b :: bs =>
    if low ≤ b.toNat && b.toNat ≤ high then
      continuation (bits * 64 + b.toNat % 64) 0x80 0xBF count bs
    else (none, b :: bs)

theorem length_continuation (bits low high count : Nat) (bs : List UInt8) :
    (continuation bits low high count bs).2.length ≤ bs.length := by
  fun_induction continuation bits low high count bs with
  | case1 => simp
  | case2 => simp
  | case3 _ _ _ _ _ _ _ ih => simp only [List.length_cons]; omega
  | case4 => simp

/-- The characters of a byte sequence, where each fault stands as `none`. -/
def decode : List UInt8 → List (Option Char)
  | [] => []
  | b :: bs =>
    if b.toNat < 0x80 then some (Char.ofNat b.toNat) :: decode bs
    else match lead? b.toNat with
      | none => none :: decode bs
      | some l =>
        have := length_continuation l.bits l.low l.high l.count bs
        let r := continuation l.bits l.low l.high l.count bs
        r.1.map Char.ofNat :: decode r.2
  termination_by bs => bs.length
  decreasing_by all_goals (simp only [List.length_cons]; omega)

/-- The character that stands for a fault. -/
def replacement : Char := '\uFFFD'

/-- The text of a byte sequence, with `replacement` for each fault. -/
def decodeLossy (bs : List UInt8) : List Char := (decode bs).map (·.getD replacement)

end StreamPolicy.Text.Utf8
