/-!
# Texts as lists of characters

Texts are read as lists of characters, while positions count the bytes of their UTF-8 form, of which
there are `byteSize`. The searches here are the ones that conditions and parsers share.
-/

namespace StreamPolicy.Text

def byteSize : List Char → Nat
  | [] => 0
  | c :: cs => c.utf8Size + byteSize cs

@[simp] theorem byteSize_nil : byteSize [] = 0 := rfl

@[simp] theorem byteSize_cons (c : Char) (cs : List Char) :
    byteSize (c :: cs) = c.utf8Size + byteSize cs := rfl

@[simp] theorem byteSize_append (cs ds : List Char) :
    byteSize (cs ++ ds) = byteSize cs + byteSize ds := by
  induction cs with
  | nil => simp
  | cons c cs ih => simp only [List.cons_append, byteSize_cons, ih, Nat.add_assoc]

theorem byteSize_eq (cs : List Char) : byteSize cs = (String.ofList cs).utf8ByteSize := by
  induction cs with
  | nil => rfl
  | cons c cs ih =>
    rw [byteSize_cons, ih, String.ofList_cons, String.utf8ByteSize_append,
      String.utf8ByteSize_singleton]

theorem byteSize_toList (s : String) : byteSize s.toList = s.utf8ByteSize := by
  rw [byteSize_eq, String.ofList_toList]

/-- How many characters fill `bytes` bytes, if whole characters do. -/
def charsWithin? (bytes : Nat) : List Char → Option Nat
  | [] => if bytes = 0 then some 0 else none
  | c :: cs =>
    if bytes = 0 then some 0
    else if c.utf8Size ≤ bytes then (charsWithin? (bytes - c.utf8Size) cs).map (· + 1)
    else none

theorem charsWithin?_byteSize (cs ds : List Char) :
    charsWithin? (byteSize cs) (cs ++ ds) = some cs.length := by
  induction cs with
  | nil => cases ds <;> simp [charsWithin?]
  | cons c cs ih =>
    have h : 0 < c.utf8Size := c.utf8Size_pos
    have hne : ¬(c.utf8Size + byteSize cs = 0) := by omega
    simp only [List.cons_append, byteSize_cons, charsWithin?, hne, if_false, Nat.le_add_right,
      if_true, Nat.add_sub_cancel_left, ih, Option.map_some, List.length_cons]

/-- Whether `needle` occurs somewhere in a text. -/
def occursIn (needle : List Char) : List Char → Bool
  | [] => needle.isEmpty
  | c :: cs => needle.isPrefixOf (c :: cs) || occursIn needle cs

theorem occursIn_nil (cs : List Char) : occursIn [] cs = true := by
  cases cs <;> simp [occursIn]

/-- The text up to the first character of which `p` holds, and what follows that character. -/
def splitOnce (p : Char → Bool) : List Char → Option (List Char × List Char)
  | [] => none
  | c :: cs => if p c then some ([], cs) else (splitOnce p cs).map fun r => (c :: r.1, r.2)

theorem splitOnce_eq_some {p : Char → Bool} {cs a b : List Char}
    (h : splitOnce p cs = some (a, b)) :
    ∃ c, p c = true ∧ cs = a ++ c :: b ∧ ∀ x ∈ a, p x = false := by
  induction cs generalizing a b with
  | nil => simp [splitOnce] at h
  | cons c cs ih =>
    by_cases hc : p c = true
    · simp only [splitOnce, hc, if_true, Option.some.injEq, Prod.mk.injEq] at h
      obtain ⟨rfl, rfl⟩ := h
      exact ⟨c, hc, rfl, by simp⟩
    · rw [splitOnce, if_neg hc, Option.map_eq_some_iff] at h
      obtain ⟨⟨a', b'⟩, hr, heq⟩ := h
      simp only [Prod.mk.injEq] at heq
      obtain ⟨rfl, rfl⟩ := heq
      obtain ⟨d, hd, rfl, hall⟩ := ih hr
      refine ⟨d, hd, rfl, fun x hx => ?_⟩
      rcases List.mem_cons.1 hx with rfl | hx
      · simpa using hc
      · exact hall x hx

/-- The pieces between the characters of which `p` holds; a text without any is one piece. -/
def splitAll (p : Char → Bool) : List Char → List (List Char)
  | [] => [[]]
  | c :: cs =>
    if p c then [] :: splitAll p cs
    else match splitAll p cs with
      | [] => [[c]]
      | piece :: pieces => (c :: piece) :: pieces

/-- Puts `fill` in front of `cs` up to `width` characters. -/
def padLeft (width : Nat) (fill : Char) (cs : List Char) : List Char :=
  List.replicate (width - cs.length) fill ++ cs

/-- Puts `fill` behind `cs` up to `width` characters. -/
def padRight (width : Nat) (fill : Char) (cs : List Char) : List Char :=
  cs ++ List.replicate (width - cs.length) fill

def joinWith (sep : String) (parts : List String) : String := sep.intercalate parts

/-- The digits of `n`, with zeros in front up to `width`. -/
def padDigits (width n : Nat) : String :=
  String.ofList (padLeft width '0' (Nat.toDigits 10 n))

end StreamPolicy.Text
