/-!
# Blanks

`isBlank` holds of the characters with the Unicode property White_Space, and `trim` takes them away
at both ends of a text: `exists_trim` and `trim_append` say so.
-/

namespace StreamPolicy.Text

def isBlank (c : Char) : Bool :=
  (9 ≤ c.toNat && c.toNat ≤ 13) || c == ' ' || c.toNat == 0x85 || c.toNat == 0xA0 ||
    c.toNat == 0x1680 || (0x2000 ≤ c.toNat && c.toNat ≤ 0x200A) || c.toNat == 0x2028 ||
    c.toNat == 0x2029 || c.toNat == 0x202F || c.toNat == 0x205F || c.toNat == 0x3000

def trimStart (cs : List Char) : List Char := cs.dropWhile isBlank

def trimEnd (cs : List Char) : List Char := (cs.reverse.dropWhile isBlank).reverse

def trim (cs : List Char) : List Char := trimEnd (trimStart cs)

theorem dropWhile_isBlank {cs : List Char} (h : cs.head?.any isBlank = false) :
    cs.dropWhile isBlank = cs := by
  cases cs with
  | nil => rfl
  | cons c cs => exact List.dropWhile_cons_of_neg (by simpa using h)

/-- What `trim` takes away are blanks on both sides. -/
theorem exists_trim (cs : List Char) :
    ∃ before after, cs = before ++ trim cs ++ after ∧
      ∀ c ∈ before ++ after, isBlank c = true := by
  have hstart := List.takeWhile_append_dropWhile (p := isBlank) (l := cs)
  have hend := List.takeWhile_append_dropWhile (p := isBlank) (l := (trimStart cs).reverse)
  refine ⟨cs.takeWhile isBlank, ((trimStart cs).reverse.takeWhile isBlank).reverse, ?_, ?_⟩
  · rw [trim, trimEnd, List.append_assoc, ← List.reverse_append, hend, List.reverse_reverse]
    exact hstart.symm
  · intro c hc
    rw [List.mem_append, List.mem_reverse] at hc
    rcases hc with hc | hc <;> exact List.all_eq_true.1 List.all_takeWhile c hc

/-- Blanks around `cs`, which has none at its ends, are what `trim` takes away. -/
theorem trim_append {before cs after : List Char} (hne : cs ≠ [])
    (hfirst : cs.head?.any isBlank = false) (hlast : cs.getLast?.any isBlank = false)
    (h : ∀ c ∈ before ++ after, isBlank c = true) : trim (before ++ cs ++ after) = cs := by
  have hstart : (cs ++ after).head?.any isBlank = false := by
    cases cs with
    | nil => exact absurd rfl hne
    | cons c cs => exact hfirst
  have hbefore : ∀ c ∈ before, isBlank c = true := fun c hc => h c (List.mem_append_left _ hc)
  have hafter : ∀ c ∈ after.reverse, isBlank c = true := fun c hc =>
    h c (List.mem_append_right _ (List.mem_reverse.1 hc))
  rw [← List.head?_reverse] at hlast
  rw [trim, trimStart, List.append_assoc, List.dropWhile_append_of_pos hbefore,
    dropWhile_isBlank hstart, trimEnd, List.reverse_append, List.dropWhile_append_of_pos hafter,
    dropWhile_isBlank hlast, List.reverse_reverse]

def isBlankText (cs : List Char) : Bool := cs.all isBlank

/-- The function `trim` on strings. -/
def trimmed (s : String) : String := String.ofList (trim s.toList)

end StreamPolicy.Text
