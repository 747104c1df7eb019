import StreamPolicy.Proofs.Data.Digits
import StreamPolicy.Time.Text

/-!
# Timestamps are read as they are written

Each part of a timestamp is written in digits with a mark behind them, and reading stops at that
mark. So `Time.parse?` reads back every point in time, those before the year 0 and beyond 9999 too.
-/

namespace StreamPolicy

open Text (padDigits)

/-! ## Blanks -/

namespace Text

variable {c : Char} {cs : List Char}

theorem isBlank_of_isDigit (h : c.isDigit = true) : isBlank c = false := by
  have hrange : 48 ≤ c.toNat ∧ c.toNat ≤ 57 := by
    simpa [Char.isDigit, UInt32.le_iff_toNat_le] using h
  have hspace : c ≠ ' ' := by
    rintro rfl
    exact absurd hrange.1 (by decide)
  simp only [isBlank, Bool.or_eq_false_iff, Bool.and_eq_false_iff, decide_eq_false_iff_not,
    beq_eq_false_iff_ne]
  refine ⟨⟨⟨⟨⟨⟨⟨⟨⟨⟨?_, hspace⟩, ?_⟩, ?_⟩, ?_⟩, ?_⟩, ?_⟩, ?_⟩, ?_⟩, ?_⟩, ?_⟩ <;> omega

theorem trimStart_cons (h : isBlank c = false) : trimStart (c :: cs) = c :: cs := by
  rw [trimStart, List.dropWhile_cons, h]
  rfl

end Text

/-! ## Digits with a mark behind them -/

namespace Time

variable {ds rest : List Char} {most width n : Nat}

theorem takeWhile_digits (hdigits : ∀ c ∈ ds, c.isDigit = true)
    (hrest : rest.head?.any Char.isDigit = false) :
    (ds ++ rest).takeWhile Char.isDigit = ds := by
  rw [List.takeWhile_append_of_pos hdigits]
  cases rest with
  | nil => rw [List.takeWhile_nil, List.append_nil]
  | cons c rest =>
    have hc : c.isDigit = false := by simpa using hrest
    rw [List.takeWhile_cons, hc]
    exact List.append_nil ds

theorem digits?_append (hne : ds ≠ []) (hdigits : ∀ c ∈ ds, c.isDigit = true)
    (hlen : ds.length ≤ most) (hrest : rest.head?.any Char.isDigit = false) :
    digits? most (ds ++ rest) = some (Text.ofDigits 10 ds, rest) := by
  have htrim : Text.trimStart (ds ++ rest) = ds ++ rest := by
    obtain ⟨c, ds, rfl⟩ := List.exists_cons_of_ne_nil hne
    exact Text.trimStart_cons (Text.isBlank_of_isDigit (hdigits c List.mem_cons_self))
  simp only [digits?, htrim, takeWhile_digits hdigits hrest, List.take_of_length_le hlen,
    List.isEmpty_eq_false_iff.2 hne, List.drop_left, Bool.false_eq_true, if_false]

theorem digits?_padDigits (rest : List Char) (hwidth : 0 < width) (h : n < 10 ^ width)
    (hrest : rest.head?.any Char.isDigit = false) :
    digits? width ((padDigits width n).toList ++ rest) = some (n, rest) := by
  rw [digits?_append Text.padDigits_ne_nil (fun c => Text.isDigit_of_mem_padDigits)
    (Nat.le_of_eq (Text.length_padDigits hwidth h)) hrest, Text.ofDigits_padDigits]

theorem sign?_cons {c : Char} (h : Text.isBlank c = false) : sign? c (c :: rest) = some rest := by
  rw [sign?, Text.trimStart_cons h]
  exact if_pos rfl

/-! ## Dates -/

theorem head?_digits (hne : ds ≠ []) (hdigits : ∀ c ∈ ds, c.isDigit = true) :
    (ds ++ rest).head?.any Char.isDigit = true := by
  obtain ⟨c, ds, rfl⟩ := List.exists_cons_of_ne_nil hne
  exact hdigits c List.mem_cons_self

/-- A `year` with a sign has any number of digits. -/
theorem year?_signed (year : Int) (hrest : rest.head?.any Char.isDigit = false) :
    year? (((if year < 0 then "-" else "+") ++ padDigits 4 year.natAbs).toList ++ rest) =
      some (year, rest) := by
  have hminus : ∀ cs, year? ('-' :: cs) = if cs.head?.any Char.isDigit then
      (digits? cs.length cs).map fun r => (-(r.1 : Int), r.2) else none := fun _ => rfl
  have hplus : ∀ cs, year? ('+' :: cs) = if cs.head?.any Char.isDigit then
      (digits? cs.length cs).map fun r => ((r.1 : Int), r.2) else none := fun _ => rfl
  have hne : (padDigits 4 year.natAbs).toList ≠ [] := Text.padDigits_ne_nil
  have hdigits : ∀ c ∈ (padDigits 4 year.natAbs).toList, c.isDigit = true :=
    fun c => Text.isDigit_of_mem_padDigits
  have hread : digits? ((padDigits 4 year.natAbs).toList ++ rest).length
      ((padDigits 4 year.natAbs).toList ++ rest) = some (year.natAbs, rest) := by
    rw [digits?_append hne hdigits (by rw [List.length_append]; omega) hrest,
      Text.ofDigits_padDigits]
  by_cases hneg : year < 0
  · have hsign : (("-" ++ padDigits 4 year.natAbs).toList ++ rest) =
        '-' :: ((padDigits 4 year.natAbs).toList ++ rest) := by simp
    rw [if_pos hneg, hsign, hminus, if_pos (head?_digits hne hdigits), hread, Option.map_some,
      Int.ofNat_natAbs_of_nonpos (by omega), Int.neg_neg]
  · have hsign : (("+" ++ padDigits 4 year.natAbs).toList ++ rest) =
        '+' :: ((padDigits 4 year.natAbs).toList ++ rest) := by simp
    rw [if_neg hneg, hsign, hplus, if_pos (head?_digits hne hdigits), hread, Option.map_some,
      Int.natAbs_of_nonneg (by omega)]

theorem year?_padDigits (hn : n < 10 ^ 4) (hrest : rest.head?.any Char.isDigit = false) :
    year? ((padDigits 4 n).toList ++ rest) = some ((n : Int), rest) := by
  have hread := digits?_padDigits rest (by omega) hn hrest
  have hne : (padDigits 4 n).toList ≠ [] := Text.padDigits_ne_nil
  obtain ⟨c, cs, hcs⟩ := List.exists_cons_of_ne_nil hne
  have hmem : c ∈ (padDigits 4 n).toList := hcs ▸ List.mem_cons_self
  have hc : c.isDigit = true := Text.isDigit_of_mem_padDigits hmem
  rw [hcs, List.cons_append] at hread ⊢
  rw [year?, Text.trimStart_cons (Text.isBlank_of_isDigit hc)]
  split
  · rename_i heq
    cases (List.cons.inj heq).1
    cases hc
  · rename_i heq
    cases (List.cons.inj heq).1
    cases hc
  · rw [hread, Option.map_some]

end Time

theorem daysInMonth_le (year : Int) (month : Nat) : daysInMonth year month ≤ 31 := by
  unfold daysInMonth
  split
  · split <;> omega
  · split
    · omega
    · split <;> omega

theorem month_le_of_daysInMonth {year : Int} {month : Nat} (h : 0 < daysInMonth year month) :
    month ≤ 12 := by
  unfold daysInMonth at h
  simp only [Bool.or_eq_true, beq_iff_eq, Bool.and_eq_true, decide_eq_true_eq] at h
  split at h
  · omega
  · split at h
    · omega
    · split at h <;> omega

namespace Time

variable {rest : List Char}

theorem year?_text {year : Int} (rest : List Char)
    (hrest : rest.head?.any Char.isDigit = false) :
    year? ((if 0 ≤ year && year ≤ 9999 then padDigits 4 year.toNat
      else (if year < 0 then "-" else "+") ++ padDigits 4 year.natAbs).toList ++ rest) =
      some (year, rest) := by
  simp only [Bool.and_eq_true, decide_eq_true_eq]
  split
  · rename_i hfour
    rw [year?_padDigits (by omega) hrest, Int.toNat_of_nonneg hfour.1]
  · exact year?_signed year hrest

theorem date?_text {d : Date} (rest : List Char) (h : d.isValid = true)
    (hrest : rest.head?.any Char.isDigit = false) :
    date? (d.text.toList ++ rest) = some (d, rest) := by
  simp only [Date.isValid, Bool.and_eq_true, decide_eq_true_eq] at h
  have hdays := daysInMonth_le d.year d.month
  have hmonth : d.month ≤ 12 :=
    month_le_of_daysInMonth (show 0 < daysInMonth d.year d.month by omega)
  have htext : d.text.toList ++ rest =
      (if 0 ≤ d.year && d.year ≤ 9999 then padDigits 4 d.year.toNat
        else (if d.year < 0 then "-" else "+") ++ padDigits 4 d.year.natAbs).toList ++
      '-' :: ((padDigits 2 d.month).toList ++ '-' :: ((padDigits 2 d.day).toList ++ rest)) := by
    have hdash : "-".toList = ['-'] := rfl
    simp only [Date.text, toString, String.toList_append, List.append_assoc, hdash,
      List.cons_append, List.nil_append]
  rw [htext]
  simp only [date?, year?_text ('-' :: _) rfl, sign?_cons (c := '-') rfl,
    digits?_padDigits (n := d.month) ('-' :: _) Nat.two_pos (by omega) rfl,
    digits?_padDigits (n := d.day) rest Nat.two_pos (by omega) hrest, Option.bind_eq_bind,
    Option.bind_some]
  rfl

/-! ## Times of day -/

/-- Behind the point stand the first `width` digits of the nanoseconds. -/
theorem nanos?_point {nanos : Nat} (width : Nat) (hwidth : 0 < width) (hnine : width ≤ 9)
    (h : nanos < 10 ^ 9) (hzeros : nanos % 10 ^ (9 - width) = 0)
    (hrest : rest.head?.any Char.isDigit = false) :
    nanos? ('.' :: ((padDigits width (nanos / 10 ^ (9 - width))).toList ++ rest)) =
      some (nanos, rest) := by
  have hlt : nanos / 10 ^ (9 - width) < 10 ^ width := by
    refine Nat.div_lt_of_lt_mul ?_
    rwa [← Nat.pow_add, Nat.sub_add_cancel hnine]
  have hlen := Text.length_padDigits hwidth hlt
  have hdigits : ∀ c ∈ (padDigits width (nanos / 10 ^ (9 - width))).toList, c.isDigit = true :=
    fun c => Text.isDigit_of_mem_padDigits
  have hdrop : (((padDigits width (nanos / 10 ^ (9 - width))).toList ++ rest).dropWhile
      Char.isDigit) = rest := by
    rw [List.dropWhile_append_of_pos hdigits]
    cases rest with
    | nil => rfl
    | cons c rest =>
      have hc : c.isDigit = false := by simpa using hrest
      rw [List.dropWhile_cons, hc]
      rfl
  have hvalue : nanos / 10 ^ (9 - width) * 10 ^ (9 - width) = nanos :=
    Nat.div_mul_cancel (Nat.dvd_of_mod_eq_zero hzeros)
  simp only [nanos?, takeWhile_digits hdigits hrest, hdrop, hlen, hvalue,
    List.take_of_length_le (hlen.trans_le hnine), Text.ofDigits_padRight, Text.ofDigits_padDigits,
    List.isEmpty_eq_false_iff.2 Text.padDigits_ne_nil, Bool.false_eq_true, if_false]

theorem nanos?_fraction {c : Clock} (h : c.nanos < 10 ^ 9)
    (hrest : rest.head?.any Char.isDigit = false) (hpoint : rest.head? ≠ some '.') :
    nanos? (c.fraction.toList ++ rest) = some (c.nanos, rest) := by
  unfold Clock.fraction
  simp only [beq_iff_eq]
  split
  · rename_i hzero
    rw [hzero]
    show nanos? rest = _
    unfold nanos?
    split
    · exact absurd rfl hpoint
    · rfl
  · split
    · rename_i hmilli
      rw [String.toList_append]
      exact nanos?_point 3 (by omega) (by omega) h hmilli hrest
    · split
      · rename_i hmicro
        rw [String.toList_append]
        exact nanos?_point 6 (by omega) (by omega) h hmicro hrest
      · rw [String.toList_append]
        have hnine := nanos?_point 9 (by omega) (by omega) h (Nat.mod_one _) hrest
        rwa [Nat.sub_self, Nat.pow_zero, Nat.div_one] at hnine

theorem clock?_text {c : Clock} (rest : List Char) (h : c.isValid = true)
    (hrest : rest.head?.any Char.isDigit = false) (hpoint : rest.head? ≠ some '.') :
    clock? (c.text.toList ++ rest) = some (c, rest) := by
  simp only [Clock.isValid, Bool.and_eq_true, decide_eq_true_eq] at h
  have hfraction : (c.fraction.toList ++ rest).head?.any Char.isDigit = false := by
    have hpoint : ∀ s : String, ("." ++ s).toList = '.' :: s.toList := fun s => by simp
    unfold Clock.fraction
    split
    · exact hrest
    · split
      · rw [hpoint]; rfl
      · split <;> (rw [hpoint]; rfl)
  have htext : c.text.toList ++ rest = (padDigits 2 c.hour).toList ++
      ':' :: ((padDigits 2 c.minute).toList ++ ':' :: ((padDigits 2 c.second).toList ++
        (c.fraction.toList ++ rest))) := by
    have hcolon : ":".toList = [':'] := rfl
    simp only [Clock.text, toString, String.toList_append, List.append_assoc, hcolon,
      List.cons_append, List.nil_append]
  rw [htext]
  simp only [clock?, sign?_cons (c := ':') rfl,
    digits?_padDigits (n := c.hour) (':' :: _) Nat.two_pos (by omega) rfl,
    digits?_padDigits (n := c.minute) (':' :: _) Nat.two_pos (by omega) rfl,
    digits?_padDigits (n := c.second) _ Nat.two_pos (by omega) hfraction,
    nanos?_fraction h.2 hrest hpoint, Option.bind_eq_bind, Option.bind_some]
  rfl

/-! ## Points in time -/

theorem parse?_text (t : Time) : parse? t.text = some t := by
  obtain ⟨date, clock, hvalid⟩ := t
  have hboth := hvalid
  rw [Bool.and_eq_true] at hboth
  have htext : (Time.text ⟨date, clock, hvalid⟩).toList =
      date.text.toList ++ 'T' :: (clock.text.toList ++ ['Z']) := by
    have hmark : "T".toList = ['T'] := rfl
    have hzulu : "Z".toList = ['Z'] := rfl
    simp only [text, toString, String.toList_append, List.append_assoc, hmark, hzulu,
      List.cons_append, List.nil_append]
  have hzone : zone? (Text.trimStart ['Z']) = some (0, []) := rfl
  have hlocal : ofLocal? date clock 0 = some ⟨date, clock, hvalid⟩ := by
    simp only [ofLocal?, hvalid, if_true, make?, dif_pos]
  simp only [parse?, htext, date?_text ('T' :: _) hboth.1 rfl,
    clock?_text ['Z'] hboth.2 rfl (by decide), hzone, Option.bind_eq_bind,
    Option.bind_some]
  exact hlocal

end Time

end StreamPolicy
