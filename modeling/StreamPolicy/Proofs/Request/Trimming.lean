import StreamPolicy.Proofs.Request.Building

/-!
# Headers without blanks around them

A request keeps headers under trimmed names in small letters (`Tidy`), and none of its values starts
with a blank. A value ends with one just when several values were joined, the last of which was
blank (`EndsEmpty`). The static look-up of a header shows that blank, and the dynamic one does not.
-/

namespace StreamPolicy

/-! ## Blanks at the ends of texts -/

namespace Text

def StartsBlank (s : String) : Prop := s.toList.head?.any isBlank = true

def EndsBlank (s : String) : Prop := s.toList.getLast?.any isBlank = true

instance (s : String) : Decidable (StartsBlank s) := inferInstanceAs (Decidable (_ = true))

instance (s : String) : Decidable (EndsBlank s) := inferInstanceAs (Decidable (_ = true))

variable {cs : List Char} {s : String}

theorem head?_dropWhile_isBlank (cs : List Char) :
    (cs.dropWhile isBlank).head?.any isBlank = false := by
  have h := List.head?_dropWhile_not isBlank cs
  cases hc : (cs.dropWhile isBlank).head? with
  | none => rfl
  | some c => simpa [hc] using h

theorem getLast?_trimEnd (cs : List Char) : (trimEnd cs).getLast?.any isBlank = false := by
  rw [trimEnd, List.getLast?_reverse]
  exact head?_dropWhile_isBlank cs.reverse

/-- Trimming at the end leaves the first character alone, if any is left. -/
theorem head?_trimEnd (h : cs.head?.any isBlank = false) :
    (trimEnd cs).head?.any isBlank = false := by
  obtain ⟨front, hfront⟩ := List.dropWhile_suffix isBlank (l := cs.reverse)
  have hsplit : cs = trimEnd cs ++ front.reverse := by
    rw [trimEnd, ← List.reverse_append, hfront, List.reverse_reverse]
  cases htrim : trimEnd cs with
  | nil => rfl
  | cons c ds =>
    rw [hsplit, htrim] at h
    exact h

theorem not_startsBlank_trimmed (s : String) : ¬StartsBlank (trimmed s) := by
  rw [StartsBlank, trimmed, String.toList_ofList, Bool.not_eq_true]
  exact head?_trimEnd (head?_dropWhile_isBlank s.toList)

theorem not_endsBlank_trimmed (s : String) : ¬EndsBlank (trimmed s) := by
  rw [EndsBlank, trimmed, String.toList_ofList, Bool.not_eq_true]
  exact getLast?_trimEnd _

/-- Trimming changes nothing about a text that has no blank at either end. -/
theorem trimmed_eq_self_iff : trimmed s = s ↔ ¬StartsBlank s ∧ ¬EndsBlank s := by
  constructor
  · intro h
    rw [← h]
    exact ⟨not_startsBlank_trimmed s, not_endsBlank_trimmed s⟩
  · rintro ⟨hstart, hend⟩
    rw [StartsBlank, Bool.not_eq_true] at hstart
    rw [EndsBlank, Bool.not_eq_true, ← List.head?_reverse] at hend
    apply String.toList_inj.1
    rw [trimmed, String.toList_ofList, trim, trimStart, dropWhile_isBlank hstart, trimEnd,
      dropWhile_isBlank hend, List.reverse_reverse]

theorem trimmed_append_space (hne : s ≠ "") (h : trimmed s = s) : trimmed (s ++ " ") = s := by
  obtain ⟨hstart, hend⟩ := trimmed_eq_self_iff.1 h
  rw [StartsBlank, Bool.not_eq_true] at hstart
  rw [EndsBlank, Bool.not_eq_true, ← List.head?_reverse] at hend
  have hstart' : (s.toList ++ [' ']).head?.any isBlank = false := by
    cases hs : s.toList with
    | nil => exact absurd (String.toList_eq_nil_iff.1 hs) hne
    | cons c cs =>
      rw [hs] at hstart
      exact hstart
  have hspace : " ".toList = [' '] := rfl
  apply String.toList_inj.1
  rw [trimmed, String.toList_ofList, trim, trimStart, String.toList_append, hspace,
    dropWhile_isBlank hstart', trimEnd, List.reverse_append, List.reverse_singleton,
    List.singleton_append, List.dropWhile_cons_of_pos rfl, dropWhile_isBlank hend,
    List.reverse_reverse]

/-! ## Small letters -/

/-- A character between `!` and `~` is no blank. -/
theorem isBlank_of_printable {c : Char} (hlow : 33 ≤ c.toNat) (hhigh : c.toNat ≤ 126) :
    isBlank c = false := by
  have hspace : c ≠ ' ' := by
    rintro rfl
    exact absurd hlow (by decide)
  simp only [isBlank, Bool.or_eq_false_iff, Bool.and_eq_false_iff, decide_eq_false_iff_not,
    beq_eq_false_iff_ne]
  refine ⟨⟨⟨⟨⟨⟨⟨⟨⟨⟨?_, hspace⟩, ?_⟩, ?_⟩, ?_⟩, ?_⟩, ?_⟩, ?_⟩, ?_⟩, ?_⟩, ?_⟩ <;> omega

/-- A capital becomes a small letter, and every other character stays as it is. -/
theorem toLower_cases (c : Char) :
    (65 ≤ c.toNat ∧ c.toNat ≤ 90 ∧ c.toLower.toNat = c.toNat + 32) ∨
      (¬(65 ≤ c.toNat ∧ c.toNat ≤ 90) ∧ c.toLower = c) := by
  by_cases h : 65 ≤ c.toNat ∧ c.toNat ≤ 90
  · have hcapital : c.val ≥ 'A'.val ∧ c.val ≤ 'Z'.val := h
    have hlower : c.toLower = ⟨c.val + 32, _⟩ := dif_pos hcapital
    refine .inl ⟨h.1, h.2, ?_⟩
    rw [hlower]
    show (c.val + 32).toNat = c.toNat + 32
    rw [UInt32.toNat_add]
    have hhigh := h.2
    exact Nat.mod_eq_of_lt (show c.toNat + 32 < 2 ^ 32 by omega)
  · have hother : ¬(c.val ≥ 'A'.val ∧ c.val ≤ 'Z'.val) := h
    exact .inr ⟨h, dif_neg hother⟩

theorem toLower_toLower (c : Char) : c.toLower.toLower = c.toLower := by
  rcases toLower_cases c with ⟨hlow, -, hlower⟩ | ⟨-, hsame⟩
  · rcases toLower_cases c.toLower with ⟨-, hhigh, -⟩ | ⟨-, hsame⟩
    · omega
    · exact hsame
  · rw [hsame, hsame]

theorem isBlank_toLower (c : Char) : isBlank c.toLower = isBlank c := by
  rcases toLower_cases c with ⟨hlow, hhigh, hlower⟩ | ⟨-, hsame⟩
  · rw [isBlank_of_printable (by omega) (by omega), isBlank_of_printable (by omega) (by omega)]
  · rw [hsame]

theorem asciiLower_asciiLower (s : String) : asciiLower (asciiLower s) = asciiLower s := by
  have hlower : Char.toLower ∘ Char.toLower = Char.toLower := funext toLower_toLower
  rw [asciiLower, asciiLower, String.toList_ofList, List.map_map, hlower]

theorem startsBlank_asciiLower (s : String) : StartsBlank (asciiLower s) ↔ StartsBlank s := by
  simp only [StartsBlank, asciiLower, String.toList_ofList, List.head?_map]
  cases s.toList.head? <;> simp [isBlank_toLower]

theorem endsBlank_asciiLower (s : String) : EndsBlank (asciiLower s) ↔ EndsBlank s := by
  simp only [EndsBlank, asciiLower, String.toList_ofList, List.getLast?_map]
  cases s.toList.getLast? <;> simp [isBlank_toLower]

/-! ## Texts behind one another -/

theorem startsBlank_append {t : String} (hne : s ≠ "") : StartsBlank (s ++ t) ↔ StartsBlank s := by
  unfold StartsBlank
  rw [String.toList_append]
  cases hs : s.toList with
  | nil => exact absurd (String.toList_eq_nil_iff.1 hs) hne
  | cons c cs => rfl

theorem endsBlank_append {t : String} (hne : t ≠ "") : EndsBlank (s ++ t) ↔ EndsBlank t := by
  unfold EndsBlank
  rw [String.toList_append, List.getLast?_append]
  cases ht : t.toList.getLast? with
  | none => exact absurd (String.toList_eq_nil_iff.1 (List.getLast?_eq_none_iff.1 ht)) hne
  | some c => rfl

end Text

/-! ## Joined values -/

namespace Headers

variable {vs us : List String} {v w : String}

/-- There are several values, the last of which is empty. -/
def EndsEmpty (vs : List String) : Prop := ∃ us, us ≠ [] ∧ vs = us ++ [""]

theorem endsEmpty_concat : EndsEmpty (us ++ [v]) ↔ us ≠ [] ∧ v = "" := by
  constructor
  · rintro ⟨us', hne, heq⟩
    obtain ⟨rfl, hv⟩ := List.append_inj' heq rfl
    exact ⟨hne, List.singleton_inj.1 hv⟩
  · rintro ⟨hne, rfl⟩
    exact ⟨us, hne, rfl⟩

theorem joined?_of_ne_nil (hne : vs ≠ []) : joined? vs = some (", ".intercalate vs) := by
  cases vs with
  | nil => exact absurd rfl hne
  | cons v vs => rfl

/-- Nothing is put before the first value, and a comma before an empty one. -/
theorem not_startsBlank_of_joined? (hvs : ∀ v ∈ vs, ¬Text.StartsBlank v)
    (h : joined? vs = some w) : ¬Text.StartsBlank w := by
  cases vs with
  | nil => cases h
  | cons v vs =>
    obtain rfl := Option.some.inj h
    have hv := hvs v List.mem_cons_self
    by_cases hnil : vs = []
    · rwa [hnil, String.intercalate_singleton]
    · rw [String.intercalate_cons_of_ne_nil hnil, String.append_assoc]
      by_cases hempty : v = ""
      · rw [hempty, String.empty_append, Text.startsBlank_append (by decide)]
        decide
      · rwa [Text.startsBlank_append hempty]

/-- A blank ends the joined values if it is the one behind the last comma. -/
theorem endsBlank_iff_of_joined? (hvs : ∀ v ∈ vs, ¬Text.EndsBlank v) (h : joined? vs = some w) :
    Text.EndsBlank w ↔ EndsEmpty vs := by
  rcases List.eq_nil_or_concat vs with rfl | ⟨us, v, rfl⟩
  · cases h
  · rw [List.concat_eq_append] at *
    rw [joined?_of_ne_nil (List.concat_ne_nil v us)] at h
    obtain rfl := Option.some.inj h
    have hv := hvs v List.mem_concat_self
    rw [endsEmpty_concat]
    by_cases hnil : us = []
    · simp [hnil, hv]
    · rw [String.intercalate_append_of_ne_nil hnil (List.cons_ne_nil v []),
        String.intercalate_singleton]
      by_cases hempty : v = ""
      · rw [hempty, String.append_empty, Text.endsBlank_append (by decide)]
        simpa [hnil] using (by decide : Text.EndsBlank ", ")
      · simp [Text.endsBlank_append hempty, hempty, hv]

/-- Behind the last comma there is one space, which trimming takes away. -/
theorem trimmed_of_endsEmpty (hvs : ∀ v ∈ vs, ¬Text.StartsBlank v) (hempty : EndsEmpty vs)
    (h : joined? vs = some w) : w = Text.trimmed w ++ " " := by
  have hstart := not_startsBlank_of_joined? hvs h
  obtain ⟨us, hne, rfl⟩ := hempty
  rw [joined?_of_ne_nil (List.concat_ne_nil "" us)] at h
  obtain rfl := Option.some.inj h
  have hsplit : ", ".intercalate (us ++ [""]) = ", ".intercalate us ++ "," ++ " " := by
    rw [String.intercalate_append_of_ne_nil hne (List.cons_ne_nil "" []),
      String.intercalate_singleton, String.append_empty, String.append_assoc]
    rfl
  rw [hsplit] at hstart ⊢
  have hfront : ", ".intercalate us ++ "," ≠ "" := by simp
  rw [Text.startsBlank_append hfront] at hstart
  have hend : ¬Text.EndsBlank (", ".intercalate us ++ ",") := by
    rw [Text.endsBlank_append (by decide)]
    decide
  rw [Text.trimmed_append_space hfront (Text.trimmed_eq_self_iff.2 ⟨hstart, hend⟩)]

/-! ## Names -/

theorem names_append (name value : String) (es : List (String × String)) :
    (append name value es).map Prod.fst =
      if name ∈ es.map Prod.fst then es.map Prod.fst else es.map Prod.fst ++ [name] := by
  induction es with
  | nil => rfl
  | cons e es ih =>
    obtain ⟨n, v⟩ := e
    rw [append]
    by_cases hn : n = name
    · simp [hn]
    · rw [if_neg (by simpa using hn), List.map_cons, List.map_cons, ih]
      by_cases hmem : name ∈ es.map Prod.fst
      · rw [if_pos hmem, if_pos (List.mem_cons_of_mem n hmem)]
      · have hmem' : name ∉ n :: es.map Prod.fst := List.not_mem_cons_of_ne_of_not_mem (Ne.symm hn) hmem
        rw [if_neg hmem, if_neg hmem', List.cons_append]

theorem lookup_of_mem {e : String × String} {es : List (String × String)}
    (hnodup : (es.map Prod.fst).Nodup) (he : e ∈ es) : es.lookup e.1 = some e.2 := by
  induction es with
  | nil => cases he
  | cons e' es ih =>
    obtain ⟨hfresh, hnodup⟩ := List.nodup_cons.1 hnodup
    rcases List.mem_cons.1 he with rfl | he
    · exact List.lookup_cons_self
    · have hne : e.1 ≠ e'.1 := fun heq => hfresh (heq ▸ List.mem_map_of_mem he)
      rw [List.lookup_cons, beq_eq_false_iff_ne.2 hne]
      exact ih hnodup he

/-- Every name is trimmed and in small letters, and none is there twice. -/
structure Tidy (hs : Headers) : Prop where
  trimmed : ∀ n ∈ hs.entries.map Prod.fst, Text.trimmed n = n
  lower : ∀ n ∈ hs.entries.map Prod.fst, Text.asciiLower n = n
  nodup : (hs.entries.map Prod.fst).Nodup

theorem trimmed_normalName (name : String) : Text.trimmed (normalName name) = normalName name := by
  rw [Text.trimmed_eq_self_iff, normalName, Text.startsBlank_asciiLower, Text.endsBlank_asciiLower]
  exact ⟨Text.not_startsBlank_trimmed name, Text.not_endsBlank_trimmed name⟩

theorem Tidy.add {hs : Headers} (h : hs.Tidy) (name value : String) : (hs.add name value).Tidy := by
  have hnames := names_append (normalName name) (Text.trimmed value) hs.entries
  by_cases hmem : normalName name ∈ hs.entries.map Prod.fst
  · rw [if_pos hmem] at hnames
    exact ⟨hnames ▸ h.trimmed, hnames ▸ h.lower, hnames ▸ h.nodup⟩
  · rw [if_neg hmem] at hnames
    refine ⟨?_, ?_, ?_⟩ <;> rw [Headers.add, hnames]
    · exact List.forall_mem_append.2
        ⟨h.trimmed, List.forall_mem_singleton.2 (trimmed_normalName name)⟩
    · exact List.forall_mem_append.2
        ⟨h.lower, List.forall_mem_singleton.2 (Text.asciiLower_asciiLower _)⟩
    · exact List.nodup_append.2 ⟨h.nodup, List.pairwise_singleton _ _, fun n hn m hm heq =>
        hmem (List.mem_singleton.1 hm ▸ heq ▸ hn)⟩

theorem Tidy.get?_of_mem {hs : Headers} (h : hs.Tidy) {e : String × String}
    (he : e ∈ hs.entries) : hs.get? e.1 = some e.2 := by
  rw [get?, h.lower e.1 (List.mem_map_of_mem he)]
  exact lookup_of_mem h.nodup he

end Headers

/-! ## Requests -/

namespace Request

theorem tidy_step {q : Request} (h : q.headers.Tidy) (s : Step) : (q.step s).headers.Tidy := by
  cases s with
  | uri text =>
    show (q.setUri text).headers.Tidy
    rwa [(q.setUri_keeps text).2.2]
  | header name value => exact h.add name value
  | _ => exact h

theorem tidy_ofSteps (steps : List Step) : (ofSteps steps).headers.Tidy := by
  induction steps using List.reverseRecOn with
  | nil => exact ⟨List.forall_mem_nil _, List.forall_mem_nil _, List.nodup_nil⟩
  | append_singleton steps s ih =>
    rw [ofSteps_concat]
    exact tidy_step ih s

theorem exists_of_mem_headerValues {steps : List Step} {name v : String}
    (h : v ∈ headerValues steps name) : ∃ value, v = Text.trimmed value := by
  obtain ⟨s, -, hs⟩ := List.mem_filterMap.1 h
  cases s with
  | header n value =>
    rw [Step.headerValue?_header] at hs
    split at hs
    · exact ⟨value, (Option.some.inj hs).symm⟩
    · cases hs
  | _ => cases hs

theorem not_startsBlank_of_mem {steps : List Step} {name : String} :
    ∀ v ∈ headerValues steps name, ¬Text.StartsBlank v := by
  intro v hv
  obtain ⟨value, rfl⟩ := exists_of_mem_headerValues hv
  exact Text.not_startsBlank_trimmed value

theorem not_endsBlank_of_mem {steps : List Step} {name : String} :
    ∀ v ∈ headerValues steps name, ¬Text.EndsBlank v := by
  intro v hv
  obtain ⟨value, rfl⟩ := exists_of_mem_headerValues hv
  exact Text.not_endsBlank_trimmed value

/-- What is stored of a header was joined from the `headerValues` of its name. -/
theorem entry_ofSteps {steps : List Step} {e : String × String}
    (he : e ∈ (ofSteps steps).headers.entries) :
    Text.trimmed e.1 = e.1 ∧ Text.asciiLower e.1 = e.1 ∧ ¬Text.StartsBlank e.2 ∧
      (Text.EndsBlank e.2 ↔ Headers.EndsEmpty (headerValues steps e.1)) := by
  have htidy := tidy_ofSteps steps
  have hmem : e.1 ∈ (ofSteps steps).headers.entries.map Prod.fst := List.mem_map_of_mem he
  have hjoined : Headers.joined? (headerValues steps e.1) = some e.2 := by
    rw [← header_ofSteps]
    exact htidy.get?_of_mem he
  exact ⟨htidy.trimmed _ hmem, htidy.lower _ hmem,
    Headers.not_startsBlank_of_joined? not_startsBlank_of_mem hjoined,
    Headers.endsBlank_iff_of_joined? not_endsBlank_of_mem hjoined⟩

/-- Trimming a header once more changes it just when the last of several values was blank. -/
theorem header_eq_trimmed_iff {steps : List Step} {name v : String}
    (h : (ofSteps steps).header name = some v) :
    v = Text.trimmed v ↔ ¬Headers.EndsEmpty (headerValues steps name) := by
  rw [header_ofSteps] at h
  rw [eq_comm, Text.trimmed_eq_self_iff,
    Headers.endsBlank_iff_of_joined? not_endsBlank_of_mem h]
  exact and_iff_right (Headers.not_startsBlank_of_joined? not_startsBlank_of_mem h)

/-- Headers have trimmed names in small letters and values that do not start with a blank. A value
ends with a blank, and the two look-ups of its header differ by that blank, just when it was joined
from several values the last of which was blank. -/
theorem ofSteps_headers (steps : List Step) :
    let q := ofSteps steps
    (∀ e ∈ q.headers.entries, Text.trimmed e.1 = e.1 ∧ Text.asciiLower e.1 = e.1 ∧
      ¬Text.StartsBlank e.2 ∧
      (Text.EndsBlank e.2 ↔ Headers.EndsEmpty (headerValues steps e.1))) ∧
    ∀ name, (q.header name = none ↔ q.dynamicValue .headers name = none) ∧
      (q.header name = q.dynamicValue .headers name ↔
        ¬Headers.EndsEmpty (headerValues steps name)) ∧
      (Headers.EndsEmpty (headerValues steps name) →
        ∃ v, q.dynamicValue .headers name = some v ∧ q.header name = some (v ++ " ")) := by
  intro q
  refine ⟨fun e => entry_ofSteps, fun name => ?_⟩
  have hdynamic : q.dynamicValue .headers name = (q.header name).map Text.trimmed := rfl
  rw [hdynamic]
  cases hname : q.header name with
  | none =>
    -- No value was given, so that none can be empty.
    have hnil : headerValues steps name = [] := by
      rwa [header_ofSteps, Headers.joined?_eq_none_iff] at hname
    have hnot : ¬Headers.EndsEmpty (headerValues steps name) := by
      rintro ⟨us, -, heq⟩
      simp [hnil] at heq
    simp [hnot]
  | some v =>
    refine ⟨by simp, ?_, fun hempty => ⟨Text.trimmed v, rfl, ?_⟩⟩
    · rw [Option.map_some, Option.some.injEq]
      exact header_eq_trimmed_iff hname
    · rw [header_ofSteps] at hname
      exact congrArg some (Headers.trimmed_of_endsEmpty not_startsBlank_of_mem hempty hname)

/-- A header that is repeated without a value keeps the space behind the comma, which only the
dynamic look-up leaves out. -/
theorem not_trimmed_repeated :
    let q := ofSteps [.header "Accept" "video/mp2t", .header "accept" " "]
    ¬(∀ e ∈ q.headers.entries, Text.trimmed e.2 = e.2) ∧
      q.header "Accept" ≠ q.dynamicValue .headers "Accept" := by
  decide

end Request

end StreamPolicy
