import StreamPolicy.Expression.Parser
import StreamPolicy.Expression.Printer
import StreamPolicy.Proofs.Expression.Lexing

/-!
# Literals read again

A text is written (`quotedText`) as a literal that is read as one token, up to the closing quote it
was given and no further, whatever stands behind it. What is between the quotes of a token can
always be cut out by its bytes (`unquote?`), as a quote is a single one, and stands for a text that
is written and read again alike.
-/

namespace StreamPolicy

/-! ## Parts of texts -/

namespace Text

/-- The part of `cs` between two byte offsets. There is none if one of them is inside a character or
behind the text, or if they are in the wrong order. -/
def slice? (start stop : Nat) (cs : List Char) : Option (List Char) :=
  if start ≤ stop then do
    let passed ← charsWithin? start cs
    let taken ← charsWithin? stop cs
    return (cs.take taken).drop passed
  else none

theorem slice?_append (before inside behind : List Char) :
    slice? (byteSize before) (byteSize (before ++ inside)) (before ++ inside ++ behind) =
      some inside := by
  have hle : byteSize before ≤ byteSize (before ++ inside) := by simp
  have hpassed := charsWithin?_byteSize before (inside ++ behind)
  have htaken := charsWithin?_byteSize (before ++ inside) behind
  rw [← List.append_assoc] at hpassed
  rw [slice?, if_pos hle, hpassed, htaken]
  show some (((before ++ inside ++ behind).take (before ++ inside).length).drop before.length) = _
  rw [List.take_left, List.drop_left]

end Text

/-! ## Quotes -/

namespace Quoted

/-- The text of a quoted token, of which the first and the last byte are cut off and the escapes
resolved. -/
def unquote? (raw : List Char) : Option (List Char) :=
  (Text.slice? 1 (Text.byteSize raw - 1) raw).map resolve

theorem unquote?_text {quote : Char} (hquote : quote.utf8Size = 1) (inside : List Char) :
    unquote? (Token.quoted quote inside).text = some (resolve inside) := by
  have hstart : Text.byteSize [quote] = 1 := hquote
  have hstop : Text.byteSize (Token.quoted quote inside).text - 1 =
      Text.byteSize ([quote] ++ inside) := by
    simp [Token.text, hquote]
    omega
  have hslice := Text.slice?_append [quote] inside [quote]
  rw [hstart] at hslice
  have htext : (Token.quoted quote inside).text = [quote] ++ inside ++ [quote] := rfl
  rw [unquote?, hstop, htext, hslice, Option.map_some]

end Quoted

namespace Token

theorem quote_of_dynamic? {cs inside rest : List Char} {quote : Char} :
    dynamic? cs ≠ some (quoted quote inside, rest) := by
  unfold dynamic?
  split
  · split
    · split <;> simp
    · simp
  · simp

theorem quote_of_next? {cs inside rest : List Char} {quote : Char}
    (h : next? cs = some (quoted quote inside, rest)) : quote = '"' ∨ quote = '\'' := by
  unfold next? at h
  split at h
  case h_12 => exact absurd h quote_of_dynamic?
  case h_13 =>
    obtain ⟨r, -, he⟩ := Option.map_eq_some_iff.1 h
    cases he
    exact .inl rfl
  case h_14 =>
    obtain ⟨r, -, he⟩ := Option.map_eq_some_iff.1 h
    cases he
    exact .inr rfl
  case h_15 => split at h <;> cases h
  all_goals cases h

/-- What is between the quotes of a token can be cut out, and it is what the parser reads. -/
theorem unquote?_of_next? {cs inside rest : List Char} {quote : Char}
    (h : next? cs = some (quoted quote inside, rest)) :
    Quoted.unquote? (quoted quote inside).text = some (Quoted.resolve inside) := by
  refine Quoted.unquote?_text ?_ inside
  obtain rfl | rfl := quote_of_next? h <;> rfl

end Token

/-! ## Written and read again -/

/-- The token `t` is read where `s` has been written as a literal with `behind` after it: it is that
literal as a whole, and it stands for `s`. -/
structure Quoted.Rereads (s : String) (behind : List Char) (t : Token) : Prop where
  read : Token.next? ((quotedText s).toList ++ behind) = some (t, behind)
  quoted : ∃ inside, t = .quoted '"' inside
  text : t.text = (quotedText s).toList
  unquoted : unquote? t.text = some s.toList
  literal : Parser.literal? t = some s

theorem Quoted.exists_rereads (s : String) (behind : List Char) : ∃ t, Rereads s behind t := by
  have htext : (quotedText s).toList = encode s.toList := String.toList_ofList
  have hread := Token.next?_quoted s.toList behind
  have hresolve := resolve_escape s.toList
  refine ⟨.quoted '"' (s.toList.flatMap escape), ⟨?_, ⟨_, rfl⟩, ?_, ?_, ?_⟩⟩
  · rw [htext, hread]
  · rw [htext]
    rfl
  · rw [Token.unquote?_of_next? hread, hresolve]
  · rw [Parser.literal?, hresolve, String.ofList_toList]

namespace Lexeme

/-- A text that is written as a literal is read as one token: it ends where the literal ends, stands
for the text, and all that follows is read as if it stood alone. A quoted token that is read
anywhere has an inside that can be cut out and stands for a text, as which it is read again after it
has been written. -/
theorem literals_reread :
    (∀ (s : String) (behind : List Char), ∃ t, Quoted.Rereads s behind t ∧
      ∀ offset, lexFrom offset ((quotedText s).toList ++ behind) =
        (lexFrom (offset + (quotedText s).utf8ByteSize) behind).map (⟨t, offset⟩ :: ·)) ∧
    ∀ cs quote inside rest, Token.next? cs = some (.quoted quote inside, rest) →
      ∃ s : String, Quoted.unquote? (Token.quoted quote inside).text = some s.toList ∧
        Parser.literal? (.quoted quote inside) = some s ∧
        ∀ behind, ∃ t, Quoted.Rereads s behind t := by
  refine ⟨fun s behind => ?_, fun cs quote inside rest hread => ?_⟩
  · obtain ⟨t, ht⟩ := Quoted.exists_rereads s behind
    refine ⟨t, ht, fun offset => ?_⟩
    have hcons : (quotedText s).toList ++ behind =
        '"' :: (s.toList.flatMap Quoted.escape ++ ['"'] ++ behind) := by
      rw [quotedText, String.toList_ofList]
      rfl
    have hread := ht.read
    rw [hcons] at hread ⊢
    rw [lexFrom_token rfl hread, ht.text, Text.byteSize_toList]
  · refine ⟨String.ofList (Quoted.resolve inside), ?_, rfl, Quoted.exists_rereads _⟩
    rw [Token.unquote?_of_next? hread, String.toList_ofList]

/-- A literal in single quotes, with a quote of its own and a line end written by escapes, is
written in double quotes. -/
theorem literals_reread_escaped :
    Token.next? "'it\\'s\\n' x".toList = some (.quoted '\'' "it\\'s\\n".toList, " x".toList) ∧
      Quoted.unquote? "'it\\'s\\n'".toList = some "it's\n".toList ∧
      quotedText "it's\n" = "\"it's\\n\"" ∧
      ∀ behind, ∃ t, Quoted.Rereads "it's\n" behind t := by
  have hread : Token.next? "'it\\'s\\n' x".toList =
      some (.quoted '\'' "it\\'s\\n".toList, " x".toList) := by decide
  obtain ⟨s, hunquoted, hliteral, hrereads⟩ := literals_reread.2 _ _ _ _ hread
  obtain rfl : "it's\n" = s := Option.some.inj hliteral
  exact ⟨hread, hunquoted, by decide, hrereads⟩

end Lexeme

end StreamPolicy
