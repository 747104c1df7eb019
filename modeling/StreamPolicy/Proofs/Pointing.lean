import StreamPolicy.Cli.Run
import StreamPolicy.Proofs.Expression.Placing
import StreamPolicy.Proofs.Expression.Splitting

/-!
# Marks below expressions

A text that is no expression is refused at a place between two of its characters: where one of its
tokens begins, at the first character that no token begins with, or at its end (`Offends`). The
command line shows the text again with a mark below the character there (`caretColumn`), however
many bytes the characters in front of it have.
-/

namespace StreamPolicy

variable {text : String} {before behind : List Char} {e : ParseError}

/-- What stands `behind` the place of `e`: a token of the text, a character up to which the text can
be split and no further, or nothing. -/
inductive Expression.Offends (text : String) (e : ParseError) (behind : List Char) : Prop
  | token {ls : List Lexeme} {l : Lexeme} {after : List Char} :
    Lexeme.lex text = .ok ls → l ∈ ls → l.start = e.offset → behind = l.token.text ++ after →
    Offends text e behind
  | character {c : Char} {after : List Char} :
    Lexeme.lex text = .error e → Lexeme.Splits text.toList (.error e) → behind = c :: after →
    Lexeme.isSeparator c = false → (∀ w, Token.Matches w → ¬w <+: behind) →
    Offends text e behind
  | nothing : behind = [] → Offends text e behind

namespace Expression

/-- An error is placed between two characters, and what stands behind its place `Offends`. -/
theorem offends_of_parse (h : parse text = .error e) :
    ∃ before behind, text.toList = before ++ behind ∧ Text.byteSize before = e.offset ∧
      Offends text e behind := by
  have hsplits := Lexeme.splits_lexFrom (Lexeme.splitsUpTo_nil text.toList)
    (List.nil_append text.toList).symm
  unfold parse at h
  cases hlex : Lexeme.lex text with
  | error fault =>
    rw [hlex] at h
    cases h
    rw [show Lexeme.lexFrom (Text.byteSize []) text.toList = .error e from hlex] at hsplits
    cases id hsplits with
    | upTo htext _ hc hnone _ => exact ⟨_, _, htext, rfl, .character hlex hsplits rfl hc hnone⟩
  | ok ls =>
    rw [hlex] at h
    rw [show Lexeme.lexFrom (Text.byteSize []) text.toList = .ok ls from hlex] at hsplits
    cases hsplits with
    | whole hls =>
      rcases Parser.marks_expression h with hend | ⟨l, hl, hstart⟩
      · refine ⟨text.toList, [], (List.append_nil _).symm, ?_, .nothing rfl⟩
        rw [hend, Text.byteSize_toList]
      · obtain ⟨before, after, htext, hbefore, -⟩ := (hls.stands l hl).1.longest
        exact ⟨before, _, htext, hbefore.trans hstart, .token hlex hl hstart rfl⟩

end Expression

namespace Cli

/-- The column of a place is one more than the number of characters in front of it. -/
theorem caretColumn_of_append {offset : Nat} (htext : text.toList = before ++ behind)
    (hoffset : Text.byteSize before = offset) : caretColumn text offset = before.length + 1 := by
  rw [caretColumn, htext, ← hoffset, Text.charsWithin?_byteSize, Option.getD_some]

theorem pointer_succ (text : String) (n : Nat) :
    pointer text (n + 1) =
      text ++ "\n" ++ (String.ofList (List.replicate n ' ') ++ "^") ++ "\n" := by
  rw [pointer, Text.padLeft, List.length_singleton, Nat.add_sub_cancel, String.ofList_append]

theorem text_noExpression (text : String) (e : ParseError) :
    (Failure.noExpression text e).text =
      pointer text (caretColumn text e.offset) ++
        ("Error: Invalid expression: " ++ e.message ++ "\n") := by
  have hmessage : (Failure.noExpression text e).message = "Invalid expression: " ++ e.message := rfl
  have hjoin : "Error: " ++ "Invalid expression: " = "Error: Invalid expression: " := rfl
  rw [Failure.text, hmessage, ← hjoin]
  simp only [Failure.introduction, Failure.cause?, Option.map_none, Option.getD_none,
    String.append_empty, String.append_assoc]

/-- A text that is no expression is refused at a place between two of its characters, within the
text, and behind it stands what gives offence. The mark that is shown below the text has as many
blanks before it as there are characters in front of the place. -/
theorem points_of_parse_error (h : Expression.parse text = .error e) :
    e.offset ≤ text.utf8ByteSize ∧
      ∃ before behind, text.toList = before ++ behind ∧ Text.byteSize before = e.offset ∧
        Expression.Offends text e behind ∧ caretColumn text e.offset = before.length + 1 ∧
        ∀ s args config request, Invocation.read args = .ok ⟨config, .test text request⟩ →
          run s args =
            { exitCode := 1
              err := text ++ "\n" ++ (String.ofList (List.replicate before.length ' ') ++ "^") ++
                "\n" ++ ("Error: Invalid expression: " ++ e.message ++ "\n") } := by
  obtain ⟨before, behind, htext, hoffset, hoffends⟩ := Expression.offends_of_parse h
  refine ⟨?_, before, behind, htext, hoffset, hoffends, caretColumn_of_append htext hoffset, ?_⟩
  · rw [← hoffset, ← Text.byteSize_toList, htext, Text.byteSize_append]
    exact Nat.le_add_right _ _
  · intro s args config request hread
    simp only [run, hread, Invocation.run, runTest, Expression.test, h, Outcome.ofFailure,
      text_noExpression, caretColumn_of_append htext hoffset, pointer_succ]
    rfl

/-- A letter of two bytes is one column wide. -/
theorem points_of_parse_error_accent :
    let s : Surroundings := { files := fun _ => .missing, home := none, issuer := ⟨⟨1⟩, .epoch⟩ }
    let text := "a == \"é\" AND"
    Expression.parse text = .error ⟨.missingOperand "AND", 10⟩ ∧
      (run s ["test", text]).err =
        text ++ "\n         ^\nError: Invalid expression: " ++
          "missing operand after 'AND' at offset 10\n" := by
  intro s text
  have hparse : Expression.parse text = .error ⟨.missingOperand "AND", 10⟩ := by decide +kernel
  have hgrammar : programGrammar.read ["test", text] = .ok ⟨[programName, "test"], [], [text]⟩ := by
    decide +kernel
  have hread : Invocation.read ["test", text] =
      .ok ⟨none, .test text (Reading.request ⟨[programName, "test"], [], [text]⟩)⟩ := by
    rw [Invocation.read, hgrammar]
    rfl
  obtain ⟨-, before, behind, -, -, -, hcolumn, hrun⟩ := points_of_parse_error hparse
  have hlength : before.length + 1 = 10 := hcolumn.symm.trans (by decide +kernel)
  refine ⟨hparse, ?_⟩
  rw [hrun s _ none _ hread, Nat.succ.inj hlength]
  decide +kernel

end Cli

end StreamPolicy
