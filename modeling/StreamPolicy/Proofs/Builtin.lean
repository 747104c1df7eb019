import Mathlib.Data.List.Basic
import StreamPolicy.Proofs.Expression.RoundTrip
import StreamPolicy.Rule.Builtin

/-!
# The conditions of the rules of the system

The shipped rules take over the value of a field (`Expression.passed`), or they join comparisons of
the user agent (`mentions`, `mentionsBut`). Both are what `Expression.text` writes for an expression
without inner parentheses, so they parse, and to just that.
-/

namespace StreamPolicy

/-- A text without characters that need an escape stands between quotes as it is. -/
theorem quotedText_eq {s : String} (h : s.toList.all (fun c => Quoted.escape c == [c]) = true) :
    quotedText s = "\"" ++ s ++ "\"" := by
  have hplain : ∀ c ∈ s.toList, Quoted.escape c = [c] := by simpa using h
  have hescaped : s.toList.flatMap Quoted.escape = s.toList := by
    rw [List.flatMap_congr hplain, List.flatMap_singleton']
  apply String.toList_inj.1
  simp [quotedText, Quoted.encode, hescaped]

/-! ## Joined comparisons -/

namespace Node

theorem childText_leaf (c : Condition) : childText (leaf c) = c.text := by
  rw [childText, text]
  intro op children h
  cases h

theorem text_join_leaves (op : Connective) (cs : List Condition) :
    (join op (cs.map leaf)).text = s!" {op.name} ".intercalate (cs.map (·.text)) := by
  have hgroup : (group op false (cs.map leaf)).text =
      s!" {op.name} ".intercalate (cs.map (·.text)) := by
    have hchildren : childText ∘ leaf = Condition.text := funext childText_leaf
    rw [text, texts_eq, List.map_map, hchildren]
    rfl
  rcases cs with _ | ⟨c, _ | ⟨d, cs⟩⟩
  · exact hgroup
  · rw [List.map_singleton, List.map_singleton, join, text]
    rfl
  · exact hgroup

theorem wellFormed_join {op : Connective} {ns : List Node} (hne : ns ≠ [])
    (h : ∀ n ∈ ns, n.WellFormed) : (join op ns).WellFormed := by
  match ns, hne with
  | [n], _ => exact h n List.mem_cons_self
  | _ :: _ :: _, _ => exact .group (by simp) h

theorem depths_leaves (cs : List Condition) : depth.depths (cs.map leaf) ≤ 1 := by
  induction cs with
  | nil => exact Nat.zero_le 1
  | cons c cs ih => exact Nat.max_le.2 ⟨Nat.le_refl 1, ih⟩

theorem parens_join_leaves (op : Connective) (cs : List Condition) :
    (join op (cs.map leaf)).parens = 0 := by
  rcases cs with _ | ⟨c, _ | ⟨d, cs⟩⟩
  · rfl
  · rfl
  · exact Nat.sub_eq_zero_of_le (depths_leaves (c :: d :: cs))

end Node

namespace Expression

/-- The comparisons `cs` joined by `op`. -/
def joined (op : Connective) (cs : List Condition) : Expression where
  root := some (.join op (cs.map .leaf))

theorem text_joined (op : Connective) (cs : List Condition) :
    (joined op cs).text = s!" {op.name} ".intercalate (cs.map (·.text)) :=
  Node.text_join_leaves op cs

theorem parse_text_joined {op : Connective} {cs : List Condition} (hne : cs ≠ [])
    (h : ∀ c ∈ cs, c.WellFormed) : parse (joined op cs).text = .ok (joined op cs) := by
  have hleaves : ∀ n ∈ cs.map Node.leaf, n.WellFormed :=
    List.forall_mem_map.2 fun c hc => .leaf (h c hc)
  have hwell : (joined op cs).WellFormed := by
    refine ⟨fun n hn => ?_, fun as has => ?_⟩
    · cases hn
      exact Node.wellFormed_join (mt List.map_eq_nil_iff.1 hne) hleaves
    · cases has
  have hparens : (joined op cs).parens = 0 := Node.parens_join_leaves op cs
  exact hwell.parse_text_of_le (hparens ▸ Nat.zero_le _)

/-- The value of `field`, if it is not empty, goes to `target`. -/
def passed (field : Field) (target : Target) : Expression where
  root := some (.leaf { field, op := .notEquals, value := "" })
  assignments := some [⟨target, .field field⟩]

theorem text_passed (field : Field) (target : Target) :
    (passed field target).text = Builtin.passes field.text target.name := by
  have hempty : quotedText "" = "\"\"" := by decide
  simp only [passed, Builtin.passes, text, actions, Option.getD, Option.map, Option.isSome,
    Node.text, Condition.text, Text.joinWith, List.map, Assignment.text, Source.text, Operator.name,
    hempty]
  simp [toString, String.append_assoc]

theorem parse_passes {field : Field} {name : String} (hname : field.text = name)
    (h : field.WellFormed) (target : Target) :
    parse (Builtin.passes name target.name) = .ok (passed field target) := by
  have hwell : (passed field target).WellFormed := by
    refine ⟨fun n hn => ?_, fun as has => ?_⟩
    · cases hn
      exact .leaf ⟨h, nofun⟩
    · cases has
      exact ⟨List.cons_ne_nil _ _, List.forall_mem_singleton.2 (.field h)⟩
  rw [← hname, ← text_passed]
  exact hwell.parse_text_of_le (Nat.zero_le _)

theorem parse_empty : parse "" = .ok { root := none } := by
  have hwell : ({ root := none } : Expression).WellFormed := ⟨nofun, nofun⟩
  exact hwell.parse_text_of_le (Nat.zero_le _)

end Expression

/-! ## The shipped conditions -/

namespace Builtin

/-- The user agent contains `word`. -/
def mention (word : String) : Condition where
  field := .static "user_agent"
  op := .contains
  value := word

theorem wellFormed_mention (word : String) : (mention word).WellFormed :=
  ⟨.static (by decide) (Parser.isPlain_iff.2 (by decide)), nofun⟩

theorem text_mention {word : String}
    (h : word.toList.all (fun c => Quoted.escape c == [c]) = true) :
    (mention word).text = "user_agent contains \"" ++ word ++ "\"" := by
  have hgap : "user_agent contains \"" = "user_agent" ++ " " ++ "contains" ++ " " ++ "\"" := by
    decide
  show "user_agent" ++ " " ++ "contains" ++ " " ++ quotedText word = _
  rw [quotedText_eq h, hgap]
  simp only [String.append_assoc]

/-- The expression of `agentContains`: the user agent contains one of `words`. -/
def mentions (words : List String) : Expression := .joined .or (words.map mention)

theorem parse_agentContains {words : List String} (hne : words ≠ [])
    (h : ∀ w ∈ words, w.toList.all (fun c => Quoted.escape c == [c]) = true) :
    Expression.parse (agentContains words) = .ok (mentions words) := by
  have htext : (mentions words).text = agentContains words := by
    rw [mentions, Expression.text_joined, agentContains, List.map_map]
    have htexts := List.map_congr_left fun w hw => text_mention (h w hw)
    exact congrArg (String.intercalate " OR ") htexts
  rw [← htext]
  exact Expression.parse_text_joined (mt List.map_eq_nil_iff.1 hne)
    (List.forall_mem_map.2 fun w _ => wellFormed_mention w)

/-- The user agent contains `word` and not `other`. -/
def mentionsBut (word other : String) : Expression :=
  .joined .and [mention word, (mention other).negate]

theorem parse_safari :
    Expression.parse "user_agent contains \"Safari\" AND NOT user_agent contains \"Chrome\"" =
      .ok (mentionsBut "Safari" "Chrome") := by
  have htext : (mentionsBut "Safari" "Chrome").text =
      "user_agent contains \"Safari\" AND NOT user_agent contains \"Chrome\"" := by
    rw [mentionsBut, Expression.text_joined]
    decide
  rw [← htext]
  have hother := wellFormed_mention "Chrome"
  refine Expression.parse_text_joined (List.cons_ne_nil _ _) (List.forall_mem_cons.2 ?_)
  exact ⟨wellFormed_mention _, List.forall_mem_singleton.2 ⟨hother.field, hother.pattern⟩⟩

theorem parse_mediaPlayers :
    Expression.parse mediaPlayers = .ok (mentions ["VLC", "Kodi", "Lavf", "mpv"]) :=
  parse_agentContains (by decide) (by decide)

theorem parse_smartTvs :
    Expression.parse smartTvs = .ok (mentions ["SMART-TV", "Tizen", "Web0S", "BRAVIA"]) :=
  parse_agentContains (by decide) (by decide)

/-- What the conditions of `clientRules` parse to. -/
def clientExpressions : List Expression :=
  [.passed (.dynamic .headers "x-video-codec") .videoCodec,
    .passed (.dynamic .headers "x-audio-codec") .audioCodec,
    .passed (.dynamic .query "format") .format,
    mentionsBut "Safari" "Chrome",
    mentions ["Chrome"],
    mentions ["Firefox"],
    mentions ["VLC", "Kodi", "Lavf", "mpv"],
    mentions ["SMART-TV", "Tizen", "Web0S", "BRAVIA"],
    { root := none }]

/-- What the conditions of `relayMappings` parse to. -/
def relayExpressions : List Expression :=
  [mentions ["Mozilla"], mentions ["VLC", "Kodi", "Lavf", "mpv"], { root := none }]

theorem parse_clientRules :
    clientRules.map (fun b => Expression.parse b.expression) = clientExpressions.map .ok := by
  have hvideo : Expression.parse (passes "@dynamic(request.headers):x-video-codec"
      "preferred_video_codec") = .ok (.passed (.dynamic .headers "x-video-codec") .videoCodec) :=
    Expression.parse_passes (by decide) (.dynamic (by decide) (by decide)) .videoCodec
  have haudio : Expression.parse (passes "@dynamic(request.headers):x-audio-codec"
      "preferred_audio_codec") = .ok (.passed (.dynamic .headers "x-audio-codec") .audioCodec) :=
    Expression.parse_passes (by decide) (.dynamic (by decide) (by decide)) .audioCodec
  have hformat : Expression.parse (passes "@dynamic(request.query):format" "preferred_format") =
      .ok (.passed (.dynamic .query "format") .format) :=
    Expression.parse_passes (by decide) (.dynamic (by decide) (by decide)) .format
  have hchrome : Expression.parse (agentContains ["Chrome"]) = .ok (mentions ["Chrome"]) :=
    parse_agentContains (by decide) (by decide)
  have hfirefox : Expression.parse (agentContains ["Firefox"]) = .ok (mentions ["Firefox"]) :=
    parse_agentContains (by decide) (by decide)
  simp only [clientRules, family, clientExpressions, List.map_cons, List.map_nil, hvideo, haudio,
    hformat, parse_safari, hchrome, hfirefox, parse_mediaPlayers, parse_smartTvs,
    Expression.parse_empty]

theorem parse_relayMappings :
    relayMappings.map (fun b => Expression.parse b.expression) = relayExpressions.map .ok := by
  have hmozilla : Expression.parse (agentContains ["Mozilla"]) = .ok (mentions ["Mozilla"]) :=
    parse_agentContains (by decide) (by decide)
  simp only [relayMappings, relayExpressions, List.map_cons, List.map_nil, hmozilla,
    parse_mediaPlayers, Expression.parse_empty]

end Builtin

end StreamPolicy
