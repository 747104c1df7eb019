/-!
# Quoted literals

A literal is written (`encode`) between double quotes, in which quotes, backslashes, line feeds and
tabs are written with a backslash. In reading (`resolve`), a backslash before any other character
stands for that character.
-/

namespace StreamPolicy.Quoted

def escape : Char → List Char
  | '"' => ['\\', '"']
  | '\\' => ['\\', '\\']
  | '\n' => ['\\', 'n']
  | '\t' => ['\\', 't']
  | c => [c]

def encode (cs : List Char) : List Char := '"' :: cs.flatMap escape ++ ['"']

/-- The character that a backslash before this one stands for. -/
def unescape : Char → Char
  | 'n' => '\n'
  | 't' => '\t'
  | c => c

/-- The text between quotes with its escapes resolved, each by `unescape`. -/
def resolve : List Char → List Char
  | [] => []
  | '\\' :: c :: rest => unescape c :: resolve rest
  | c :: rest => c :: resolve rest

/-- The inside of a literal and what follows its closing `quote`. A backslash must be followed by a
character on the same line; other line ends may stand in a literal. -/
def span (quote : Char) : List Char → Option (List Char × List Char)
  | [] => none
  | '\\' :: c :: rest =>
    if c == '\n' then none else (span quote rest).map fun r => ('\\' :: c :: r.1, r.2)
  | c :: rest =>
    if c == quote then some ([], rest)
    else if c == '\\' then none
    else (span quote rest).map fun r => (c :: r.1, r.2)

theorem span_append {quote : Char} {cs inside rest : List Char}
    (h : span quote cs = some (inside, rest)) : cs = inside ++ quote :: rest := by
  fun_induction span quote cs generalizing inside with
  | case1 => simp at h
  | case2 => simp at h
  | case3 c cs _ ih =>
    obtain ⟨r, hr, he⟩ := Option.map_eq_some_iff.1 h
    simp only [Prod.mk.injEq] at he
    obtain ⟨rfl, rfl⟩ := he
    rw [ih hr]
    rfl
  | case4 c cs _ hc =>
    simp only [Option.some.injEq, Prod.mk.injEq] at h
    obtain ⟨rfl, rfl⟩ := h
    simp [beq_iff_eq.1 hc]
  | case5 => simp at h
  | case6 c cs _ _ _ ih =>
    obtain ⟨r, hr, he⟩ := Option.map_eq_some_iff.1 h
    simp only [Prod.mk.injEq] at he
    obtain ⟨rfl, rfl⟩ := he
    rw [ih hr]
    rfl

end StreamPolicy.Quoted
