import StreamPolicy.Data.Basic
import StreamPolicy.Text.Ascii
import StreamPolicy.Text.Basic
import StreamPolicy.Text.Blank
import StreamPolicy.Time.Basic

/-!
# Timestamps

`Time.text` writes date, letter T, time of day and letter Z, with as many digits of a fraction as
are needed in groups of three. `Time.parse?` reads other spellings as well: blanks between the
parts, numbers without leading zeros, and other zones.
-/

namespace StreamPolicy

/-! ## Writing -/

/-- Years of more or fewer than four digits have a sign. -/
def Date.text (d : Date) : String :=
  let year := if 0 ≤ d.year && d.year ≤ 9999 then Text.padDigits 4 d.year.toNat
    else (if d.year < 0 then "-" else "+") ++ Text.padDigits 4 d.year.natAbs
  s!"{year}-{Text.padDigits 2 d.month}-{Text.padDigits 2 d.day}"

/-- The fraction of a second, in three, six or nine digits. -/
def Clock.fraction (c : Clock) : String :=
  if c.nanos == 0 then ""
  else if c.nanos % 1000000 == 0 then "." ++ Text.padDigits 3 (c.nanos / 1000000)
  else if c.nanos % 1000 == 0 then "." ++ Text.padDigits 6 (c.nanos / 1000)
  else "." ++ Text.padDigits 9 c.nanos

def Clock.text (c : Clock) : String :=
  s!"{Text.padDigits 2 c.hour}:{Text.padDigits 2 c.minute}:{Text.padDigits 2 c.second}{c.fraction}"

def Time.text (t : Time) : String := s!"{t.date.text}T{t.clock.text}Z"

/-! ## Reading -/

namespace Time

/-- Some digits, at most `most`, behind blanks. -/
def digits? (most : Nat) (cs : List Char) : Option (Nat × List Char) :=
  let cs := Text.trimStart cs
  let digits := (cs.takeWhile Char.isDigit).take most
  if digits.isEmpty then none else some (Text.ofDigits 10 digits, cs.drop digits.length)

/-- A year: at most four digits, or a sign and any number of them. -/
def year? (cs : List Char) : Option (Int × List Char) :=
  match Text.trimStart cs with
  | '-' :: rest => if rest.head?.any Char.isDigit then
      (digits? rest.length rest).map fun r => (-(r.1 : Int), r.2) else none
  | '+' :: rest => if rest.head?.any Char.isDigit then
      (digits? rest.length rest).map fun r => ((r.1 : Int), r.2) else none
  | rest => (digits? 4 rest).map fun r => ((r.1 : Int), r.2)

/-- The character `c` behind blanks. -/
def sign? (c : Char) (cs : List Char) : Option (List Char) :=
  match Text.trimStart cs with
  | [] => none
  | d :: rest => if d = c then some rest else none

/-- The digits of a fraction; beyond the ninth they are dropped. -/
def nanos? : List Char → Option (Nat × List Char)
  | '.' :: cs =>
    let digits := (cs.takeWhile Char.isDigit).take 9
    if digits.isEmpty then none
    else some (Text.ofDigits 10 (Text.padRight 9 '0' digits), cs.dropWhile Char.isDigit)
  | cs => some (0, cs)

def pair? : List Char → Option (Nat × List Char)
  | a :: b :: rest =>
    if a.isDigit && b.isDigit then some (Text.ofDigits 10 [a, b], rest) else none
  | _ => none

/-- How many minutes the clocks of a zone are ahead. -/
def zone? (cs : List Char) : Option (Int × List Char) :=
  match cs with
  | [] => none
  | c :: rest =>
    if c == 'Z' || c == 'z' then some (0, rest)
    else if Text.asciiLower (String.ofList (cs.take 3)) == "utc" then some (0, cs.drop 3)
    else if c == '+' || c == '-' || c == '\u2212' then
      match pair? rest with
      | none => none
      | some (hours, rest) =>
        match pair? (rest.dropWhile fun c => c == ':' || Text.isBlank c) with
        | none => none
        | some (minutes, rest) =>
          if hours < 24 && minutes < 60 then
            let ahead : Int := hours * 60 + minutes
            some (if c == '+' then ahead else -ahead, rest)
          else none
    else none

def date? (cs : List Char) : Option (Date × List Char) := do
  let (year, cs) ← year? cs
  let cs ← sign? '-' cs
  let (month, cs) ← digits? 2 cs
  let cs ← sign? '-' cs
  let (day, cs) ← digits? 2 cs
  return (⟨year, month, day⟩, cs)

def clock? (cs : List Char) : Option (Clock × List Char) := do
  let (hour, cs) ← digits? 2 cs
  let cs ← sign? ':' cs
  let (minute, cs) ← digits? 2 cs
  let cs ← sign? ':' cs
  let (second, cs) ← digits? 2 cs
  let (nanos, cs) ← nanos? cs
  return (⟨hour, minute, second, nanos⟩, cs)

def parse? (s : String) : Option Time := do
  let (date, cs) ← date? s.toList
  match cs with
  | [] => none
  | c :: cs =>
    if c == 'T' || c == 't' || c == ' ' then
      let (clock, cs) ← clock? cs
      let (ahead, rest) ← zone? (Text.trimStart cs)
      if Text.isBlankText rest then ofLocal? date clock ahead else none
    else none

instance : Coded Time where
  encode t := .text t.text
  decode?
    | .text s => parse? s
    | _ => none

end Time

end StreamPolicy
