import StreamPolicy.Data.Basic
import StreamPolicy.Text.Ascii
import StreamPolicy.Time.Basic
import StreamPolicy.Toml.Trivia

/-!
# Numbers and dates

Numbers may have underscores between their digits. Of decimal fractions and dates, which no record
here makes use of, only the writing is kept. `number?` reads all of them.
-/

namespace StreamPolicy.Toml

/-! ## Digits -/

/-- Digits of the kind `isDigit`, without the underscores between them. -/
def digits? (isDigit : Char → Bool) : Reader (List Char)
  | [] => none
  | c :: cs =>
    if isDigit c then
      match cs with
      | '_' :: rest => (digits? isDigit rest).map fun r => (c :: r.1, r.2)
      | d :: rest =>
        if isDigit d then (digits? isDigit (d :: rest)).map fun r => (c :: r.1, r.2)
        else some ([c], d :: rest)
      | [] => some ([c], [])
    else none

/-- An optional sign: whether it is a minus sign. -/
def sign : List Char → Bool × List Char
  | '+' :: cs => (false, cs)
  | '-' :: cs => (true, cs)
  | cs => (false, cs)

/-- The digits of a decimal number; a zero at the front stands alone. -/
def decimalDigits? : Reader (List Char)
  | '0' :: cs => some (['0'], cs)
  | cs => digits? Char.isDigit cs

/-! ## Whole numbers -/

/-- The number `n`, if it fits into 64 bits. -/
def inRange? (n : Int) : Option Data :=
  if Int64.minValue.toInt ≤ n && n ≤ Int64.maxValue.toInt then some (.int n) else none

/-- A number in a base that its first letters name. -/
def based? (base : Nat) (isDigit : Char → Bool) (cs : List Char) : Option (Data × List Char) :=
  match digits? isDigit cs with
  | none => none
  | some (digits, rest) => (inRange? (Text.ofDigits base digits)).map (·, rest)

def integer? : Reader Data
  | '0' :: 'x' :: cs => based? 16 Text.isHexDigit cs
  | '0' :: 'o' :: cs => based? 8 (fun c => '0' ≤ c && c ≤ '7') cs
  | '0' :: 'b' :: cs => based? 2 (fun c => c == '0' || c == '1') cs
  | cs =>
    let (isNegative, body) := sign cs
    match decimalDigits? body with
    | none => none
    | some (digits, rest) =>
      let n : Int := Text.ofDigits 10 digits
      (inRange? (if isNegative then -n else n)).map (·, rest)

/-! ## Fractions -/

/-- The exponent of a number. -/
def exponent? : Reader Int
  | c :: cs =>
    if c == 'e' || c == 'E' then
      let (isNegative, body) := sign cs
      (digits? Char.isDigit body).map fun (digits, rest) =>
        let n : Int := Text.ofDigits 10 digits
        (if isNegative then -n else n, rest)
    else none
  | [] => none

/-- Whether a number, given by its digits, how many of them are behind the point (`places`), and its
exponent, is too large to be told from infinity. -/
def isHuge (digits : List Char) (places : Nat) (exponent : Int) : Bool :=
  let n := Text.ofDigits 10 digits
  let shift := exponent - places
  let magnitude : Int := (Nat.toDigits 10 n).length + shift
  if n == 0 || magnitude ≤ 308 then false
  else if 309 < magnitude then true
  else
    -- Halfway between the largest double and the next power of two.
    let bound := Nat.pow 2 1024 - Nat.pow 2 970
    if 0 ≤ shift then bound ≤ n * Nat.pow 10 shift.toNat
    else bound * Nat.pow 10 (-shift).toNat ≤ n

/-- A number with a fraction, an exponent or both. -/
def fraction? (cs : List Char) : Option (Data × List Char) :=
  match decimalDigits? (sign cs).2 with
  | none => none
  | some (whole, rest) =>
    let finish := fun (places : List Char) (e : Int) (rest : List Char) =>
      if isHuge (whole ++ places) places.length e then none
      else some (Data.decimal (String.ofList (passed cs rest)), rest)
    match rest with
    | '.' :: rest =>
      match digits? Char.isDigit rest with
      | none => none
      | some (places, rest) =>
        if rest.head?.any fun c => c == 'e' || c == 'E' then
          match exponent? rest with
          | none => none
          | some (e, rest) => finish places e rest
        else finish places 0 rest
    | rest =>
      match exponent? rest with
      | none => none
      | some (e, rest) => finish [] e rest

/-- The numbers that have no digits. -/
def special? (cs : List Char) : Option (Data × List Char) :=
  match (sign cs).2 with
  | 'i' :: 'n' :: 'f' :: rest => some (.decimal (String.ofList (passed cs rest)), rest)
  | 'n' :: 'a' :: 'n' :: rest => some (.decimal (String.ofList (passed cs rest)), rest)
  | _ => none

/-! ## Dates and times -/

/-- A number of exactly `count` digits. -/
def fixed? (count : Nat) (cs : List Char) : Option (Nat × List Char) :=
  let digits := cs.take count
  if digits.length == count && digits.all Char.isDigit then
    some (Text.ofDigits 10 digits, cs.drop count)
  else none

def char? (c : Char) : List Char → Option (List Char)
  | d :: cs => if d = c then some cs else none
  | [] => none

/-- Passes a day of the calendar. -/
def date? (cs : List Char) : Option (List Char) := do
  let (year, cs) ← fixed? 4 cs
  let (month, cs) ← fixed? 2 (← char? '-' cs)
  let (day, cs) ← fixed? 2 (← char? '-' cs)
  if 1 ≤ day && day ≤ daysInMonth year month then some cs else none

/-- Passes a time of day. -/
def clock? (cs : List Char) : Option (List Char) := do
  let (hour, cs) ← fixed? 2 cs
  let (minute, cs) ← fixed? 2 (← char? ':' cs)
  let (second, cs) ← fixed? 2 (← char? ':' cs)
  if 24 ≤ hour || 60 ≤ minute || 61 ≤ second then none
  else match cs with
    | '.' :: d :: rest => if d.isDigit then some (rest.dropWhile Char.isDigit) else some cs
    | cs => some cs

def zone (cs : List Char) : List Char :=
  match cs with
  | [] => []
  | c :: rest =>
    if c == 'Z' || c == 'z' then rest
    else if c == '+' || c == '-' then
      match (do
        let (hour, rest) ← fixed? 2 rest
        let (minute, rest) ← fixed? 2 (← char? ':' rest)
        if hour < 24 && minute < 60 then some rest else none : Option (List Char)) with
      | some rest => rest
      | none => cs
    else cs

def skipMoment? (cs : List Char) : Option (List Char) :=
  match date? cs with
  | some rest =>
    match rest with
    | [] => some []
    | c :: behind =>
      if c == 'T' || c == 't' || c == ' ' then
        match clock? behind with
        | some rest => some (zone rest)
        | none => some (c :: behind)
      else some (c :: behind)
  | none => clock? cs

def moment? (cs : List Char) : Option (Data × List Char) :=
  (skipMoment? cs).map fun rest => (.moment (String.ofList (passed cs rest)), rest)

/-- A date, a fraction or a whole number, whichever comes first in this order. -/
def number? (cs : List Char) : Option (Data × List Char) :=
  moment? cs <|> fraction? cs <|> special? cs <|> integer? cs

end StreamPolicy.Toml
