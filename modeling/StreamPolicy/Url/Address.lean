import StreamPolicy.Text.Ascii
import StreamPolicy.Text.Basic

/-!
# Internet addresses

`parseV4?` reads IPv4 addresses: one to four numbers between dots, in decimal, octal or hexadecimal
notation, of which the last fills the bytes that are left. `parseV6?` reads IPv6 addresses: eight
groups of hexadecimal digits, of which one run of zeros may be left out; the last two groups may be
an IPv4 address. `textV4` and `textV6` write them.
-/

namespace StreamPolicy.Url.Address

/-! ## Version 4 -/

/-- A number of an IPv4 address: hexadecimal after `0x`, octal after `0`, decimal otherwise. -/
def number? (cs : List Char) : Option Nat :=
  match cs with
  | [] => none
  | ['0'] => some 0
  | '0' :: c :: rest =>
    if c == 'x' || c == 'X' then
      if rest.all Text.isHexDigit then some (Text.ofDigits 16 rest) else none
    else if (c :: rest).all fun d => '0' ≤ d && d ≤ '7' then some (Text.ofDigits 8 (c :: rest))
    else none
  | _ => if cs.all Char.isDigit then some (Text.ofDigits 10 cs) else none

/-- The pieces between dots, without an empty one at the end. -/
def pieces (cs : List Char) : List (List Char) :=
  let all := Text.splitAll (· == '.') cs
  if all.length > 1 && all.getLast? == some [] then all.dropLast else all

/-- Whether `host` can only be an IPv4 address: whether its last piece is a number. -/
def endsInNumber (host : List Char) : Bool :=
  match (pieces host).getLast? with
  | none => false
  | some last => (!last.isEmpty && last.all Char.isDigit) || (number? last).isSome

def parseV4? (host : List Char) : Option Nat :=
  let parts := pieces host
  if parts.length > 4 then none
  else match parts.mapM number? with
    | none => none
    | some numbers =>
      match numbers.getLast? with
      | none => none
      | some last =>
        let before := numbers.dropLast
        if before.any (255 < ·) || Nat.pow 256 (4 - before.length) ≤ last then none
        else
          let high := before.foldl (fun n b => n * 256 + b) 0
          some (high * Nat.pow 256 (4 - before.length) + last)

def textV4 (n : Nat) : String :=
  Text.joinWith "." ([n / 16777216, n / 65536 % 256, n / 256 % 256, n % 256].map toString)

/-! ## Version 6 -/

/-- A group: one to four hexadecimal digits. -/
def group? (cs : List Char) : Option Nat :=
  if 1 ≤ cs.length && cs.length ≤ 4 && cs.all Text.isHexDigit then some (Text.ofDigits 16 cs)
  else none

/-- A byte in decimal notation without leading zeros. -/
def byte? (cs : List Char) : Option Nat :=
  let n := Text.ofDigits 10 cs
  if !cs.isEmpty && cs.all Char.isDigit && (cs.length == 1 || cs.head? != some '0') && n < 256 then
    some n
  else none

/-- The groups between colons. If `dotted`, the last two may be four bytes between dots. -/
def groups? (dotted : Bool) : List (List Char) → Option (List Nat)
  | [] => some []
  | [last] =>
    if dotted && last.contains '.' then
      match (Text.splitAll (· == '.') last).mapM byte? with
      | some [a, b, c, d] => some [a * 256 + b, c * 256 + d]
      | _ => none
    else (group? last).map ([·])
  | cs :: rest =>
    match group? cs, groups? dotted rest with
    | some g, some gs => some (g :: gs)
    | _, _ => none

def groupsOf? (dotted : Bool) (cs : List Char) : Option (List Nat) :=
  if cs.isEmpty then some [] else groups? dotted (Text.splitAll (· == ':') cs)

/-- What stands before and after the first `::`. -/
def splitDouble : List Char → Option (List Char × List Char)
  | ':' :: ':' :: rest => some ([], rest)
  | c :: rest => (splitDouble rest).map fun r => (c :: r.1, r.2)
  | [] => none

def parseV6? (cs : List Char) : Option (List Nat) :=
  match splitDouble cs with
  | none =>
    match groupsOf? true cs with
    | some gs => if gs.length == 8 then some gs else none
    | none => none
  | some (left, right) =>
    match groupsOf? false left, groupsOf? true right with
    | some ls, some rs =>
      if ls.length + rs.length ≤ 7 then
        some (ls ++ List.replicate (8 - ls.length - rs.length) 0 ++ rs)
      else none
    | _, _ => none

/-- The first of the longest runs of zeros: where it begins and how long it is. -/
def longestZeros (gs : List Nat) : Nat × Nat :=
  (List.range gs.length).foldl (fun best start =>
    let length := ((gs.drop start).takeWhile (· == 0)).length
    if best.2 < length then (start, length) else best) (0, 0)

def hexText (n : Nat) : String := String.ofList (Nat.toDigits 16 n)

/-- An IPv6 address in which the longest run of two or more zeros is left out. -/
def textV6 (gs : List Nat) : String :=
  let (start, length) := longestZeros gs
  let text := fun part : List Nat => Text.joinWith ":" (part.map hexText)
  if length < 2 then text gs else text (gs.take start) ++ "::" ++ text (gs.drop (start + length))

end StreamPolicy.Url.Address
