import StreamPolicy.Text.Basic
import StreamPolicy.Url.Address
import StreamPolicy.Url.Domain
import StreamPolicy.Url.Percent

/-!
# Absolute URLs

A `Location` is the host, port, path and query of an absolute URL with a host, as far as requests
look at them. `Location.parse?` puts them into a normal form: the scheme and the host of a web
address are in small letters, ports that a scheme implies are dropped, and dot segments of paths are
resolved.
-/

namespace StreamPolicy.Url

/-- How the rest of a URL is read, which depends on its scheme. -/
inductive SchemeKind
  /-- A scheme of the web, with the port it implies. -/
  | web (port : Nat)
  | file
  | other
  deriving DecidableEq, Repr

namespace SchemeKind

def ofName (scheme : String) : SchemeKind :=
  if scheme == "http" || scheme == "ws" then .web 80
  else if scheme == "https" || scheme == "wss" then .web 443
  else if scheme == "ftp" then .web 21
  else if scheme == "file" then .file
  else .other

/-- Whether a backslash counts as a slash. -/
def foldsBackslash (k : SchemeKind) : Bool := k != .other

def isSlash (k : SchemeKind) (c : Char) : Bool := c == '/' || (c == '\\' && k.foldsBackslash)

/-- Whether `c` ends the part of a URL that names the host. -/
def endsAuthority (k : SchemeKind) (c : Char) : Bool := k.isSlash c || c == '?' || c == '#'

end SchemeKind

/-- An absolute URL with a host. -/
structure Location where
  host : String
  port : Option Nat
  path : String
  query : Option String
  deriving DecidableEq, Repr

namespace Location

/-! ## Hosts -/

def isForbiddenInOpaque (c : Char) : Bool :=
  "\x00\t\n\r #/:<>?@[\\]^|".toList.contains c

/-- The address between `[` and `]`. -/
def bracketed? (host : List Char) : Option String :=
  if host.getLast? == some ']' then
    (Address.parseV6? host.tail.dropLast).map fun gs => s!"[{Address.textV6 gs}]"
  else none

def webHost? (host : List Char) : Option String :=
  if host.head? == some '[' then bracketed? host
  else match Domain.ascii? (Text.Utf8.decodeLossy (Percent.decode host)) with
    | none => none
    | some name =>
      if Address.endsInNumber name then (Address.parseV4? name).map Address.textV4
      else some (String.ofList name)

/-- The normal form of a host elsewhere. -/
def opaqueHost? (host : List Char) : Option String :=
  if host.head? == some '[' then bracketed? host
  else if host.any isForbiddenInOpaque then none
  else some (String.ofList (Percent.encode [] host))

/-- What stands before the colon of a port; colons in square brackets are part of the host, and
`inBrackets` says whether one is open. -/
def spanHost (inBrackets : Bool) : List Char → List Char × List Char
  | [] => ([], [])
  | c :: rest =>
    if c == ':' && !inBrackets then ([], c :: rest)
    else
      let r := spanHost (c == '[' || (inBrackets && c != ']')) rest
      (c :: r.1, r.2)

/-- The port behind a host, which may be left out, and the rest. -/
def port? : List Char → Option (Option Nat × List Char)
  | ':' :: cs =>
    let digits := cs.takeWhile Char.isDigit
    let rest := cs.dropWhile Char.isDigit
    let n := Text.ofDigits 10 digits
    if 65535 < n then none
    else if rest.isEmpty || rest.head?.any (fun c => c == '/' || c == '\\' || c == '?' || c == '#')
    then some (if digits.isEmpty then none else some n, rest)
    else none
  | rest => some (none, rest)

/-- What follows the last `@` of an authority, and whether there is one. -/
def dropUser (authority : List Char) : List Char × Bool :=
  match Text.splitOnce (· == '@') authority.reverse with
  | some (behind, _) => (behind.reverse, true)
  | none => (authority, false)

/-! ## Paths -/

/-- Whether a segment names a drive, which is never left upwards. -/
def isDrive : List Char → Bool
  | [letter, mark] => letter.isAlpha && (mark == ':' || mark == '|')
  | _ => false

/-- The number of dots of a segment, each of which may be written as `%2e`. -/
def dots : List Char → Option Nat
  | [] => some 0
  | '.' :: rest => (dots rest).map (· + 1)
  | '%' :: '2' :: e :: rest => if e == 'e' || e == 'E' then (dots rest).map (· + 1) else none
  | _ => none

/-- The segments `above` a segment, without the lowest one unless it is a drive. -/
def up (above : List (List Char)) : List (List Char) :=
  match above with
  | [] => []
  | lowest :: rest => if isDrive lowest then lowest :: rest else rest

/-- Resolves dot segments; those so far are `above`, with the lowest one first. -/
def resolve (above : List (List Char)) : List (List Char) → List (List Char)
  | [] => above.reverse
  | s :: rest =>
    let isLast := rest.isEmpty
    match dots s with
    | some 1 => if isLast then ([] :: above).reverse else resolve above rest
    | some 2 => if isLast then ([] :: up above).reverse else resolve (up above) rest
    | _ => resolve (s :: above) rest

/-- The normal form of a path that begins at a slash or behind it. -/
def normalPath (k : SchemeKind) (cs : List Char) : List Char :=
  let inside := if cs.head?.any k.isSlash then cs.tail else cs
  let segments := (Text.splitAll k.isSlash inside).map (Percent.encode Percent.pathSet)
  '/' :: ['/'].intercalate (resolve [] segments)

def spanPath (k : SchemeKind) (cs : List Char) : List Char × List Char :=
  let raw := cs.takeWhile fun c => c != '?' && c != '#'
  let path := if raw.isEmpty && k == .other then [] else normalPath k raw
  (path, cs.dropWhile fun c => c != '?' && c != '#')

def query? (k : SchemeKind) : List Char → Option String
  | '?' :: cs =>
    let set := if k == .other then Percent.querySet else '\'' :: Percent.querySet
    some (String.ofList (Percent.encode set (cs.takeWhile (· != '#'))))
  | _ => none

/-! ## URLs -/

/-- The location given by `host`, `port` and what follows them. -/
def finish (k : SchemeKind) (host : String) (port : Option Nat) (rest : List Char) : Location :=
  let (path, behind) := spanPath k rest
  { host, port, path := String.ofList path, query := query? k behind }

/-- Reads what follows the `//` of a URL that is no file. -/
def ofAuthority? (k : SchemeKind) (cs : List Char) : Option Location :=
  let (authority, hasUser) := dropUser (cs.takeWhile fun c => !k.endsAuthority c)
  if authority.isEmpty && hasUser then none
  else
    let (host, behind) := spanHost false authority
    let behind := behind ++ cs.dropWhile fun c => !k.endsAuthority c
    if host.isEmpty then none
    else match if k == .other then opaqueHost? host else webHost? host with
      | none => none
      | some name =>
        match port? behind with
        | none => none
        | some (port, rest) =>
          let shown := if port.any fun n => k == .web n then none else port
          some (finish k name shown rest)

/-- Reads what follows the `//` of a file. The machine that a path is on locally is no host, and
neither is one before the path of a drive. -/
def ofFile? (cs : List Char) : Option Location :=
  let isEnd := fun c => c == '/' || c == '\\' || c == '?' || c == '#'
  let host := cs.takeWhile (!isEnd ·)
  if host.isEmpty || isDrive host then none
  else match webHost? host with
    | none => none
    | some "localhost" => none
    | some name =>
      let l := finish .file name none (cs.dropWhile (!isEnd ·))
      let inside := l.path.toList.tail
      if isDrive (inside.takeWhile (· != '/')) then none
      else some { l with path := String.ofList ('/' :: inside.dropWhile (· == '/')) }

/-- The scheme in small letters, and what follows its `:`. -/
def scheme? (cs : List Char) : Option (String × List Char) :=
  match Text.splitOnce (· == ':') cs with
  | some (name, rest) =>
    if name.head?.any Char.isAlpha &&
        name.all fun c => c.isAlphanum || c == '+' || c == '-' || c == '.'
    then some (Text.asciiLower (String.ofList name), rest)
    else none
  | none => none

/-- The text without control characters and spaces at its ends and without line ends and tabs. -/
def cleaned (cs : List Char) : List Char :=
  let blank := fun c : Char => c.toNat ≤ 0x20
  let trimmed := ((cs.dropWhile blank).reverse.dropWhile blank).reverse
  trimmed.filter fun c => c != '\t' && c != '\n' && c != '\r'

/-- The location of an absolute URL; `none` when `text` is no URL or has no host. -/
def parse? (text : String) : Option Location :=
  match scheme? (cleaned text.toList) with
  | none => none
  | some (scheme, rest) =>
    match SchemeKind.ofName scheme with
    | .web port => ofAuthority? (.web port) (rest.dropWhile fun c => c == '/' || c == '\\')
    | .file =>
      match rest with
      | a :: b :: behind =>
        if SchemeKind.file.isSlash a && SchemeKind.file.isSlash b then ofFile? behind else none
      | _ => none
    | .other =>
      match rest with
      | '/' :: '/' :: behind => ofAuthority? .other behind
      | _ => none

end Location

end StreamPolicy.Url
