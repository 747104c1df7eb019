import StreamPolicy.Expression.Evaluation
import StreamPolicy.Text.Blank
import StreamPolicy.Url.Form
import StreamPolicy.Url.Location

/-!
# Requests

A `Request` has the parts of a request for a stream that expressions can look at. It is built up by
`Step`s: `Headers.add` joins the values of one name, and `params` keeps all values of a query
parameter. `Request.resolver` is what expressions see of it.
-/

namespace StreamPolicy

/-! ## Headers -/

/-- Header values by name. -/
structure Headers where
  entries : List (String × String) := []
  deriving DecidableEq, Repr

namespace Headers

/-- Names are compared without blanks around them and without regard to letter case. -/
def normalName (name : String) : String := Text.asciiLower (Text.trimmed name)

/-- Appends `value` to the entry of `name`, which is made if need be. -/
def append (name value : String) : List (String × String) → List (String × String)
  | [] => [(name, value)]
  | (n, v) :: rest => if n == name then (n, v ++ ", " ++ value) :: rest
    else (n, v) :: append name value rest

def add (hs : Headers) (name value : String) : Headers :=
  ⟨append (normalName name) (Text.trimmed value) hs.entries⟩

/-- The value of the header `name`, whose letter case does not matter. -/
def get? (hs : Headers) (name : String) : Option String :=
  hs.entries.lookup (Text.asciiLower name)

end Headers

/-! ## Requests -/

structure Request where
  method : String := ""
  uri : String := ""
  authority : Option String := none
  path : String := ""
  rawQuery : String := ""
  peer : Option String := none
  headers : Headers := {}
  /-- Query parameters in the order of their arrival. -/
  params : List (String × String) := []
  deriving DecidableEq, Repr

namespace Request

/-- One step in building a request. -/
inductive Step
  | method (name : String)
  | uri (text : String)
  | header (name value : String)
  | query (name value : String)
  | clientIp (address : String)
  deriving DecidableEq, Repr

/-- Sets the query and adds its parameters to those that have arrived. -/
def setQuery (r : Request) (query : String) : Request :=
  { r with rawQuery := query, params := r.params ++ Url.Form.parse query }

/-- What stands before and behind the first question mark of `uri`, up to a number sign. -/
def splitPath (uri : String) : String × String :=
  let plain := uri.toList.takeWhile (· != '#')
  match Text.splitOnce (· == '?') plain with
  | some (path, query) => (String.ofList path, String.ofList query)
  | none => (String.ofList plain, "")

/-- The host with its port. -/
def authorityOf (l : Url.Location) : String :=
  match l.port with
  | some port => s!"{l.host}:{port}"
  | none => l.host

/-- Sets the address. Only an absolute one says what `authority` is. -/
def setUri (r : Request) (uri : String) : Request :=
  match Url.Location.parse? uri with
  | some l =>
    let known := { r with uri, authority := some (authorityOf l), path := l.path }
    known.setQuery (l.query.getD "")
  | none =>
    let (path, query) := splitPath uri
    let known := { r with uri, path }
    known.setQuery query

def step (r : Request) : Step → Request
  | .method name => { r with method := name }
  | .uri text => r.setUri text
  | .header name value => { r with headers := r.headers.add name value }
  | .query name value => { r with params := r.params ++ [(name, value)] }
  | .clientIp address => { r with peer := some address }

def ofSteps (steps : List Step) : Request := steps.foldl step {}

/-! ## Looking things up -/

def header (r : Request) (name : String) : Option String := r.headers.get? name

def queryValues (r : Request) (name : String) : List String :=
  (r.params.filter (·.1 == name)).map Prod.snd

def queryParam (r : Request) (name : String) : Option String := (r.queryValues name).head?

/-- The `host` header, or else the host of the address. -/
def host (r : Request) : Option String := r.header "host" <|> r.authority

def userAgent (r : Request) : Option String := r.header "user-agent"

/-- The first address that `x-forwarded-for` names. -/
def firstHop (r : Request) : Option String :=
  (r.header "x-forwarded-for").bind fun v =>
    let hop := Text.trim (v.toList.takeWhile (· != ','))
    if hop.isEmpty then none else some (String.ofList hop)

/-- The address of the peer, or else what proxies say it is. -/
def clientIp (r : Request) : Option String := r.peer <|> r.firstHop <|> r.header "x-real-ip"

/-- The value of a static field: a part of `r` that has a name of its own, or else the header of
that name, in which an underscore stands for a hyphen. -/
def fieldValue (r : Request) : String → Option String
  | "user_agent" => r.userAgent
  | "client_ip" => r.clientIp
  | "request_path" => some r.path
  | "request_url" => some r.uri
  | "request_method" => some r.method
  | "host" => r.host
  | "query_params" => some r.rawQuery
  | name => r.header (String.ofList (name.toList.map fun c => if c == '_' then '-' else c))

/-- The value of the dynamic field `key`. A header is trimmed, a query parameter is not. -/
def dynamicValue (r : Request) : Scope → String → Option String
  | .headers, key => (r.header key).map Text.trimmed
  | .query, key => r.queryParam key

def resolver (r : Request) : Resolver := ⟨r.fieldValue, r.dynamicValue⟩

/-- The context of `r` in which nothing has been captured. -/
def context (r : Request) : Context := { resolver := r.resolver }

end Request

end StreamPolicy
