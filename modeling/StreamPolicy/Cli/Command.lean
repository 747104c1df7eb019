import StreamPolicy.Cli.Reading
import StreamPolicy.Relay
import StreamPolicy.Request.Basic
import StreamPolicy.Rule.Client

/-!
# Commands

What the program can be asked to do (`Command`), the grammar in which it is asked (`grammar`), and
the command that a reading of arguments means (`Invocation.read`).
-/

namespace StreamPolicy.Cli

/-- A rule that is to be added. What a rule of one kind does not use is for rules of the other. -/
structure NewRule where
  name : String
  expression : String
  priority : Int32
  description : String
  profile : ClientProfile
  targets : RelayTargets
  deriving DecidableEq, Repr

/-- A change to the stored rules. -/
inductive RuleEdit
  | add (rule : NewRule)
  | remove (name : String)
  | setEnabled (name : String) (enabled : Bool)
  | setPriority (name : String) (priority : Int32)
  deriving DecidableEq, Repr

inductive RuleAction
  | list (json : Bool)
  | edit (e : RuleEdit)
  deriving DecidableEq, Repr

inductive Command
  | check (json : Bool)
  | test (expression : String) (request : Request)
  | detect (request : Request)
  | relay (request : Request) (source : StreamInfo)
  /-- Works on the relay mappings if `ofRelay`, or else on the client rules. -/
  | rules (ofRelay : Bool) (action : RuleAction)
  | version

/-- A command and the path of the configuration that was asked for. -/
structure Invocation where
  config : Option String
  command : Command

/-! ## Values -/

/-- Reads a whole number with or without a sign. -/
def integer? (s : String) : Option Int :=
  let natural := fun (digits : List Char) =>
    if digits.isEmpty || !digits.all Char.isDigit then none
    else some (Int.ofNat (Text.ofDigits 10 digits))
  match s.toList with
  | '-' :: digits => (natural digits).map (-·)
  | '+' :: digits => natural digits
  | digits => natural digits

def priority? (s : String) : Option Int32 :=
  (integer? s).bind fun n => decode? (.int n)

/-- Reads a header: a name that is not blank and a value, with a colon between them. -/
def header? (s : String) : Option (String × String) :=
  match Text.splitOnce (· == ':') s.toList with
  | none => none
  | some (name, value) =>
    if Text.isBlankText name then none
    else some (String.ofList (Text.trim name), String.ofList (Text.trim value))

/-- Reads names with commas between them. -/
def names? (α : Type) [Named α] (s : String) : Option (List α) :=
  ((Text.splitAll (· == ',') s.toList).map String.ofList).mapM Named.ofName?

/-! ## The grammar -/

section Options

def programName : String := "tvforge"

def versionText : String := programName ++ " 0.1.0\n"

def configOption : Opt where
  long := "config"
  short := some 'c'
  role := .value "CONFIG"
  about := "Path to config file"
  accepts := (· != "")

def verboseOption : Opt where
  long := "verbose"
  short := some 'v'
  about := "Enable verbose logging"

def helpOption : Opt where
  long := "help"
  short := some 'h'
  role := .help
  about := "Print help"

def versionOption : Opt where
  long := "version"
  short := some 'V'
  role := .version versionText
  about := "Print version"

def jsonOption (about : String) : Opt where
  long := "json"
  about := about

def urlOption : Opt where
  long := "url"
  role := .value "URL"
  about := "Request URI, absolute or path with query"
  initial := some "/"

def methodOption : Opt where
  long := "method"
  role := .value "METHOD"
  about := "HTTP method"
  initial := some "GET"

def headerOption : Opt where
  long := "header"
  short := some 'H'
  role := .value "HEADERS"
  about := "Header as \"Name: value\" (repeatable)"
  isList := true
  accepts := fun s => (header? s).isSome

def userAgentOption : Opt where
  long := "user-agent"
  short := some 'A'
  role := .value "USER_AGENT"
  about := "Shortcut for -H \"User-Agent: ...\""

def clientIpOption : Opt where
  long := "client-ip"
  role := .value "CLIENT_IP"
  about := "Client address"

def requestOptions : List Opt :=
  [configOption, urlOption, methodOption, verboseOption, headerOption, userAgentOption,
    clientIpOption]

/-- Part of what a prober says about the source. -/
def sourceOption (long shown about : String) : Opt where
  long := long
  role := .value shown
  about := about
  initial := some ""

def sourceOptions : List Opt :=
  [sourceOption "video-codec" "VIDEO_CODEC"
      "Source video codec as reported by the probe (e.g. \"hevc\")",
    sourceOption "audio-codec" "AUDIO_CODEC"
      "Source audio codec as reported by the probe (e.g. \"ac-3\")",
    sourceOption "container" "CONTAINER" "Source container (e.g. \"mpegts\")"]

def priorityOption : Opt where
  long := "priority"
  short := some 'p'
  role := .value "PRIORITY"
  initial := some "100"
  accepts := fun s => (priority? s).isSome

def descriptionOption : Opt where
  long := "description"
  role := .value "DESCRIPTION"
  initial := some ""

/-- The name of a codec or format. -/
def nameOption (α : Type) [Named α] (long shown about : String) : Opt where
  long := long
  role := .value shown
  about := about
  accepts := fun s => (Named.ofName? s : Option α).isSome

def namesOption (α : Type) [Named α] (long shown about : String) : Opt where
  long := long
  role := .value shown
  about := about
  isList := true
  accepts := fun s => (names? α s).isSome

def ruleOptions : List Opt :=
  [configOption, priorityOption, descriptionOption, verboseOption,
    nameOption VideoCodec "video-codec" "VIDEO_CODEC" "Detection: preferred video codec fallback",
    nameOption AudioCodec "audio-codec" "AUDIO_CODEC" "Detection: preferred audio codec fallback",
    nameOption StreamFormat "format" "FORMAT" "Detection: preferred stream format fallback",
    namesOption VideoCodec "accept-video" "ACCEPT_VIDEO"
      "Relay: video codecs passed through untouched",
    namesOption AudioCodec "accept-audio" "ACCEPT_AUDIO"
      "Relay: audio codecs passed through untouched",
    namesOption Container "accept-container" "ACCEPT_CONTAINER"
      "Relay: containers passed through untouched"]

def nameOperand : Operand := { shown := "<NAME>" }

def priorityOperand : Operand where
  shown := "<PRIORITY>"
  accepts := fun s => (priority? s).isSome

def plainOptions : List Opt := [configOption, verboseOption, helpOption]

/-- A command that works on the rule called `NAME`. -/
def namedRuleCommand (name about : String) : Grammar where
  name := name
  about := about
  options := plainOptions
  operands := [nameOperand]

end Options

def rulesGrammar : Grammar where
  name := "rules"
  about := "List and edit rules"
  options := [configOption,
    { long := "relay", about := "Operate on relay mappings instead of client detection rules" },
    verboseOption, helpOption]
  commands := [
    { name := "list", about := "List rules in evaluation order",
      options := [configOption, jsonOption "Output as JSON", verboseOption, helpOption] },
    { name := "add", about := "Add a user rule", options := ruleOptions ++ [helpOption],
      operands := [nameOperand, { shown := "<EXPRESSION>" }] },
    namedRuleCommand "remove" "Remove a user rule",
    namedRuleCommand "enable" "Enable a rule",
    namedRuleCommand "disable" "Disable a rule",
    { name := "priority", about := "Change the priority of a rule", options := plainOptions,
      operands := [nameOperand, priorityOperand] },
    helpCommand]

def programGrammar : Grammar where
  name := programName
  about := "IPTV relay rule engine: client detection and codec decisions"
  options := [configOption, verboseOption, helpOption, versionOption]
  commands := [
    { name := "check", about := "Validate the config file and lint every rule",
      options := [configOption, jsonOption "Output findings as JSON", verboseOption, helpOption] },
    { name := "test", about := "Evaluate a single expression against a request",
      options := requestOptions ++ [helpOption],
      operands := [{ shown := "<EXPRESSION>", about := "Expression to evaluate" }] },
    { name := "detect", about := "Run client detection for a request",
      options := requestOptions ++ [helpOption] },
    { name := "relay", about := "Decide copy or transcode for a source stream",
      options := requestOptions ++ sourceOptions ++ [helpOption] },
    rulesGrammar,
    { name := "version", about := "Display version information", options := plainOptions },
    helpCommand]

/-! ## Meaning -/

namespace Reading

/-- The request that the options of `r` describe. The client's own header comes first. -/
def request (r : Reading) : Request :=
  .ofSteps ([.method ((r.value? "method").getD "GET"), .uri ((r.value? "url").getD "/")] ++
    (r.value? "user-agent").toList.map (.header "User-Agent") ++
    ((r.values "header").filterMap header?).map (fun h => .header h.1 h.2) ++
    (r.value? "client-ip").toList.map .clientIp)

/-- What a prober says about the source. -/
def source (r : Reading) : StreamInfo where
  video := (r.value? "video-codec").getD ""
  audio := (r.value? "audio-codec").getD ""
  container := (r.value? "container").getD ""

/-- All names in the values of `option`. -/
def allNames (α : Type) [Named α] (r : Reading) (option : String) : List α :=
  (r.values option).flatMap fun value => (names? α value).getD []

def newRule (r : Reading) (name expression : String) : NewRule where
  name := name
  expression := expression
  priority := ((r.value? "priority").bind priority?).getD 100
  description := (r.value? "description").getD ""
  profile :=
    { videoCodec := (r.value? "video-codec").bind Named.ofName?
      audioCodec := (r.value? "audio-codec").bind Named.ofName?
      format := (r.value? "format").bind Named.ofName? }
  targets :=
    { acceptedVideo := r.allNames VideoCodec "accept-video"
      acceptedAudio := r.allNames AudioCodec "accept-audio"
      acceptedContainers := r.allNames Container "accept-container" }

def ruleAction? (r : Reading) (name : String) (operands : List String) : Option RuleAction :=
  match name, operands with
  | "list", [] => some (.list (r.has "json"))
  | "add", [name, expression] => some (.edit (.add (r.newRule name expression)))
  | "remove", [name] => some (.edit (.remove name))
  | "enable", [name] => some (.edit (.setEnabled name true))
  | "disable", [name] => some (.edit (.setEnabled name false))
  | "priority", [name, priority] => (priority? priority).map fun p => .edit (.setPriority name p)
  | _, _ => none

def command? (r : Reading) : Option Command :=
  match r.path.drop 1, r.operands with
  | ["check"], [] => some (.check (r.has "json"))
  | ["test"], [expression] => some (.test expression r.request)
  | ["detect"], [] => some (.detect r.request)
  | ["relay"], [] => some (.relay r.request r.source)
  | ["rules", name], operands => (r.ruleAction? name operands).map (.rules (r.has "relay"))
  | ["version"], [] => some .version
  | _, _ => none

end Reading

def Invocation.read (args : List String) : Except Halt Invocation :=
  match programGrammar.read args with
  | .error h => .error h
  | .ok r =>
    match r.command? with
    | some command => .ok { config := r.value? "config", command }
    | none => .error .refused

end StreamPolicy.Cli
