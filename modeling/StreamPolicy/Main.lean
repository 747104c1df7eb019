import StreamPolicy.Cli.Run
import Std.Time.DateTime.PlainDateTime
import Std.Time.DateTime.Timestamp

/-!
# The program

Looks at the files that a run may need, takes the time, calls `Cli.run`, and carries out what comes
of it.
-/

open StreamPolicy StreamPolicy.Cli

def readState (path : String) : IO FileState := do
  match ← (IO.FS.readBinFile path).toBaseIO with
  | .ok bytes =>
    match String.fromUTF8? bytes with
    | some content => return .text content
    | none => return .unreadable "stream did not contain valid UTF-8"
  | .error (.noFileOrDirectory ..) => return .missing
  | .error e => return .unreadable (toString e)

/-- An issuer for now. Its identifiers begin with the count of milliseconds and are otherwise
random. -/
def currentIssuer : IO Issuer := do
  let stamp ← Std.Time.Timestamp.now
  let millis := stamp.toMillisecondsSinceUnixEpoch.val.toNat
  let dateTime := Std.Time.PlainDateTime.ofWallTime
    (.ofNanoseconds stamp.toNanosecondsSinceUnixEpoch)
  let time := Time.make?
    ⟨dateTime.date.year, dateTime.date.month.val.toNat, dateTime.date.day.val.toNat⟩
    ⟨dateTime.time.hour.val.toNat, dateTime.time.minute.val.toNat,
      dateTime.time.second.val.toNat, dateTime.time.nanosecond.val.toNat⟩
  let high ← IO.rand 0 0xFFF
  let low ← IO.rand 0 0x1FFFFFFFFFFFFFFF
  let time48 := millis % 0x1000000000000
  return { nextId := .ofNat ((((time48 <<< 4 ||| 7) <<< 12 ||| high) <<< 2 ||| 2) <<< 62 ||| low)
           now := time.getD Time.epoch }

/-- Writes `content` to `path`, and says why that was refused, if it was. -/
def writeState (path content : String) : IO (Option String) := do
  match ← (IO.FS.writeFile path content).toBaseIO with
  | .ok _ => return none
  | .error e => return some (toString e)

def main (args : List String) : IO UInt32 := do
  let home ← IO.getEnv "HOME"
  let given := match Invocation.read args with
    | .ok i => i.config
    | .error _ => none
  let states ← (pathsOf home given).mapM fun path => return (path, ← readState path)
  let files : Files := fun path => (states.lookup path).getD .missing
  let outcome := run { files, home, issuer := ← currentIssuer } args
  let refusal ← match outcome.written with
    | some (path, content) => writeState path content
    | none => pure none
  let outcome := outcome.conclude fun _ => refusal
  IO.print outcome.out
  IO.eprint outcome.err
  return outcome.exitCode.toUInt32
