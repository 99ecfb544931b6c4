import RelationGateway.Cgi.Input
import RelationGateway.Gateway.Basic
import RelationGateway.Relation.Publication
import RelationGateway.Reply.Delivery
import Std.Time

/-!
# The program

Answers the one request that a web server hands over: its variables are those of the process,
its body is the standard input, and the answer goes to the standard output.
-/

namespace RelationGateway.Program

/-- A variable of the process, if its bytes hold one. -/
def assignment? (bytes : List UInt8) : Option (String × String) := do
  let (name, value) ← Delimited.cut? (Utf8.encode "=") bytes
  some (← Utf8.decode? name, ← Utf8.decode? value)

/-- The variables of the process. -/
def processVariables : IO (List (String × String)) := do
  let block ← IO.FS.readBinFile "/proc/self/environ"
  return (Delimited.segments [0] block.toList).filterMap assignment?

/-- Reads a stream until it ends, fails, or `limit` bytes are there, which come after those
read before. -/
def readStream (stream : IO.FS.Stream) : (limit : Nat) → ByteArray → IO Cgi.Source
  | 0, read => return { bytes := read.toList }
  | limit + 1, read => do
    try
      let piece ← stream.read (min 65536 (limit + 1)).toUSize
      if piece.size = 0 then return { bytes := read.toList }
      else readStream stream (limit + 1 - piece.size) (read ++ piece)
    catch e => return { bytes := read.toList, broken := some (toString e) }

/-- Bytes in small hexadecimal digits. -/
def hex (bytes : List UInt8) : String :=
  String.ofList (bytes.flatMap fun b => [Nat.digitChar (b.toNat / 16), Nat.digitChar (b.toNat % 16)])

/-- A random identifier: thirty-two digits in five groups, of which two mark the kind. -/
def newId : IO String := do
  let bytes := (← IO.getRandomBytes 16).toList
  let marked := (bytes.modify 6 fun b => b % 0x10 + 0x40).modify 8 fun b => b % 0x40 + 0x80
  let group (start length : Nat) := hex ((marked.drop start).take length)
  return String.intercalate "-" [group 0 4, group 4 2, group 6 2, group 8 2, group 10 6]

/-- Appends a text to a file. -/
def append (path text : String) : IO Unit := do
  let file ← IO.FS.Handle.mk path .append
  file.putStr text

/-- Appends audit entries to a file, one in each line. -/
def fileSink (path : String) : Audit.Sink IO where
  keep entry := do
    try
      append path entry.line
      return .ok ()
    catch e => return .error (.internal ("Failed to append audit log: " ++ toString e))

/-- The number of this process. -/
def processId : IO String := do
  let stat ← IO.FS.readFile "/proc/self/stat"
  return ((Text.segments " " stat).head?).getD ""

/-- The time as audit entries give it. -/
def timestamp : IO String := do
  let now ← Std.Time.Timestamp.now
  let time := Std.Time.DateTime.ofTimestamp now .UTC
  return time.format "uuuu-MM-dd'T'HH:mm:ss.SSSSSSSSS'Z'"

/-- The stamp of an entry of the failure log. -/
def stamp : IO Log.Stamp := do
  let now ← Std.Time.Timestamp.now
  let utc := (Std.Time.DateTime.ofTimestamp now .UTC).format "uuuu-MM-dd HH:mm:ss.SSS"
  let here ← Std.Time.DateTime.now
  let localTime := here.format "uuuu-MM-dd HH:mm:ss.SSS z"
  return { utc := utc ++ " UTC", localTime, process := ← processId }

/-- The machine that the program runs on. -/
def host : Host IO where
  newId := newId
  timestamp := timestamp
  clock := return (← IO.monoNanosNow) / 1000
  stamp := stamp
  appendLog path text := do
    try append path text
    catch e => IO.eprintln ("Failed to write error log: " ++ toString e)

/-- The receiver of the answer. -/
def receiver : IO (Receiver IO) := do
  let out ← IO.getStdout
  let attempt (action : IO Unit) : IO (Except String Unit) := do
    try
      action
      return .ok ()
    catch e => return .error (toString e)
  let write (bytes : List UInt8) := attempt (out.write (ByteArray.mk bytes.toArray))
  return { write, flush := attempt out.flush }

/-- The database that the settings name. Without one, or without a driver that reaches it,
there is none. -/
def connect (settings : Settings) : Except Failure (Database IO) :=
  match settings.databaseUrl with
  | none => .error (.misconfigured "PGBRIDGE_DATABASE_URL is not set")
  | some _ => .error (.misconfigured "no database driver is available")

/-- Answers the request with the relations of the database. If its body cannot be read or
there is no database, the request is refused. -/
def serve (settings : Settings) (environment : String) (body : Except Failure (List UInt8)) :
    IO String := do
  let sinks := settings.auditLogPath.toList.map fileSink
  let gateway : Gateway IO := { sinks, settings }
  match body, connect settings with
  | .error failure, _ => gateway.refuse host environment [] failure
  | .ok body, .error failure => gateway.refuse host environment body failure
  | .ok body, .ok db =>
    (gateway.withHandler (Publication.handler db settings)).answer host environment body

/-- Answers the request of this process. -/
def run : IO UInt32 := do
  let vars ← processVariables
  let lookup (name : String) : Option String := vars.lookup name
  let settings := Settings.ofVariables lookup
  let declared := Cgi.declaredLength (lookup "CONTENT_LENGTH")
  let limit := Cgi.readLimit declared settings.maxBodySize
  let source ← readStream (← IO.getStdin) limit.toNat .empty
  match Cgi.readReserved? source (lookup "CONTENT_LENGTH") settings.maxBodySize with
  | none =>
    IO.eprintln "capacity overflow"
    return 101
  | some body =>
    let answer ← serve settings (Cgi.write vars) body
    match ← (← receiver).deliver answer with
    | .ok () => return 0
    | .error failure =>
      IO.eprintln ("Error writing the answer: " ++ failure.message)
      return 1

end RelationGateway.Program

/-- Answers the request of this process. -/
def main : IO UInt32 := RelationGateway.Program.run
