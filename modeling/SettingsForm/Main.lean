import SettingsForm.CommandLine.Run
import SettingsForm.Http.Wire
import Std.Async.DNS
import Std.Async.TCP

/-!
# The program

What the program needs of the outside world: its arguments and variables, the files that it reads
and writes, the clock, the keys on standard input, and a connection to the server. Everything else
is decided elsewhere.
-/

namespace SettingsForm.Program

open Std.Async SettingsForm.CommandLine

/-! ## The server -/

/-- Receives bytes until the other side has no more. -/
partial def receiveAll (socket : TCP.Socket.Client) (received : ByteArray) : Async ByteArray := do
  match ← socket.recv? 65536 with
  | none => return received
  | some bytes => receiveAll socket (received ++ bytes)

def socketAddress (ip : Std.Net.IPAddr) (port : UInt16) : Std.Net.SocketAddress :=
  match ip with
  | .v4 addr => .v4 ⟨addr, port⟩
  | .v6 addr => .v6 ⟨addr, port⟩

/-- Connects to a host, sends a text and receives what comes back. -/
def converse (host : String) (port : UInt16) (text : String) : Async ByteArray := do
  let addresses ← DNS.getAddrInfo host (toString port)
  match addresses[0]? with
  | none => return ByteArray.empty
  | some ip =>
    let socket ← TCP.Socket.Client.mk
    socket.connect (socketAddress ip port)
    socket.send text.toUTF8
    receiveAll socket ByteArray.empty

/-- Sends a message. -/
def exchange (m : Http.Message) : IO (Option Http.Reply) := do
  match (Http.Address.ofUrl? m.url).bind fun a => a.hostAndPort?.map fun h => (a, h) with
  | none => return none
  | some (address, host, port) =>
    try
      let bytes ← (converse host port (m.encode address)).block
      return Http.Reply.read? bytes.toList
    catch _ => return none

/-- Gives up on an action after some seconds. -/
def within {α : Type} (seconds : Option Nat) (act : IO (Option α)) : IO (Option α) := do
  match seconds with
  | none => act
  | some seconds =>
    let task ← IO.asTask act
    let limit ← IO.asTask do
      IO.sleep (seconds * 1000).toUInt32
      return none
    match ← IO.waitAny [task, limit] with
    | .ok answer => return answer
    | .error _ => return none

/-- Carries out an attempt that may send messages, none of them twice. It is made again and again, each
time with the replies to all messages that it has sent before, until it sends no other. -/
partial def answering {α : Type} (timeout : Option Nat) (attempt : Http.Network → α)
    (messages : α → List Http.Message) (known : List (Http.Message × Option Http.Reply)) :
    IO α := do
  let outcome := attempt fun m => (known.find? fun k => k.1 = m).bind fun k => k.2
  match (messages outcome).find? fun m => known.all fun k => k.1 ≠ m with
  | none => return outcome
  | some m =>
    let reply ← within timeout (exchange m)
    answering timeout attempt messages (known ++ [(m, reply)])

/-! ## Files -/

def fileFault : IO.Error → FileFault
  | .permissionDenied _ _ _ => .denied
  | .inappropriateType _ 21 _ => .isDirectory
  | .inappropriateType _ _ _ => .notDirectory
  | _ => .missing

def readText (path : String) : IO (Except FileFault String) := do
  try
    let bytes ← IO.FS.readBinFile path
    match String.fromUTF8? bytes with
    | some text => return .ok text
    | none => return .error .notText
  catch e => return .error (fileFault e)

/-! ## Running -/

def now : IO Instant := do
  let t ← Std.Time.Timestamp.now
  let nanos := t.toNanosecondsSinceUnixEpoch.val
  return ⟨nanos / 1000000000, (nanos % 1000000000).toNat⟩

/-- The keys on standard input; the end of a line is the enter key. -/
def readKeys : IO (List Screen.Key) := do
  let text ← (← IO.getStdin).readToEnd
  return Screen.Key.ofChars (text.toList.map fun c => if c = '\n' then '\r' else c)

def gather (a : Arguments) : IO Surroundings := do
  let texts ← a.settings.files.mapM fun path => return (path, ← readText path)
  let forced ← IO.getEnv "CLICOLOR_FORCE"
  let keys ← if a.command = .edit then readKeys else pure []
  return {
    lookUp := fun name => if name = "CLICOLOR_FORCE" then forced else none
    fileText := fun path => ((texts.find? fun t => t.1 = path).map (·.2)).getD (.error .missing)
    writeFault? := fun _ => none
    network := fun _ => none
    now := ← now
    keys }

/-- Types keys in an editor. Each key is an attempt of its own, since a form may be saved again with the
same values. -/
def typeKeys (w : Surroundings) (timeout : Option Nat) (source : Source) (start : Editor) :
    IO Editor :=
  w.keys.foldlM (fun editor key =>
    answering timeout (fun network => editor.runKeys (source.service network) w.now [key])
      (fun after => source.messages (after.sent.drop editor.sent.length)) []) start

/-- Runs a command; an editor is opened first, and goes on with the keys. -/
def runArguments (w : Surroundings) (a : Arguments) : IO Ending := do
  let timeout := a.settings.timeout
  let ending ← answering timeout (fun network => run { w with network, keys := [] } a)
    Ending.messages []
  match a.command, ending.editor? with
  | .edit, some (source, editor) =>
    return ending.close w source (← typeKeys w timeout source editor)
  | _, _ => return ending

/-- Writes the preferences when the run has changed them. -/
def keepPreferences (w : Surroundings) (a : Arguments) (e : Ending) : IO Unit := do
  let path := a.settings.prefs.getD defaultPreferences
  match e.preferencesText? with
  | none => return ()
  | some text => if (w.fileText path).toOption ≠ some text then IO.FS.writeFile path text

end SettingsForm.Program

open SettingsForm.CommandLine SettingsForm.Program in
def main (arguments : List String) : IO UInt32 := do
  let server ← IO.getEnv "FFADMIN_SERVER"
  let password ← IO.getEnv "FFADMIN_PASSWORD"
  let lookUp (name : String) : Option String :=
    if name = "FFADMIN_SERVER" then server
    else if name = "FFADMIN_PASSWORD" then password
    else none
  match Arguments.read lookUp arguments with
  | .error halt =>
    halt.output.forM IO.println
    halt.errors.forM IO.eprintln
    return halt.exitCode.toUInt32
  | .ok a =>
    let w ← gather a
    let ending ← runArguments w a
    keepPreferences w a ending
    ending.output.forM IO.println
    ((ending.fault.map RunFault.report).getD []).forM IO.eprintln
    return ending.exitCode.toUInt32
