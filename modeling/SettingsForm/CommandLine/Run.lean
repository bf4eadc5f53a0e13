import SettingsForm.CommandLine.Arguments
import SettingsForm.CommandLine.Assignment
import SettingsForm.CommandLine.Listing
import SettingsForm.Editor
import SettingsForm.Form.Json
import SettingsForm.Http.Client

/-!
# Runs

A run opens the preferences, finds the configuration on a server or in a directory, loads it, and
carries out a command. It depends on its surroundings only through what is gathered here.
-/

namespace SettingsForm.CommandLine

/-- What a run finds around it. -/
structure Surroundings where
  lookUp : String → Option String
  fileText : String → Except FileFault String
  writeFault? : String → Option FileFault
  network : Http.Network
  now : Instant
  keys : List Screen.Key

/-- Where the configuration comes from. -/
inductive Source where
  | server (client : Http.Client) (address : String)
  | directory (path : String) (replies : FixedReplies)
  deriving Repr, DecidableEq, Inhabited

namespace Source

/-- How messages name the source. -/
def name : Source → String
  | .server _ address => address
  | .directory path _ => path

def service (s : Source) (network : Http.Network) : Service :=
  match s with
  | .server client _ => client.service network
  | .directory _ replies => replies.service

/-- What requests are on the network. -/
def messages (s : Source) (sent : List Request) : List Http.Message :=
  match s with
  | .server client _ => sent.map client.message
  | .directory _ _ => []

end Source

/-! ## Opening -/

def defaultServer : String := "http://localhost:3689"

def defaultPreferences : String := ".ffconfig.toml"

/-- The path of a file in a directory. -/
def joinPath (directory file : String) : String :=
  if directory.toList.getLast? = some '/' then directory ++ file else directory ++ "/" ++ file

/-- The preferences of a file; where there is no file there are none. -/
def openPreferences (w : Surroundings) (path : String) : Except RunFault PreferenceStore :=
  let load (content : Option String) : Except RunFault PreferenceStore :=
    match PreferenceStore.load ⟨content, w.writeFault? path⟩ with
    | .ok store => .ok store
    | .error fault => .error (.preferences path fault)
  match w.fileText path with
  | .ok text => load (some text)
  | .error .missing => load none
  | .error .notDirectory => load none
  | .error fault => .error (.preferences path (.access fault))

/-- The documents in a directory. -/
def readDirectory (w : Surroundings) (directory : String) : Except FileFault FixedReplies := do
  let schema ← w.fileText (joinPath directory "config.xml")
  let status ← w.fileText (joinPath directory "stats.xml")
  let values ← w.fileText (joinPath directory "values.xml")
  return ⟨some schema, some status, some values, some FixedReplies.updateAccepted⟩

/-- Where the settings of a run say that the configuration is. -/
def openSource (w : Surroundings) (s : Settings) : Except RunFault Source :=
  match s.fixtures with
  | some directory =>
    match readDirectory w directory with
    | .ok replies => .ok (.directory directory replies)
    | .error fault => .error (.fixtures directory fault)
  | none =>
    let address := s.server.getD defaultServer
    .ok (.server (.ofAddress address s.password) address)

/-- The files that a run reads. -/
def Settings.files (s : Settings) : List String :=
  s.prefs.getD defaultPreferences ::
    (s.fixtures.toList.flatMap fun directory =>
      ["config.xml", "stats.xml", "values.xml"].map (joinPath directory))

/-- A session that has loaded nothing yet, and where its configuration is. -/
structure Opened where
  session : Session
  source : Source

/-- Opens the preferences first, then the source. -/
def openSession (w : Surroundings) (s : Settings) : Except RunFault Opened := do
  let preferences ← openPreferences w (s.prefs.getD defaultPreferences)
  let source ← openSource w s
  return ⟨.start preferences .other, source⟩

/-! ## Commands -/

/-- What a run leaves: the text that it printed, why it failed if it did, its session, and the
requests that it sent. -/
structure Ending where
  output : List String
  fault : Option RunFault
  session : Option Session
  source : Option Source
  sent : List Request

namespace Ending

/-- A run that failed before anything was loaded. -/
def ofFault (fault : RunFault) : Ending := ⟨[], some fault, none, none, []⟩

def exitCode (e : Ending) : Nat := if e.fault.isSome then 1 else 0

/-- The preferences file as the run leaves it. -/
def preferencesText? (e : Ending) : Option String :=
  e.session.bind fun s => s.preferences.file.bind PreferenceFile.content

/-- What the run has sent over the network. -/
def messages (e : Ending) : List Http.Message :=
  match e.source with
  | none => []
  | some source => source.messages e.sent

end Ending

/-- The lines that `show` prints. -/
def showLines (colours json advanced : Bool) (s : Session) : List String :=
  match s.form with
  | none => []
  | some form => if json then [form.toJson.pretty 0] else formLines colours advanced form

/-- The line that `set` prints. -/
def savedLine (colours : Bool) (count : Nat) (source : String) : String :=
  Style.success.apply colours ("Saved " ++ toString count ++ " setting(s) to " ++ source)

/-- The lines that `edit` prints when it is over. -/
def editedLines (colours : Bool) (s : Session) : List String :=
  if s.phase = .editing then [Style.warning.apply colours "Unsaved changes were discarded"] else []

/-- What an editor leaves when it is over. -/
def Ending.ofEditor (w : Surroundings) (source : Source) (editor : Editor) : Ending :=
  let last := editor.screen.session
  ⟨editedLines (coloursForced w.lookUp) last, none, some last, some source, editor.sent⟩

/-- Carries out a command on a loaded session. -/
def carryOut (w : Surroundings) (source : Source) (service : Service) (s : Session) :
    Command → Ending
  | .show json advanced =>
    ⟨showLines (coloursForced w.lookUp) json advanced s, none, some s, some source, []⟩
  | .set assignments =>
    let assigned := assignAndSave s service source.name assignments
    let fault? :=
      match assigned.result with
      | .ok () => none
      | .error fault => some fault
    let output :=
      if fault?.isSome then []
      else [savedLine (coloursForced w.lookUp) assignments.length source.name]
    ⟨output, fault?, some assigned.session, some source, assigned.sent⟩
  | .edit =>
    match Editor.ofSession? s with
    | none => ⟨[], none, some s, some source, []⟩
    | some editor => .ofEditor w source (editor.runKeys service w.now w.keys)

/-- Opens and loads the configuration and carries out the command. Nothing is opened for a command
that has nothing to do. -/
def run (w : Surroundings) (a : Arguments) : Ending :=
  if a.command = .set [] then .ofFault .nothingToSet
  else
    match openSession w a.settings with
    | .error fault => .ofFault fault
    | .ok opened =>
      let service := opened.source.service w.network
      let loaded := opened.session.load service w.now
      match loaded.result with
      | .error e =>
        ⟨[], some (.loading opened.source.name e), some loaded.session, some opened.source,
          loaded.sent⟩
      | .ok () =>
        let ending := carryOut w opened.source service loaded.session a.command
        { ending with sent := loaded.sent ++ ending.sent }

namespace Ending

/-- The editor that a run without keys has opened, and where its configuration is. -/
def editor? (e : Ending) : Option (Source × Editor) :=
  e.source.bind fun source => (e.session.bind Editor.ofSession?).map fun editor => (source, editor)

/-- The run when the editor that it has opened is over. -/
def close (e : Ending) (w : Surroundings) (source : Source) (editor : Editor) : Ending :=
  { ofEditor w source editor with sent := e.sent ++ editor.sent }

end Ending

/-! ## What is printed instead of a run -/

def aboutLine : String := "Edit Firefly media server configuration"

def versionLine : String := "ffadmin 0.1.0"

namespace Halt

def exitCode : Halt → Nat
  | .version => 0
  | .help => 0
  | .about => 2
  | .fault _ => 2

/-- What is printed as output. -/
def output : Halt → List String
  | .version => [versionLine]
  | .help => [aboutLine]
  | _ => []

/-- What is printed as an error. -/
def errors : Halt → List String
  | .about => [aboutLine]
  | .fault f => ["error: " ++ f.message]
  | _ => []

end Halt

end SettingsForm.CommandLine
