import SettingsForm.Text.Number
import SettingsForm.Text.Quoted

/-!
# Arguments

The command line names the settings of a run, then a command, then what belongs to the command. The
first fault from left to right is reported. The value of a setting is looked at when the next setting
begins or else after the whole command was read, so that a fault of the command comes before it.
-/

namespace SettingsForm.CommandLine

/-- What a run can be told before its command. -/
inductive Setting where
  | server
  | password
  | prefs
  | timeout
  | fixtures
  deriving Repr, DecidableEq, Inhabited

namespace Setting

def all : List Setting := [.server, .password, .prefs, .timeout, .fixtures]

def name : Setting → String
  | .server => "server"
  | .password => "password"
  | .prefs => "prefs"
  | .timeout => "timeout"
  | .fixtures => "fixtures"

def letter? : Setting → Option Char
  | .server => some 's'
  | .password => some 'p'
  | _ => none

/-- How messages name the setting. -/
def display (s : Setting) : String :=
  "--" ++ s.name ++ " <" ++ s.name.map Char.toUpper ++ ">"

def named? (name : String) : Option Setting := all.find? fun s => s.name = name

def lettered? (c : Char) : Option Setting := all.find? fun s => s.letter? = some c

end Setting

/-- The settings that were given. -/
structure Settings where
  server : Option String
  password : Option String
  prefs : Option String
  timeout : Option Nat
  fixtures : Option String
  deriving Repr, DecidableEq, Inhabited

/-- What to do. -/
inductive Command where
  | edit
  | show (json advanced : Bool)
  | set (assignments : List (String × String))
  deriving Repr, DecidableEq, Inhabited

/-- A command line that was understood. -/
structure Arguments where
  settings : Settings
  command : Command
  deriving Repr, DecidableEq, Inhabited

/-- What is wrong with a command line. -/
inductive UsageFault where
  | unknownCommand (word : String)
  | noCommand
  | unexpectedArgument (argument : String)
  | unexpectedValue (value flag : String)
  | missingValue (setting : Setting)
  | repeated (display : String)
  | invalidValue (value display reason : String)
  | noAssignments
  deriving Repr, DecidableEq, Inhabited

def UsageFault.message : UsageFault → String
  | .unknownCommand word => "unrecognized subcommand '" ++ word ++ "'"
  | .noCommand => "'ffadmin' requires a subcommand but one was not provided"
  | .unexpectedArgument argument => "unexpected argument '" ++ argument ++ "' found"
  | .unexpectedValue value flag =>
    "unexpected value '" ++ value ++ "' for '" ++ flag ++ "' found; no more were expected"
  | .missingValue setting =>
    "a value is required for '" ++ setting.display ++ "' but none was supplied"
  | .repeated display => "the argument '" ++ display ++ "' cannot be used multiple times"
  | .invalidValue value display reason =>
    "invalid value '" ++ value ++ "' for '" ++ display ++ "': " ++ reason
  | .noAssignments => "the following required arguments were not provided:"

/-- Why a command line is not carried out. -/
inductive Halt where
  | version
  | help
  | about
  | fault (fault : UsageFault)
  deriving Repr, DecidableEq, Inhabited

abbrev Parsed (α : Type) := Except Halt α

def refuse {α : Type} (fault : UsageFault) : Parsed α := .error (.fault fault)

/-! ## The form of an argument -/

/-- An argument by its form. -/
inductive Token where
  | escape
  | long (name : String) (value : Option String)
  | short (letters : List Char)
  | word (text : String)
  deriving Repr, DecidableEq, Inhabited

/-- Splits at the first equals sign. -/
def splitAssignment? (cs : List Char) : Option (List Char × List Char) :=
  match cs.dropWhile (· ≠ '=') with
  | [] => none
  | _ :: value => some (cs.takeWhile (· ≠ '='), value)

/-- The form of an argument. A single dash is a word. -/
def Token.ofArgument (argument : String) : Token :=
  match argument.toList with
  | ['-', '-'] => .escape
  | '-' :: '-' :: cs =>
    match splitAssignment? cs with
    | some (name, value) => .long (String.ofList name) (some (String.ofList value))
    | none => .long (String.ofList cs) none
  | '-' :: c :: cs => .short (c :: cs)
  | _ => .word argument

/-! ## Settings -/

namespace Settings

def empty : Settings := ⟨none, none, none, none, none⟩

/-- The setting was given. -/
def has (s : Settings) : Setting → Bool
  | .server => s.server.isSome
  | .password => s.password.isSome
  | .prefs => s.prefs.isSome
  | .timeout => s.timeout.isSome
  | .fixtures => s.fixtures.isSome

/-- No setting was given. -/
def isEmpty (s : Settings) : Bool := !Setting.all.any s.has

/-- Takes over the value of a setting. A path is never empty, and a time limit is a number of seconds
in sixty-four bits. -/
def give (s : Settings) (setting : Setting) (value : String) : Parsed Settings :=
  if s.has setting then refuse (.repeated setting.display)
  else
    let path (settings : Settings) : Parsed Settings :=
      if value.isEmpty then refuse (.missingValue setting) else .ok settings
    match setting with
    | .server => .ok { s with server := some value }
    | .password => .ok { s with password := some value }
    | .prefs => path { s with prefs := some value }
    | .fixtures => path { s with fixtures := some value }
    | .timeout =>
      match Text.readUnsigned Text.bound64 value.toList with
      | .ok seconds => .ok { s with timeout := some seconds }
      | .error fault => refuse (.invalidValue value setting.display fault.message)

end Settings

/-- Settings that were read, and the last one while its value has not been looked at. -/
structure Reading where
  settings : Settings
  open? : Option (Setting × Option String)
  deriving Repr, DecidableEq, Inhabited

namespace Reading

/-- Looks at the value of the last setting. -/
def close (r : Reading) : Parsed Settings :=
  match r.open? with
  | none => .ok r.settings
  | some (setting, none) => refuse (.missingValue setting)
  | some (setting, some value) => r.settings.give setting value

/-- Begins a setting; a value that is attached to it is looked at right away. -/
def beginSetting (r : Reading) (setting : Setting) (attached : Option String) : Parsed Reading := do
  let settings ← r.close
  match attached with
  | none => return ⟨settings, some (setting, none)⟩
  | some value => return ⟨← settings.give setting value, none⟩

/-- Stops to say something instead of running a command. -/
def stop (r : Reading) (halt : Halt) (flag : String) (attached : Option String) :
    Parsed Reading :=
  match attached with
  | some value => refuse (.unexpectedValue value flag)
  | none =>
    match r.close with
    | .ok _ => .error halt
    | .error e => .error e

/-- Reads a long name. -/
def long (r : Reading) (name : String) (attached : Option String) : Parsed Reading :=
  match Setting.named? name with
  | some setting => r.beginSetting setting attached
  | none =>
    if name = "version" then r.stop .version "--version" attached
    else if name = "help" then r.stop .help "--help" attached
    else refuse (.unexpectedArgument ("--" ++ name))

/-- Reads a letter; what stands behind the letter of a setting is its value. -/
def short (r : Reading) : List Char → Parsed Reading
  | [] => .ok r
  | c :: cs =>
    match Setting.lettered? c with
    | some setting =>
      let attached :=
        match cs with
        | [] => none
        | '=' :: value => some (String.ofList value)
        | value => some (String.ofList value)
      r.beginSetting setting attached
    | none =>
      if c = 'V' then r.stop .version "--version" none
      else if c = 'h' then r.stop .help "--help" none
      else refuse (.unexpectedArgument ("-" ++ c.toString))

end Reading

/-! ## Commands -/

/-- The names of commands. -/
inductive CommandName where
  | edit
  | show
  | set
  | help
  deriving Repr, DecidableEq, Inhabited

def CommandName.named? (word : String) : Option CommandName :=
  if word = "edit" then some .edit
  else if word = "show" then some .show
  else if word = "set" then some .set
  else if word = "help" then some .help
  else none

/-- A name given to a command that does not know it. -/
def unknownFlag {α : Type} : Token → Parsed α
  | .long "help" none => .error .help
  | .long "help" (some value) => refuse (.unexpectedValue value "--help")
  | .long name _ => refuse (.unexpectedArgument ("--" ++ name))
  | .short ('h' :: _) => .error .help
  | .short (c :: _) => refuse (.unexpectedArgument ("-" ++ c.toString))
  | .short [] => refuse (.unexpectedArgument "-")
  | .escape => refuse (.unexpectedArgument "--")
  | .word text => refuse (.unexpectedArgument text)

/-- After a double dash every argument is a word, and a command without words takes none. -/
def noWords {α : Type} (value : α) : List String → Parsed α
  | [] => .ok value
  | word :: _ => refuse (.unexpectedArgument word)

def readEdit : List String → Parsed Command
  | [] => .ok .edit
  | argument :: rest =>
    match Token.ofArgument argument with
    | .escape => noWords .edit rest
    | token => unknownFlag token

/-- Turns a flag on, once. -/
def turnOn (flag : String) (given : Bool) : Parsed Bool :=
  if given then refuse (.repeated flag) else .ok true

/-- Reads the letters of `show`. -/
def readShowLetters (advanced : Bool) : List Char → Parsed Bool
  | [] => .ok advanced
  | c :: cs =>
    if c = 'a' then
      match turnOn "--advanced" advanced with
      | .ok advanced => readShowLetters advanced cs
      | .error e => .error e
    else unknownFlag (.short (c :: cs))

def readShow (json advanced : Bool) : List String → Parsed Command
  | [] => .ok (.show json advanced)
  | argument :: rest =>
    match Token.ofArgument argument with
    | .escape => noWords (.show json advanced) rest
    | .long "json" none =>
      match turnOn "--json" json with
      | .ok json => readShow json advanced rest
      | .error e => .error e
    | .long "json" (some value) => refuse (.unexpectedValue value "--json")
    | .long "advanced" none =>
      match turnOn "--advanced" advanced with
      | .ok advanced => readShow json advanced rest
      | .error e => .error e
    | .long "advanced" (some value) => refuse (.unexpectedValue value "--advanced")
    | .short letters =>
      match readShowLetters advanced letters with
      | .ok advanced => readShow json advanced rest
      | .error e => .error e
    | token => unknownFlag token

/-- The words of `set`. -/
def readWords : List String → Parsed (List String)
  | [] => .ok []
  | argument :: rest =>
    match Token.ofArgument argument with
    | .escape => .ok rest
    | .word text => (readWords rest).map (text :: ·)
    | token => unknownFlag token

/-- A key and its value, with an equals sign between them. -/
def readAssignment (text : String) : Parsed (String × String) :=
  let invalid (reason : String) : Parsed (String × String) :=
    refuse (.invalidValue text "<ASSIGNMENTS>..." (reason ++ Text.quote text))
  match splitAssignment? text.toList with
  | none => invalid "expected KEY=VALUE, got "
  | some ([], _) => invalid "empty key in "
  | some (key, value) => .ok (String.ofList key, String.ofList value)

def readSet (arguments : List String) : Parsed Command := do
  let words ← readWords arguments
  let assignments ← words.mapM readAssignment
  if assignments.isEmpty then refuse .noAssignments else return .set assignments

def readCommand (name : CommandName) (arguments : List String) : Parsed Command :=
  match name with
  | .edit => readEdit arguments
  | .show => readShow false false arguments
  | .set => readSet arguments
  | .help => .error .help

/-! ## The whole command line -/

/-- A word in the place of a command. -/
def readWord (r : Reading) (word : String) (rest : List String) : Parsed (Reading × Command) :=
  match CommandName.named? word with
  | none => refuse (.unknownCommand word)
  | some name => (readCommand name rest).map fun command => (r, command)

/-- Settings, then a command. Nothing that comes after a double dash is a command. -/
def readArguments (r : Reading) : List String → Parsed (Reading × Option Command)
  | [] => .ok (r, none)
  | argument :: rest =>
    match Token.ofArgument argument, r.open? with
    | .word text, some (setting, none) =>
      readArguments { r with open? := some (setting, some text) } rest
    | .word text, _ => (readWord r text rest).map fun (r, command) => (r, some command)
    | .escape, _ =>
      match rest with
      | [] => .ok (r, none)
      | word :: _ =>
        if (CommandName.named? word).isSome then refuse (.unexpectedArgument word)
        else refuse (.unknownCommand word)
    | .long name attached, _ =>
      match r.long name attached with
      | .ok r => readArguments r rest
      | .error e => .error e
    | .short letters, _ =>
      match r.short letters with
      | .ok r => readArguments r rest
      | .error e => .error e

/-- The variables that stand in for settings that were not given. -/
def Settings.orVariables (s : Settings) (lookUp : String → Option String) : Settings :=
  { s with
    server := s.server.or (lookUp "FFADMIN_SERVER")
    password := s.password.or (lookUp "FFADMIN_PASSWORD") }

/-- Reads a command line. One that says nothing at all is answered with what the program is for. -/
def Arguments.read (lookUp : String → Option String) (arguments : List String) :
    Parsed Arguments := do
  let (r, command?) ← readArguments ⟨.empty, none⟩ arguments
  let settings := (← r.close).orVariables lookUp
  match command? with
  | some command => return ⟨settings, command⟩
  | none => if settings.isEmpty then .error .about else refuse .noCommand

end SettingsForm.CommandLine
