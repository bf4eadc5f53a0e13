import SettingsForm.Form.Error
import SettingsForm.Text.Split

/-!
# Failed runs

Why a command fails, and how that is reported: the failure, then its causes, numbered when there are
several of them.
-/

namespace SettingsForm.CommandLine

/-- Why a command failed. -/
inductive RunFault where
  | preferences (path : String) (fault : PreferenceFault)
  | fixtures (directory : String) (fault : FileFault)
  | loading (source : String) (error : FormError)
  | nothingToSet
  | unknownSetting (key : String)
  | assignment (error : FormError)
  | saving (source : String) (error : FormError)
  deriving Repr, DecidableEq

namespace RunFault

def message : RunFault → String
  | .preferences path _ => "Failed to load " ++ path
  | .fixtures directory _ => "Failed to read fixtures in " ++ directory
  | .loading source _ => "Failed to load configuration from " ++ source
  | .nothingToSet => "nothing to set"
  | .unknownSetting key => "unknown setting: " ++ key
  | .assignment error => error.message
  | .saving source _ => "Failed to save configuration to " ++ source

/-- The messages under a fault's own message, each the cause of the one before it. -/
def causes : RunFault → List String
  | .preferences _ fault => fault.message :: fault.causes
  | .fixtures _ fault => [fault.message]
  | .loading _ error => error.message :: error.causes
  | .nothingToSet => []
  | .unknownSetting _ => []
  | .assignment error => error.causes
  | .saving _ error => error.message :: error.causes

end RunFault

/-- A number in a column of five characters. -/
def numbered (n : Nat) : String :=
  let digits := toString n
  String.ofList (List.replicate (5 - digits.length) ' ') ++ digits ++ ": "

/-- The lines of a message: some text before the first, and an indentation before every other. -/
def indented (first others message : String) : List String :=
  match Text.split '\n' message with
  | [] => [first]
  | line :: rest => (first ++ line) :: rest.map (others ++ ·)

/-- The lines that report causes. -/
def causeLines : List String → List String
  | [] => []
  | [cause] => indented "    " "    " cause
  | causes => causes.zipIdx.flatMap fun (cause, n) => indented (numbered n) "       " cause

/-- The lines that report a fault. -/
def RunFault.report (fault : RunFault) : List String :=
  let causes := fault.causes
  Text.split '\n' ("Error: " ++ fault.message)
    ++ if causes.isEmpty then [] else ["", "Caused by:"] ++ causeLines causes

end SettingsForm.CommandLine
