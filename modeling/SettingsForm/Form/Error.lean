import SettingsForm.Markup.Fault
import SettingsForm.Preferences
import SettingsForm.Text.Quoted

/-!
# What can go wrong with a form

Every way in which loading, editing or saving a form fails, by cause, and the wording of each.
-/

namespace SettingsForm

/-- Where a session stands between loading its form and saving it. -/
inductive Phase where
  | loadingSchema
  | loadingStatus
  | loadingValues
  | rendered
  | editing
  | saving
  | cancelling
  deriving Repr, DecidableEq, Inhabited

def Phase.description : Phase → String
  | .loadingSchema => "loading the schema"
  | .loadingStatus => "loading server stats"
  | .loadingValues => "loading values"
  | .rendered => "rendered"
  | .editing => "editing"
  | .saving => "saving"
  | .cancelling => "cancelling"

/-- What a session can do with a loaded form. -/
inductive Operation where
  | edit
  | addInstance
  | removeInstance
  | toggleAdvanced
  | save
  | cancel
  deriving Repr, DecidableEq, Inhabited

def Operation.description : Operation → String
  | .edit => "edit"
  | .addInstance => "add an instance"
  | .removeInstance => "remove an instance"
  | .toggleAdvanced => "toggle advanced items"
  | .save => "save"
  | .cancel => "cancel"

/-- The documents that a session loads. -/
inductive DocumentKind where
  | schema
  | status
  | values
  deriving Repr, DecidableEq, Inhabited

def DocumentKind.description : DocumentKind → String
  | .schema => "schema"
  | .status => "stats"
  | .values => "values"

/-- Why the server gave no answer. -/
inductive TransportFault where
  | request (url : String)
  | status (url : String) (code : Nat)
  | unavailable (path : String)
  deriving Repr, DecidableEq

/-- The message; what the network reports is not part of it. -/
def TransportFault.message : TransportFault → String
  | .request url => "request to " ++ url ++ " failed: "
  | .status url code => "HTTP error " ++ toString code ++ ": " ++ url
  | .unavailable path => "no response available for " ++ path

/-- Why an operation on a form failed. -/
inductive FormError where
  | transport (fault : TransportFault)
  | document (kind : DocumentKind) (fault : Markup.DocumentFault)
  | preferences (fault : PreferenceFault)
  | invalidPhase (operation : Operation) (phase : Phase)
  | notWritable
  | unknownControl (id : String)
  | unknownItem (id : String)
  | unknownOption (item value : String)
  | notMultiple (id : String)
  | reconcileOverrun (group : String) (expected actual : Nat)
  | saveRejected (status : Option String)
  deriving Repr, DecidableEq

namespace FormError

def message : FormError → String
  | .transport fault => fault.message
  | .document kind fault => "failed to parse " ++ kind.description ++ ": " ++ fault.message
  | .preferences fault => fault.message
  | .invalidPhase operation phase =>
    "cannot " ++ operation.description ++ " while " ++ phase.description
  | .notWritable => "configuration file is not writable"
  | .unknownControl id => "unknown control: " ++ id
  | .unknownItem id => "unknown item: " ++ id
  | .unknownOption item value => "item " ++ item ++ " has no option " ++ Text.quote value
  | .notMultiple id => "item " ++ id ++ " is not multi-valued"
  | .reconcileOverrun group expected actual =>
    "control group " ++ group ++ " stuck at " ++ toString actual ++ " instances (expected " ++
      toString expected ++ ")"
  | .saveRejected status =>
    "server rejected the update (status " ++ Text.quoteOption status ++ ")"

/-- The messages under an error's own message, each the cause of the one before it. -/
def causes : FormError → List String
  | .document _ fault => fault.message :: fault.causes
  | .preferences fault => fault.causes
  | _ => []

end FormError

end SettingsForm
