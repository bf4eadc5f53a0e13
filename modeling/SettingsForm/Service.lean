import SettingsForm.Form.Error

/-!
# The server's answers

A session asks a server for three documents and sends it updates. A service answers each request
with a text or with the reason why there is none.
-/

namespace SettingsForm

/-- What a session asks of a server. -/
inductive Request where
  | schema
  | status
  | values
  | update (body : String)
  deriving Repr, DecidableEq, Inhabited

/-- Where on the server a request goes. -/
def Request.path : Request → String
  | .schema => "/config.xml"
  | .status => "/xml-rpc?method=stats"
  | .values => "/xml-rpc?method=config"
  | .update _ => "/xml-rpc?method=updateconfig"

/-- The answer to every request. -/
abbrev Service := Request → Except TransportFault String

/-- Documents that answer every request of their kind in the same way. -/
structure FixedReplies where
  schema : Option String
  status : Option String
  values : Option String
  update : Option String
  deriving Repr, DecidableEq, Inhabited

namespace FixedReplies

/-- What a server answers when it accepts an update. -/
def updateAccepted : String := "<results><status>200</status></results>"

/-- The document that answers a request. -/
def reply? (r : FixedReplies) : Request → Option String
  | .schema => r.schema
  | .status => r.status
  | .values => r.values
  | .update _ => r.update

/-- The service that gives these documents; where there is none the answer is missing. -/
def service (r : FixedReplies) : Service := fun request =>
  match r.reply? request with
  | some text => .ok text
  | none => .error (.unavailable request.path)

end FixedReplies

end SettingsForm
