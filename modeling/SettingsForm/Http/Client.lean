import SettingsForm.Service
import SettingsForm.Text.Base64
import SettingsForm.Text.Percent
import SettingsForm.Text.Utf8

/-!
# Settings over HTTP

A client asks one server for its documents and posts updates to it, with the password of the
administrator when there is one. Every answer with a status from 200 to 299 is good.
-/

namespace SettingsForm.Http

inductive Method where
  | get
  | post
  deriving Repr, DecidableEq, Inhabited

def Method.name : Method → String
  | .get => "GET"
  | .post => "POST"

/-- A request as it is sent. -/
structure Message where
  method : Method
  url : String
  authorization : Option String
  contentType : Option String
  body : String
  deriving Repr, DecidableEq, Inhabited

/-- What comes back. -/
structure Reply where
  status : Nat
  body : List UInt8
  deriving Repr, DecidableEq, Inhabited

/-- A way to send messages; there may be no reply to one. -/
abbrev Network := Message → Option Reply

/-- The address of a server, and the password of its administrator. -/
structure Client where
  base : String
  password : Option String
  deriving Repr, DecidableEq, Inhabited

namespace Client

/-- The client for an address; slashes at its end do not count. -/
def ofAddress (address : String) (password : Option String) : Client :=
  ⟨String.ofList (address.toList.reverse.dropWhile (· = '/')).reverse, password⟩

/-- The credentials of the administrator. -/
def authorization (password : String) : String :=
  "Basic " ++ String.ofList (Text.base64 (Text.utf8Bytes ("admin:" ++ password).toList))

/-- Where a request goes. -/
def url (c : Client) (request : Request) : String := c.base ++ request.path

/-- The message of a request. -/
def message (c : Client) (request : Request) : Message :=
  let sent : Message := ⟨.get, c.url request, c.password.map authorization, none, ""⟩
  match request with
  | .update body =>
    { sent with method := .post, contentType := some "application/x-www-form-urlencoded", body }
  | _ => sent

/-- The text of a good reply. -/
def receive (url : String) : Option Reply → Except TransportFault String
  | none => .error (.request url)
  | some reply =>
    if 200 ≤ reply.status ∧ reply.status < 300 then .ok (Text.decode reply.body)
    else .error (.status url reply.status)

/-- The server as a service. -/
def service (c : Client) (network : Network) : Service := fun request =>
  receive (c.url request) (network (c.message request))

end Client

end SettingsForm.Http
