import SettingsForm.Http.Client
import SettingsForm.Text.Number

/-!
# Messages on the wire

A message is sent to the authority that its address names, as lines of headers and a body. The
connection is closed after the reply, so that a reply without a length ends where the bytes end.
-/

namespace SettingsForm.Http

/-- Where a message goes: the host with its port, and what is asked of it. -/
structure Address where
  authority : String
  target : String
  deriving Repr, DecidableEq, Inhabited

namespace Address

/-- The scheme of the addresses that are understood. -/
def scheme : List Char := ['h', 't', 't', 'p', ':', '/', '/']

/-- The address that a URL names. What is asked for begins with a slash, and a fragment is not sent. -/
def ofUrl? (url : String) : Option Address :=
  (scheme.isPrefixOf? url.toList).bind fun rest =>
    let isAuthority (c : Char) : Bool := c ≠ '/' && c ≠ '?' && c ≠ '#'
    let authority := rest.takeWhile isAuthority
    let target := (rest.dropWhile isAuthority).takeWhile (· ≠ '#')
    let target :=
      match target with
      | '/' :: _ => target
      | _ => '/' :: target
    if authority.isEmpty then none else some ⟨String.ofList authority, String.ofList target⟩

/-- The host and the port of the authority; the port is 80 when none is given. -/
def hostAndPort? (a : Address) : Option (String × UInt16) :=
  let cs := a.authority.toList
  match cs.dropWhile (· ≠ ':') with
  | [] => some (a.authority, 80)
  | _ :: digits =>
    match Text.readNumber 10 Text.bound16 digits with
    | .ok port => some (String.ofList (cs.takeWhile (· ≠ ':')), port.toUInt16)
    | .error _ => none

end Address

/-- The text of a message to an address. -/
def Message.encode (m : Message) (a : Address) : String :=
  let header (name : String) (value : Option String) : String :=
    (value.map fun v => name ++ ": " ++ v ++ "\r\n").getD ""
  let length := toString (Text.utf8Bytes m.body.toList).length
  m.method.name ++ " " ++ a.target ++ " HTTP/1.1\r\n"
    ++ header "Host" (some a.authority)
    ++ header "Accept" (some "*/*")
    ++ header "Authorization" m.authorization
    ++ header "Content-Type" m.contentType
    ++ header "Content-Length" (if m.method = .post then some length else none)
    ++ header "Connection" (some "close")
    ++ "\r\n" ++ m.body

/-! ## Reading replies -/

/-- The lines before the first empty line, and what stands behind it. `seen` holds the line so far,
last first. -/
def headLines (seen : List Char) : List UInt8 → List (List Char) × List UInt8
  | [] => ([seen.reverse], [])
  | 13 :: 10 :: rest =>
    if seen.isEmpty then ([], rest)
    else
      let (lines, body) := headLines [] rest
      (seen.reverse :: lines, body)
  | b :: rest => headLines (Char.ofNat b.toNat :: seen) rest

/-- The name of a header, in small letters, and its value. -/
def readHeader (line : List Char) : String × String :=
  let name := (line.takeWhile (· ≠ ':')).map Char.toLower
  let value := ((line.dropWhile (· ≠ ':')).drop 1).dropWhile (· = ' ')
  (String.ofList name, String.ofList value)

/-- Where in a body of chunks the reading stands: in the length of a chunk, with its characters so
far, last first; in its content, with how much is left; or behind it. -/
inductive ChunkPlace where
  | length (seen : List Char)
  | content (left : Nat)
  | behind
  deriving Repr, DecidableEq, Inhabited

/-- The bytes of a body that comes in chunks, each with its length before it. A chunk without
content is the last. -/
def joinChunks : ChunkPlace → List UInt8 → List UInt8
  | _, [] => []
  | .length seen, b :: rest =>
    if b = 10 then
      let digits := seen.reverse.takeWhile fun c => (Text.digitValue? 16 c).isSome
      match Text.readNumber 16 Text.bound32 digits with
      | .ok (size + 1) => joinChunks (.content (size + 1)) rest
      | _ => []
    else joinChunks (.length (Char.ofNat b.toNat :: seen)) rest
  | .content left, b :: rest =>
    b :: joinChunks (if left ≤ 1 then .behind else .content (left - 1)) rest
  | .behind, b :: rest => joinChunks (if b = 10 then .length [] else .behind) rest

/-- The body that the headers describe. -/
def bodyOf (headers : List (String × String)) (bytes : List UInt8) : List UInt8 :=
  let header? (name : String) : Option String := (headers.find? fun h => h.1 = name).map (·.2)
  if header? "transfer-encoding" = some "chunked" then joinChunks (.length []) bytes
  else
    match (header? "content-length").map fun v => Text.readNumber 10 Text.bound64 v.toList with
    | some (.ok length) => bytes.take length
    | _ => bytes

/-- The reply in some bytes, if they begin with a status. -/
def Reply.read? (bytes : List UInt8) : Option Reply :=
  match headLines [] bytes with
  | ([], _) => none
  | (first :: headers, body) =>
    match Text.readNumber 10 1000 (((first.dropWhile (· ≠ ' ')).drop 1).take 3) with
    | .ok code => some ⟨code, bodyOf (headers.map readHeader) body⟩
    | .error _ => none

end SettingsForm.Http
