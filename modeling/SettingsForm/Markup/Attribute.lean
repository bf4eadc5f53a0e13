import SettingsForm.Markup.Reference

/-!
# Attributes of a tag

The content of a tag is its name, up to the first white space, and then its attributes. White space
is only what the format itself counts as such: space, tab, carriage return and line feed.
-/

namespace SettingsForm.Markup

/-- White space between the parts of a tag. -/
def isTagSpace (c : Char) : Bool := c = ' ' || c = '\t' || c = '\r' || c = '\n'

/-- An attribute as read, with the byte at which its key begins. -/
structure Attribute where
  position : Nat
  key : List Char
  value : List Char
  deriving Repr, DecidableEq

/-- Where in an attribute the reading stands. Characters seen are kept last first. -/
inductive AttributePlace where
  | between
  | inKey (position : Nat) (seen : List Char)
  | afterKey (position : Nat) (key : List Char)
  | beforeValue (position : Nat) (key : List Char)
  | inValue (position : Nat) (key : List Char) (quote : Char) (seen : List Char)
  deriving Repr, DecidableEq

/-- The attributes read so far, last first, and where the reading stands. -/
structure AttributeReading where
  place : AttributePlace
  found : List Attribute
  deriving Repr, DecidableEq

namespace AttributeReading

def start : AttributeReading := ⟨.between, []⟩

/-- A key is complete when its equals sign is met; each key may be given once. -/
def acceptKey (r : AttributeReading) (position : Nat) (key : List Char) :
    Except TextFault AttributeReading :=
  match r.found.find? (fun a => a.key = key) with
  | some previous => .error (.attribute (.duplicated position previous.position))
  | none => .ok { r with place := .beforeValue position key }

/-- Reads the character at byte `position` of the content. -/
def step (r : AttributeReading) (position : Nat) (c : Char) : Except TextFault AttributeReading :=
  match r.place with
  | .between =>
    if isTagSpace c then .ok r else .ok { r with place := .inKey position [c] }
  | .inKey start seen =>
    if c = '=' then r.acceptKey start seen.reverse
    else if isTagSpace c then .ok { r with place := .afterKey start seen.reverse }
    else .ok { r with place := .inKey start (c :: seen) }
  | .afterKey start key =>
    if c = '=' then r.acceptKey start key
    else if isTagSpace c then .ok r
    else .error (.attribute (.expectedEquals position))
  | .beforeValue start key =>
    if isTagSpace c then .ok r
    else if c = '"' ∨ c = '\'' then .ok { r with place := .inValue start key c [] }
    else .error (.attribute (.unquotedValue position))
  | .inValue start key quote seen =>
    if c = quote then
      match resolve seen.reverse with
      | .ok value => .ok ⟨.between, ⟨start, key, value⟩ :: r.found⟩
      | .error fault => .error (.reference fault)
    else .ok { r with place := .inValue start key quote (c :: seen) }

/-- The attributes, when the content ends at byte `length`. -/
def finish (r : AttributeReading) (length : Nat) : Except TextFault (List Attribute) :=
  match r.place with
  | .between => .ok r.found.reverse
  | .inKey _ _ => .error (.attribute (.expectedEquals length))
  | .afterKey _ _ => .error (.attribute (.expectedEquals length))
  | .beforeValue _ _ => .error (.attribute (.expectedValue length))
  | .inValue _ _ quote _ => .error (.attribute (.expectedQuote length quote))

/-- Reads the rest of the content from byte `position` on. -/
def run (r : AttributeReading) (position : Nat) : List Char → Except TextFault (List Attribute)
  | [] => r.finish position
  | c :: cs =>
    match r.step position c with
    | .ok next => next.run (position + c.utf8Size) cs
    | .error fault => .error fault

end AttributeReading

/-- The name in the content of a tag. -/
def tagName (content : List Char) : List Char := content.takeWhile (!isTagSpace ·)

/-- The attributes in the content of a tag, as pairs of key and value in the order given. -/
def readAttributes (content : List Char) : Except TextFault (List (String × String)) :=
  let name := tagName content
  match AttributeReading.start.run (byteLength name) (content.drop name.length) with
  | .ok found => .ok (found.map fun a => (String.ofList a.key, String.ofList a.value))
  | .error fault => .error fault

end SettingsForm.Markup
