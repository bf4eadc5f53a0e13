import SettingsForm.Markup.Document

/-!
# The server's current values

A values document holds sections, and each section its fields. A field's key is its section's name
and its own, with a colon between; of two fields with one key the last value counts, in the place of
the first.
-/

namespace SettingsForm

open Markup

/-- The value of a field: its text, or the texts of its child elements. -/
inductive FieldValue where
  | scalar (text : String)
  | sequence (texts : List String)
  deriving Repr, DecidableEq, Inhabited

namespace FieldValue

/-- The value as one text, with commas between the parts of a sequence. -/
def toScalar : FieldValue → String
  | .scalar text => text
  | .sequence texts => ",".intercalate texts

/-- The value as a sequence; a single text is a sequence of one. -/
def toSequence : FieldValue → List String
  | .scalar text => [text]
  | .sequence texts => texts

/-- The value of a field element. -/
def ofElement (field : Element) : FieldValue :=
  if field.hasElements then .sequence (field.elements.map Element.text) else .scalar field.text

end FieldValue

/-- The values of the server's fields, each key once, in document order. -/
structure Snapshot where
  entries : List (String × FieldValue)
  deriving Repr, DecidableEq, Inhabited

namespace Snapshot

def empty : Snapshot := ⟨[]⟩

/-- Puts a value in the place of its key, or at the end when the key is new. -/
def insertEntry (key : String) (value : FieldValue) :
    List (String × FieldValue) → List (String × FieldValue)
  | [] => [(key, value)]
  | entry :: rest =>
    if entry.1 = key then (key, value) :: rest else entry :: insertEntry key value rest

def insert (s : Snapshot) (key : String) (value : FieldValue) : Snapshot :=
  ⟨insertEntry key value s.entries⟩

/-- The key of a field. -/
def fieldKey (sectionName fieldName : String) : String := sectionName ++ ":" ++ fieldName

/-- The fields of a document's sections, with their keys, in document order. -/
def fields (base : Element) : List (String × FieldValue) :=
  base.elements.flatMap fun group =>
    group.elements.map fun field => (fieldKey group.name field.name, FieldValue.ofElement field)

/-- The values below a root element. The sections are the children of the `config` element where
there is one, else of the root. -/
def ofRoot (root : Element) : Snapshot :=
  (fields ((root.find? "config").getD root)).foldl (fun s field => s.insert field.1 field.2) empty

/-- The values of a values document. -/
def ofDocument (document : String) : Except DocumentFault Snapshot :=
  match parse document with
  | .ok root => .ok (ofRoot root)
  | .error fault => .error fault

/-- The value under a full key. -/
def get? (s : Snapshot) (key : String) : Option FieldValue :=
  (s.entries.find? fun entry => entry.1 = key).map (·.2)

/-- The part of a key after its last colon. -/
def bareName (key : String) : String :=
  String.ofList (key.toList.reverse.takeWhile (· ≠ ':')).reverse

/-- The value of an item. An id with a colon is a full key; any other id finds the first field whose
bare name it is. -/
def lookup (s : Snapshot) (id : String) : Option FieldValue :=
  if id.toList.contains ':' then s.get? id
  else (s.entries.find? fun entry => bareName entry.1 = id).map (·.2)

end Snapshot

end SettingsForm
