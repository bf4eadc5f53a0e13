import SettingsForm.Markup.Element
import SettingsForm.Text.Number
import SettingsForm.Text.Quoted

/-!
# Items

An item describes one setting: its id, which is also the key under which the setting is saved, the
texts shown beside its control, and the kind of control. An item node that describes no control has
a fault instead.
-/

namespace SettingsForm

open Markup

/-- One choice of a drop-down. -/
structure SelectOption where
  value : String
  label : String
  deriving Repr, DecidableEq, Inhabited

/-- A free text setting, which may hold several values. -/
structure TextField where
  multiple : Bool
  browse : Bool
  addLabel : String
  deriving Repr, DecidableEq, Inhabited

/-- The kind of control that a setting has. -/
inductive ItemKind where
  | text (field : TextField)
  | select (options : List SelectOption)
  deriving Repr, DecidableEq, Inhabited

/-- One setting of the server as its schema describes it. -/
structure Item where
  id : String
  name : String
  description : String
  defaultValue : Option String
  size : Option Nat
  advanced : Bool
  kind : ItemKind
  deriving Repr, DecidableEq, Inhabited

/-- Why an item node describes no setting of its own. -/
inductive FaultCause where
  | noId
  | noType
  | unknownType (name : String)
  | noOptions
  | duplicateId
  | instanceCollision (base : String)
  deriving Repr, DecidableEq

/-- A fault of the schema, with the id of the item where one is known. -/
structure ItemFault where
  itemId : Option String
  cause : FaultCause
  deriving Repr, DecidableEq

def FaultCause.message : FaultCause → String
  | .noId => "item has no id"
  | .noType => "item has no type"
  | .unknownType name => "unknown item type " ++ Text.quote name
  | .noOptions => "select item declares no options"
  | .duplicateId => "duplicate item id, keeping the first definition"
  | .instanceCollision base => "id collides with an instance of multi-valued item " ++ base

/-- The message, after the item's id where one is known. -/
def ItemFault.message (f : ItemFault) : String :=
  match f.itemId with
  | some id => "item " ++ id ++ ": " ++ f.cause.message
  | none => f.cause.message

/-- An affirmative word, in letters of any case. -/
def isFlagSet (text : String) : Bool :=
  ["1", "true", "yes", "on"].contains (Text.lowerAscii (Text.trim text))

namespace Item

/-- The setting may hold several values. -/
def isMultiple (item : Item) : Bool :=
  match item.kind with
  | .text field => field.multiple
  | .select _ => false

/-- Width of the inputs that a short text type implies. -/
def shortTextSize : Nat := 20

/-- Width of the inputs that a long text type implies. -/
def longTextSize : Nat := 80

/-- The options that an item node declares, in order. -/
def declaredOptions (node : Element) : List SelectOption :=
  (node.elementsNamed "option").map fun option =>
    ⟨(option.attribute? "value").getD "", Text.trim option.text⟩

/-- The trimmed text of a node's child, empty when there is none. -/
def childText (node : Element) (name : String) : String := (node.childText? name).getD ""

/-- A node's child holds an affirmative word. -/
def childFlag (node : Element) (name : String) : Bool :=
  match node.childText? name with
  | some text => isFlagSet text
  | none => false

/-- A text field whose type says whether it is multiple; the node's own flags add to that. -/
def textKind (node : Element) (multiple : Bool) : ItemKind :=
  .text ⟨multiple || childFlag node "multiple", childFlag node "browse",
    childText node "add_item_text"⟩

/-- The kind of control that a node declares, and the input width that its type implies. -/
def kindOf (node : Element) : Except FaultCause (ItemKind × Option Nat) :=
  let typeName := childText node "type"
  if typeName = "text" then .ok (textKind node false, none)
  else if typeName = "short_text" then .ok (textKind node false, some shortTextSize)
  else if typeName = "long_text" then .ok (textKind node false, some longTextSize)
  else if typeName = "short_text_multiple" then .ok (textKind node true, some shortTextSize)
  else if typeName = "long_text_multiple" then .ok (textKind node true, some longTextSize)
  else if typeName = "select" then
    let options := declaredOptions node
    if options.isEmpty then .error .noOptions else .ok (.select options, none)
  else if typeName = "" then .error .noType
  else .error (.unknownType typeName)

/-- The width that a node asks for: an unsigned number of 32 bits, anything else being no width. -/
def declaredSize? (node : Element) : Option Nat :=
  (node.childText? "size").bind fun text => (Text.readUnsigned Text.bound32 text.toList).toOption

/-- The trimmed id of a node, unless it is empty. -/
def idOf? (node : Element) : Option String :=
  ((node.attribute? "id").map Text.trim).filter (· ≠ "")

/-- The setting that an item node describes. -/
def ofElement (node : Element) : Except ItemFault Item :=
  match idOf? node with
  | none => .error ⟨none, .noId⟩
  | some id =>
    match kindOf node with
    | .error cause => .error ⟨some id, cause⟩
    | .ok (kind, impliedSize) =>
      .ok {
        id
        name := childText node "name"
        description := childText node "short_description"
        defaultValue := (node.child? "default_value").map Element.text
        size := (declaredSize? node).or impliedSize
        advanced := childFlag node "advanced"
        kind }

end Item

end SettingsForm
