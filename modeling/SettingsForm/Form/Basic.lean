import SettingsForm.Catalog.Item

/-!
# The form

A form shows every item of the catalog in its section as a block: a text input, a drop-down, a group
of inputs for an item with several values, or the fault of an item that cannot be shown. It says what
is on the screen without saying how it is drawn.
-/

namespace SettingsForm

/-- Something that a control offers beside its input. -/
inductive Affordance where
  | browse (controlId : String)
  | remove (groupId instanceId : String)
  deriving Repr, DecidableEq, Inhabited

/-- A labelled text input. -/
structure Input where
  id : String
  label : String
  description : String
  value : String
  size : Option Nat
  disabled : Bool
  affordances : List Affordance
  deriving Repr, DecidableEq, Inhabited

/-- A labelled drop-down. -/
structure Select where
  id : String
  label : String
  description : String
  options : List SelectOption
  selected : String
  disabled : Bool
  deriving Repr, DecidableEq, Inhabited

/-- The place of the selected value among the options, if it is one of them. -/
def Select.selectedIndex? (s : Select) : Option Nat :=
  s.options.findIdx? fun o => o.value = s.selected

/-- What the inputs of a group have in common. -/
structure InstanceTemplate where
  label : String
  description : String
  size : Option Nat
  browse : Bool
  disabled : Bool
  deriving Repr, DecidableEq, Inhabited

/-- One input of a group. Its id is the group's id with the suffix after it. -/
structure Instance where
  suffix : UInt32
  input : Input
  deriving Repr, DecidableEq, Inhabited

/-- The instance with another value. -/
def Instance.withValue (i : Instance) (value : String) : Instance :=
  { i with input := { i.input with value } }

/-- The inputs of an item that may have several values. -/
structure Group where
  baseId : String
  instances : List Instance
  addLabel : String
  disabled : Bool
  template : InstanceTemplate
  deriving Repr, DecidableEq, Inhabited

/-- What a block shows. -/
inductive BlockBody where
  | input (input : Input)
  | select (select : Select)
  | group (group : Group)
  | fault (message : String)
  deriving Repr, DecidableEq, Inhabited

/-- All that is shown for one item. -/
structure Block where
  itemId : String
  advanced : Bool
  hidden : Bool
  body : BlockBody
  deriving Repr, DecidableEq, Inhabited

/-- A section of the form; one of them also shows where the server's configuration file is. -/
structure FormSection where
  name : String
  configPath : Option String
  items : List Block
  deriving Repr, DecidableEq, Inhabited

/-- The buttons of a form that can be saved. -/
inductive FormAction where
  | save
  | cancel
  deriving Repr, DecidableEq, Inhabited

/-- The platform decides in which order the buttons stand. -/
inductive Platform where
  | macOs
  | other
  deriving Repr, DecidableEq, Inhabited

def Platform.buttons : Platform → List FormAction
  | .macOs => [.cancel, .save]
  | .other => [.save, .cancel]

/-- The buttons of a form, or why there are none. -/
inductive ActionBar where
  | editable (buttons : List FormAction)
  | readOnly (warning : String)
  deriving Repr, DecidableEq, Inhabited

/-- The form of a server's settings. -/
structure Form where
  sections : List FormSection
  actions : ActionBar
  showAdvanced : Bool
  deriving Repr, DecidableEq, Inhabited

namespace Form

/-- All blocks in document order. -/
def blocks (f : Form) : List Block := f.sections.flatMap FormSection.items

/-- The first block of an item. -/
def block? (f : Form) (itemId : String) : Option Block := f.blocks.find? fun b => b.itemId = itemId

/-- The group of an item, if its block is one. -/
def group? (f : Form) (itemId : String) : Option Group :=
  match f.block? itemId with
  | some { body := .group g, .. } => some g
  | _ => none

/-- The form can be edited and saved. -/
def isWritable (f : Form) : Bool :=
  match f.actions with
  | .editable _ => true
  | .readOnly _ => false

end Form

/-- Replaces the first member of a list that has a replacement. -/
def replaceFirst? {α : Type} (f : α → Option α) : List α → Option (List α)
  | [] => none
  | a :: rest =>
    match f a with
    | some b => some (b :: rest)
    | none => (replaceFirst? f rest).map (a :: ·)

namespace Form

/-- Replaces the first block that has a replacement. -/
def replaceBlock? (f : Form) (change : Block → Option Block) : Option Form :=
  (replaceFirst? (fun s => (replaceFirst? change s.items).map fun items => { s with items })
    f.sections).map fun sections => { f with sections }

/-- Changes what the first block of an item shows, if there is such a block. -/
def updateBody (f : Form) (itemId : String) (change : BlockBody → BlockBody) : Form :=
  (f.replaceBlock? fun b =>
    if b.itemId = itemId then some { b with body := change b.body } else none).getD f

end Form

end SettingsForm
