import SettingsForm.Screen.Pane
import SettingsForm.Text.Padding

/-!
# Layers

The screen is a pile of layers: dialogs, and the open list of a drop-down. The form is a dialog whose
content is drawn from it; a path prompt, a question and an error message are dialogs too.
-/

namespace SettingsForm.Screen

abbrev Row := Pane .row Cell

/-- The inputs of a group stand below each other, and so does the message of a fault. -/
inductive BlockView where
  | row (row : Row)
  | column (rows : Pane .column (Part Row))
  deriving Repr, DecidableEq, Inhabited

instance : Widget BlockView where
  cells
    | .row r => Widget.cells r
    | .column c => Widget.cells c
  modifyCell place change
    | .row r => .row (Widget.modifyCell place change r)
    | .column c => .column (Widget.modifyCell place change c)
  takeFocus? approach
    | .row r => (Widget.takeFocus? approach r).map .row
    | .column c => (Widget.takeFocus? approach c).map .column
  moveFocus? step
    | .row r => (Widget.moveFocus? step r).map .row
    | .column c => (Widget.moveFocus? step c).map .column
  focusedCell?
    | .row r => Widget.focusedCell? r
    | .column c => Widget.focusedCell? c

abbrev SectionView := Pane .column (Part BlockView)

abbrev Body := Pane .column (Part SectionView)

inductive Content where
  | form (body : Body)
  | prompt (field : Field)
  | message (text : String)
  deriving Repr, DecidableEq, Inhabited

/-- A dialog. The focus is on one of its buttons or else in its content. -/
structure Dialog where
  title : String
  content : Content
  buttons : List Button
  focusedButton : Option Nat
  deriving Repr, DecidableEq, Inhabited

/-- The open list of the drop-down in a cell of the layer below. -/
structure Popup where
  cell : Nat
  choice : Choice
  highlighted : Nat
  deriving Repr, DecidableEq, Inhabited

inductive Layer where
  | dialog (dialog : Dialog)
  | popup (popup : Popup)
  deriving Repr, DecidableEq, Inhabited

/-! ## Drawing the form -/

def labelWidth : Nat := 24

/-- The width of a text field: that of its item within bounds. -/
def fieldWidth (size : Option Nat) : Nat := max 8 (min (size.getD 30) 60)

def noteCells (description : String) : List Cell :=
  if description.isEmpty then [] else [.note (" " ++ description)]

def affordanceCell (enabled : Bool) : Affordance → Cell
  | .browse controlId => .button ⟨"Browse", enabled, .browse controlId⟩
  | .remove groupId instanceId => .button ⟨"Remove", enabled, .removeInstance groupId instanceId⟩

def inputRow (i : Input) : Row :=
  .ofList ([.label i.label, .field ⟨i.id, i.value, fieldWidth i.size, !i.disabled⟩]
    ++ i.affordances.map (affordanceCell !i.disabled) ++ noteCells i.description)

def selectRow (itemId : String) (s : Select) : Row :=
  .ofList ([.label s.label, .choice (.ofSelect itemId s)] ++ noteCells s.description)

/-- The button that adds an input after the last one. -/
def addRow (g : Group) : Row :=
  let after := (g.instances.getLast?.map fun i => i.input.id).getD ""
  let label := if g.addLabel.isEmpty then "Add" else g.addLabel
  .ofList [.gap, .button ⟨label, !g.disabled, .addInstance g.baseId after⟩]

def blockView (b : Block) : BlockView :=
  match b.body with
  | .input i => .row (inputRow i)
  | .select s => .row (selectRow b.itemId s)
  | .group g =>
    .column (.ofList ((g.instances.map fun i => .widget (inputRow i.input)) ++ [.widget (addRow g)]))
  | .fault message => .column (.ofList [.line (b.itemId ++ ": " ++ message) .fault])

def sectionView (s : FormSection) : SectionView :=
  let path := s.configPath.toList.map fun path =>
    Part.line (Text.padRight labelWidth "Config File" ++ path) .plain
  .ofList (path ++ (s.items.filter fun b => !b.hidden).map fun b => .widget (blockView b))

/-- The form below the outcome of the last save and the warning of a read-only form. -/
def formBody (f : Form) (status : Option String) : Body :=
  let warning :=
    match f.actions with
    | .editable _ => []
    | .readOnly warning => [Part.line warning .warning]
  .ofList ((status.toList.map fun text => .line text .bold) ++ warning
    ++ f.sections.map fun s => .widget (sectionView s))

def actionButton : FormAction → Button
  | .save => ⟨"Save", true, .save⟩
  | .cancel => ⟨"Cancel", true, .cancel⟩

def formButtons (f : Form) : List Button :=
  let edits :=
    match f.actions with
    | .editable buttons => buttons.map actionButton
    | .readOnly _ => []
  ⟨if f.showAdvanced then "Hide advanced" else "Show advanced", true, .toggleAdvanced⟩
    :: edits ++ [⟨"Quit", true, .quit⟩]

namespace Dialog

/-- The dialog of a form. -/
def ofForm (f : Form) (status : Option String) : Dialog :=
  ⟨"Firefly configuration", .form (formBody f status), formButtons f, none⟩

/-! ## Other dialogs -/

/-- Asks for the value of a control. -/
def askPath (controlId current : String) : Dialog :=
  ⟨"Path for " ++ controlId, .prompt ⟨controlId, current, 60, true⟩,
    [⟨"OK", true, .acceptPath controlId⟩, ⟨"Cancel", true, .dismiss⟩], none⟩

/-- Asks before edits are lost. -/
def askDiscard : Dialog :=
  ⟨"Quit", .message "Discard unsaved changes?",
    [⟨"Discard", true, .discard⟩, ⟨"Back", true, .dismiss⟩], none⟩

def ofError (message : String) : Dialog :=
  ⟨"Error", .message message, [⟨"Ok", true, .dismiss⟩], none⟩

/-! ## Cells of a dialog -/

def cells (d : Dialog) : List Cell :=
  match d.content with
  | .form body => Widget.cells body
  | .prompt f => [.field f]
  | .message _ => []

/-- Changes the cell at a place. -/
def modifyCell (d : Dialog) (place : Nat) (change : Cell → Cell) : Dialog :=
  match d.content with
  | .form body => { d with content := .form (Widget.modifyCell place change body) }
  | .prompt f =>
    match Widget.modifyCell place change (Cell.field f) with
    | .field f => { d with content := .prompt f }
    | _ => d
  | .message _ => d

/-- The text in the field of a path prompt. -/
def promptText? (d : Dialog) : Option String :=
  match d.content with
  | .prompt f => some f.text
  | _ => none

end Dialog

namespace Layer

def dialog? : Layer → Option Dialog
  | .dialog d => some d
  | .popup _ => none

/-- The dialog of a form, not one that stands above it. -/
def isForm : Layer → Bool
  | .dialog ⟨_, .form _, _, _⟩ => true
  | _ => false

def cells : Layer → List Cell
  | .dialog d => d.cells
  | .popup _ => []

/-- The places of the cells of one kind. -/
def placesOf {α : Type} (l : Layer) (kind : Cell → Option α) : List (Nat × α) :=
  l.cells.zipIdx.filterMap fun (cell, place) => (kind cell).map fun a => (place, a)

/-- The buttons of the content in reading order, then those of the dialog. -/
def buttons : Layer → List Button
  | .dialog d => d.cells.filterMap Cell.button? ++ d.buttons
  | .popup _ => []

/-- Changes the cell at a place. -/
def modifyCell (l : Layer) (place : Nat) (change : Cell → Cell) : Layer :=
  match l with
  | .dialog d => .dialog (d.modifyCell place change)
  | .popup p => .popup p

end Layer

end SettingsForm.Screen
