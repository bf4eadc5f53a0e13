import SettingsForm.Form.Basic

/-!
# Cells

A row of the screen is made of cells: labels and notes, text fields, drop-downs and buttons. A cell
holds what is shown in it, which may have moved on from the form that it was drawn from.
-/

namespace SettingsForm.Screen

/-- What a button or a shortcut does. -/
inductive Action where
  | toggleAdvanced
  | save
  | cancel
  | quit
  | addInstance (groupId after : String)
  | removeInstance (groupId instanceId : String)
  | browse (controlId : String)
  | acceptPath (controlId : String)
  | discard
  | dismiss
  deriving Repr, DecidableEq, Inhabited

structure Button where
  label : String
  enabled : Bool
  action : Action
  deriving Repr, DecidableEq, Inhabited

/-- A button as it is drawn. -/
def Button.caption (b : Button) : String := "<" ++ b.label ++ ">"

/-- A field of text for the control with an id. -/
structure Field where
  controlId : String
  text : String
  width : Nat
  enabled : Bool
  deriving Repr, DecidableEq, Inhabited

/-- A drop-down for an item. A selected value that is no option has an entry of its own. -/
structure Choice where
  itemId : String
  entries : List SelectOption
  shown : Nat
  unmatched : Option String
  enabled : Bool
  deriving Repr, DecidableEq, Inhabited

namespace Choice

/-- What the entry of a value that is no option says. -/
def unmatchedLabel (value : String) : String :=
  if value.isEmpty then "(not set)" else value ++ " (not an option)"

/-- The drop-down as it is drawn. -/
def ofSelect (itemId : String) (s : Select) : Choice :=
  match s.selectedIndex? with
  | some i => ⟨itemId, s.options, i, none, !s.disabled⟩
  | none =>
    ⟨itemId, ⟨s.selected, unmatchedLabel s.selected⟩ :: s.options, 0, some s.selected, !s.disabled⟩

/-- The value of the entry that is shown. -/
def shownValue? (c : Choice) : Option String := c.entries[c.shown]?.map SelectOption.value

/-- Shows another entry and gives the value to select, if there is such an entry. Picking the value
that is no option selects nothing. -/
def pick? (c : Choice) (entry : Nat) : Option (Choice × Option String) :=
  c.entries[entry]?.map fun e =>
    ({ c with shown := entry }, if c.unmatched = some e.value then none else some e.value)

end Choice

inductive Cell where
  | label (text : String)
  | gap
  | note (text : String)
  | field (field : Field)
  | choice (choice : Choice)
  | button (button : Button)
  deriving Repr, DecidableEq, Inhabited

namespace Cell

/-- The cell can be worked with. -/
def isEnabled : Cell → Bool
  | .field f => f.enabled
  | .choice c => c.enabled
  | .button b => b.enabled
  | _ => false

def field? : Cell → Option Field
  | .field f => some f
  | _ => none

def choice? : Cell → Option Choice
  | .choice c => some c
  | _ => none

def button? : Cell → Option Button
  | .button b => some b
  | _ => none

end Cell

end SettingsForm.Screen
