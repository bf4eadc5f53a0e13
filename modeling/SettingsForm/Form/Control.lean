import SettingsForm.Form.Render

/-!
# Controls of a form

The controls are the inputs and drop-downs of items and the inputs of groups. An item may be named
like an instance of a group: then the item's own control is meant by the id.
-/

namespace SettingsForm

namespace Block

/-- The value of the item's own control, if the id is its. -/
def itemValue? (b : Block) (id : String) : Option String :=
  match b.body with
  | .input i => if i.id = id then some i.value else none
  | .select s => if s.id = id then some s.selected else none
  | _ => none

/-- The value of the group's input with an id. -/
def instanceValue? (b : Block) (id : String) : Option String :=
  match b.body with
  | .group g => (g.instances.find? fun i => i.input.id = id).map fun i => i.input.value
  | _ => none

/-- Sets the value of the item's text input, or of a group's where instances are meant. -/
def setValue? (b : Block) (id value : String) (instances : Bool) : Option Block :=
  match b.body with
  | .input i => if i.id = id then some { b with body := .input { i with value } } else none
  | .group g =>
    if instances then
      (replaceFirst? (fun i : Instance => if i.input.id = id then some (i.withValue value) else none)
        g.instances).map fun instances => { b with body := .group { g with instances } }
    else none
  | _ => none

/-- The ids of the block's controls. -/
def controlIds (b : Block) : List String :=
  match b.body with
  | .input i => [i.id]
  | .select s => [s.id]
  | .group g => g.instances.map fun i => i.input.id
  | .fault _ => []

/-- Shows or hides the block when it is advanced. -/
def setAdvancedVisible (b : Block) (visible : Bool) : Block :=
  if b.advanced then { b with hidden := !visible } else b

end Block

namespace Form

/-- The value of the control with an id; an item's control comes before a group's. -/
def controlValue? (f : Form) (id : String) : Option String :=
  (f.blocks.findSome? fun b => b.itemValue? id).or
    (f.blocks.findSome? fun b => b.instanceValue? id)

/-- The id is that of an item's own control. -/
def isItemControl (f : Form) (id : String) : Bool := f.blocks.any fun b => (b.itemValue? id).isSome

/-- Sets the value of the text input with an id. A drop-down is no text input, and hides an instance
with its id. -/
def setValue? (f : Form) (id value : String) : Option Form :=
  f.replaceBlock? fun b => b.setValue? id value (!f.isItemControl id)

/-- The ids of the controls in blocks that are not hidden. -/
def visibleControlIds (f : Form) : List String :=
  (f.blocks.filter fun b => !b.hidden).flatMap Block.controlIds

/-- Shows or hides all advanced blocks. -/
def setAdvancedVisible (f : Form) (visible : Bool) : Form :=
  { f with
    sections := f.sections.map fun s =>
      { s with items := s.items.map fun b => b.setAdvancedVisible visible }
    showAdvanced := visible }

end Form

end SettingsForm
