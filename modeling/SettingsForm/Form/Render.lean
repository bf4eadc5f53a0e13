import SettingsForm.Catalog
import SettingsForm.Form.Basic
import SettingsForm.ServerStatus
import SettingsForm.Snapshot

/-!
# Rendering

The block of an item follows from its definition and its current value. A value that the server has
counts even when it is empty, except in a drop-down; without one the item's default counts, and an
item with several values has at least one input.
-/

namespace SettingsForm

/-- What rendering depends on besides items and values. -/
structure RenderContext where
  writable : Bool
  showAdvanced : Bool
  deriving Repr, DecidableEq, Inhabited

/-- The value of a text input: the server's, else the default, else nothing. -/
def Item.scalarValue (item : Item) (value : Option FieldValue) : String :=
  ((value.map FieldValue.toScalar).or item.defaultValue).getD ""

/-- The value of a drop-down, for which an empty value of the server is none. -/
def Item.selectValue (item : Item) (value : Option FieldValue) : String :=
  (((value.map FieldValue.toScalar).filter (· ≠ "")).or item.defaultValue).getD ""

/-- The values of a group's inputs, at least one. -/
def groupValues (value : Option FieldValue) : List String :=
  match (value.map FieldValue.toSequence).getD [] with
  | [] => [""]
  | values => values

/-- The id of an instance of a group. -/
def instanceId (baseId : String) (suffix : UInt32) : String := baseId ++ toString suffix.toNat

/-- An instance of a group, with what it offers. -/
def InstanceTemplate.build (t : InstanceTemplate) (baseId : String) (suffix : UInt32)
    (value : String) : Instance :=
  let id := instanceId baseId suffix
  { suffix
    input := {
      id
      label := t.label
      description := t.description
      value
      size := t.size
      disabled := t.disabled
      affordances := .remove baseId id :: (if t.browse then [.browse id] else []) } }

namespace Item

/-- What the inputs of an item's group have in common. -/
def template (item : Item) (field : TextField) (writable : Bool) : InstanceTemplate where
  label := item.name
  description := item.description
  size := item.size
  browse := field.browse
  disabled := !writable

/-- What the block of an item shows. -/
def body (item : Item) (value : Option FieldValue) (writable : Bool) : BlockBody :=
  match item.kind with
  | .text field =>
    if field.multiple then
      let template := item.template field writable
      .group {
        baseId := item.id
        instances := (groupValues value).mapIdx fun i v => template.build item.id i.toUInt32 v
        addLabel := field.addLabel
        disabled := !writable
        template }
    else
      .input {
        id := item.id
        label := item.name
        description := item.description
        value := item.scalarValue value
        size := item.size
        disabled := !writable
        affordances := if field.browse then [.browse item.id] else [] }
  | .select options =>
    .select {
      id := item.id
      label := item.name
      description := item.description
      options
      selected := item.selectValue value
      disabled := !writable }

/-- The block of an item. -/
def render (item : Item) (value : Option FieldValue) (ctx : RenderContext) : Block where
  itemId := item.id
  advanced := item.advanced
  hidden := item.advanced && !ctx.showAdvanced
  body := item.body value ctx.writable

end Item

/-- The block in the place of an item that cannot be shown. -/
def ItemFault.render (fault : ItemFault) (itemId : String) : Block where
  itemId
  advanced := false
  hidden := false
  body := .fault fault.message

/-- The section that also shows where the server's configuration file is. -/
def serverSectionName : String := "Server"

/-- Shown in the place of the buttons of a form that cannot be saved. -/
def readOnlyWarning : String :=
  "The configuration file is not writable. Changes cannot be saved from here."

namespace Form

/-- The block of an id that a section lists, be it registered or rejected. -/
def renderId? (catalog : Catalog) (values : Snapshot) (ctx : RenderContext) (id : String) :
    Option Block :=
  match catalog.item? id with
  | some item => some (item.render (values.lookup id) ctx)
  | none => (catalog.faultFor? id).map fun fault => fault.render id

/-- A section of the form. -/
def renderSection (catalog : Catalog) (values : Snapshot) (status : ServerStatus)
    (ctx : RenderContext) (s : CatalogSection) : FormSection where
  name := s.name
  configPath := if s.name = serverSectionName then some status.configPath else none
  items := s.itemIds.filterMap (renderId? catalog values ctx)

/-- The form of a catalog with the server's values. -/
def render (catalog : Catalog) (values : Snapshot) (status : ServerStatus) (platform : Platform)
    (showAdvanced : Bool) : Form where
  sections := catalog.sections.map (renderSection catalog values status ⟨status.writable, showAdvanced⟩)
  actions := if status.writable then .editable platform.buttons else .readOnly readOnlyWarning
  showAdvanced

end Form

end SettingsForm
