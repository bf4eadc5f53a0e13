import SettingsForm.Form.Basic
import SettingsForm.Json

/-!
# Forms as JSON

The parts of a form as JSON objects. What an input offers is told apart by its action, and what a
block shows by its control.
-/

namespace SettingsForm

def SelectOption.toJson (o : SelectOption) : Json :=
  .object [("value", .string o.value), ("label", .string o.label)]

def Affordance.toJson : Affordance → Json
  | .browse controlId => .object [("action", .string "browse"), ("control_id", .string controlId)]
  | .remove groupId instanceId =>
    .object [("action", .string "remove"), ("group_id", .string groupId),
      ("instance_id", .string instanceId)]

def Input.members (i : Input) : List (String × Json) :=
  [("id", .string i.id), ("label", .string i.label), ("description", .string i.description),
    ("value", .string i.value), ("size", .ofOption .number i.size), ("disabled", .bool i.disabled),
    ("affordances", .array (i.affordances.map Affordance.toJson))]

def Select.members (s : Select) : List (String × Json) :=
  [("id", .string s.id), ("label", .string s.label), ("description", .string s.description),
    ("options", .array (s.options.map SelectOption.toJson)), ("selected", .string s.selected),
    ("disabled", .bool s.disabled)]

def Instance.toJson (i : Instance) : Json :=
  .object [("suffix", .number i.suffix.toNat), ("input", .object i.input.members)]

/-- The action that adds an input to a group. -/
def Group.addJson (g : Group) : Json :=
  .object [("action", .string "add"), ("group_id", .string g.baseId), ("label", .string g.addLabel)]

def Group.members (g : Group) : List (String × Json) :=
  [("base_id", .string g.baseId), ("instances", .array (g.instances.map Instance.toJson)),
    ("add", g.addJson), ("disabled", .bool g.disabled)]

def BlockBody.toJson : BlockBody → Json
  | .input i => .object (("control", .string "input") :: i.members)
  | .select s => .object (("control", .string "select") :: s.members)
  | .group g => .object (("control", .string "group") :: g.members)
  | .fault message => .object [("control", .string "fault"), ("message", .string message)]

def Block.toJson (b : Block) : Json :=
  .object [("item_id", .string b.itemId), ("advanced", .bool b.advanced), ("hidden", .bool b.hidden),
    ("body", b.body.toJson)]

def FormSection.toJson (s : FormSection) : Json :=
  .object [("name", .string s.name), ("config_path", .ofOption .string s.configPath),
    ("items", .array (s.items.map Block.toJson))]

def FormAction.name : FormAction → String
  | .save => "save"
  | .cancel => "cancel"

def ActionBar.toJson : ActionBar → Json
  | .editable buttons =>
    .object [("editable", .object [("buttons", Json.strings (buttons.map FormAction.name))])]
  | .readOnly warning => .object [("read_only", .object [("warning", .string warning)])]

def Form.toJson (f : Form) : Json :=
  .object [("sections", .array (f.sections.map FormSection.toJson)), ("actions", f.actions.toJson),
    ("show_advanced", .bool f.showAdvanced)]

end SettingsForm
