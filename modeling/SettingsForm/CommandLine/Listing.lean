import SettingsForm.CommandLine.Style
import SettingsForm.Form.Basic
import SettingsForm.Text.Padding

/-!
# Listings

A form as lines of text: under the name of each section a line for every value, with a star before
the values of advanced items. Items that the form hides are listed only on request.
-/

namespace SettingsForm.CommandLine

/-- The width of the column of labels. -/
def labelWidth : Nat := 24

/-- What stands before the lines of an item. -/
def marker (b : Block) : String := if b.advanced then "*" else " "

/-- A line with a label and what is shown for it. -/
def labelled (mark label shown : String) : String :=
  mark ++ " " ++ Text.padRight labelWidth label ++ " " ++ shown

/-- The label of the selected option, if the selected value is an option. -/
def selectedLabel (s : Select) : String :=
  ((s.selectedIndex?.bind fun i => s.options[i]?).map SelectOption.label).getD "?"

/-- The lines of an item. -/
def blockLines (colours : Bool) (b : Block) : List String :=
  let value (text : String) : String := Style.value.apply colours text
  match b.body with
  | .input i => [labelled (marker b) i.label (value i.value)]
  | .select s =>
    [labelled (marker b) s.label (value (selectedLabel s) ++ " (" ++ s.selected ++ ")")]
  | .group g => g.instances.map fun i => labelled (marker b) i.input.label (value i.input.value)
  | .fault message => ["! " ++ Style.fault.apply colours (b.itemId ++ ": " ++ message)]

/-- The lines of a section, after an empty one. -/
def sectionLines (colours all : Bool) (s : FormSection) : List String :=
  ["", Style.heading.apply colours s.name]
    ++ (s.configPath.toList.map fun path => labelled " " "Config File" path)
    ++ (s.items.filter fun b => all || !b.hidden).flatMap (blockLines colours)

/-- The lines of a form. -/
def formLines (colours all : Bool) (f : Form) : List String :=
  let warning :=
    match f.actions with
    | .editable _ => []
    | .readOnly warning => [Style.warning.apply colours warning]
  warning ++ f.sections.flatMap (sectionLines colours all)

end SettingsForm.CommandLine
