import SettingsForm.Form.Group
import SettingsForm.Text.Percent

/-!
# Updates

Saving a form sends the values of all its items in one request: fields of a key and its values, in
document order, written as `key=value` with commas between values and ampersands between fields.
-/

namespace SettingsForm

/-- The values that saving a form sends. -/
structure UpdateRequest where
  fields : List (String × List String)
  deriving Repr, DecidableEq, Inhabited

/-- The field that a block contributes, if any. -/
def Block.field? (b : Block) : Option (String × List String) :=
  match b.body with
  | .input i => some (i.id, [i.value])
  | .select s => some (s.id, [s.selected])
  | .group g => some (g.baseId, g.values)
  | .fault _ => none

/-- What saving the form would send. -/
def Form.updateRequest (f : Form) : UpdateRequest := ⟨f.blocks.filterMap Block.field?⟩

namespace UpdateRequest

/-- The values of a key, with commas between them. -/
def get? (r : UpdateRequest) (key : String) : Option String :=
  (r.fields.find? fun f => f.1 = key).map fun f => ",".intercalate f.2

/-- The written form of a field. -/
def encodeField (f : String × List String) : String :=
  Text.percentEncode f.1 ++ "=" ++ ",".intercalate (f.2.map Text.percentEncode)

/-- The written form of a request. -/
def encode (r : UpdateRequest) : String := "&".intercalate (r.fields.map encodeField)

end UpdateRequest

end SettingsForm
