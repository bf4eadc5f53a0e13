import SettingsForm.Markup.Document

/-!
# The server's status

What the form needs of the server's own report: where the configuration file is, and whether the
server accepts changes to it.
-/

namespace SettingsForm

open Markup

/-- The part of the server's status that the form shows or depends on. -/
structure ServerStatus where
  configPath : String
  writable : Bool
  deriving Repr, DecidableEq, Inhabited

namespace ServerStatus

def unknown : ServerStatus := ⟨"", false⟩

/-- The status below a root element; a server that does not say so accepts no changes. -/
def ofRoot (root : Element) : ServerStatus where
  configPath := ((root.find? "config_path").map fun e => Text.trim e.text).getD ""
  writable :=
    match root.find? "writable_config" with
    | some e => Text.trim e.text = "1"
    | none => false

/-- The status that a stats document reports. -/
def ofDocument (document : String) : Except DocumentFault ServerStatus :=
  match parse document with
  | .ok root => .ok (ofRoot root)
  | .error fault => .error fault

end ServerStatus

end SettingsForm
