import SettingsForm.CommandLine.Fault
import SettingsForm.Session
import SettingsForm.Text.Split

/-!
# Assignments

Settings are assigned by the ids of their items. The assignments are applied to the loaded form one
after the other, and the form is saved only after all of them succeeded.
-/

namespace SettingsForm.CommandLine

/-- Applies one assignment: several values are given with commas between them. -/
def assign (s : Session) (key value : String) : Except RunFault Session :=
  match s.catalog.item? key with
  | none => .error (.unknownSetting key)
  | some item =>
    let outcome :=
      if item.isMultiple then s.setItemValues key (Text.split ',' value)
      else
        match item.kind with
        | .select _ => s.select key value
        | .text _ => s.setValue key value
    match outcome.result with
    | .ok () => .ok outcome.session
    | .error e => .error (.assignment e)

/-- Applies assignments in their order, up to the first that fails. -/
def assignAll (s : Session) : List (String × String) → Except RunFault Session
  | [] => .ok s
  | (key, value) :: rest =>
    match assign s key value with
    | .ok s => assignAll s rest
    | .error e => .error e

/-- What assigning leaves: the requests that were sent, and whether the settings were saved. -/
structure Assigned where
  session : Session
  result : Except RunFault Unit
  sent : List Request

/-- Applies assignments to a loaded session and saves it. -/
def assignAndSave (s : Session) (service : Service) (source : String)
    (assignments : List (String × String)) : Assigned :=
  match assignAll s assignments with
  | .error e => ⟨s, .error e, []⟩
  | .ok edited =>
    let saved := edited.save service
    match saved.result with
    | .ok () => ⟨saved.session, .ok (), saved.sent⟩
    | .error e => ⟨saved.session, .error (.saving source e), saved.sent⟩

end SettingsForm.CommandLine
