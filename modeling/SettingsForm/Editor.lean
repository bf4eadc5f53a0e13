import SettingsForm.Screen.Keyboard

/-!
# The editor

The editor shows a session on the screen until the user quits. When the user asks to save, the screen
is closed, the form is saved, and the screen opens anew with the outcome above the form. Whatever
was on the screen before is gone then, also the wish to save.
-/

namespace SettingsForm

/-- A run of the editor: its screen and the requests that it has sent. A screen that does not run
any more ends it. -/
structure Editor where
  screen : Screen
  sent : List Request
  deriving Repr, DecidableEq, Inhabited

namespace Editor

/-- Opens a screen for a session that has a form. -/
def screen? (session : Session) (status : Option String) : Option Screen :=
  (Screen.ofSession? session status).map Screen.layOut

/-- The editor of a session that has a form. -/
def ofSession? (session : Session) : Option Editor :=
  (screen? session none).map fun screen => ⟨screen, []⟩

/-- What is shown after a save. -/
def saveStatus : Except FormError Unit → String
  | .ok () => "Configuration saved."
  | .error e => "Save failed: " ++ e.message

/-- Saves and opens the screen anew. -/
def saveAndReopen (e : Editor) (service : Service) : Editor :=
  let saved := e.screen.session.save service
  match screen? saved.session (saveStatus saved.result) with
  | some screen => ⟨screen, e.sent ++ saved.sent⟩
  | none => ⟨{ e.screen with session := saved.session, intent := .quit }, e.sent ++ saved.sent⟩

/-- Does what a screen that was closed asks for. -/
def settle (e : Editor) (service : Service) : Editor :=
  if e.screen.running then e
  else
    match e.screen.intent with
    | .quit => e
    | .save => e.saveAndReopen service

/-- One thing that happens on the screen; nothing happens any more once the editor has ended. -/
def step (e : Editor) (service : Service) (act : Screen → Screen) : Editor :=
  if e.screen.running then settle { e with screen := act e.screen } service else e

/-- Runs the editor on events, each at its time. -/
def run (e : Editor) (service : Service) (events : List (Instant × Screen.Event)) : Editor :=
  events.foldl (fun e event => e.step service fun s => (s.handle event.1 event.2).1) e

/-- Runs the editor on keys that were typed ahead. -/
def runKeys (e : Editor) (service : Service) (now : Instant) (keys : List Screen.Key) : Editor :=
  keys.foldl (fun e key => e.step service fun s => s.pressKey now key) e

end Editor

end SettingsForm
