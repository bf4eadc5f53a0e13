import SettingsForm.Screen.Layer
import SettingsForm.Session

/-!
# The screen of the editor

The screen shows a session as a form and carries out what the user does on it. An operation that
fails is shown as an error dialog on top. An operation that changes more than a value draws the form
anew: the new form takes the place of the top layer, whatever that is. The screen closes with the
intent to quit or to save.
-/

namespace SettingsForm

/-- Why the screen is closed. -/
inductive Intent where
  | quit
  | save
  deriving Repr, DecidableEq, Inhabited

/-- The session on the screen, the outcome of the last save, and the layers, the top one first. -/
structure Screen where
  session : Session
  status : Option String
  layers : List Screen.Layer
  intent : Intent
  running : Bool
  deriving Repr, DecidableEq, Inhabited

namespace Screen

/-- Whether something on the screen could be acted upon. -/
inductive Response where
  | consumed
  | ignored
  | missing
  deriving Repr, DecidableEq, Inhabited

/-- The form of a session, when it has one. -/
def ofSession? (session : Session) (status : Option String) : Option Screen :=
  session.form.map fun form => ⟨session, status, [.dialog (.ofForm form status)], .quit, true⟩

def push (s : Screen) (d : Dialog) : Screen := { s with layers := .dialog d :: s.layers }

def pop (s : Screen) : Screen := { s with layers := s.layers.tail }

/-- Puts a new drawing of the form in the place of the top layer. -/
def refresh (s : Screen) : Screen :=
  match s.session.form with
  | none => s
  | some form => s.pop.push (.ofForm form s.status)

/-- Stops with an intent. -/
def close (s : Screen) (intent : Intent) : Screen := { s with intent, running := false }

/-- Takes over what an operation left, or shows its error. -/
def report {α : Type} (s : Screen) (o : Outcome α) (proceed : Screen → Screen) : Screen :=
  let s := { s with session := o.session }
  match o.result with
  | .ok _ => proceed s
  | .error e => s.push (.ofError e.message)

/-! ## Actions -/

/-- Leaves the screen; edits that were not saved are asked about first. -/
def quit (s : Screen) : Screen :=
  if s.session.phase = .editing then s.push .askDiscard else s.close .quit

/-- Leaves the screen in order to save. -/
def save (s : Screen) : Screen :=
  if s.session.form.any Form.isWritable then s.close .save
  else s.push (.ofError FormError.notWritable.message)

/-- Stores a path in a control and closes the prompt. -/
def storePath (s : Screen) (controlId path : String) : Screen :=
  s.pop.report (s.session.setValue controlId path) refresh

/-- The text of the prompt at the bottom of all prompts. -/
def promptText (s : Screen) : String :=
  ((s.layers.filterMap fun l => l.dialog?.bind Dialog.promptText?).getLast?).getD ""

/-- Does what a button or a shortcut stands for. -/
def perform (s : Screen) (now : Instant) : Action → Screen
  | .toggleAdvanced => s.report (s.session.toggleAdvanced now) refresh
  | .save => s.save
  | .cancel => s.report s.session.cancel refresh
  | .quit => s.quit
  | .addInstance groupId after => s.report (s.session.addInstance groupId after) refresh
  | .removeInstance groupId instanceId =>
    s.report (s.session.removeInstance groupId instanceId) refresh
  | .browse controlId =>
    let current := s.session.form.bind fun f => f.controlValue? controlId
    s.push (.askPath controlId (current.getD ""))
  | .acceptPath controlId => s.storePath controlId s.promptText
  | .discard => s.close .quit
  | .dismiss => s.pop

/-! ## The top layer -/

/-- The member of the top layer's cells of one kind that comes after `n` others. -/
def cellAt? {α : Type} (s : Screen) (kind : Cell → Option α) (n : Nat) : Option (Nat × α) :=
  s.layers.head?.bind fun l => (l.placesOf kind)[n]?

/-- Changes a cell of the top layer. -/
def modifyCell (s : Screen) (place : Nat) (change : Cell → Cell) : Screen :=
  match s.layers with
  | [] => s
  | top :: rest => { s with layers := top.modifyCell place change :: rest }

/-- The top layer is a prompt. -/
def isPrompting (s : Screen) : Bool :=
  (s.layers.head?.bind fun l => l.dialog?.bind Dialog.promptText?).isSome

/-- Presses a button. -/
def pressButton (s : Screen) (now : Instant) (b : Button) : Screen × Response :=
  if b.enabled then (s.perform now b.action, .consumed) else (s, .ignored)

/-- Changes the text of a field. A field of the form passes its text on at once. -/
def setText (s : Screen) (place : Nat) (f : Field) (text : String) : Screen :=
  let written := s.modifyCell place fun _ => .field { f with text }
  if s.isPrompting then written
  else written.report (s.session.setValue f.controlId text) id

/-- Shows an entry of a drop-down of the top layer and selects its value. -/
def showEntry (s : Screen) (place : Nat) (c : Choice) (entry : Nat) : Screen × Response :=
  match c.pick? entry with
  | none => (s, .ignored)
  | some (shown, value) =>
    let s := s.modifyCell place fun _ => .choice shown
    match value with
    | none => (s, .consumed)
    | some value => (s.report (s.session.select c.itemId value) id, .consumed)

/-! ## What a user can do -/

/-- Presses the button with a caption that comes after `n` others. -/
def press (s : Screen) (now : Instant) (caption : String) (n : Nat) : Screen × Response :=
  match (((s.layers.head?.map Layer.buttons).getD []).filter fun b => b.caption = caption)[n]? with
  | none => (s, .missing)
  | some b => s.pressButton now b

/-- Replaces the text of the field that comes after `n` others. -/
def type (s : Screen) (n : Nat) (text : String) : Screen × Response :=
  match s.cellAt? Cell.field? n with
  | none => (s, .missing)
  | some (place, f) => (s.setText place f text, .consumed)

/-- Confirms the field that comes after `n` others. Only a prompt can be confirmed in its field. -/
def submit (s : Screen) (n : Nat) : Screen × Response :=
  match s.cellAt? Cell.field? n with
  | none => (s, .missing)
  | some (_, f) =>
    if s.isPrompting then (s.storePath f.controlId f.text, .consumed) else (s, .ignored)

/-- Picks an entry of the drop-down that comes after `n` others. -/
def choose (s : Screen) (n entry : Nat) : Screen × Response :=
  match s.cellAt? Cell.choice? n with
  | none => (s, .missing)
  | some (place, c) => if c.enabled then s.showEntry place c entry else (s, .ignored)

end Screen

end SettingsForm
