import SettingsForm.Screen.Event

/-!
# Keys

A key goes to the top layer first: to the cell or button that has the focus, and if that has no use
for it, it may move the focus. A letter that the top layer has no use for may be a shortcut.

A layer gives the focus to its first control when it is laid out. Keys that were typed ahead come
before that: a layer that opened since has its focus at its very beginning, which may be a text.
-/

namespace SettingsForm.Screen

inductive Key where
  | character (c : Char)
  | enter
  | tab
  | up
  | down
  | other
  deriving Repr, DecidableEq, Inhabited

/-- The keys that were typed, as a terminal sends them. -/
def Key.ofChars : List Char → List Key
  | [] => []
  | '\x1b' :: '[' :: c :: rest =>
    (if c = 'A' then .up else if c = 'B' then .down else .other) :: ofChars rest
  | '\r' :: rest => .enter :: ofChars rest
  | '\t' :: rest => .tab :: ofChars rest
  | c :: rest => (if c.val < 0x20 ∨ c.val = 0x7F then .other else .character c) :: ofChars rest

def Key.step? : Key → Option Step
  | .tab => some .next
  | .up => some .up
  | .down => some .down
  | _ => none

namespace Dialog

/-- Gives the focus to the content. -/
def focusContent? (d : Dialog) (approach : Approach) : Option Dialog :=
  match d.content with
  | .form body =>
    (Widget.takeFocus? approach body).map fun body =>
      { d with content := .form body, focusedButton := none }
  | .prompt _ => some { d with focusedButton := none }
  | .message _ => none

/-- Gives the focus to the first control when the dialog is laid out; where there is none, to the
last button. -/
def focusFirst (d : Dialog) : Dialog :=
  (d.focusContent? .start).getD { d with focusedButton := some (d.buttons.length - 1) }

/-- Gives the focus to the content again after the last button, or to the first button. -/
def focusAgain (d : Dialog) : Dialog :=
  (d.focusContent? .before).getD { d with focusedButton := some 0 }

/-- Moves the focus from a cell of the content. -/
def moveFromContent? (d : Dialog) (step : Step) : Option Dialog :=
  let inside :=
    match d.content with
    | .form body =>
      (Widget.moveFocus? step body).map fun body => { d with content := .form body }
    | _ => none
  match inside, step with
  | some d, _ => some d
  | none, .up => none
  | none, _ => some { d with focusedButton := some 0 }

/-- Moves the focus from a button. -/
def moveFromButton? (d : Dialog) (i : Nat) : Step → Option Dialog
  | .next =>
    some (if i + 1 < d.buttons.length then { d with focusedButton := some (i + 1) }
      else d.focusAgain)
  | .up => d.focusContent? .below
  | .down => none

def moveFocus? (d : Dialog) (step : Step) : Option Dialog :=
  match d.focusedButton with
  | none => d.moveFromContent? step
  | some i => d.moveFromButton? i step

/-- The cell that has the focus, and its place. -/
def focusedCell? (d : Dialog) : Option (Nat × Cell) :=
  let place :=
    match d.content with
    | .form body => Widget.focusedCell? body
    | .prompt _ => some 0
    | .message _ => none
  place.bind fun i => d.cells[i]?.map fun c => (i, c)

end Dialog

/-- Lays out the screen for the first time. -/
def layOut (s : Screen) : Screen :=
  { s with
    layers := s.layers.map fun l =>
      match l with
      | .dialog d => .dialog d.focusFirst
      | .popup p => .popup p }

/-- Opens the list of a drop-down. -/
def openPopup (s : Screen) (cell : Nat) (c : Choice) : Screen :=
  { s with layers := .popup ⟨cell, c, c.shown⟩ :: s.layers }

/-- What a cell that has the focus does with a key, if it has a use for it. -/
def keyInCell? (s : Screen) (now : Instant) (place : Nat) (key : Key) (cell : Cell) :
    Option Screen :=
  if !cell.isEnabled then none
  else
    match cell, key with
    | .field f, .character c => some (s.setText place f (f.text.push c))
    | .field f, .enter => if s.isPrompting then some (s.storePath f.controlId f.text) else none
    | .choice c, .enter => some (s.openPopup place c)
    | .button b, .enter => some (s.perform now b.action)
    | _, _ => none

/-- What the part of a dialog that has the focus does with a key. -/
def keyInDialog? (s : Screen) (now : Instant) (key : Key) (d : Dialog) : Option Screen :=
  match d.focusedButton with
  | none => d.focusedCell?.bind fun (place, cell) => s.keyInCell? now place key cell
  | some i => if key = .enter then d.buttons[i]?.map fun b => s.perform now b.action else none

/-- What an open list does with a key: the entries follow each other in a circle. -/
def keyInPopup? (s : Screen) (key : Key) (p : Popup) : Option Screen :=
  let size := p.choice.entries.length
  let highlight (i : Nat) : Screen :=
    { s with layers := .popup { p with highlighted := i } :: s.layers.tail }
  match key with
  | .enter => some (s.pop.showEntry p.cell p.choice p.highlighted).1
  | .up => some (highlight (if p.highlighted = 0 then size - 1 else p.highlighted - 1))
  | .down => some (highlight (if p.highlighted + 1 < size then p.highlighted + 1 else 0))
  | .tab => some s
  | _ => none

/-- What the top layer does with a key. -/
def keyInTop? (s : Screen) (now : Instant) (key : Key) : Option Screen :=
  match s.layers with
  | [] => none
  | .popup p :: _ => s.keyInPopup? key p
  | .dialog d :: rest =>
    (s.keyInDialog? now key d).or
      ((key.step?.bind d.moveFocus?).map fun d => { s with layers := .dialog d :: rest })

/-- What a key does. -/
def pressKey (s : Screen) (now : Instant) (key : Key) : Screen :=
  match s.keyInTop? now key, key with
  | some s, _ => s
  | none, .character c =>
    match Shortcut.ofLetter? c with
    | some k => s.perform now k.action
    | none => s
  | none, _ => s

end SettingsForm.Screen
