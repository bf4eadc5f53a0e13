import SettingsForm.Screen

/-!
# Events

What a user does on the screen: work with a button, field or drop-down of the top layer, or use one
of the shortcuts, which work whatever layer is on top.
-/

namespace SettingsForm.Screen

/-- The actions that have a key of their own. -/
inductive Shortcut where
  | toggleAdvanced
  | save
  | quit
  deriving Repr, DecidableEq, Inhabited

namespace Shortcut

def action : Shortcut → Action
  | .toggleAdvanced => .toggleAdvanced
  | .save => .save
  | .quit => .quit

/-- The shortcut on a letter. -/
def ofLetter? : Char → Option Shortcut
  | 'a' => some .toggleAdvanced
  | 's' => some .save
  | 'S' => some .save
  | 'q' => some .quit
  | 'Q' => some .quit
  | _ => none

end Shortcut

/-- What a user does; the number says how many others of its kind come before it. -/
inductive Event where
  | press (caption : String) (n : Nat)
  | type (n : Nat) (text : String)
  | submit (n : Nat)
  | choose (n entry : Nat)
  | shortcut (shortcut : Shortcut)
  deriving Repr, DecidableEq, Inhabited

/-- What an event does at a time. -/
def handle (s : Screen) (now : Instant) : Event → Screen × Response
  | .press caption n => s.press now caption n
  | .type n text => s.type n text
  | .submit n => s.submit n
  | .choose n entry => s.choose n entry
  | .shortcut k => (s.perform now k.action, .consumed)

end SettingsForm.Screen
