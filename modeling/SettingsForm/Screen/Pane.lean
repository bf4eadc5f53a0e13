import SettingsForm.Screen.Cell

/-!
# Panes and focus

A pane lines up widgets in a row or in a column and remembers which of them had the focus last. Its
cells are those of its members in reading order, and a cell is known by its place among them. Focus
moves inside the focused member first, then to the next member that accepts it.
-/

namespace SettingsForm.Screen

/-- From where focus comes to a widget: from nowhere when it is shown first, else from before it in
reading order, from above or from below. -/
inductive Approach where
  | start
  | before
  | above
  | below
  deriving Repr, DecidableEq, Inhabited

/-- Where focus is to move. -/
inductive Step where
  | next
  | up
  | down
  deriving Repr, DecidableEq, Inhabited

/-- Focus that moves in a direction comes to its new place from the other side. -/
def Step.approach : Step → Approach
  | .next => .before
  | .up => .below
  | .down => .above

/-- A part of the screen that is made of cells. -/
class Widget (α : Type) where
  /-- The cells in reading order. -/
  cells : α → List Cell
  /-- Changes the cell at a place. -/
  modifyCell : Nat → (Cell → Cell) → α → α
  /-- Accepts the focus, or refuses it. -/
  takeFocus? : Approach → α → Option α
  /-- Moves the focus inside, if there is a place to move it to. -/
  moveFocus? : Step → α → Option α
  /-- The place of the cell that has the focus. -/
  focusedCell? : α → Option Nat

instance : Widget Cell where
  cells c := [c]
  modifyCell place change c := if place = 0 then change c else c
  takeFocus? _ c := if c.isEnabled then some c else none
  moveFocus? _ _ := none
  focusedCell? _ := some 0

/-- How the members of a pane stand. -/
inductive Axis where
  | row
  | column
  deriving Repr, DecidableEq, Inhabited

/-- Widgets in a line, and which of them had the focus last. -/
structure Pane (axis : Axis) (α : Type) where
  members : List α
  focus : Nat
  deriving Repr, DecidableEq, Inhabited

namespace Pane

variable {axis : Axis} {α : Type} [Widget α]

/-- A pane before any focus came to it. -/
def ofList (members : List α) : Pane axis α := ⟨members, 0⟩

/-- Changes the cell at a place counted over all members. -/
def modifyMember : List α → Nat → (Cell → Cell) → List α
  | [], _, _ => []
  | a :: rest, place, change =>
    let size := (Widget.cells a).length
    if place < size then Widget.modifyCell place change a :: rest
    else a :: modifyMember rest (place - size) change

/-- The members from a place on. -/
def placesFrom (p : Pane axis α) (start : Nat) : List Nat :=
  List.range' start (p.members.length - start)

/-- The order in which members are asked to accept the focus. A row that is entered from above or
from below starts with the member that had the focus last. -/
def entryOrder (p : Pane axis α) (approach : Approach) : List Nat :=
  match approach, axis with
  | .before, _ => p.placesFrom 0
  | .above, .column => p.placesFrom 0
  | .below, .column => (p.placesFrom 0).reverse
  | _, _ => p.placesFrom p.focus

/-- The members that focus may move to from the focused one. -/
def stepOrder (p : Pane axis α) (step : Step) : List Nat :=
  match step, axis with
  | .next, _ => p.placesFrom (p.focus + 1)
  | .down, .column => p.placesFrom (p.focus + 1)
  | .up, .column => (List.range p.focus).reverse
  | _, .row => []

/-- Gives the focus to the first of some members that accepts it. -/
def enter? (p : Pane axis α) (approach : Approach) (places : List Nat) : Option (Pane axis α) :=
  places.findSome? fun i =>
    p.members[i]?.bind fun a =>
      (Widget.takeFocus? approach a).map fun a => ⟨p.members.set i a, i⟩

/-- Moves the focus inside the focused member. -/
def moveInside? (p : Pane axis α) (step : Step) : Option (Pane axis α) :=
  p.members[p.focus]?.bind fun a =>
    (Widget.moveFocus? step a).map fun a => { p with members := p.members.set p.focus a }

instance : Widget (Pane axis α) where
  cells p := p.members.flatMap Widget.cells
  modifyCell place change p := { p with members := modifyMember p.members place change }
  takeFocus? approach p := p.enter? approach (p.entryOrder approach)
  moveFocus? step p := (p.moveInside? step).or (p.enter? step.approach (p.stepOrder step))
  focusedCell? p :=
    p.members[p.focus]?.bind fun a =>
      (Widget.focusedCell? a).map fun place =>
        ((p.members.take p.focus).flatMap Widget.cells).length + place

end Pane

/-- How a line of text is set off. -/
inductive Emphasis where
  | plain
  | bold
  | warning
  | fault
  deriving Repr, DecidableEq, Inhabited

/-- A line of text, or a widget. -/
inductive Part (α : Type) where
  | line (text : String) (emphasis : Emphasis)
  | widget (a : α)
  deriving Repr, DecidableEq, Inhabited

instance {α : Type} [Widget α] : Widget (Part α) where
  cells
    | .line _ _ => []
    | .widget a => Widget.cells a
  modifyCell place change
    | .line text emphasis => .line text emphasis
    | .widget a => .widget (Widget.modifyCell place change a)
  takeFocus? approach
    | .line _ _ => none
    | .widget a => (Widget.takeFocus? approach a).map .widget
  moveFocus? step
    | .line _ _ => none
    | .widget a => (Widget.moveFocus? step a).map .widget
  focusedCell?
    | .line _ _ => none
    | .widget a => Widget.focusedCell? a

end SettingsForm.Screen
