import SettingsForm.Form.Error
import SettingsForm.Form.Render

/-!
# Groups of inputs

Instances are added after another one, under a suffix above all in use, and removed by id; a group
keeps at least one, so that removing the last clears it. Bringing a group to a number of instances
adds or removes them at its end.
-/

namespace SettingsForm

namespace Group

/-- The place of the instance with an id. -/
def position? (g : Group) (id : String) : Option Nat :=
  g.instances.findIdx? fun i => i.input.id = id

/-- The values of the inputs in order. -/
def values (g : Group) : List String := g.instances.map fun i => i.input.value

/-- The suffix of the next instance: one above the greatest in use. -/
def nextSuffix (g : Group) : UInt32 := ((g.instances.map fun i => i.suffix + 1).max?).getD 0

/-- An empty instance under the next suffix. -/
def nextInstance (g : Group) : Instance := g.template.build g.baseId g.nextSuffix ""

/-- Puts the next instance in a place. -/
def insertAt (g : Group) (place : Nat) : Group :=
  { g with instances := g.instances.insertIdx place g.nextInstance }

/-- Adds an empty instance after the one with an id: the id of the new one, and the group with it. -/
def addAfter (g : Group) (id : String) : Except FormError (String × Group) :=
  match g.position? id with
  | none => .error (.unknownControl id)
  | some place => .ok (g.nextInstance.input.id, g.insertAt (place + 1))

/-- Removes the instance with an id, or clears it when it is the only one. -/
def remove (g : Group) (id : String) : Except FormError Group :=
  match g.position? id with
  | none => .error (.unknownControl id)
  | some place =>
    if 1 < g.instances.length then .ok { g with instances := g.instances.eraseIdx place }
    else .ok { g with instances := g.instances.modify place fun i => i.withValue "" }

/-- Adds empty instances at the end. -/
def grow (g : Group) : Nat → Group
  | 0 => g
  | n + 1 => (g.insertAt g.instances.length).grow n

/-- Removes the last instance again and again, by its id. Gives the group as far as it came. -/
def shrink (g : Group) : Nat → Group × Except FormError Unit
  | 0 => (g, .ok ())
  | n + 1 =>
    match g.instances.getLast? with
    | none => (g, .ok ())
    | some last =>
      match g.remove last.input.id with
      | .ok smaller => smaller.shrink n
      | .error e => (g, .error e)

/-- One attempt at bringing the group to a number of instances. -/
def resizeOnce (g : Group) (target : Nat) : Group × Except FormError Unit :=
  if g.instances.length < target then (g.grow (target - g.instances.length), .ok ())
  else g.shrink (g.instances.length - target)

/-- Brings the group to a number of instances in at most `attempts` attempts. -/
def resizeWithin (target : Nat) : Nat → Group → Group × Except FormError Unit
  | 0, g =>
    if g.instances.length = target then (g, .ok ())
    else (g, .error (.reconcileOverrun g.baseId target g.instances.length))
  | attempts + 1, g =>
    if g.instances.length = target then (g, .ok ())
    else
      match g.resizeOnce target with
      | (next, .ok ()) => resizeWithin target attempts next
      | (next, .error e) => (next, .error e)

/-- How often a group is resized before giving up. -/
def resizeAttempts : Nat := 10

/-- Brings the group to a number of instances. Gives the group as far as it came. -/
def resize (g : Group) (target : Nat) : Group × Except FormError Unit :=
  resizeWithin target resizeAttempts g

/-- Gives values to instances in order; an instance without one is cleared. -/
def assign : List Instance → List String → List Instance
  | [], _ => []
  | i :: rest, [] => i.withValue "" :: assign rest []
  | i :: rest, v :: values => i.withValue v :: assign rest values

/-- Brings the group to some values, one instance each and at least one instance. -/
def setValues (g : Group) (values : List String) : Group × Except FormError Unit :=
  match g.resize (max values.length 1) with
  | (sized, .ok ()) => ({ sized with instances := assign sized.instances values }, .ok ())
  | (sized, .error e) => (sized, .error e)

end Group

end SettingsForm
