import SettingsForm.Catalog.Item
import SettingsForm.Markup.Document

/-!
# The catalog of settings

A schema document lists sections, and each section its items. The catalog keeps the first definition
of every id in document order, where each id stood, and a fault for every node that it did not keep.
-/

namespace SettingsForm

open Markup

/-- A section with the ids of its items, rejected ones included, in document order. -/
structure CatalogSection where
  name : String
  itemIds : List String
  deriving Repr, DecidableEq, Inhabited

/-- The settings that a schema document describes. -/
structure Catalog where
  sections : List CatalogSection
  items : List Item
  faults : List ItemFault
  deriving Repr, DecidableEq, Inhabited

/-- The id is that of an item with one or more digits after it, as the instances of a multiple
item are named. -/
def isInstanceIdOf (base id : String) : Bool :=
  match base.toList.isPrefixOf? id.toList with
  | some digits => !digits.isEmpty && digits.all Char.isDigit
  | none => false

namespace Catalog

def empty : Catalog := ⟨[], [], []⟩

/-- What has been gathered from the nodes so far: the ids met, rejected ones included, and those
among them that the current section lists. -/
structure Intake where
  seen : List String
  listed : List String
  items : List Item
  faults : List ItemFault
  deriving Repr, DecidableEq

namespace Intake

def start : Intake := ⟨[], [], [], []⟩

/-- Lists an id where it is met first. -/
def list (t : Intake) (id : String) : Intake :=
  if t.seen.contains id then t
  else { t with seen := t.seen ++ [id], listed := t.listed ++ [id] }

/-- Takes in an item node. -/
def node (t : Intake) (node : Element) : Intake :=
  match Item.ofElement node with
  | .ok item =>
    if t.seen.contains item.id then
      { t with faults := t.faults ++ [⟨some item.id, .duplicateId⟩] }
    else { t.list item.id with items := t.items ++ [item] }
  | .error fault =>
    match fault.itemId with
    | some id => { t.list id with faults := t.faults ++ [fault] }
    | none => { t with faults := t.faults ++ [fault] }

/-- Takes in the item nodes of a section. -/
def nodes (t : Intake) (ns : List Element) : Intake := ns.foldl node { t with listed := [] }

end Intake

/-- The sections, and all that was gathered from their nodes. -/
def gather (t : Intake) : List Element → List CatalogSection × Intake
  | [] => ([], t)
  | s :: rest =>
    let after := t.nodes (s.elementsNamed "item")
    let (sections, last) := gather after rest
    (⟨(s.attribute? "name").getD "", after.listed⟩ :: sections, last)

/-- An item whose id is also that of an instance of a multiple item, with the first such item. -/
def collision? (items : List Item) (item : Item) : Option ItemFault :=
  (items.find? fun base => base.isMultiple && isInstanceIdOf base.id item.id).map fun base =>
    ⟨some item.id, .instanceCollision base.id⟩

/-- The catalog of a schema's root element. -/
def ofRoot (root : Element) : Catalog :=
  let (sections, t) := gather .start (root.elementsNamed "section")
  ⟨sections, t.items, t.faults ++ t.items.filterMap (collision? t.items)⟩

/-- The catalog of a schema document. -/
def ofDocument (document : String) : Except DocumentFault Catalog :=
  match parse document with
  | .ok root => .ok (ofRoot root)
  | .error fault => .error fault

/-- The definition of an id. -/
def item? (c : Catalog) (id : String) : Option Item := c.items.find? fun item => item.id = id

/-- The first fault recorded for an id. -/
def faultFor? (c : Catalog) (id : String) : Option ItemFault :=
  c.faults.find? fun fault => fault.itemId = some id

end Catalog

end SettingsForm
