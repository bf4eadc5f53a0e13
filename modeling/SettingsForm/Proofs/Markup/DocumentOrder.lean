import SettingsForm.Markup.Document

/-!
# Elements in document order

`Element.inOrder` lists an element and all below it in the order in which their tags open. The
element that a name finds is the first of these with the name (`Element.find?_eq`). What a reply to
an update or a stats document says is the text of such an element (`firstText?_eq`).
-/

namespace SettingsForm.Markup

mutual

/-- The elements at and below a node, in document order. -/
def Node.inOrder : Node → List Element
  | .text _ => []
  | .element name attributes children => ⟨name, attributes, children⟩ :: Node.allInOrder children

/-- The elements at and below some nodes, in document order. -/
def Node.allInOrder : List Node → List Element
  | [] => []
  | n :: ns => n.inOrder ++ Node.allInOrder ns

end

/-- The element and all elements below it, in document order. -/
def Element.inOrder (e : Element) : List Element := e :: Node.allInOrder e.children

mutual

theorem Node.find?_eq (name : String) :
    (n : Node) → n.find? name = n.inOrder.find? fun e => e.name = name
  | .text _ => rfl
  | .element own attributes children => by
    rw [Node.find?, Node.inOrder]
    by_cases hown : own = name
    · rw [if_pos hown, List.find?_cons_of_pos (by simpa using hown)]
    · rw [if_neg hown, List.find?_cons_of_neg (by simpa using hown)]
      exact Node.findIn?_eq name children

theorem Node.findIn?_eq (name : String) :
    (ns : List Node) → Node.findIn? name ns = (Node.allInOrder ns).find? fun e => e.name = name
  | [] => rfl
  | n :: ns => by
    rw [Node.findIn?, Node.allInOrder, List.find?_append, Node.find?_eq name n,
      Node.findIn?_eq name ns]
    cases n.inOrder.find? fun e => e.name = name <;> rfl

end

theorem Element.find?_eq (e : Element) (name : String) :
    e.find? name = e.inOrder.find? fun d => d.name = name := Node.find?_eq name e.toNode

/-- The trimmed text of the first element with a name, in a document that can be read. -/
def firstText? (document name : String) : Option String :=
  match parse document with
  | .ok root => (root.inOrder.find? fun e => e.name = name).map fun e => Text.trim e.text
  | .error _ => none

/-- What a name finds in a document is its first element with the name. -/
theorem firstText?_eq {document : String} {root : Element} (hroot : parse document = .ok root)
    (name : String) :
    firstText? document name = (root.find? name).map fun e => Text.trim e.text := by
  rw [firstText?, hroot, root.find?_eq]

end SettingsForm.Markup
