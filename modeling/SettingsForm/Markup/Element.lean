import SettingsForm.Text.Blank

/-!
# The element tree

A document is a tree of named elements with attributes and, in document order, child elements and
text. Text keeps its characters; only blank text between child elements is indentation.
-/

namespace SettingsForm.Markup

/-- A child of an element. -/
inductive Node where
  | text (content : String)
  | element (name : String) (attributes : List (String × String)) (children : List Node)
  deriving Repr, Inhabited

/-- An element with its attributes and children in document order. -/
structure Element where
  name : String
  attributes : List (String × String)
  children : List Node
  deriving Repr, Inhabited

namespace Node

/-- The element that a node is, if it is one. -/
def element? : Node → Option Element
  | .text _ => none
  | .element name attributes children => some ⟨name, attributes, children⟩

def isElement (n : Node) : Bool := n.element?.isSome

mutual

/-- The characters of a node and of everything below it, in order. -/
def innerText : Node → String
  | .text content => content
  | .element _ _ children => innerTexts children

/-- The characters of some nodes, in order. -/
def innerTexts : List Node → String
  | [] => ""
  | n :: ns => innerText n ++ innerTexts ns

end

mutual

/-- The first element with the name at or below a node, in document order. -/
def find? (name : String) : Node → Option Element
  | .text _ => none
  | .element own attributes children =>
    if own = name then some ⟨own, attributes, children⟩ else findIn? name children

/-- The first element with the name among some nodes and what is below them. -/
def findIn? (name : String) : List Node → Option Element
  | [] => none
  | n :: ns =>
    match find? name n with
    | some found => some found
    | none => findIn? name ns

end

end Node

namespace Element

def toNode (e : Element) : Node := .element e.name e.attributes e.children

/-- The value of an attribute. -/
def attribute? (e : Element) (key : String) : Option String :=
  (e.attributes.find? fun a => a.1 = key).map (·.2)

/-- The child elements. -/
def elements (e : Element) : List Element := e.children.filterMap Node.element?

/-- The child elements with the name. -/
def elementsNamed (e : Element) (name : String) : List Element :=
  e.elements.filter fun child => child.name = name

/-- The first child element with the name. -/
def child? (e : Element) (name : String) : Option Element :=
  e.elements.find? fun child => child.name = name

def hasElements (e : Element) : Bool := e.children.any Node.isElement

/-- The first element with the name in document order, the element itself included. -/
def find? (e : Element) (name : String) : Option Element := e.toNode.find? name

/-- The characters of the element and of everything below it. -/
def text (e : Element) : String := Node.innerTexts e.children

/-- The trimmed text of the first child element with the name. -/
def childText? (e : Element) (name : String) : Option String :=
  (e.child? name).map fun child => Text.trim child.text

end Element

/-- The children of an element without the indentation between its child elements. -/
def dropIndentation (children : List Node) : List Node :=
  if children.any Node.isElement then
    children.filter fun
      | .text content => !Text.isBlankText content
      | .element .. => true
  else children

end SettingsForm.Markup
