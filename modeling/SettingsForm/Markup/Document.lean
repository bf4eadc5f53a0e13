import SettingsForm.Markup.Element
import SettingsForm.Markup.Token

/-!
# Reading a document

The names of open tags are tracked while tokens are read, so that every closing tag names the
innermost open one. Beside them grows the tree: one frame for each open element, innermost first. An
element that closes joins the frame around it, or becomes the root when it is the first to close with
none around it; later ones are checked and let go.
-/

namespace SettingsForm.Markup

/-- The names of open tags, innermost first, after a token. -/
def trackTags (opened : List String) : Token → Except TextFault (List String)
  | .openTag content => .ok (String.ofList (tagName content) :: opened)
  | .closeTag name =>
    match opened with
    | [] => .error (.nesting (.unmatchedEnd (String.ofList name)))
    | innermost :: rest =>
      if innermost = String.ofList name then .ok rest
      else .error (.nesting (.mismatchedEnd innermost (String.ofList name)))
  | _ => .ok opened

/-- An element that is still open; its children so far, last first. -/
structure Frame where
  name : String
  attributes : List (String × String)
  children : List Node
  deriving Repr, Inhabited

/-- The part of the tree read so far. -/
structure Tree where
  frames : List Frame
  root : Option Element
  deriving Repr, Inhabited

namespace Tree

def empty : Tree := ⟨[], none⟩

/-- Adds a child to the innermost open element. Outside of all elements nothing is kept. -/
def addChild (t : Tree) (child : Node) : Tree :=
  match t.frames with
  | [] => t
  | frame :: rest => { t with frames := { frame with children := child :: frame.children } :: rest }

/-- Adds a complete element. -/
def attach (t : Tree) (e : Element) : Tree :=
  match t.frames with
  | [] => if t.root.isNone then { t with root := some e } else t
  | _ => t.addChild e.toNode

/-- The element with the name and attributes in the content of a tag, without children. -/
def elementOf (content : List Char) : Except DocumentFault Element :=
  match readAttributes content with
  | .ok attributes => .ok ⟨String.ofList (tagName content), attributes, []⟩
  | .error fault => .error (.malformed fault)

/-- The tree after a token. -/
def add (t : Tree) : Token → Except DocumentFault Tree
  | .text raw =>
    match resolve raw with
    | .ok content => .ok (t.addChild (.text (String.ofList content)))
    | .error fault => .error (.malformed (.reference fault))
  | .characterData content => .ok (t.addChild (.text (String.ofList content)))
  | .emptyTag content =>
    match elementOf content with
    | .ok e => .ok (t.attach e)
    | .error fault => .error fault
  | .openTag content =>
    match elementOf content with
    | .ok e => .ok { t with frames := ⟨e.name, e.attributes, []⟩ :: t.frames }
    | .error fault => .error fault
  | .closeTag name =>
    match t.frames with
    | [] => .error (.unexpectedClose (String.ofList name))
    | frame :: rest =>
      .ok (attach { t with frames := rest }
        ⟨frame.name, frame.attributes, dropIndentation frame.children.reverse⟩)

/-- The root, when the document has ended. -/
def finish (t : Tree) : Except DocumentFault Element :=
  match t.frames, t.root with
  | frame :: _, _ => .error (.unterminated frame.name)
  | [], some root => .ok root
  | [], none => .error .noRoot

end Tree

/-- How far a document has been read. -/
structure Reading where
  place : Place
  opened : List String
  tree : Tree
  deriving Repr, Inhabited

namespace Reading

def start : Reading := ⟨.start, [], .empty⟩

/-- Takes in the token that a character completed. -/
def accept (r : Reading) (token : Token) : Except DocumentFault Reading :=
  match trackTags r.opened token with
  | .error fault => .error (.malformed fault)
  | .ok opened =>
    match r.tree.add token with
    | .ok tree => .ok { r with opened, tree }
    | .error fault => .error fault

/-- Takes in the token, if there is one. -/
def accept? (r : Reading) : Option Token → Except DocumentFault Reading
  | none => .ok r
  | some token => r.accept token

/-- Reads one character. -/
def step (r : Reading) (c : Char) : Except DocumentFault Reading :=
  match r.place.step c with
  | .ok (place, token) => accept? { r with place } token
  | .error fault => .error (.malformed fault)

/-- Reads some characters. -/
def run (r : Reading) : List Char → Except DocumentFault Reading
  | [] => .ok r
  | c :: cs =>
    match r.step c with
    | .ok next => next.run cs
    | .error fault => .error fault

/-- Reads the end of the document. -/
def finish (r : Reading) : Except DocumentFault Element :=
  match r.place.finish with
  | .error fault => .error (.malformed fault)
  | .ok token =>
    match r.accept? token with
    | .ok last => last.tree.finish
    | .error fault => .error fault

end Reading

/-- The characters of a document without a leading byte order mark. -/
def withoutByteOrderMark : List Char → List Char
  | '\ufeff' :: cs => cs
  | cs => cs

/-- The root element of a document. -/
def parse (document : String) : Except DocumentFault Element :=
  match Reading.start.run (withoutByteOrderMark document.toList) with
  | .ok r => r.finish
  | .error fault => .error fault

end SettingsForm.Markup
