import SettingsForm.Markup.Attribute

/-!
# Tokens of a document

A document is text and, between `<` and `>`, markup. `Place.step` reads one character; a token comes
out when its last character has been read. Inside a tag a `>` counts only outside quotes, a comment
ends at `-->`, character data at `]]>`, an instruction at `?>`, and a document type at the `>` that
balances the brackets inside it.
-/

namespace SettingsForm.Markup

/-- A piece of a document that has been read to its end. -/
inductive Token where
  | text (raw : List Char)
  | characterData (content : List Char)
  | openTag (content : List Char)
  | emptyTag (content : List Char)
  | closeTag (name : List Char)
  deriving Repr, DecidableEq

/-- Markup that begins with an exclamation mark. -/
inductive Declaration where
  | comment
  | characterData
  | doctype
  deriving Repr, DecidableEq

/-- What to report when a declaration has no end. -/
def Declaration.unclosed : Declaration → DelimiterFault
  | .comment => .unclosedComment
  | .characterData => .unclosedCharacterData
  | .doctype => .unclosedDoctype

/-- What remains of a declaration's opening after its first character, in capital letters. -/
def Declaration.opening : Declaration → List Char
  | .comment => ['-']
  | .characterData => ['C', 'D', 'A', 'T', 'A', '[']
  | .doctype => ['O', 'C', 'T', 'Y', 'P', 'E']

/-- The character continues an opening; only a document type may be written in small letters. -/
def Declaration.continues (d : Declaration) (expected c : Char) : Bool :=
  c = expected || (d = .doctype && c.toUpper = expected)

/-- Where in a document the reading stands. Characters seen are kept last first. -/
inductive Place where
  | inText (seen : List Char)
  | afterAngle
  | afterMark
  | inOpening (kind : Declaration) (left : List Char)
  | inComment (seen : List Char)
  | inCharacterData (seen : List Char)
  | inDoctype (depth : Nat) (seen : List Char)
  | inInstruction (seen : List Char)
  | inTag (closing : Bool) (quote : Option Char) (seen : List Char)
  deriving Repr, DecidableEq, Inhabited

/-- The token of a tag's content, without its angle brackets and the slash of a closing tag. A
closing tag ends with its name, which may have white space after it. -/
def tagToken (closing : Bool) (content : List Char) : Token :=
  if closing then
    let name := (content.reverse.dropWhile isTagSpace).reverse
    .closeTag (if name.isEmpty then content else name)
  else
    match content.reverse with
    | '/' :: rest => .emptyTag rest.reverse
    | _ => .openTag content

/-- Text between markup; there is no token for none. -/
def textToken? (seen : List Char) : Option Token :=
  if seen.isEmpty then none else some (.text seen.reverse)

namespace Place

def start : Place := .inText []

/-- Reads a character inside a tag. -/
def stepTag (closing : Bool) (quote : Option Char) (seen : List Char) (c : Char) :
    Place × Option Token :=
  match quote with
  | some q => (.inTag closing (if c = q then none else some q) (c :: seen), none)
  | none =>
    if c = '>' then (.start, some (tagToken closing seen.reverse))
    else if c = '"' ∨ c = '\'' then (.inTag closing (some c) (c :: seen), none)
    else (.inTag closing none (c :: seen), none)

/-- Where the reading stands once a declaration's opening has been read. -/
def opened : Declaration → Place
  | .comment => .inComment []
  | .characterData => .inCharacterData []
  | .doctype => .inDoctype 0 []

/-- Reads one character: the next place, and the token that it completes. -/
def step (p : Place) (c : Char) : Except TextFault (Place × Option Token) :=
  match p with
  | .inText seen =>
    if c = '<' then .ok (.afterAngle, textToken? seen) else .ok (.inText (c :: seen), none)
  | .afterAngle =>
    if c = '!' then .ok (.afterMark, none)
    else if c = '?' then .ok (.inInstruction [], none)
    else if c = '/' then .ok (.inTag true none [], none)
    else .ok (stepTag false none [] c)
  | .afterMark =>
    if c = '-' then .ok (.inOpening .comment Declaration.comment.opening, none)
    else if c = '[' then .ok (.inOpening .characterData Declaration.characterData.opening, none)
    else if c = 'D' ∨ c = 'd' then .ok (.inOpening .doctype Declaration.doctype.opening, none)
    else .error (.delimiter .unknownMark)
  | .inOpening kind [] => .error (.delimiter kind.unclosed)
  | .inOpening kind (expected :: left) =>
    if kind.continues expected c then
      .ok (if left.isEmpty then opened kind else .inOpening kind left, none)
    else .error (.delimiter kind.unclosed)
  | .inComment seen =>
    match c, seen with
    | '>', '-' :: '-' :: _ => .ok (.start, none)
    | _, _ => .ok (.inComment (c :: seen), none)
  | .inCharacterData seen =>
    match c, seen with
    | '>', ']' :: ']' :: content => .ok (.start, some (.characterData content.reverse))
    | _, _ => .ok (.inCharacterData (c :: seen), none)
  | .inDoctype depth seen =>
    if c = '<' then .ok (.inDoctype (depth + 1) (c :: seen), none)
    else if c = '>' then
      match depth with
      | 0 =>
        if seen.all isTagSpace then .error (.nesting .unnamedDoctype) else .ok (.start, none)
      | depth + 1 => .ok (.inDoctype depth (c :: seen), none)
    else .ok (.inDoctype depth (c :: seen), none)
  | .inInstruction seen =>
    if c = '>' then
      match seen with
      | [] => .error (.delimiter .unclosedInstruction)
      | last :: _ =>
        if last = '?' then .ok (.start, none) else .ok (.inInstruction (c :: seen), none)
    else .ok (.inInstruction (c :: seen), none)
  | .inTag closing quote seen => .ok (stepTag closing quote seen c)

/-- Reads the end of the document: the text that it completes. -/
def finish (p : Place) : Except TextFault (Option Token) :=
  match p with
  | .inText seen => .ok (textToken? seen)
  | .afterAngle => .error (.delimiter .unclosedTag)
  | .afterMark => .error (.delimiter .unknownMark)
  | .inOpening kind _ => .error (.delimiter kind.unclosed)
  | .inComment _ => .error (.delimiter .unclosedComment)
  | .inCharacterData _ => .error (.delimiter .unclosedCharacterData)
  | .inDoctype _ _ => .error (.delimiter .unclosedDoctype)
  | .inInstruction _ => .error (.delimiter .unclosedInstruction)
  | .inTag _ _ _ => .error (.delimiter .unclosedTag)

end Place

end SettingsForm.Markup
