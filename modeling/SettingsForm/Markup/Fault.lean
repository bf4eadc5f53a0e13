import SettingsForm.Text.Number

/-!
# What can be wrong with a document

Every way in which the text of a document fails to be well formed, by cause, and the wording of each.
Positions count bytes of the UTF-8 form.
-/

namespace SettingsForm.Markup

/-- Markup that begins and has no end. -/
inductive DelimiterFault where
  | unknownMark
  | unclosedInstruction
  | unclosedComment
  | unclosedDoctype
  | unclosedCharacterData
  | unclosedTag
  deriving Repr, DecidableEq

/-- Tags that do not pair up, or a document type without a name. -/
inductive NestingFault where
  | unmatchedEnd (name : String)
  | mismatchedEnd (expected found : String)
  | unnamedDoctype
  deriving Repr, DecidableEq

/-- An attribute that cannot be read, with its position in the tag. -/
inductive AttributeFault where
  | expectedEquals (position : Nat)
  | expectedValue (position : Nat)
  | unquotedValue (position : Nat)
  | expectedQuote (position : Nat) (quote : Char)
  | duplicated (position previous : Nat)
  deriving Repr, DecidableEq

/-- A numbered reference that names no character. -/
inductive CharacterFault where
  | signed
  | number (fault : Text.NumberFault)
  | notACodePoint (code : Nat)
  | forbidden (code : Nat)
  deriving Repr, DecidableEq

/-- A reference that cannot be resolved, with its place in the text or value. -/
inductive ReferenceFault where
  | unterminated (start stop : Nat)
  | unknownEntity (start stop : Nat) (name : String)
  | character (fault : CharacterFault)
  deriving Repr, DecidableEq

/-- The first thing wrong with the text of a document. -/
inductive TextFault where
  | delimiter (fault : DelimiterFault)
  | nesting (fault : NestingFault)
  | attribute (fault : AttributeFault)
  | reference (fault : ReferenceFault)
  deriving Repr, DecidableEq

/-- Why a document has no tree. -/
inductive DocumentFault where
  | malformed (fault : TextFault)
  | unexpectedClose (name : String)
  | unterminated (name : String)
  | noRoot
  deriving Repr, DecidableEq

def DelimiterFault.message : DelimiterFault → String
  | .unknownMark => "unknown or missed symbol in markup"
  | .unclosedInstruction =>
    "processing instruction or xml declaration not closed: `?>` not found before end of input"
  | .unclosedComment => "comment not closed: `-->` not found before end of input"
  | .unclosedDoctype => "DOCTYPE not closed: `>` not found before end of input"
  | .unclosedCharacterData => "CDATA not closed: `]]>` not found before end of input"
  | .unclosedTag => "tag not closed: `>` not found before end of input"

def NestingFault.message : NestingFault → String
  | .unmatchedEnd name => "close tag `</" ++ name ++ ">` does not match any open tag"
  | .mismatchedEnd expected found =>
    "expected `</" ++ expected ++ ">`, but `</" ++ found ++ ">` was found"
  | .unnamedDoctype => "`<!DOCTYPE>` declaration does not contain a name of a document type"

def AttributeFault.message : AttributeFault → String
  | .expectedEquals p =>
    "position " ++ toString p ++ ": attribute key must be directly followed by `=` or space"
  | .expectedValue p => "position " ++ toString p ++ ": `=` must be followed by an attribute value"
  | .unquotedValue p =>
    "position " ++ toString p ++ ": attribute value must be enclosed in `\"` or `'`"
  | .expectedQuote p quote =>
    "position " ++ toString p ++ ": missing closing quote `" ++ quote.toString ++
      "` in attribute value"
  | .duplicated p previous =>
    "position " ++ toString p ++ ": duplicated attribute, previous declaration at position " ++
      toString previous

def CharacterFault.message : CharacterFault → String
  | .signed => "unexpected number sign"
  | .number fault => fault.message
  | .notACodePoint code => "`" ++ toString code ++ "` is not a valid codepoint"
  | .forbidden code => "0x" ++ String.ofList (Nat.toDigits 16 code) ++
      " character is not permitted in XML"

def ReferenceFault.message : ReferenceFault → String
  | .unterminated start stop =>
    "Error while escaping character at range " ++ toString start ++ ".." ++ toString stop ++
      ": Cannot find ';' after '&'"
  | .unknownEntity start stop name =>
    "at " ++ toString start ++ ".." ++ toString stop ++ ": unrecognized entity `" ++ name ++ "`"
  | .character fault => "invalid character reference: " ++ fault.message

def TextFault.message : TextFault → String
  | .delimiter fault => "syntax error: " ++ fault.message
  | .nesting fault => "ill-formed document: " ++ fault.message
  | .attribute fault => "error while parsing attribute: " ++ fault.message
  | .reference fault => fault.message

def DocumentFault.message : DocumentFault → String
  | .malformed fault => "malformed XML: " ++ fault.message
  | .unexpectedClose name => "unexpected closing tag </" ++ name ++ ">"
  | .unterminated name => "document ended inside <" ++ name ++ ">"
  | .noRoot => "document has no root element"

/-! ## Causes

The messages that lie under a fault's own message, each the cause of the one before it. -/

def CharacterFault.causes : CharacterFault → List String
  | .number fault => [fault.message]
  | _ => []

def ReferenceFault.causes : ReferenceFault → List String
  | .character fault => fault.message :: fault.causes
  | _ => []

def TextFault.causes : TextFault → List String
  | .delimiter fault => [fault.message]
  | .nesting fault => [fault.message]
  | .attribute fault => [fault.message]
  | .reference fault => fault.message :: fault.causes

def DocumentFault.causes : DocumentFault → List String
  | .malformed fault => fault.message :: fault.causes
  | _ => []

end SettingsForm.Markup
