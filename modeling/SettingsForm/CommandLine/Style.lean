/-!
# Colours

What the program prints may be set off by colours. A colour is turned on before a text and off after
it, and on again behind every place where the text itself turns it off.
-/

namespace SettingsForm.CommandLine

/-- What a text is, which decides its colour. -/
inductive Style where
  | heading
  | value
  | success
  | warning
  | fault
  deriving Repr, DecidableEq, Inhabited

/-- What turns the colour of a style on. -/
def Style.start : Style → String
  | .heading => "\x1b[1;35m"
  | .value => "\x1b[36m"
  | .success => "\x1b[1;32m"
  | .warning => "\x1b[33m"
  | .fault => "\x1b[31m"

/-- What turns every colour off. -/
def styleEnd : String := "\x1b[0m"

/-- A text in the colour of its style. -/
def Style.paint (style : Style) (text : String) : String :=
  style.start ++ (styleEnd ++ style.start).intercalate (text.splitOn styleEnd) ++ styleEnd

/-- A text, with colours or without. -/
def Style.apply (style : Style) (colours : Bool) (text : String) : String :=
  if colours then style.paint text else text

/-- Colours are on when they are forced. -/
def coloursForced (lookUp : String → Option String) : Bool :=
  match lookUp "CLICOLOR_FORCE" with
  | none => false
  | some value => value ≠ "0"

end SettingsForm.CommandLine
