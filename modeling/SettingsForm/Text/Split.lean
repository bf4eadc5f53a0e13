/-!
# Splitting text

A text is split at every place where a character stands. There is always one part more than there
are such places, and a part may be empty.
-/

namespace SettingsForm.Text

/-- The parts between the places where a character stands. -/
def splitChars (separator : Char) : List Char → List (List Char)
  | [] => [[]]
  | c :: cs =>
    if c = separator then [] :: splitChars separator cs
    else
      match splitChars separator cs with
      | [] => [[c]]
      | part :: parts => (c :: part) :: parts

/-- The parts of a text between the places where a character stands. -/
def split (separator : Char) (s : String) : List String :=
  (splitChars separator s.toList).map String.ofList

end SettingsForm.Text
