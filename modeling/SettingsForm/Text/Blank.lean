/-!
# Blank characters

The characters with the Unicode property White_Space, and trimming by that property. Blank text
between elements is indentation, and most texts of a document are trimmed before they are used.
-/

namespace SettingsForm.Text

/-- The character has the property White_Space. -/
def isBlank (c : Char) : Bool :=
  let n := c.toNat
  (0x09 ≤ n && n ≤ 0x0D) || n == 0x20 || n == 0x85 || n == 0xA0 || n == 0x1680 ||
    (0x2000 ≤ n && n ≤ 0x200A) || n == 0x2028 || n == 0x2029 || n == 0x202F || n == 0x205F ||
    n == 0x3000

/-- The text without its leading and trailing blank characters. -/
def trimChars (cs : List Char) : List Char :=
  ((cs.dropWhile isBlank).reverse.dropWhile isBlank).reverse

/-- The text without its leading and trailing blank characters. -/
def trim (s : String) : String := String.ofList (trimChars s.toList)

/-- The text holds blank characters only. -/
def isBlankText (s : String) : Bool := s.toList.all isBlank

/-- Small letters for the capital letters of ASCII, all else kept. -/
def lowerAscii (s : String) : String := String.ofList (s.toList.map Char.toLower)

end SettingsForm.Text
