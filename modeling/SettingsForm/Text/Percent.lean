/-!
# Percent coding

Text in a request is written in the bytes of its UTF-8 form: letters, digits and four marks of ASCII
as they are, every other byte as a percent sign and two hexadecimal digits in capital letters.
-/

namespace SettingsForm.Text

/-- The bytes of the UTF-8 form of some characters. -/
def utf8Bytes (cs : List Char) : List UInt8 := cs.flatMap String.utf8EncodeChar

/-- The byte is that of a character that stands for itself. -/
def isUnreserved (b : UInt8) : Bool :=
  (0x30 ≤ b && b ≤ 0x39) || (0x41 ≤ b && b ≤ 0x5A) || (0x61 ≤ b && b ≤ 0x7A) ||
    b == 0x2D || b == 0x5F || b == 0x2E || b == 0x7E

/-- A hexadecimal digit, ten to fifteen as capital letters. -/
def hexDigit (n : Nat) : Char := if n < 10 then Char.ofNat (0x30 + n) else Char.ofNat (0x37 + n)

/-- One byte of percent-coded text. -/
def percentByte (b : UInt8) : List Char :=
  if isUnreserved b then [Char.ofNat b.toNat]
  else ['%', hexDigit (b.toNat / 16), hexDigit (b.toNat % 16)]

/-- The percent-coded form of a text. -/
def percentEncode (s : String) : String :=
  String.ofList ((utf8Bytes s.toList).flatMap percentByte)

end SettingsForm.Text
