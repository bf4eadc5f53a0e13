/-!
# Bytes as text

Bytes that need not be UTF-8 are read as text all the same: whatever is the beginning of a character
but is not continued as one, and every other byte that is no beginning, gives one replacement
character.
-/

namespace SettingsForm.Text

/-- The character in the place of bytes that are no text. -/
def replacement : Char := Char.ofNat 0xFFFD

/-- A character that was begun: its bits so far, how many bytes are missing, and the bounds of the
next one. -/
structure Begun where
  bits : Nat
  missing : Nat
  low : UInt8
  high : UInt8

/-- What a byte begins. -/
inductive Beginning where
  | character (c : Char)
  | begun (b : Begun)
  | none

/-- What a byte begins. The bounds of the byte after it leave out overlong forms, surrogates and
whatever lies above the last code point. -/
def beginning (b : UInt8) : Beginning :=
  let n := b.toNat
  if n < 0x80 then .character (Char.ofNat n)
  else if n < 0xC2 then .none
  else if n < 0xE0 then .begun ⟨n - 0xC0, 1, 0x80, 0xBF⟩
  else if n < 0xF0 then
    .begun ⟨n - 0xE0, 2, if n = 0xE0 then 0xA0 else 0x80, if n = 0xED then 0x9F else 0xBF⟩
  else if n < 0xF5 then
    .begun ⟨n - 0xF0, 3, if n = 0xF0 then 0x90 else 0x80, if n = 0xF4 then 0x8F else 0xBF⟩
  else .none

/-- A begun character with one more byte. -/
def Begun.continue (p : Begun) (b : UInt8) : Begun :=
  ⟨p.bits * 64 + b.toNat % 64, p.missing - 1, 0x80, 0xBF⟩

/-- Reads on after what was begun. -/
def decodeBytes : Option Begun → List UInt8 → List Char
  | none, [] => []
  | some _, [] => [replacement]
  | none, b :: rest =>
    match beginning b with
    | .character c => c :: decodeBytes none rest
    | .begun p => decodeBytes (some p) rest
    | .none => replacement :: decodeBytes none rest
  | some p, b :: rest =>
    if p.low ≤ b ∧ b ≤ p.high then
      let p := p.continue b
      if p.missing = 0 then Char.ofNat p.bits :: decodeBytes none rest
      else decodeBytes (some p) rest
    else
      replacement ::
        match beginning b with
        | .character c => c :: decodeBytes none rest
        | .begun p => decodeBytes (some p) rest
        | .none => replacement :: decodeBytes none rest

/-- The text of some bytes. -/
def decode (bytes : List UInt8) : String := String.ofList (decodeBytes none bytes)

end SettingsForm.Text
