/-!
# Numbers in text

Unsigned numbers below a bound, read digit by digit. Of several faults the first one met decides: a
number that has outgrown its bound is reported even when a character after it is no digit.
-/

namespace SettingsForm.Text

/-- Digits that are not a number below the bound. -/
inductive NumberFault where
  | noDigits
  | invalidDigit
  | overflow
  deriving Repr, DecidableEq

def NumberFault.message : NumberFault → String
  | .noDigits => "cannot parse integer from empty string"
  | .invalidDigit => "invalid digit found in string"
  | .overflow => "number too large to fit in target type"

/-- One more than the greatest number of sixteen bits. -/
def bound16 : Nat := 65536

/-- One more than the greatest number of thirty-two bits. -/
def bound32 : Nat := 4294967296

/-- One more than the greatest number of sixty-four bits with a sign. -/
def bound63 : Nat := 9223372036854775808

/-- One more than the greatest number of sixty-four bits. -/
def bound64 : Nat := 18446744073709551616

/-- The value of a digit, with letters of either case from ten on. -/
def digitValue? (radix : Nat) (c : Char) : Option Nat :=
  let value :=
    if c.isDigit then some (c.toNat - '0'.toNat)
    else if 'a' ≤ c ∧ c ≤ 'z' then some (c.toNat - 'a'.toNat + 10)
    else if 'A' ≤ c ∧ c ≤ 'Z' then some (c.toNat - 'A'.toNat + 10)
    else none
  value.filter (· < radix)

/-- Reads on from the value read so far. -/
def readDigits (radix bound value : Nat) : List Char → Except NumberFault Nat
  | [] => .ok value
  | c :: cs =>
    match digitValue? radix c with
    | none => .error .invalidDigit
    | some d =>
      if value * radix + d < bound then readDigits radix bound (value * radix + d) cs
      else .error .overflow

/-- A number below the bound, without a sign. -/
def readNumber (radix bound : Nat) (cs : List Char) : Except NumberFault Nat :=
  match cs with
  | [] => .error .noDigits
  | _ => readDigits radix bound 0 cs

/-- A decimal number below the bound; one plus sign may stand before it. -/
def readUnsigned (bound : Nat) (cs : List Char) : Except NumberFault Nat :=
  match cs with
  | '+' :: d :: ds => readDigits 10 bound 0 (d :: ds)
  | _ => readNumber 10 bound cs

end SettingsForm.Text
