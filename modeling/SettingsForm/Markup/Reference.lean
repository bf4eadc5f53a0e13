import SettingsForm.Markup.Fault

/-!
# References in text

A reference is a name or a number between an ampersand and a semicolon. Five names stand for the
characters that markup uses itself; a number, decimal or after `x` hexadecimal, stands for the
character with that code point. `resolve` replaces every reference of a text or attribute value.
-/

namespace SettingsForm.Markup

/-- Bytes of the UTF-8 form of some characters. -/
def byteLength : List Char → Nat
  | [] => 0
  | c :: cs => c.utf8Size + byteLength cs

/-- The character that the part of a numbered reference after `#` stands for. -/
def characterOf (number : List Char) : Except CharacterFault Char :=
  let (radix, digits) :=
    match number with
    | 'x' :: digits => (16, digits)
    | digits => (10, digits)
  match digits with
  | '+' :: _ => .error .signed
  | '-' :: _ => .error .signed
  | _ =>
    match Text.readNumber radix Text.bound32 digits with
    | .error fault => .error (.number fault)
    | .ok code =>
      if code = 0 then .error (.forbidden code)
      else if code.isValidChar then .ok (Char.ofNat code)
      else .error (.notACodePoint code)

/-- The characters that a named reference stands for. -/
def entity? (name : List Char) : Option Char :=
  if name = ['l', 't'] then some '<'
  else if name = ['g', 't'] then some '>'
  else if name = ['a', 'm', 'p'] then some '&'
  else if name = ['a', 'p', 'o', 's'] then some '\''
  else if name = ['q', 'u', 'o', 't'] then some '"'
  else none

/-- The character that the reference `&name;` stands for, where `name` begins at byte `start`. -/
def referent (start : Nat) (name : List Char) : Except ReferenceFault Char :=
  match name with
  | '#' :: number =>
    match characterOf number with
    | .ok c => .ok c
    | .error fault => .error (.character fault)
  | _ =>
    match entity? name with
    | some c => .ok c
    | none => .error (.unknownEntity start (start + byteLength name) (String.ofList name))

/-- Reads on from byte `position` of a text of `total` bytes. `pending` holds, while inside a
reference, where it began and its characters so far, last first. -/
def resolveFrom (total position : Nat) (pending : Option (Nat × List Char)) :
    List Char → Except ReferenceFault (List Char)
  | [] =>
    match pending with
    | none => .ok []
    | some (start, _) => .error (.unterminated start total)
  | c :: cs =>
    let next := position + c.utf8Size
    match pending with
    | none =>
      if c = '&' then resolveFrom total next (some (position, [])) cs
      else (resolveFrom total next none cs).map (c :: ·)
    | some (start, seen) =>
      if c = ';' then
        match referent (start + 1) seen.reverse with
        | .ok d => (resolveFrom total next none cs).map (d :: ·)
        | .error fault => .error fault
      else if c = '&' then .error (.unterminated start total)
      else resolveFrom total next (some (start, c :: seen)) cs

/-- The text with every reference replaced by what it stands for. -/
def resolve (raw : List Char) : Except ReferenceFault (List Char) :=
  resolveFrom (byteLength raw) 0 none raw

end SettingsForm.Markup
