/-!
# Strings of a TOML document

The four kinds of string: basic in double quotes, with escapes, and literal in single quotes, without;
each on one line or, in tripled quotes, on several. A string is read one character at a time; a line
feed right after tripled quotes is not part of it.
-/

namespace SettingsForm.Toml

/-- A character that a comment or a one-line string may hold: a tab, or any that is no control
character. -/
def isPlain (c : Char) : Bool := c = '\t' || (0x20 ≤ c.toNat && c.toNat ≠ 0x7F)

/-- The value of a hexadecimal digit. -/
def hexValue? (c : Char) : Option Nat :=
  if c.isDigit then some (c.toNat - '0'.toNat)
  else if 'a' ≤ c ∧ c ≤ 'f' then some (c.toNat - 'a'.toNat + 10)
  else if 'A' ≤ c ∧ c ≤ 'F' then some (c.toNat - 'A'.toNat + 10)
  else none

/-- The character with a code point. -/
def character? (code : Nat) : Option Char :=
  if code.isValidChar then some (Char.ofNat code) else none

/-- What a letter after a backslash stands for. -/
def escaped? (c : Char) : Option Char :=
  if c = 'b' then some '\x08'
  else if c = 't' then some '\t'
  else if c = 'n' then some '\n'
  else if c = 'f' then some '\x0c'
  else if c = 'r' then some '\r'
  else if c = '"' then some '"'
  else if c = '\\' then some '\\'
  else none

/-- Where in a string the reading stands: in plain text; after some quotes, in a string of several
lines; after a carriage return; after a backslash; in an escape by code point, with the digits left
and the value so far; or in the blank that a backslash at the end of a line begins, where a carriage
return is followed by a line feed. -/
inductive StringPlace where
  | plain
  | quotes (count : Nat)
  | carriage
  | backslash
  | code (left value : Nat)
  | skipping (newline carriage : Bool)
  deriving Repr, DecidableEq

/-- What one character does: the reading goes on with some characters added, or the string has ended
with some characters added, before the character or with it. -/
inductive StringStep where
  | more (place : StringPlace) (added : List Char)
  | endsBefore (added : List Char)
  | endsWith (added : List Char)
  deriving Repr, DecidableEq

/-- The kind of a string: its quote, and whether it may hold several lines. -/
structure StringKind where
  quote : Char
  lines : Bool
  deriving Repr, DecidableEq

namespace StringKind

/-- Only strings in double quotes have escapes. -/
def hasEscapes (k : StringKind) : Bool := k.quote = '"'

/-- A character in plain text, after `added` was added. -/
def plainStep (k : StringKind) (added : List Char) (c : Char) : Option StringStep :=
  if c = k.quote then
    if k.lines then some (.more (.quotes 1) added) else some (.endsWith added)
  else if c = '\\' ∧ k.hasEscapes then some (.more .backslash added)
  else if c = '\n' then if k.lines then some (.more .plain (added ++ [c])) else none
  else if c = '\r' then if k.lines then some (.more .carriage added) else none
  else if isPlain c then some (.more .plain (added ++ [c]))
  else none

/-- Reads one character. -/
def step (k : StringKind) (place : StringPlace) (c : Char) : Option StringStep :=
  match place with
  | .plain => k.plainStep [] c
  | .quotes n =>
    if c = k.quote then
      if n = 4 then some (.endsWith [c, c]) else some (.more (.quotes (n + 1)) [])
    else if 3 ≤ n then some (.endsBefore (List.replicate (n - 3) k.quote))
    else k.plainStep (List.replicate n k.quote) c
  | .carriage => if c = '\n' then some (.more .plain ['\n']) else none
  | .backslash =>
    if c = 'u' then some (.more (.code 4 0) [])
    else if c = 'U' then some (.more (.code 8 0) [])
    else
      match escaped? c with
      | some d => some (.more .plain [d])
      | none =>
        if k.lines then
          if c = ' ' ∨ c = '\t' then some (.more (.skipping false false) [])
          else if c = '\r' then some (.more (.skipping false true) [])
          else if c = '\n' then some (.more (.skipping true false) [])
          else none
        else none
  | .code left value => do
    let value := value * 16 + (← hexValue? c)
    if left ≤ 1 then return .more .plain [← character? value]
    else return .more (.code (left - 1) value) []
  | .skipping newline carriage =>
    if c = '\n' then some (.more (.skipping true false) [])
    else if carriage then none
    else if c = '\r' then some (.more (.skipping newline true) [])
    else if c = ' ' ∨ c = '\t' then some (.more (.skipping newline false) [])
    else if newline then k.plainStep [] c
    else none

/-- Reads on to the end of a string: its characters, and the rest. -/
def body (k : StringKind) (place : StringPlace) : List Char → Option (List Char × List Char)
  | [] =>
    match place with
    | .quotes n => if 3 ≤ n then some (List.replicate (n - 3) k.quote, []) else none
    | _ => none
  | c :: cs =>
    match k.step place c with
    | none => none
    | some (.more next added) => (k.body next cs).map fun r => (added ++ r.1, r.2)
    | some (.endsBefore added) => some (added, c :: cs)
    | some (.endsWith added) => some (added, cs)

end StringKind

/-- Drops the line break right after the opening of a string of several lines. -/
def dropFirstBreak : List Char → List Char
  | '\n' :: cs => cs
  | '\r' :: '\n' :: cs => cs
  | cs => cs

/-- Reads a one-line string from its opening quote on. -/
def readLineString : List Char → Option (String × List Char)
  | q :: cs =>
    if q = '"' ∨ q = '\'' then
      (StringKind.body ⟨q, false⟩ .plain cs).map fun r => (String.ofList r.1, r.2)
    else none
  | [] => none

/-- Reads a string of any kind from its opening quotes on. -/
def readString (cs : List Char) : Option (String × List Char) :=
  match cs with
  | q :: r :: s :: rest =>
    if (q = '"' ∨ q = '\'') ∧ r = q ∧ s = q then
      (StringKind.body ⟨q, true⟩ .plain (dropFirstBreak rest)).map fun r =>
        (String.ofList r.1, r.2)
    else readLineString cs
  | _ => readLineString cs

/-! ## Writing -/

/-- What a text holds that decides in which quotes it is written. -/
structure StringTraits where
  backslash : Bool
  control : Bool
  newline : Bool
  singles : Nat
  doubles : Nat
  deriving Repr, DecidableEq

/-- The greatest number of times in a row that a character stands in a text. -/
def longestRun (c : Char) (cs : List Char) : Nat :=
  (cs.foldl (fun (best, run) d =>
    let run := if d = c then run + 1 else 0
    (max best run, run)) (0, 0)).1

/-- A control character other than tab and line feed. -/
def isControl (c : Char) : Bool := c ≠ '\n' && !isPlain c

def StringTraits.of (cs : List Char) : StringTraits where
  backslash := cs.contains '\\'
  control := cs.any isControl
  newline := cs.contains '\n'
  singles := longestRun '\'' cs
  doubles := longestRun '"' cs

/-- Four hexadecimal digits in capital letters. -/
def hex4 (n : Nat) : List Char :=
  let digits := (Nat.toDigits 16 n).map Char.toUpper
  List.replicate (4 - digits.length) '0' ++ digits

/-- A character that has to be escaped in double quotes, quotes and line feeds apart. -/
def escapeControl? (c : Char) : Option (List Char) :=
  if c = '\x08' then some ['\\', 'b']
  else if c = '\t' then some ['\\', 't']
  else if c = '\x0c' then some ['\\', 'f']
  else if c = '\r' then some ['\\', 'r']
  else if c = '\\' then some ['\\', '\\']
  else if isControl c then some (['\\', 'u'] ++ hex4 c.toNat)
  else none

/-- The characters of a basic string, with `quotes` quotes unescaped right before them. On several
lines two quotes in a row need no escape. -/
def escapeBasic (lines : Bool) (quotes : Nat) : List Char → List Char
  | [] => []
  | c :: cs =>
    if c = '"' then
      if quotes < (if lines then 2 else 0) then c :: escapeBasic lines (quotes + 1) cs
      else ['\\', '"'] ++ escapeBasic lines 0 cs
    else if c = '\n' ∧ !lines then ['\\', 'n'] ++ escapeBasic lines 0 cs
    else
      match escapeControl? c with
      | some escape => escape ++ escapeBasic lines 0 cs
      | none => c :: escapeBasic lines 0 cs

/-- A string in double quotes. -/
def writeBasic (cs : List Char) : List Char := ['"'] ++ escapeBasic false 0 cs ++ ['"']

/-- A string in single quotes. -/
def writeLiteral (cs : List Char) : List Char := ['\''] ++ cs ++ ['\'']

/-- A string in tripled quotes; its text starts on a line of its own when it has several. -/
def writeLines (q : Char) (newline : Bool) (body : List Char) : List Char :=
  [q, q, q] ++ (if newline then ['\n'] else []) ++ body ++ [q, q, q]

/-- A text in the plainest quotes that need no escapes, else in double quotes. -/
def writeString (s : String) : String :=
  let cs := s.toList
  let t := StringTraits.of cs
  String.ofList <|
    if !t.control && !t.backslash && t.doubles == 0 && !t.newline then writeBasic cs
    else if !t.control && t.singles == 0 && !t.newline then writeLiteral cs
    else if !t.control && !t.backslash && t.doubles ≤ 2 then
      writeLines '"' t.newline (escapeBasic true 0 cs)
    else if !t.control && t.singles ≤ 2 then writeLines '\'' t.newline cs
    else if t.newline then writeLines '"' t.newline (escapeBasic true 0 cs)
    else writeBasic cs

/-- A character that a key without quotes may hold. -/
def isBareKeyChar (c : Char) : Bool := c.isAlphanum || c = '-' || c = '_'

/-- A key, in quotes unless it is a plain word. -/
def writeKey (s : String) : String :=
  let cs := s.toList
  let t := StringTraits.of cs
  let control := t.control || t.newline
  if !cs.isEmpty && cs.all isBareKeyChar then s
  else String.ofList <|
    if !control && !t.backslash && t.doubles == 0 then writeBasic cs
    else if !control && t.singles == 0 then writeLiteral cs
    else writeBasic cs

end SettingsForm.Toml
