import SettingsForm.Text.Number
import SettingsForm.Toml.Strings
import SettingsForm.Toml.Value

/-!
# Reading a TOML document

A document is a sequence of lines: entries `key = value`, headers that open a table or the next
element of an array of tables, comments and empty lines. A key may be a path of several names. No
table is opened twice and no value set twice; `Entries.within` says what a path may pass through.
-/

namespace SettingsForm.Toml

/-! ## Tables and paths -/

/-- Follows a path from a table and changes the entries of the table at its end. Tables that are
missing on the way come into being. A path of a dotted key passes only through tables that such keys
or headers implied; no path passes through a closed table or any other value. -/
def Entries.within (dotted : Bool) (change : TableOrigin → Entries → Option Entries) :
    List String → TableOrigin → Entries → Option Entries
  | [], origin, entries => change origin entries
  | key :: path, _, entries =>
    match entries.get? key with
    | none => do
      let origin := if dotted then .dotted else .implied
      return entries.put key (.table origin (← within dotted change path origin []))
    | some (.table origin inner) =>
      if origin = .closed ∨ (dotted ∧ origin = .declared) then none
      else do return entries.put key (.table origin (← within dotted change path origin inner))
    | some (.tables items) =>
      match items.getLast? with
      | none => none
      | some last => do
        let last ← within dotted change path .declared last
        return entries.put key (.tables (items.dropLast ++ [last]))
    | some _ => none

/-- Adds an entry with a key of one or more names. The last name must be new, and a table that a
header declared takes no entries from the dotted keys of another. -/
def Entries.addEntry (key : List String) (value : Value) (origin : TableOrigin)
    (entries : Entries) : Option Entries :=
  match key.getLast? with
  | none => none
  | some name =>
    let path := key.dropLast
    within true (fun origin inner =>
      if decide (origin = .dotted) == path.isEmpty then none
      else if (inner.get? name).isSome then none
      else some (inner ++ [(name, value)])) path origin entries

/-- Opens the table with a path: a new one, or one that was only implied. -/
def Entries.openTable (path : List String) (entries : Entries) : Option Entries :=
  match path.getLast? with
  | none => none
  | some name =>
    within false (fun _ inner =>
      match inner.get? name with
      | none => some (inner ++ [(name, .table .declared [])])
      | some (.table .implied existing) => some (inner.put name (.table .declared existing))
      | some _ => none) path.dropLast .declared entries

/-- Opens the next element of the array of tables with a path. -/
def Entries.openElement (path : List String) (entries : Entries) : Option Entries :=
  match path.getLast? with
  | none => none
  | some name =>
    within false (fun _ inner =>
      match inner.get? name with
      | none => some (inner ++ [(name, .tables [[]])])
      | some (.tables items) => some (inner.put name (.tables (items ++ [[]])))
      | some _ => none) path.dropLast .declared entries

/-! ## Blanks, comments and keys -/

def dropSpace (cs : List Char) : List Char := cs.dropWhile fun c => c = ' ' || c = '\t'

/-- The rest after a comment, if one stands here. -/
def dropComment : List Char → List Char
  | '#' :: cs => cs.dropWhile isPlain
  | cs => cs

/-- The rest after a line break or at the end. -/
def lineEnd? : List Char → Option (List Char)
  | [] => some []
  | '\n' :: cs => some cs
  | '\r' :: '\n' :: cs => some cs
  | _ => none

/-- The rest of the document after the blank end of a line. -/
def restOfLine? (cs : List Char) : Option (List Char) := lineEnd? (dropComment (dropSpace cs))

/-- Drops space, comments and line breaks, as between the items of an array. The fuel is the number
of lines at most. -/
def dropLines : Nat → List Char → List Char
  | 0, cs => cs
  | fuel + 1, cs =>
    let rest := dropComment (dropSpace cs)
    match rest with
    | '\n' :: more => dropLines fuel more
    | '\r' :: '\n' :: more => dropLines fuel more
    | _ => rest

/-- One name of a key. -/
def readName (cs : List Char) : Option (String × List Char) :=
  match cs with
  | [] => none
  | c :: _ =>
    if c = '"' ∨ c = '\'' then readLineString cs
    else
      let word := cs.takeWhile isBareKeyChar
      if word.isEmpty then none else some (String.ofList word, cs.drop word.length)

/-- A key: names with dots between them, and space around each. The fuel bounds their number. -/
def readKey : Nat → List Char → Option (List String × List Char)
  | 0, _ => none
  | fuel + 1, cs => do
    let (name, rest) ← readName (dropSpace cs)
    match dropSpace rest with
    | '.' :: more => do
      let (names, rest) ← readKey fuel more
      return (name :: names, rest)
    | rest => return ([name], rest)

/-- The most names that a key may have. -/
def maxKeyNames : Nat := 79

/-! ## Dates and numbers -/

/-- A number of exactly `width` digits in a range, and the rest. -/
def readFixed (width low high : Nat) (cs : List Char) : Option (Nat × List Char) :=
  let digits := cs.take width
  if digits.length = width ∧ digits.all Char.isDigit then
    let n := digits.foldl (fun n d => n * 10 + (d.toNat - '0'.toNat)) 0
    if low ≤ n ∧ n ≤ high then some (n, cs.drop width) else none
  else none

/-- The rest after a given character. -/
def expect (c : Char) : List Char → Option (List Char)
  | d :: cs => if d = c then some cs else none
  | [] => none

/-- The rest after the fraction of a second, if there is one. -/
def readSecondFraction : List Char → Option (List Char)
  | '.' :: cs =>
    let rest := cs.dropWhile Char.isDigit
    if rest.length < cs.length then some rest else none
  | cs => some cs

/-- The rest after minutes and seconds, when the hour and its colon have been read. -/
def readMinutes (cs : List Char) : Option (List Char) := do
  let (_, cs) ← readFixed 2 0 59 cs
  let cs ← expect ':' cs
  let (_, cs) ← readFixed 2 0 60 cs
  readSecondFraction cs

/-- The rest after an offset from UTC, if there is one. -/
def readOffset (cs : List Char) : Option (List Char) :=
  match cs with
  | c :: rest =>
    if c = 'Z' ∨ c = 'z' then some rest
    else if c = '+' ∨ c = '-' then do
      let (_, rest) ← readFixed 2 0 23 rest
      let rest ← expect ':' rest
      let (_, rest) ← readFixed 2 0 59 rest
      return rest
    else some cs
  | [] => some []

/-- The rest after an hour and its colon. -/
def readHour? (cs : List Char) : Option (List Char) := do
  let (_, cs) ← readFixed 2 0 23 cs
  expect ':' cs

/-- The rest after the time that may follow a date. -/
def readTimeOfDay (cs : List Char) : Option (List Char) :=
  match cs with
  | c :: rest =>
    if c = 'T' ∨ c = 't' ∨ c = ' ' then
      match readHour? rest with
      | some rest => do readOffset (← readMinutes rest)
      | none => some cs
    else some cs
  | [] => some []

/-- The rest after month and day of a year. -/
def readMonthAndDay (year : Nat) (cs : List Char) : Option (List Char) := do
  let (month, cs) ← readFixed 2 1 12 cs
  let cs ← expect '-' cs
  let (day, cs) ← readFixed 2 1 31 cs
  let leap := (year % 4 == 0 && year % 100 != 0) || year % 400 == 0
  let days :=
    if month = 2 then (if leap then 29 else 28)
    else if month = 4 ∨ month = 6 ∨ month = 9 ∨ month = 11 then 30 else 31
  if day ≤ days then some cs else none

/-- Reads on in a run of digits, in which single underscores may stand between digits and are left
out; `expected` says that a digit must follow. Gives the digits and the rest. -/
def readRunFrom (isDigit : Char → Bool) (expected : Bool) :
    List Char → Option (List Char × List Char)
  | [] => if expected then none else some ([], [])
  | c :: cs =>
    if isDigit c then (readRunFrom isDigit false cs).map fun r => (c :: r.1, r.2)
    else if expected then none
    else if c = '_' then readRunFrom isDigit true cs
    else some ([], c :: cs)

/-- The digits of a run of at least one, and the rest. -/
def readRun (isDigit : Char → Bool) (cs : List Char) : Option (List Char × List Char) :=
  readRunFrom isDigit true cs

/-- A decimal number without leading zeros, sign first, and the rest. -/
def readDecimal (cs : List Char) : Option (Bool × List Char × List Char) :=
  let (negative, digits) :=
    match cs with
    | '-' :: rest => (true, rest)
    | '+' :: rest => (false, rest)
    | _ => (false, cs)
  match digits with
  | '0' :: rest => some (negative, ['0'], rest)
  | _ => (readRun Char.isDigit digits).map fun r => (negative, r.1, r.2)

/-- The value of some digits. -/
def runValue (radix : Nat) (digits : List Char) : Nat :=
  digits.foldl (fun n d => n * radix + (hexValue? d).getD 0) 0

/-- The rest after an exponent. -/
def readExponent (cs : List Char) : Option (List Char) :=
  let digits :=
    match cs with
    | '+' :: rest => rest
    | '-' :: rest => rest
    | _ => cs
  (readRun Char.isDigit digits).map (·.2)

/-- The rest after an exponent, if there is one. -/
def readExponent? : List Char → Option (List Char)
  | 'e' :: cs => readExponent cs
  | 'E' :: cs => readExponent cs
  | cs => some cs

/-- A number in another radix, after its two leading characters. -/
def readRadix (radix : Nat) (cs : List Char) : Option (Value × List Char) := do
  let (digits, rest) ← readRun (fun c => (hexValue? c).any (· < radix)) cs
  let n := runValue radix digits
  if n < Text.bound63 then some (.integer n, rest) else none

/-- A whole number or one with a fraction or exponent. -/
def readNumber (cs : List Char) : Option (Value × List Char) :=
  match cs with
  | '0' :: 'x' :: rest => readRadix 16 rest
  | '0' :: 'o' :: rest => readRadix 8 rest
  | '0' :: 'b' :: rest => readRadix 2 rest
  | _ => do
    let (negative, digits, rest) ← readDecimal cs
    match rest with
    | '.' :: more => do
      let (_, rest) ← readRun Char.isDigit more
      return (.float, ← readExponent? rest)
    | 'e' :: more => return (.float, ← readExponent more)
    | 'E' :: more => return (.float, ← readExponent more)
    | _ =>
      let n := runValue 10 digits
      if negative then
        if n ≤ Text.bound63 then some (.integer (-n), rest) else none
      else if n < Text.bound63 then some (.integer n, rest) else none

/-- The rest after a word. -/
def readWord (word : String) (cs : List Char) : Option (List Char) :=
  word.toList.isPrefixOf? cs

/-- A number, or a date, a time or both. -/
def readNumberOrDate (cs : List Char) : Option (Value × List Char) :=
  let unsigned :=
    match cs with
    | '+' :: rest => rest
    | '-' :: rest => rest
    | _ => cs
  match readFixed 4 0 9999 cs with
  | some (year, '-' :: rest) => do
    let rest ← readMonthAndDay year rest
    return (.dateTime, ← readTimeOfDay rest)
  | _ =>
    match readHour? cs with
    | some rest => do return (.dateTime, ← readMinutes rest)
    | none =>
      match (readWord "inf" unsigned).or (readWord "nan" unsigned) with
      | some rest => some (.float, rest)
      | none => readNumber cs

/-! ## Values -/

/-- The entries of an inline table, each key of which may be a path. -/
def inlineEntries (pairs : List (List String × Value)) : Option Entries :=
  pairs.foldlM (fun entries (key, value) => Entries.addEntry key value .closed entries) []

mutual

/-- Reads a value. `depth` bounds how deeply arrays and tables may nest, and the fuel how many items
may be read. -/
def readValue (fuel depth : Nat) (cs : List Char) : Option (Value × List Char) :=
  match fuel with
  | 0 => none
  | fuel + 1 =>
    match cs with
    | [] => none
    | c :: rest =>
      if c = '"' ∨ c = '\'' then (readString cs).map fun r => (.string r.1, r.2)
      else if c = '[' then
        match depth with
        | 0 => none
        | depth + 1 => (readItems fuel depth rest).map fun r => (.array r.1, r.2)
      else if c = '\x7b' then
        match depth with
        | 0 => none
        | depth + 1 => do
          let (pairs, rest) ← readPairs fuel depth true rest
          return (.table .closed (← inlineEntries pairs), rest)
      else if c = 't' then (readWord "true" cs).map fun r => (.boolean true, r)
      else if c = 'f' then (readWord "false" cs).map fun r => (.boolean false, r)
      else readNumberOrDate cs

/-- Reads the items of an array up to its closing bracket. -/
def readItems (fuel depth : Nat) (cs : List Char) : Option (List Value × List Char) :=
  match fuel with
  | 0 => none
  | fuel + 1 =>
    match dropLines cs.length cs with
    | ']' :: rest => some ([], rest)
    | start => do
      let (value, rest) ← readValue fuel depth start
      match dropLines rest.length rest with
      | ',' :: more => do
        let (values, rest) ← readItems fuel depth more
        return (value :: values, rest)
      | ']' :: rest => return ([value], rest)
      | _ => none

/-- Reads the entries of an inline table up to its closing brace. -/
def readPairs (fuel depth : Nat) (first : Bool) (cs : List Char) :
    Option (List (List String × Value) × List Char) :=
  match fuel with
  | 0 => none
  | fuel + 1 =>
    match first, dropSpace cs with
    | true, '\x7d' :: rest => some ([], rest)
    | _, start => do
      let (key, rest) ← readKey maxKeyNames start
      let rest ← expect '=' rest
      let (value, rest) ← readValue fuel depth (dropSpace rest)
      match dropSpace rest with
      | ',' :: more => do
        let (pairs, rest) ← readPairs fuel depth false more
        return ((key, value) :: pairs, rest)
      | '\x7d' :: rest => return ([(key, value)], rest)
      | _ => none

end

/-- How deeply arrays and inline tables may nest. -/
def maxDepth : Nat := 79

/-! ## Lines -/

/-- A document that has been read up to some line: its entries, and the path of the open table. -/
structure DocumentReading where
  root : Entries
  path : List String

namespace DocumentReading

/-- Adds an entry to the open table. -/
def addEntry (r : DocumentReading) (key : List String) (value : Value) : Option DocumentReading := do
  return { r with
    root := ← Entries.within false (fun origin inner => inner.addEntry key value origin)
      r.path .declared r.root }

/-- Opens the table of a header. -/
def openTable (r : DocumentReading) (path : List String) : Option DocumentReading := do
  return ⟨← r.root.openTable path, path⟩

/-- Opens the next element of an array of tables. -/
def openElement (r : DocumentReading) (path : List String) : Option DocumentReading := do
  return ⟨← r.root.openElement path, path⟩

/-- Reads a line that is not empty, and gives the rest after it. -/
def readLine (r : DocumentReading) (cs : List Char) : Option (DocumentReading × List Char) :=
  match cs with
  | '[' :: '[' :: rest => do
    let (path, rest) ← readKey maxKeyNames rest
    let rest ← expect ']' rest
    let rest ← expect ']' rest
    return (← r.openElement path, ← restOfLine? rest)
  | '[' :: rest => do
    let (path, rest) ← readKey maxKeyNames rest
    let rest ← expect ']' rest
    return (← r.openTable path, ← restOfLine? rest)
  | _ => do
    let (key, rest) ← readKey maxKeyNames cs
    let rest ← expect '=' rest
    let (value, rest) ← readValue (2 * rest.length + 2) maxDepth (dropSpace rest)
    return (← r.addEntry key value, ← restOfLine? rest)

/-- Reads the lines of a document. The fuel is the number of lines at most. -/
def readLines (r : DocumentReading) : Nat → List Char → Option DocumentReading
  | 0, cs => if cs.isEmpty then some r else none
  | fuel + 1, cs =>
    match dropSpace cs with
    | [] => some r
    | '#' :: rest => do
      let rest ← lineEnd? (rest.dropWhile isPlain)
      r.readLines fuel rest
    | '\n' :: rest => r.readLines fuel rest
    | '\r' :: '\n' :: rest => r.readLines fuel rest
    | start => do
      let (next, rest) ← r.readLine start
      next.readLines fuel rest

end DocumentReading

/-- The entries of a document, or none when it is malformed. A byte order mark may stand first. -/
def read? (document : String) : Option Entries :=
  let cs :=
    match document.toList with
    | '\ufeff' :: cs => cs
    | cs => cs
  (DocumentReading.readLines ⟨[], []⟩ (cs.length + 1) cs).map (·.root)

end SettingsForm.Toml
