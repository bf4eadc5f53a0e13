/-!
# Values of a preferences file

A preferences file is a TOML document: a table of named values, which may be tables themselves. Of
the scalars only strings matter here, so the others keep no more than their kind.
-/

namespace SettingsForm.Toml

/-- How a table came to be, which decides what may still be added to it. A table that only another
table's path names is implied; one that a dotted key names is dotted; a header declares a table; and
a table in braces is closed. -/
inductive TableOrigin where
  | implied
  | dotted
  | declared
  | closed
  deriving Repr, DecidableEq, Inhabited

/-- A value, with the entries of a table in the order given. -/
inductive Value where
  | string (text : String)
  | integer (n : Int)
  | float
  | boolean (b : Bool)
  | dateTime
  | array (items : List Value)
  | table (origin : TableOrigin) (entries : List (String × Value))
  | tables (items : List (List (String × Value)))
  deriving Repr, Inhabited

/-- The entries of a table. -/
abbrev Entries := List (String × Value)

/-- The value under a key. -/
def Entries.get? (entries : Entries) (key : String) : Option Value :=
  (entries.find? fun e => e.1 = key).map (·.2)

/-- Puts a value in the place of its key, or at the end when the key is new. -/
def Entries.put (key : String) (value : Value) : Entries → Entries
  | [] => [(key, value)]
  | e :: rest => if e.1 = key then (key, value) :: rest else e :: Entries.put key value rest

/-- The entries without a key. -/
def Entries.erase (entries : Entries) (key : String) : Entries := entries.filter fun e => e.1 ≠ key

end SettingsForm.Toml
