import SettingsForm.Calendar.Timestamp
import SettingsForm.Toml.Reader

/-!
# Preferences

A preference is a flag that the user's own machine keeps for a while. Preferences are held in the
order of their keys and, when there is a file for them, written to it whenever one changes; a change
that cannot be written does not happen.
-/

namespace SettingsForm

/-- Why a file cannot be read or written. -/
inductive FileFault where
  | missing
  | denied
  | notDirectory
  | isDirectory
  | notText
  deriving Repr, DecidableEq

def FileFault.message : FileFault → String
  | .missing => "No such file or directory (os error 2)"
  | .denied => "Permission denied (os error 13)"
  | .notDirectory => "Not a directory (os error 20)"
  | .isDirectory => "Is a directory (os error 21)"
  | .notText => "stream did not contain valid UTF-8"

/-- Why preferences cannot be read or kept. -/
inductive PreferenceFault where
  | access (fault : FileFault)
  | malformed
  deriving Repr, DecidableEq

/-- The message; what is wrong inside a malformed file is not part of it. -/
def PreferenceFault.message : PreferenceFault → String
  | .access fault => "failed to access preferences file: " ++ fault.message
  | .malformed => "invalid preferences file: "

/-- The messages under a fault's own message. -/
def PreferenceFault.causes : PreferenceFault → List String
  | .access fault => [fault.message]
  | .malformed => []

/-- A flag as it is kept, and when it lapses. -/
structure Preference where
  value : String
  expires : Instant
  deriving Repr, DecidableEq, Inhabited

/-- Preferences by key, in ascending order of the keys. -/
structure PreferenceTable where
  entries : List (String × Preference)
  ascending : entries.Pairwise fun a b => a.1 < b.1
  deriving Repr, DecidableEq

namespace PreferenceTable

def empty : PreferenceTable := ⟨[], .nil⟩

instance : Inhabited PreferenceTable := ⟨empty⟩

def get? (t : PreferenceTable) (key : String) : Option Preference :=
  (t.entries.find? fun e => e.1 = key).map (·.2)

/-- The entries with a preference in the place of its key. -/
def putEntry (key : String) (p : Preference) :
    List (String × Preference) → List (String × Preference)
  | [] => [(key, p)]
  | e :: rest =>
    if key = e.1 then (key, p) :: rest
    else if key < e.1 then (key, p) :: e :: rest
    else e :: putEntry key p rest

theorem fst_of_mem_putEntry {key : String} {p : Preference} {entries : List (String × Preference)}
    {e : String × Preference} (he : e ∈ putEntry key p entries) :
    e.1 = key ∨ ∃ d ∈ entries, d.1 = e.1 := by
  induction entries with
  | nil =>
    obtain rfl := List.mem_singleton.mp he
    exact .inl rfl
  | cons d rest ih =>
    unfold putEntry at he
    split at he
    · rcases List.mem_cons.mp he with rfl | he
      · exact .inl rfl
      · exact .inr ⟨e, List.mem_cons_of_mem _ he, rfl⟩
    · split at he
      · rcases List.mem_cons.mp he with rfl | he
        · exact .inl rfl
        · exact .inr ⟨e, he, rfl⟩
      · rcases List.mem_cons.mp he with rfl | he
        · exact .inr ⟨e, List.mem_cons_self, rfl⟩
        · rcases ih he with heq | ⟨c, hc, hce⟩
          · exact .inl heq
          · exact .inr ⟨c, List.mem_cons_of_mem _ hc, hce⟩

theorem putEntry_ascending (key : String) (p : Preference) {entries : List (String × Preference)}
    (hentries : entries.Pairwise fun a b => a.1 < b.1) :
    (putEntry key p entries).Pairwise fun a b => a.1 < b.1 := by
  induction entries with
  | nil => exact List.pairwise_singleton _ _
  | cons e rest ih =>
    obtain ⟨he, hrest⟩ := List.pairwise_cons.mp hentries
    unfold putEntry
    split
    · rename_i heq
      exact List.pairwise_cons.mpr ⟨fun d hd => heq ▸ he d hd, hrest⟩
    · rename_i hne
      split
      · rename_i hlt
        refine List.pairwise_cons.mpr ⟨fun d hd => ?_, hentries⟩
        rcases List.mem_cons.mp hd with rfl | hd
        · exact hlt
        · exact String.lt_trans hlt (he d hd)
      · rename_i hnlt
        refine List.pairwise_cons.mpr ⟨fun d hd => ?_, ih hrest⟩
        rcases fst_of_mem_putEntry hd with heq | ⟨c, hc, hcd⟩
        · exact heq ▸ Std.lt_of_le_of_ne hnlt (Ne.symm hne)
        · exact hcd ▸ he c hc

/-- Puts a preference in the place of its key. -/
def put (key : String) (p : Preference) (t : PreferenceTable) : PreferenceTable :=
  ⟨putEntry key p t.entries, putEntry_ascending key p t.ascending⟩

/-- Takes the preference of a key out. -/
def erase (key : String) (t : PreferenceTable) : PreferenceTable :=
  ⟨t.entries.filter fun e => e.1 ≠ key, t.ascending.filter _⟩

/-- The text of one preference: a table with its value and the time at which it lapses. -/
def writeEntry (e : String × Preference) : String :=
  "[" ++ Toml.writeKey e.1 ++ "]\nvalue = " ++ Toml.writeString e.2.value ++ "\nexpires = " ++
    Toml.writeString (Timestamp.write e.2.expires) ++ "\n"

/-- The text of a preferences file. -/
def write (t : PreferenceTable) : String := "\n".intercalate (t.entries.map writeEntry)

/-- The preference that a table stands for, or an array with its fields in order; other fields do
not count. -/
def preference? (v : Toml.Value) : Option Preference :=
  let fields :=
    match v with
    | .table _ entries => (Toml.Entries.get? entries "value", Toml.Entries.get? entries "expires")
    | .array (value :: expires :: _) => (some value, some expires)
    | _ => (none, none)
  match fields with
  | (some (.string value), some (.string expires)) =>
    (Timestamp.read? expires).map fun t => ⟨value, t⟩
  | _ => none

/-- The preferences of a file's text. -/
def read (text : String) : Except PreferenceFault PreferenceTable :=
  let table := do
    let entries ← Toml.read? text
    entries.foldlM (fun t e => return put e.1 (← preference? e.2) t) empty
  match table with
  | some t => .ok t
  | none => .error .malformed

end PreferenceTable

/-- The file that preferences are kept in: its text, if it is there, and what would keep it from
being written. -/
structure PreferenceFile where
  content : Option String
  writeFault : Option FileFault
  deriving Repr, DecidableEq, Inhabited

/-- Preferences, kept in a file or for the time being only. -/
structure PreferenceStore where
  file : Option PreferenceFile
  table : PreferenceTable
  deriving Repr, DecidableEq, Inhabited

namespace PreferenceStore

/-- The key of the flag that shows advanced items. -/
def showAdvancedKey : String := "show_advanced_config"

/-- How many days a preference is kept after it was set. -/
def daysKept : Nat := 30

/-- No preferences, and no file for them. -/
def inMemory : PreferenceStore := ⟨none, .empty⟩

/-- The preferences of a file; a file that is not there holds none. -/
def load (file : PreferenceFile) : Except PreferenceFault PreferenceStore :=
  match file.content with
  | none => .ok ⟨some file, .empty⟩
  | some text =>
    match PreferenceTable.read text with
    | .ok table => .ok ⟨some file, table⟩
    | .error fault => .error fault

/-- A flag at some time; one that has lapsed is not there. -/
def flag? (s : PreferenceStore) (key : String) (now : Instant) : Option Bool :=
  match s.table.get? key with
  | none => none
  | some p => if p.expires.notAfter now then none else some (p.value = "1")

/-- Writes the preferences to their file, if there is one. -/
def save (s : PreferenceStore) : Except PreferenceFault PreferenceStore :=
  match s.file with
  | none => .ok s
  | some file =>
    match file.writeFault with
    | none => .ok { s with file := some { file with content := some s.table.write } }
    | some fault => .error (.access fault)

/-- Sets a flag from now on for as long as preferences are kept, and writes the preferences. When
they cannot be written, the entry of the flag is put back as it was, or taken out again. -/
def change (s : PreferenceStore) (key : String) (value : Bool) (now : Instant) :
    PreferenceStore × Except PreferenceFault Unit :=
  let changed : PreferenceStore :=
    { s with table := s.table.put key ⟨if value then "1" else "0", now.addDays daysKept⟩ }
  match changed.save with
  | .ok saved => (saved, .ok ())
  | .error fault =>
    match s.table.get? key with
    | some previous => ({ changed with table := changed.table.put key previous }, .error fault)
    | none => ({ changed with table := changed.table.erase key }, .error fault)

/-- The preferences with a flag set, or why they cannot be kept. -/
def setFlag (s : PreferenceStore) (key : String) (value : Bool) (now : Instant) :
    Except PreferenceFault PreferenceStore :=
  match s.change key value now with
  | (changed, .ok ()) => .ok changed
  | (_, .error fault) => .error fault

end PreferenceStore

end SettingsForm
