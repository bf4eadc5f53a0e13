import SettingsForm.Proofs.Calendar.Timestamp
import SettingsForm.Proofs.Preferences
import SettingsForm.Proofs.Toml.Lines

/-!
# The preferences file

Preferences are written as one table each, in the order of their keys, and read back as the same
preferences (`read_write`). The instants at which they lapse have to be instants that can be written;
those of a file are (`representable_of_read`).
-/

namespace SettingsForm.PreferenceTable

variable {t : PreferenceTable} {e : String × Preference} {entries : List (String × Preference)}

/-- Every preference lapses at an instant that can be written. -/
def Representable (t : PreferenceTable) : Prop := ∀ e ∈ t.entries, e.2.expires.Representable

/-- The table of a document that a preference is written as. -/
def entryTable (e : String × Preference) : String × Toml.Value :=
  (e.1, .table .declared
    [("value", .string e.2.value), ("expires", .string (Timestamp.write e.2.expires))])

theorem toList_writeEntry (e : String × Preference) (rest : List Char) :
    (writeEntry e).toList ++ rest =
      '[' :: ((Toml.writeKey e.1).toList ++ ']' :: '\n' ::
        ("value".toList ++ ' ' :: '=' :: ' ' :: ((Toml.writeString e.2.value).toList ++ '\n' ::
          ("expires".toList ++ ' ' :: '=' :: ' ' ::
            ((Toml.writeString (Timestamp.write e.2.expires)).toList ++ '\n' :: rest))))) := by
  simp [writeEntry]

open Toml in
/-- A written preference is read as a table behind all others. -/
theorem readLines_writeEntry {r : DocumentReading} (hkey : r.root.get? e.1 = none) (fuel : Nat)
    (rest : List Char) :
    r.readLines (fuel + 3) ((writeEntry e).toList ++ rest) =
      (DocumentReading.mk (r.root ++ [entryTable e]) [e.1]).readLines fuel rest := by
  have hvalue : "value".toList ≠ [] ∧ "value".toList.all isBareKeyChar = true := by decide
  have hexpires : "expires".toList ≠ [] ∧ "expires".toList.all isBareKeyChar = true := by decide
  have hopen : r.openTable [e.1] =
      some ⟨r.root ++ [(e.1, .table .declared [])], [e.1]⟩ := by
    rw [DocumentReading.openTable, Entries.openTable_of_none hkey]
    rfl
  rw [toList_writeEntry, readLines_header hopen,
    readLines_entry hvalue (DocumentReading.addEntry_of_none hkey rfl),
    readLines_entry hexpires (DocumentReading.addEntry_of_none hkey rfl)]
  rfl

theorem three_le_length_writeEntry (e : String × Preference) :
    3 ≤ (writeEntry e).toList.length := by
  have htext := congrArg List.length (toList_writeEntry e [])
  simp at htext
  omega

/-- The text of some preferences, and what follows the first of them. -/
theorem toList_write_cons (e : String × Preference) (entries : List (String × Preference)) :
    ∃ rest, ("\n".intercalate ((e :: entries).map writeEntry)).toList =
        (writeEntry e).toList ++ rest ∧
      (entries = [] ∧ rest = [] ∨
        rest = '\n' :: ("\n".intercalate (entries.map writeEntry)).toList) := by
  cases entries with
  | nil => exact ⟨[], by simp, .inl ⟨rfl, rfl⟩⟩
  | cons d entries =>
    refine ⟨_, ?_, .inr rfl⟩
    rw [String.toList_intercalate, String.toList_intercalate, List.map_cons, List.map_cons,
      List.intercalate_cons_of_ne_nil (by simp), List.append_assoc]
    rfl

/-- Written preferences are read as tables in their order. -/
theorem readLines_write {r : Toml.DocumentReading} {fuel : Nat}
    (hkeys : (r.root.map (·.1) ++ entries.map (·.1)).Nodup)
    (hfuel : ("\n".intercalate (entries.map writeEntry)).toList.length ≤ fuel) :
    (r.readLines fuel ("\n".intercalate (entries.map writeEntry)).toList).map (·.root) =
      some (r.root ++ entries.map entryTable) := by
  -- every line takes a character at least, so that the fuel does not run out before the text
  induction entries generalizing r fuel with
  | nil => cases fuel <;> simp [Toml.DocumentReading.readLines, Toml.dropSpace]
  | cons e entries ih =>
    have hkey : r.root.get? e.1 = none := by
      have hdisjoint := (List.nodup_append.mp hkeys).2.2
      refine Option.map_eq_none_iff.mpr (List.find?_eq_none.mpr fun d hd heq => ?_)
      exact hdisjoint d.1 (List.mem_map_of_mem hd) e.1 (by simp) (by simpa using heq)
    have hnext {more : Nat}
        (hmore : ("\n".intercalate (entries.map writeEntry)).toList.length ≤ more) :
        ((Toml.DocumentReading.mk (r.root ++ [entryTable e]) [e.1]).readLines more
          ("\n".intercalate (entries.map writeEntry)).toList).map (·.root) =
            some (r.root ++ (e :: entries).map entryTable) := by
      rw [ih (by simpa [entryTable] using hkeys) hmore]
      simp
    obtain ⟨rest, htext, hrest⟩ := toList_write_cons e entries
    have hlength := three_le_length_writeEntry e
    rw [htext, List.length_append] at hfuel
    obtain ⟨more, rfl⟩ := Nat.exists_eq_add_of_le' (hlength.trans (Nat.le_of_add_right_le hfuel))
    rw [htext, readLines_writeEntry hkey]
    rcases hrest with ⟨rfl, rfl⟩ | rfl
    · exact hnext (Nat.zero_le _)
    · rw [List.length_cons] at hfuel
      obtain ⟨more, rfl⟩ : ∃ less, more = less + 1 := ⟨more - 1, by omega⟩
      rw [Toml.readLines_blank]
      exact hnext (by omega)

/-- Every preference of a written file is found in its document. -/
theorem read?_write (t : PreferenceTable) :
    Toml.read? t.write = some (t.entries.map entryTable) := by
  have hkeys : (t.entries.map (·.1)).Nodup :=
    List.pairwise_map.mpr (t.ascending.imp Std.ne_of_lt)
  have hread : (Toml.DocumentReading.readLines ⟨[], []⟩ (t.write.toList.length + 1)
      t.write.toList).map (·.root) = some (t.entries.map entryTable) :=
    readLines_write hkeys (Nat.le_succ _)
  have hmark : ∀ rest, t.write.toList ≠ '\ufeff' :: rest := by
    intro rest heq
    obtain ⟨entries, ascending⟩ := t
    cases entries with
    | nil => cases heq
    | cons e entries =>
      obtain ⟨more, htext, -⟩ := toList_write_cons e entries
      rw [toList_writeEntry] at htext
      cases (heq.symm.trans htext)
  unfold Toml.read?
  extract_lets cs
  have hcs : cs = t.write.toList := by
    unfold cs
    split
    · rename_i heq
      exact absurd heq (hmark _)
    · rfl
  rw [hcs]
  exact hread

theorem preference?_entryTable (he : e.2.expires.Representable) :
    preference? (entryTable e).2 = some e.2 := by
  simp [preference?, entryTable, Toml.Entries.get?, Timestamp.read?_write he]

theorem putEntry_of_lt {key : String} {p : Preference} (hkey : ∀ d ∈ entries, d.1 < key) :
    putEntry key p entries = entries ++ [(key, p)] := by
  induction entries with
  | nil => rfl
  | cons d entries ih =>
    have hlt := hkey d List.mem_cons_self
    rw [putEntry, if_neg fun heq => String.lt_irrefl _ (heq ▸ hlt), if_neg (String.lt_asymm hlt),
      ih fun c hc => hkey c (List.mem_cons_of_mem _ hc)]
    rfl

theorem eq_of_entries {s : PreferenceTable} (hentries : s.entries = t.entries) : s = t := by
  cases s
  cases t
  cases hentries
  rfl

/-- Adds an entry of a document to a table. -/
def addEntry (t : PreferenceTable) (e : String × Toml.Value) : Option PreferenceTable :=
  (preference? e.2).map fun p => put e.1 p t

theorem read_eq (text : String) : read text =
    match (Toml.read? text).bind fun entries => entries.foldlM addEntry empty with
    | some t => .ok t
    | none => .error .malformed := by
  have hadd : addEntry = fun t e => (preference? e.2).bind fun p => some (put e.1 p t) := by
    funext t e
    exact Option.map_eq_bind
  rw [hadd]
  rfl

/-- Adding the preferences of a table in their order makes the table. -/
theorem foldlM_addEntry {s : PreferenceTable} (hs : s.entries = t.entries ++ entries)
    (hentries : ∀ e ∈ entries, e.2.expires.Representable) :
    (entries.map entryTable).foldlM addEntry t = some s := by
  induction entries generalizing t with
  | nil => exact congrArg some (eq_of_entries (by rw [hs, List.append_nil])).symm
  | cons e entries ih =>
    have hascending := s.ascending
    rw [hs, List.pairwise_append] at hascending
    have hput : (put e.1 e.2 t).entries = t.entries ++ [e] :=
      putEntry_of_lt fun d hd => hascending.2.2 d hd e List.mem_cons_self
    have hadd : t.addEntry (entryTable e) = some (put e.1 e.2 t) := by
      rw [addEntry, preference?_entryTable (hentries e List.mem_cons_self)]
      rfl
    rw [List.map_cons, List.foldlM_cons, hadd]
    exact ih (by rw [hs, hput, List.append_assoc]; rfl)
      fun d hd => hentries d (List.mem_cons_of_mem _ hd)

/-- A written file is read back as the preferences that were written. -/
theorem read_write (ht : t.Representable) : read t.write = .ok t := by
  rw [read_eq, read?_write, Option.bind_some, foldlM_addEntry rfl ht]

/-! ## What a file can hold -/

theorem mem_putEntry {key : String} {p : Preference} (he : e ∈ putEntry key p entries) :
    e = (key, p) ∨ e ∈ entries := by
  induction entries with
  | nil => exact .inl (List.mem_singleton.mp he)
  | cons d entries ih =>
    rw [putEntry] at he
    split_ifs at he
    · exact (List.mem_cons.mp he).imp_right (List.mem_cons_of_mem _)
    · exact List.mem_cons.mp he
    · rcases List.mem_cons.mp he with rfl | he
      · exact .inr List.mem_cons_self
      · exact (ih he).imp_right (List.mem_cons_of_mem _)

theorem representable_put {key : String} {p : Preference} (ht : t.Representable)
    (hp : p.expires.Representable) : (put key p t).Representable := by
  intro e he
  rcases mem_putEntry he with rfl | he
  · exact hp
  · exact ht e he

theorem representable_of_preference? {v : Toml.Value} {p : Preference}
    (hp : preference? v = some p) : p.expires.Representable := by
  unfold preference? at hp
  extract_lets fields at hp
  generalize fields = found at hp
  split at hp
  · obtain ⟨instant, hread, rfl⟩ := Option.map_eq_some_iff.mp hp
    exact Timestamp.representable_of_read? hread
  · cases hp

theorem representable_of_foldlM {tables : List (String × Toml.Value)} {s : PreferenceTable}
    (ht : t.Representable) (hs : tables.foldlM addEntry t = some s) : s.Representable := by
  induction tables generalizing t with
  | nil =>
    cases hs
    exact ht
  | cons e tables ih =>
    rw [List.foldlM_cons] at hs
    obtain ⟨next, hnext, hs⟩ := Option.bind_eq_some_iff.mp hs
    obtain ⟨p, hp, rfl⟩ := Option.map_eq_some_iff.mp hnext
    exact ih (representable_put ht (representable_of_preference? hp)) hs

theorem representable_empty : empty.Representable := fun _ he => nomatch he

/-- The preferences of a file lapse at instants that can be written. -/
theorem representable_of_read {text : String} (ht : read text = .ok t) : t.Representable := by
  rw [read_eq] at ht
  split at ht
  · rename_i found hfound
    cases ht
    obtain ⟨tables, -, hfold⟩ := Option.bind_eq_some_iff.mp hfound
    exact representable_of_foldlM representable_empty hfold
  · cases ht

end SettingsForm.PreferenceTable
