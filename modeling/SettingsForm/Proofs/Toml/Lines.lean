import SettingsForm.Proofs.Toml.Strings

/-!
# Lines of a document

A document in the form in which preferences are written is read line by line: a header with a new key
opens an empty table behind all others (`readLine_header`), and an entry goes behind those of the
table that was opened last (`readLine_entry`).
-/

namespace SettingsForm.Toml

variable {c : Char} {cs rest : List Char} {key name value : String}

/-! ## Entries -/

namespace Entries

variable {entries : Entries} {v w : Value}

theorem get?_append_of_none (hkey : entries.get? key = none) :
    Entries.get? (entries ++ [(key, v)]) key = some v := by
  have hfind := Option.map_eq_none_iff.mp hkey
  simp [get?, List.find?_append, hfind]

theorem put_append_of_none (hkey : entries.get? key = none) :
    Entries.put key w (entries ++ [(key, v)]) = entries ++ [(key, w)] := by
  induction entries with
  | nil => simp [put]
  | cons e entries ih =>
    have hfind := Option.map_eq_none_iff.mp hkey
    have hne : ¬ e.1 = key := by
      intro heq
      rw [List.find?_cons_of_pos (by simpa using heq)] at hfind
      cases hfind
    rw [List.find?_cons_of_neg (by simpa using hne)] at hfind
    rw [List.cons_append, put, if_neg hne, ih (Option.map_eq_none_iff.mpr hfind)]
    rfl

/-- A header with a new name opens an empty table behind all others. -/
theorem openTable_of_none (hkey : entries.get? key = none) :
    entries.openTable [key] = some (entries ++ [(key, .table .declared [])]) := by
  simp [openTable, within, hkey]

end Entries

/-- An entry is added behind those of the table that was opened last. -/
theorem DocumentReading.addEntry_of_none {root inner : Entries} {v : Value}
    (hkey : root.get? key = none) (hname : inner.get? name = none) :
    (DocumentReading.mk (root ++ [(key, .table .declared inner)]) [key]).addEntry [name] v =
      some ⟨root ++ [(key, .table .declared (inner ++ [(name, v)]))], [key]⟩ := by
  simp [addEntry, Entries.within, Entries.addEntry, Entries.get?_append_of_none hkey,
    Entries.put_append_of_none hkey, hname]

/-! ## Lines -/

theorem exists_cons_writeString (s : String) :
    ∃ q cs, (writeString s).toList = q :: cs ∧ (q = '"' ∨ q = '\'') := by
  unfold writeString
  extract_lets cs t
  rw [String.toList_ofList]
  split_ifs
  · exact ⟨_, _, rfl, .inl rfl⟩
  · exact ⟨_, _, rfl, .inr rfl⟩
  · exact ⟨_, _, rfl, .inl rfl⟩
  · exact ⟨_, _, rfl, .inr rfl⟩
  · exact ⟨_, _, rfl, .inl rfl⟩
  · exact ⟨_, _, rfl, .inl rfl⟩

theorem exists_cons_writeKey (key : String) : ∃ c cs, (writeKey key).toList = c :: cs ∧
    (c = '"' ∨ c = '\'' ∨ isBareKeyChar c = true) := by
  unfold writeKey
  extract_lets cs t control
  split
  · rename_i hbare
    simp only [Bool.and_eq_true, Bool.not_eq_true', List.isEmpty_eq_false_iff, List.all_eq_true]
      at hbare
    obtain ⟨c, tail, hcs⟩ := List.exists_cons_of_ne_nil hbare.1
    exact ⟨c, tail, hcs, .inr (.inr (hbare.2 c (hcs ▸ List.mem_cons_self)))⟩
  rw [String.toList_ofList]
  split_ifs
  · exact ⟨_, _, rfl, .inl rfl⟩
  · exact ⟨_, _, rfl, .inr (.inl rfl)⟩
  · exact ⟨_, _, rfl, .inl rfl⟩

theorem dropSpace_cons (hc : c ≠ ' ' ∧ c ≠ '\t') : dropSpace (c :: cs) = c :: cs :=
  List.dropWhile_cons_of_neg (by simpa using hc)

theorem readKey_of_readName {fuel : Nat} (hcs : dropSpace cs = cs)
    (hname : readName cs = some (name, rest)) (hrest : ∀ c ∈ (dropSpace rest).head?, c ≠ '.') :
    readKey (fuel + 1) cs = some ([name], dropSpace rest) := by
  unfold readKey
  rw [hcs, hname]
  simp only [Option.bind_eq_bind, Option.bind_some]
  split
  · rename_i hdot
    exact absurd rfl (hrest '.' (by rw [hdot]; rfl))
  · rfl

/-- The characters with which a key begins start no blank, header or comment. -/
theorem start_of_key (hc : c = '"' ∨ c = '\'' ∨ isBareKeyChar c = true) :
    (c ≠ ' ' ∧ c ≠ '\t') ∧ c ≠ '[' ∧ c ≠ '#' ∧ c ≠ '\n' ∧ c ≠ '\r' := by
  rcases hc with rfl | rfl | hc
  · decide
  · decide
  · refine ⟨⟨?_, ?_⟩, ?_, ?_, ?_, ?_⟩ <;> rintro rfl <;> revert hc <;> decide

theorem readKey_writeKey (key : String) (rest : List Char) :
    readKey maxKeyNames ((writeKey key).toList ++ ']' :: rest) = some ([key], ']' :: rest) := by
  obtain ⟨c, tail, hcons, hc⟩ := exists_cons_writeKey key
  have hname : readName ((writeKey key).toList ++ ']' :: rest) = some (key, ']' :: rest) := by
    refine readName_writeKey key ?_
    rintro c ⟨⟩
    decide
  refine readKey_of_readName ?_ hname ?_
  · rw [hcons]
    exact dropSpace_cons (start_of_key hc).1
  · rintro c ⟨⟩
    decide

/-- A bare name is a key that needs no quotes. -/
theorem readKey_bare (hname : name.toList ≠ [] ∧ name.toList.all isBareKeyChar = true)
    (rest : List Char) :
    readKey maxKeyNames (name.toList ++ ' ' :: '=' :: rest) = some ([name], '=' :: rest) := by
  have hall := List.all_eq_true.mp hname.2
  obtain ⟨c, tail, hcons⟩ := List.exists_cons_of_ne_nil hname.1
  have hbare : readName (name.toList ++ ' ' :: '=' :: rest) = some (name, ' ' :: '=' :: rest) := by
    refine (readName_bare ⟨hname.1, hall⟩ ?_).trans (by rw [String.ofList_toList])
    rintro c ⟨⟩
    decide
  refine readKey_of_readName ?_ hbare ?_
  · rw [hcons]
    exact dropSpace_cons (start_of_key (.inr (.inr (hall c (hcons ▸ List.mem_cons_self))))).1
  · rintro c ⟨⟩
    decide

theorem readValue_writeString (value : String) (fuel : Nat) (rest : List Char) :
    readValue (fuel + 1) maxDepth
      (dropSpace (' ' :: ((writeString value).toList ++ '\n' :: rest))) =
        some (.string value, '\n' :: rest) := by
  obtain ⟨q, quoted, hquoted, hq⟩ := exists_cons_writeString value
  have hread : readString ((writeString value).toList ++ '\n' :: rest) =
      some (value, '\n' :: rest) := readString_writeString value (by simp)
  have hspace : q ≠ ' ' ∧ q ≠ '\t' := by
    rcases hq with rfl | rfl <;> decide
  have hspaced : dropSpace (' ' :: (q :: (quoted ++ '\n' :: rest))) =
      q :: (quoted ++ '\n' :: rest) := dropSpace_cons hspace
  rw [hquoted, List.cons_append] at hread ⊢
  rw [hspaced]
  simp only [readValue, if_pos hq, hread]
  rfl

theorem restOfLine?_break : restOfLine? ('\n' :: rest) = some rest := rfl

/-- A header line opens its table. -/
theorem readLine_header (r : DocumentReading) (key : String) (rest : List Char) :
    r.readLine ('[' :: ((writeKey key).toList ++ ']' :: '\n' :: rest)) =
      (r.openTable [key]).map fun next => (next, rest) := by
  obtain ⟨c, tail, hcons, hc⟩ := exists_cons_writeKey key
  obtain ⟨-, hbracket, -⟩ := start_of_key hc
  have hkey := readKey_writeKey key ('\n' :: rest)
  rw [hcons] at hkey ⊢
  unfold DocumentReading.readLine
  split
  · rename_i heq
    exact absurd (List.cons.inj (List.cons.inj heq).2).1 hbracket
  · rename_i heq
    obtain rfl := (List.cons.inj heq).2
    rw [hkey]
    simp only [Option.bind_eq_bind, Option.bind_some, expect, if_pos, restOfLine?_break]
    cases r.openTable [key] <;> rfl
  · rename_i hne
    exact absurd rfl (hne _)

/-- A line with a bare name and a string adds the string to the open table. -/
theorem readLine_entry (r : DocumentReading)
    (hname : name.toList ≠ [] ∧ name.toList.all isBareKeyChar = true) (value : String)
    (rest : List Char) :
    r.readLine (name.toList ++ ' ' :: '=' :: ' ' :: ((writeString value).toList ++ '\n' :: rest)) =
      (r.addEntry [name] (.string value)).map fun next => (next, rest) := by
  obtain ⟨c, tail, hcons⟩ := List.exists_cons_of_ne_nil hname.1
  obtain ⟨-, hbracket, -⟩ :=
    start_of_key (.inr (.inr (List.all_eq_true.mp hname.2 c (hcons ▸ List.mem_cons_self))))
  have hkey := readKey_bare hname (' ' :: ((writeString value).toList ++ '\n' :: rest))
  rw [hcons] at hkey ⊢
  unfold DocumentReading.readLine
  split
  · rename_i heq
    exact absurd (List.cons.inj heq).1 hbracket
  · rename_i heq
    exact absurd (List.cons.inj heq).1 hbracket
  · rw [hkey]
    simp only [Option.bind_eq_bind, Option.bind_some, expect, if_pos, readValue_writeString,
      restOfLine?_break]
    cases r.addEntry [name] (.string value) <;> rfl

/-- A line that is not blank is read as a whole. -/
theorem readLines_of_readLine {r next : DocumentReading} {fuel : Nat}
    (hc : (c ≠ ' ' ∧ c ≠ '\t') ∧ c ≠ '#' ∧ c ≠ '\n' ∧ c ≠ '\r')
    (hline : r.readLine (c :: cs) = some (next, rest)) :
    r.readLines (fuel + 1) (c :: cs) = next.readLines fuel rest := by
  obtain ⟨hspace, hcomment, hbreak, hreturn⟩ := hc
  rw [DocumentReading.readLines, dropSpace_cons hspace]
  split
  · rename_i heq
    cases heq
  · rename_i heq
    exact absurd (List.cons.inj heq).1 hcomment
  · rename_i heq
    exact absurd (List.cons.inj heq).1 hbreak
  · rename_i heq
    exact absurd (List.cons.inj heq).1 hreturn
  · rw [hline]
    rfl

theorem readLines_header {r next : DocumentReading} (hopen : r.openTable [key] = some next)
    (fuel : Nat) (rest : List Char) :
    r.readLines (fuel + 1) ('[' :: ((writeKey key).toList ++ ']' :: '\n' :: rest)) =
      next.readLines fuel rest := by
  refine readLines_of_readLine (by decide) ?_
  rw [readLine_header, hopen]
  rfl

theorem readLines_entry {r next : DocumentReading}
    (hname : name.toList ≠ [] ∧ name.toList.all isBareKeyChar = true)
    (hadd : r.addEntry [name] (.string value) = some next) (fuel : Nat) (rest : List Char) :
    r.readLines (fuel + 1)
      (name.toList ++ ' ' :: '=' :: ' ' :: ((writeString value).toList ++ '\n' :: rest)) =
        next.readLines fuel rest := by
  have hline := readLine_entry r hname value rest
  obtain ⟨c, tail, hcons⟩ := List.exists_cons_of_ne_nil hname.1
  obtain ⟨hspace, -, hline'⟩ :=
    start_of_key (.inr (.inr (List.all_eq_true.mp hname.2 c (hcons ▸ List.mem_cons_self))))
  rw [hadd, hcons] at hline
  rw [hcons]
  exact readLines_of_readLine ⟨hspace, hline'⟩ hline

theorem readLines_blank {r : DocumentReading} {fuel : Nat} :
    r.readLines (fuel + 1) ('\n' :: rest) = r.readLines fuel rest := rfl

end SettingsForm.Toml
