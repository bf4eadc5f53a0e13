import SettingsForm.Proofs.Markup.Content
import SettingsForm.Snapshot

/-!
# What a values document holds

Under a key stands the last field that has it (`get?_ofRoot`). A bare name finds the key of the
first field in the document with that name, so that the value may be one of a later field with the
same key (`lookup_ofRoot`). What stands there was read from the tokens of the field: all its
characters, or the texts of the elements in it (`FieldValue.ReadFrom`).
-/

namespace SettingsForm

open Markup

/-! ## Values of fields -/

namespace FieldValue

/-- The value of a field in a document of the tokens: without elements in it all characters between
its tags, else the texts of these elements in order. -/
inductive ReadFrom (ts : List Token) : Element → FieldValue → Prop where
  | characters {field : Element} {inner : List Token} (hfield : Enclosed ts field inner)
      (helements : field.elements = []) :
      ReadFrom ts field (.scalar (.ofList (inner.flatMap Token.characters)))
  | texts {field : Element} (helements : field.elements ≠ []) :
      ReadFrom ts field (.sequence (field.elements.map Element.text))

theorem readFrom_ofElement {ts inner : List Token} {field : Element}
    (hfield : Enclosed ts field inner) : ReadFrom ts field (ofElement field) := by
  unfold ofElement
  split
  · rename_i hhas
    exact .texts (Element.elements_ne_nil.mpr hhas)
  · rename_i hhas
    rw [hfield.text_eq (by simpa using hhas)]
    exact .characters hfield (by simpa using mt Element.elements_ne_nil.mp hhas)

theorem toSequence_ofElement_ne_nil (field : Element) : (ofElement field).toSequence ≠ [] := by
  unfold ofElement
  split
  · rename_i hhas
    simpa [toSequence] using Element.elements_ne_nil.mpr hhas
  · exact List.cons_ne_nil _ _

end FieldValue

namespace Snapshot

variable {s : Snapshot} {key : String} {value : FieldValue}

/-! ## Keys -/

/-- The keys in document order. -/
def keys (s : Snapshot) : List String := s.entries.map Prod.fst

theorem get?_cons (e : String × FieldValue) (rest : List (String × FieldValue)) (key : String) :
    get? ⟨e :: rest⟩ key = if e.1 = key then some e.2 else get? ⟨rest⟩ key := by
  by_cases hkey : e.1 = key <;> simp [get?, hkey]

theorem keys_insertEntry (key : String) (value : FieldValue)
    (entries : List (String × FieldValue)) :
    (insertEntry key value entries).map Prod.fst =
      if key ∈ entries.map Prod.fst then entries.map Prod.fst
      else entries.map Prod.fst ++ [key] := by
  induction entries with
  | nil => rfl
  | cons e rest ih =>
    unfold insertEntry
    by_cases hkey : e.1 = key
    · simp [hkey]
    · rw [if_neg hkey, List.map_cons, ih, List.map_cons]
      simp only [List.mem_cons, Ne.symm hkey, false_or]
      split <;> rfl

theorem keys_insert (s : Snapshot) (key : String) (value : FieldValue) :
    (s.insert key value).keys = if key ∈ s.keys then s.keys else s.keys ++ [key] :=
  keys_insertEntry key value s.entries

theorem get?_insert (s : Snapshot) (key other : String) (value : FieldValue) :
    (s.insert key value).get? other = if key = other then some value else s.get? other := by
  obtain ⟨entries⟩ := s
  rw [insert]
  induction entries with
  | nil => rw [insertEntry, get?_cons]
  | cons e rest ih =>
    unfold insertEntry
    by_cases hkey : e.1 = key
    · rw [if_pos hkey, get?_cons, get?_cons, hkey]
      split <;> rfl
    · rw [if_neg hkey, get?_cons, get?_cons, ih]
      by_cases he : e.1 = other
      · rw [if_pos he, if_neg (he ▸ Ne.symm hkey), if_pos he]
      · rw [if_neg he, if_neg he]

/-- An entry that is found by its key has the value of the key. -/
theorem find?_entries (s : Snapshot) (p : String → Bool) :
    (s.entries.find? fun e => p e.1).map Prod.snd = (s.keys.find? p).bind s.get? := by
  obtain ⟨entries⟩ := s
  simp only [keys]
  induction entries with
  | nil => rfl
  | cons e rest ih =>
    rw [List.find?_cons, List.map_cons, List.find?_cons]
    cases he : p e.1 with
    | true => simp [get?_cons]
    | false =>
      -- the first entry does not have the key of the one that is found
      refine ih.trans (Option.bind_congr fun key hkey => ?_)
      have hne : e.1 ≠ key := fun h => by
        have hp := List.find?_some hkey
        rw [← h, he] at hp
        cases hp
      rw [get?_cons, if_neg hne]

theorem keys_foldl_insert (fields : List (String × FieldValue)) (s : Snapshot) (p : String → Bool) :
    (fields.foldl (fun s f => s.insert f.1 f.2) s).keys.find? p =
      (s.keys ++ fields.map Prod.fst).find? p := by
  induction fields generalizing s with
  | nil => simp
  | cons f rest ih =>
    rw [List.foldl_cons, ih, keys_insert, List.map_cons]
    split
    · rename_i hkey
      -- a key that is there already is not the first to be found again
      rw [List.find?_append, List.find?_append, List.find?_cons]
      cases hp : p f.1 with
      | false => rfl
      | true =>
        obtain ⟨found, hfound⟩ := Option.isSome_iff_exists.mp
          (List.find?_isSome.mpr ⟨f.1, hkey, hp⟩)
        rw [hfound]
        rfl
    · rw [List.append_assoc]
      rfl

theorem get?_foldl_insert (fields : List (String × FieldValue)) (s : Snapshot) (key : String) :
    (fields.foldl (fun s f => s.insert f.1 f.2) s).get? key =
      ((fields.reverse.find? fun f => f.1 = key).map Prod.snd).or (s.get? key) := by
  induction fields generalizing s with
  | nil => rfl
  | cons f rest ih =>
    rw [List.foldl_cons, ih, get?_insert, List.reverse_cons, List.find?_append]
    cases rest.reverse.find? fun f => f.1 = key with
    | some found => rfl
    | none => by_cases hkey : f.1 = key <;> simp [hkey]

/-! ## Fields of a document -/

/-- The field elements of a document with their keys, in document order. -/
def fieldElements (root : Element) : List (String × Element) :=
  ((root.find? "config").getD root).elements.flatMap fun group =>
    group.elements.map fun field => (fieldKey group.name field.name, field)

theorem fields_eq_map (root : Element) : fields ((root.find? "config").getD root) =
    (fieldElements root).map (Prod.map id FieldValue.ofElement) := by
  simp only [fields, fieldElements, List.map_flatMap, List.map_map]
  rfl

/-- The last field with a key gives the key its value. -/
theorem get?_ofRoot (root : Element) (key : String) : (ofRoot root).get? key =
    ((fieldElements root).reverse.find? fun f => f.1 = key).map fun f => .ofElement f.2 := by
  rw [ofRoot, get?_foldl_insert, fields_eq_map, ← List.map_reverse, List.find?_map]
  simp only [get?, empty, List.find?_nil, Option.map_none, Option.or_none, Option.map_map]
  rfl

/-- A bare name stands for the key of the first field with the name. -/
theorem lookup_ofRoot (root : Element) (id : String) : (ofRoot root).lookup id =
    if id.toList.contains ':' then (ofRoot root).get? id
    else ((fieldElements root).find? fun f => bareName f.1 = id).bind fun f =>
      (ofRoot root).get? f.1 := by
  unfold lookup
  split
  · rfl
  · rw [(ofRoot root).find?_entries fun key => bareName key = id]
    conv_lhs => rw [ofRoot, keys_foldl_insert, ← ofRoot, fields_eq_map, List.map_map]
    simp only [keys, empty, List.map_nil, List.nil_append]
    rw [List.find?_map, Option.bind_map]
    rfl

theorem exists_of_get?_ofRoot {root : Element} (hvalue : (ofRoot root).get? key = some value) :
    ∃ field, (key, field) ∈ fieldElements root ∧ value = .ofElement field := by
  rw [get?_ofRoot] at hvalue
  obtain ⟨f, hf, rfl⟩ := Option.map_eq_some_iff.mp hvalue
  obtain rfl : f.1 = key := by simpa using List.find?_some hf
  exact ⟨f.2, List.mem_reverse.mp (List.mem_of_find?_eq_some hf), rfl⟩

theorem exists_of_lookup_ofRoot {root : Element} {id : String}
    (hvalue : (ofRoot root).lookup id = some value) :
    ∃ key field, (key, field) ∈ fieldElements root ∧ value = .ofElement field := by
  rw [lookup_ofRoot] at hvalue
  split at hvalue
  · exact ⟨id, exists_of_get?_ofRoot hvalue⟩
  · obtain ⟨f, -, hf⟩ := Option.bind_eq_some_iff.mp hvalue
    exact ⟨f.1, exists_of_get?_ofRoot hf⟩

theorem toSequence_ne_nil_of_lookup_ofRoot {root : Element} {id : String}
    (hvalue : (ofRoot root).lookup id = some value) : value.toSequence ≠ [] := by
  obtain ⟨key, field, -, rfl⟩ := exists_of_lookup_ofRoot hvalue
  exact FieldValue.toSequence_ofElement_ne_nil field

theorem ofDocument_eq_ok {document : String} (hs : ofDocument document = .ok s) :
    ∃ root, parse document = .ok root ∧ s = ofRoot root := by
  unfold ofDocument at hs
  split at hs
  · rename_i root hroot
    exact ⟨root, hroot, (Except.ok.inj hs).symm⟩
  · cases hs

/-- Every field was read from tokens of the document. -/
theorem enclosed_of_mem_fieldElements {document : String} {root : Element} {ts : List Token}
    (hroot : parse document = .ok root) (hts : tokens document = .ok ts) {field : Element}
    (hfield : (key, field) ∈ fieldElements root) : ∃ inner, Enclosed ts field inner := by
  obtain ⟨us, inner, hus, hall⟩ := enclosed_root hroot
  obtain rfl : ts = us := Except.ok.inj (hts.symm.trans hus)
  obtain ⟨group, hgroup, hmap⟩ := List.mem_flatMap.mp hfield
  obtain ⟨field, hmem, hpair⟩ := List.mem_map.mp hmap
  obtain ⟨-, rfl⟩ := Prod.mk.inj hpair
  obtain ⟨outer, hbase⟩ : ∃ inner, Enclosed ts ((root.find? "config").getD root) inner := by
    cases hfound : root.find? "config" with
    | some found => exact hall.find? hfound
    | none => exact ⟨inner, hall⟩
  obtain ⟨between, hsection⟩ := hbase.child hgroup
  exact hsection.child hmem

/-- Under a key stands what was read from the last field with the key, if there is one. -/
theorem get?_readFrom {document : String} {root : Element} {ts : List Token}
    (hroot : parse document = .ok root) (hts : tokens document = .ok ts) (key : String) :
    Option.Rel (fun f value => FieldValue.ReadFrom ts f.2 value)
      ((fieldElements root).reverse.find? fun f => f.1 = key) ((ofRoot root).get? key) := by
  rw [get?_ofRoot]
  cases hfield : (fieldElements root).reverse.find? fun f => f.1 = key with
  | none => exact .none
  | some f =>
    have hmem := List.mem_reverse.mp (List.mem_of_find?_eq_some hfield)
    obtain ⟨inner, hinner⟩ := enclosed_of_mem_fieldElements hroot hts hmem
    exact .some (FieldValue.readFrom_ofElement hinner)

end Snapshot

end SettingsForm
