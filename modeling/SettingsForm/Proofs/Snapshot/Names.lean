import SettingsForm.Proofs.Snapshot
import Mathlib.Data.List.Find
import Mathlib.Data.List.TakeWhile

/-!
# Fields by name

A key joins the names of a section and of a field, and a bare name is compared with what stands
behind the last colon of a key. That is what stands behind the last colon of the field's own name
(`bareName_fieldKey`), so a name without a colon may find a field that has it behind a prefix. It
finds the fields of that name, and no others, wherever no prefixed field ends in it
(`lookup_by_name`).
-/

namespace SettingsForm.Snapshot

open Markup

variable {root : Element} {id : String}

/-! ## Keys and names -/

theorem toList_fieldKey (sectionName fieldName : String) :
    (fieldKey sectionName fieldName).toList = sectionName.toList ++ ':' :: fieldName.toList := by
  simp [fieldKey]

theorem takeWhile_append_cons {α : Type} {p : α → Bool} (l m : List α) {a : α} (ha : p a = false) :
    (l ++ a :: m).takeWhile p = l.takeWhile p := by
  induction l with
  | nil => simp [ha]
  | cons b l ih => rw [List.cons_append, List.takeWhile_cons, List.takeWhile_cons, ih]

/-- What stands behind the last colon of a key belongs to the name of the field. -/
theorem bareName_fieldKey (sectionName fieldName : String) :
    bareName (fieldKey sectionName fieldName) = bareName fieldName := by
  unfold bareName
  rw [toList_fieldKey, List.reverse_append, List.reverse_cons, List.append_assoc,
    List.singleton_append, takeWhile_append_cons _ _ (by simp)]

theorem bareName_eq_self {name : String} (hname : ':' ∉ name.toList) : bareName name = name := by
  unfold bareName
  rw [List.takeWhile_eq_self_iff.mpr, List.reverse_reverse, String.ofList_toList]
  intro c hc
  simpa using fun h : c = ':' => hname (h ▸ List.mem_reverse.mp hc)

/-- Fields without colons in their names have one key only when both of their names agree. -/
theorem fieldKey_inj {s t : String} {name other : String} (hname : ':' ∉ name.toList)
    (hother : ':' ∉ other.toList) : fieldKey s name = fieldKey t other ↔ s = t ∧ name = other := by
  constructor
  · intro hkey
    have hbare := congrArg bareName hkey
    rw [bareName_fieldKey, bareName_fieldKey, bareName_eq_self hname, bareName_eq_self hother]
      at hbare
    subst hbare
    have hlist := congrArg String.toList hkey
    rw [toList_fieldKey, toList_fieldKey] at hlist
    exact ⟨String.toList_inj.mp (List.append_cancel_right hlist), rfl⟩
  · rintro ⟨rfl, rfl⟩
    rfl

/-! ## Fields with their sections -/

/-- The fields of a document, each with the name of its section, in document order. -/
def namedFields (root : Element) : List (String × Element) :=
  ((root.find? "config").getD root).elements.flatMap fun group =>
    group.elements.map fun field => (group.name, field)

theorem fieldElements_eq_map (root : Element) : fieldElements root =
    (namedFields root).map fun f => (fieldKey f.1 f.2.name, f.2) := by
  simp only [fieldElements, namedFields, List.map_flatMap, List.map_map]
  rfl

/-- The value of the last field that a test accepts. -/
def lastValue? (root : Element) (p : String × Element → Bool) : Option FieldValue :=
  ((namedFields root).reverse.find? p).map fun f => .ofElement f.2

/-- Under a key stands the value of the last field whose names make up the key. -/
theorem get?_eq_lastValue? (root : Element) (key : String) :
    (ofRoot root).get? key = lastValue? root fun f => fieldKey f.1 f.2.name = key := by
  rw [get?_ofRoot, fieldElements_eq_map, ← List.map_reverse, List.find?_map, Option.map_map]
  rfl

/-- A bare name stands for the key of the first field whose name has it behind the last colon. -/
theorem lookup_bare (hid : ':' ∉ id.toList) : (ofRoot root).lookup id =
    ((namedFields root).find? fun f => bareName f.2.name = id).bind fun first =>
      lastValue? root fun f => fieldKey f.1 f.2.name = fieldKey first.1 first.2.name := by
  rw [lookup_ofRoot, if_neg (by simpa using hid), fieldElements_eq_map, List.find?_map,
    Option.bind_map]
  simp only [Function.comp_def, bareName_fieldKey, get?_eq_lastValue?]

/-- Where no field has the name behind a prefix, a name finds the fields that have it. -/
theorem lookup_of_unprefixed (hid : ':' ∉ id.toList)
    (hnames : ∀ f ∈ namedFields root, bareName f.2.name = id → f.2.name = id) :
    (ofRoot root).lookup id = ((namedFields root).find? fun f => f.2.name = id).bind fun first =>
      lastValue? root fun f => f.1 = first.1 ∧ f.2.name = id := by
  have hsame : ∀ f ∈ namedFields root, bareName f.2.name = id ↔ f.2.name = id := fun f hf =>
    ⟨hnames f hf, fun h => h ▸ bareName_eq_self (h ▸ hid)⟩
  have hfirst : ((namedFields root).find? fun f => bareName f.2.name = id) =
      (namedFields root).find? fun f => f.2.name = id :=
    List.find?_congr fun f hf => by simp [hsame f hf]
  rw [lookup_bare hid, hfirst]
  refine Option.bind_congr fun first hfound => ?_
  have hname : first.2.name = id := by simpa using List.find?_some hfound
  unfold lastValue?
  rw [List.find?_congr]
  intro f hf
  rw [hname, decide_eq_decide]
  constructor
  · intro hkey
    have hbare := congrArg bareName hkey
    rw [bareName_fieldKey, bareName_fieldKey, bareName_eq_self hid] at hbare
    have hown := hnames f (List.mem_reverse.mp hf) hbare
    rw [hown] at hkey
    exact ⟨((fieldKey_inj hid hid).mp hkey).1, hown⟩
  · rintro ⟨hsection, hown⟩
    rw [hsection, hown]

/-- A document that can be read gives an id with a colon the value of the last field whose section
and own names make it up. An id without one stands for the first field that has it as its name, or
behind the last colon of its name; where no field has it behind a colon, nothing is found exactly
when no field has the name, and otherwise the value is that of the last field of the name in a
section named like that of the first. -/
theorem lookup_by_name (document : String) (root : Element) (hroot : parse document = .ok root)
    (id : String) : ∃ s, ofDocument document = .ok s ∧
      (':' ∈ id.toList →
        s.lookup id = lastValue? root fun f => fieldKey f.1 f.2.name = id) ∧
      (':' ∉ id.toList →
        s.lookup id = ((namedFields root).find? fun f => bareName f.2.name = id).bind fun first =>
          lastValue? root fun f => fieldKey f.1 f.2.name = fieldKey first.1 first.2.name) ∧
      (':' ∉ id.toList → (∀ f ∈ namedFields root, bareName f.2.name = id → f.2.name = id) →
        (s.lookup id = none ↔ ∀ f ∈ namedFields root, f.2.name ≠ id) ∧
        ∀ first, (namedFields root).find? (fun f => f.2.name = id) = some first →
          s.lookup id = lastValue? root fun f => f.1 = first.1 ∧ f.2.name = id) := by
  refine ⟨ofRoot root, by rw [ofDocument, hroot], fun hid => ?_, lookup_bare, ?_⟩
  · rw [lookup_ofRoot, if_pos (by simpa using hid), get?_eq_lastValue?]
  · intro hid hnames
    rw [lookup_of_unprefixed hid hnames]
    constructor
    · cases hfirst : (namedFields root).find? fun f => f.2.name = id with
      | none => simpa using hfirst
      | some first =>
        have hmem := List.mem_of_find?_eq_some hfirst
        have hname : first.2.name = id := by simpa using List.find?_some hfirst
        -- the first field of the name is among those of which the last one counts
        have hfound : ((namedFields root).reverse.find? fun f =>
            f.1 = first.1 ∧ f.2.name = id).isSome = true :=
          List.find?_isSome.mpr ⟨first, List.mem_reverse.mpr hmem, by simp [hname]⟩
        have hne : lastValue? root (fun f => f.1 = first.1 ∧ f.2.name = id) ≠ none := by
          rw [lastValue?, Ne, Option.map_eq_none_iff]
          exact Option.isSome_iff_ne_none.mp hfound
        exact ⟨fun hnone => absurd hnone hne, fun hall => absurd hname (hall first hmem)⟩
    · intro first hfirst
      rw [hfirst, Option.bind_some]

/-- The last field of a name counts, among those in sections named like that of the first. -/
theorem lookup_by_name_repeated : ∃ s,
    ofDocument ("<c><x:a><port>1</port></x:a><b><port>2</port><x:host>h</x:host></b>" ++
      "<x:a><port>3</port></x:a></c>") = .ok s ∧
      s.lookup "port" = some (.scalar "3") ∧ s.lookup "b:port" = some (.scalar "2") := by
  obtain ⟨root, hroot, hnames, hfirst, hlast, hkey⟩ : ∃ root,
      parse ("<c><x:a><port>1</port></x:a><b><port>2</port><x:host>h</x:host></b>" ++
        "<x:a><port>3</port></x:a></c>") = .ok root ∧
      (∀ f ∈ namedFields root, bareName f.2.name = "port" → f.2.name = "port") ∧
      ((namedFields root).find? fun f => f.2.name = "port").map Prod.fst = some "x:a" ∧
      (lastValue? root fun f => f.1 = "x:a" ∧ f.2.name = "port") = some (.scalar "3") ∧
      (lastValue? root fun f => fieldKey f.1 f.2.name = "b:port") = some (.scalar "2") := by
    refine ⟨_, rfl, ?_⟩
    decide +kernel
  obtain ⟨first, hfound, hsection⟩ := Option.map_eq_some_iff.mp hfirst
  obtain ⟨s, hs, -, -, hbare⟩ := lookup_by_name _ root hroot "port"
  obtain ⟨t, ht, hqualified, -⟩ := lookup_by_name _ root hroot "b:port"
  obtain rfl : t = s := Except.ok.inj (ht.symm.trans hs)
  refine ⟨t, ht, ?_, (hqualified (by decide)).trans hkey⟩
  rw [(hbare (by decide) hnames).2 first hfound, hsection]
  exact hlast

/-- A name finds a field that has it behind a prefix, although a field has it as its name. -/
theorem lookup_prefixed : ∃ root,
    parse "<c><a><x:port>1</x:port></a><b><port>2</port></b></c>" = .ok root ∧
      ((namedFields root).find? fun f => f.2.name = "port").map
        (fun f => (f.1, FieldValue.ofElement f.2)) = some ("b", .scalar "2") ∧
      (lastValue? root fun f => f.1 = "b" ∧ f.2.name = "port") = some (.scalar "2") ∧
      (ofRoot root).lookup "port" = some (.scalar "1") := by
  refine ⟨_, rfl, ?_⟩
  decide +kernel

end SettingsForm.Snapshot
