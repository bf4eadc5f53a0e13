import SettingsForm.Form.Update
import SettingsForm.Proofs.Text.Percent

/-!
# Reading an update

A body names its fields in three layers: parts between ampersands, in each a key before the first
equals sign, and behind it values between commas. No coded piece holds one of these marks, so taking
the layers apart gives back the coded pieces, and reading those gives back the fields
(`decode_encode`).
-/

namespace SettingsForm

namespace UpdateRequest

open Text

/-- The parts of a body between ampersands, each cut at its first equals sign. An empty body has no
parts. -/
def pairs (body : String) : List (List Char × List Char) :=
  if body = "" then []
  else (body.toList.splitOn '&').map fun part =>
    (part.takeWhile (· ≠ '='), (part.dropWhile (· ≠ '=')).drop 1)

/-- The fields of a body, with the values between commas. -/
def decode? (body : String) : Option (List (String × List String)) :=
  (pairs body).mapM fun pair => do
    let key ← percentDecode? pair.1
    let values ← (pair.2.splitOn ',').mapM percentDecode?
    return (key, values)

/-- The fields of a body as any reader of submitted forms takes them, with one value each. Some such
readers take a plus sign for a space. -/
def decodePlain? (plusIsSpace : Bool) (body : String) : Option (List (String × String)) :=
  let piece (cs : List Char) :=
    percentDecode? (if plusIsSpace then cs.map fun c => if c = '+' then ' ' else c else cs)
  (pairs body).mapM fun pair => do
    let key ← piece pair.1
    let value ← piece pair.2
    return (key, value)

/-! ## Taking a body apart -/

theorem not_mem_intercalate {c separator : Char} (hc : c ≠ separator) {pieces : List (List Char)}
    (hpieces : ∀ piece ∈ pieces, c ∉ piece) : c ∉ [separator].intercalate pieces := by
  induction pieces with
  | nil => simp
  | cons piece rest ih =>
    have hpiece := hpieces piece List.mem_cons_self
    have hrest := ih fun p hp => hpieces p (List.mem_cons_of_mem _ hp)
    cases rest with
    | nil => simpa using hpiece
    | cons next rest =>
      rw [List.intercalate_cons_of_ne_nil (List.cons_ne_nil _ _)]
      simp [hpiece, hc, hrest]

/-- The written values of a field. -/
def encodeValues (values : List String) : List Char :=
  [','].intercalate (values.map fun v => (percentEncode v).toList)

theorem toList_encodeField (f : String × List String) :
    (encodeField f).toList = (percentEncode f.1).toList ++ '=' :: encodeValues f.2 := by
  simp [encodeField, encodeValues, String.toList_intercalate, Function.comp_def]

theorem not_mem_percentEncode {c : Char} (hc : isPlain c = false) (s : String) :
    c ∉ (percentEncode s).toList := by
  intro hmem
  rw [isPlain_of_mem_percentEncode hmem] at hc
  cases hc

/-- Neither ampersands nor plus signs stand in a written field. -/
theorem not_mem_encodeValues {c : Char} (hc : isPlain c = false) (hcomma : c ≠ ',')
    (values : List String) : c ∉ encodeValues values := by
  refine not_mem_intercalate hcomma fun piece hpiece => ?_
  obtain ⟨v, -, rfl⟩ := List.mem_map.mp hpiece
  exact not_mem_percentEncode hc v

theorem ampersand_not_mem_encodeField (f : String × List String) :
    '&' ∉ (encodeField f).toList := by
  rw [toList_encodeField]
  simp [not_mem_percentEncode (show isPlain '&' = false by decide),
    not_mem_encodeValues (show isPlain '&' = false by decide) (by decide)]

/-- The key and the values of a written field are what stands around its first equals sign. -/
theorem cut_encodeField (f : String × List String) :
    ((encodeField f).toList.takeWhile (· ≠ '='), ((encodeField f).toList.dropWhile (· ≠ '=')).drop 1) =
      ((percentEncode f.1).toList, encodeValues f.2) := by
  have hkey : ∀ c ∈ (percentEncode f.1).toList, decide (c ≠ '=') = true := by
    intro c hc
    refine decide_eq_true fun heq => ?_
    exact not_mem_percentEncode (show isPlain '=' = false by decide) f.1 (heq ▸ hc)
  rw [toList_encodeField, List.takeWhile_append_of_pos hkey, List.dropWhile_append_of_pos hkey]
  simp

theorem pairs_encode (r : UpdateRequest) : pairs r.encode =
    r.fields.map fun f => ((percentEncode f.1).toList, encodeValues f.2) := by
  unfold pairs encode
  by_cases hfields : r.fields = []
  · rw [hfields]
    rfl
  · have htoList : ("&".intercalate (r.fields.map encodeField)).toList =
        ['&'].intercalate (r.fields.map fun f => (encodeField f).toList) := by
      simp [String.toList_intercalate, Function.comp_def]
    have hsplit : (['&'].intercalate (r.fields.map fun f => (encodeField f).toList)).splitOn '&' =
        r.fields.map fun f => (encodeField f).toList := by
      refine List.splitOn_intercalate '&' (fun part hpart => ?_) (by simpa using hfields)
      obtain ⟨f, -, rfl⟩ := List.mem_map.mp hpart
      exact ampersand_not_mem_encodeField f
    rw [if_neg, htoList, hsplit, List.map_map]
    · exact List.map_congr_left fun f _ => cut_encodeField f
    · -- the equals sign of a field is there
      intro hempty
      rw [hempty] at htoList
      rw [← htoList] at hsplit
      obtain ⟨f, rest, hf⟩ := List.exists_cons_of_ne_nil hfields
      have hfirst := congrArg List.head? hsplit
      rw [hf, List.map_cons, List.head?_cons, toList_encodeField] at hfirst
      simp at hfirst

/-! ## Reading the pieces -/

theorem mapM_eq_some_map {α β : Type} {read : α → Option β} {f : α → β} {l : List α}
    (hread : ∀ a ∈ l, read a = some (f a)) : l.mapM read = some (l.map f) := by
  induction l with
  | nil => rfl
  | cons a l ih =>
    rw [List.mapM_cons, hread a List.mem_cons_self,
      ih fun b hb => hread b (List.mem_cons_of_mem _ hb)]
    rfl

/-- Values between commas are read one by one. -/
theorem decode_encodeValues {values : List String} (hvalues : values ≠ []) :
    ((encodeValues values).splitOn ',').mapM percentDecode? = some values := by
  rw [encodeValues, List.splitOn_intercalate, List.mapM_map]
  · refine (mapM_eq_some_map (f := id) fun v _ => ?_).trans (congrArg some values.map_id)
    rw [Function.comp_apply, percentDecode?_percentEncode, id]
  · intro piece hpiece
    obtain ⟨v, -, rfl⟩ := List.mem_map.mp hpiece
    exact not_mem_percentEncode (by decide) v
  · simpa using hvalues

theorem percentBytes_encodeValues (values : List String) :
    percentBytes (encodeValues values) = utf8Bytes (",".intercalate values).toList := by
  induction values with
  | nil => rfl
  | cons v rest ih =>
    cases rest with
    | nil => simpa [encodeValues, percentBytes] using percentBytes_percentEncode v []
    | cons next rest =>
      have hcomma : encodeValues (v :: next :: rest) =
          (percentEncode v).toList ++ ',' :: encodeValues (next :: rest) := by
        simp [encodeValues, List.intercalate_cons_of_ne_nil]
      rw [hcomma, percentBytes_percentEncode, percentBytes_cons (by decide), ih,
        String.intercalate_cons_cons]
      simp [utf8Bytes]

/-- Read as one piece, values are joined by the commas between them. -/
theorem percentDecode?_encodeValues (values : List String) :
    percentDecode? (encodeValues values) = some (",".intercalate values) :=
  percentDecode?_of_percentBytes (percentBytes_encodeValues values)

theorem decode?_encode {r : UpdateRequest} (hr : ∀ f ∈ r.fields, f.2 ≠ []) :
    decode? r.encode = some r.fields := by
  rw [decode?, pairs_encode, List.mapM_map]
  refine (mapM_eq_some_map (f := id) fun f hf => ?_).trans (congrArg some r.fields.map_id)
  simp only [Function.comp_apply, percentDecode?_percentEncode, decode_encodeValues (hr f hf)]
  rfl

theorem decodePlain?_encode (plusIsSpace : Bool) (r : UpdateRequest) :
    decodePlain? plusIsSpace r.encode =
      some (r.fields.map fun f => (f.1, ",".intercalate f.2)) := by
  -- there is no plus sign that could be taken for a space
  have hplus : ∀ cs : List Char, '+' ∉ cs →
      (if plusIsSpace then cs.map fun c => if c = '+' then ' ' else c else cs) = cs := by
    intro cs hcs
    split
    · refine (List.map_congr_left fun c hc => if_neg fun heq => ?_).trans cs.map_id
      exact hcs (heq ▸ hc)
    · rfl
  rw [decodePlain?, pairs_encode, List.mapM_map]
  refine mapM_eq_some_map fun f _ => ?_
  simp only [Function.comp_apply, hplus _ (not_mem_percentEncode (by decide) f.1),
    hplus _ (not_mem_encodeValues (by decide) (by decide) f.2), percentDecode?_percentEncode,
    percentDecode?_encodeValues]
  rfl

end UpdateRequest

/-! ## The update of a form -/

/-- Every group of the form has an instance. -/
def Form.Filled (f : Form) : Prop := ∀ b ∈ f.blocks, ∀ g, b.body = .group g → g.instances ≠ []

theorem Form.Filled.values_ne_nil {f : Form} (hf : f.Filled) {field : String × List String}
    (hfield : field ∈ f.updateRequest.fields) : field.2 ≠ [] := by
  obtain ⟨b, hb, hbfield⟩ := List.mem_filterMap.mp hfield
  unfold Block.field? at hbfield
  split at hbfield
  · obtain rfl := Option.some.inj hbfield
    exact List.cons_ne_nil _ _
  · obtain rfl := Option.some.inj hbfield
    exact List.cons_ne_nil _ _
  · rename_i g hbody
    obtain rfl := Option.some.inj hbfield
    simpa [Group.values] using hf b hb g hbody
  · cases hbfield

/-- What is sent for a form whose groups all have instances can be read back: the fields with their
values are those of the form, so forms for which the same is sent have the same fields. A reader
that knows nothing of several values gets each field's values with the commas between them, whether
or not it takes plus signs for spaces. -/
theorem UpdateRequest.decode_encode (f : Form) (hf : f.Filled) :
    decode? f.updateRequest.encode = some f.updateRequest.fields ∧
      (∀ g : Form, g.Filled → g.updateRequest.encode = f.updateRequest.encode →
        g.updateRequest = f.updateRequest) ∧
      ∀ plusIsSpace, decodePlain? plusIsSpace f.updateRequest.encode =
        some (f.updateRequest.fields.map fun field => (field.1, ",".intercalate field.2)) := by
  have hdecode {g : Form} (hg : g.Filled) :
      decode? g.updateRequest.encode = some g.updateRequest.fields :=
    decode?_encode fun _ hfield => hg.values_ne_nil hfield
  refine ⟨hdecode hf, fun g hg hsame => ?_, fun plusIsSpace => decodePlain?_encode plusIsSpace _⟩
  have hfields : some g.updateRequest.fields = some f.updateRequest.fields := by
    rw [← hdecode hg, hsame, hdecode hf]
  exact congrArg UpdateRequest.mk (Option.some.inj hfields)

/-- Marks inside keys and values are not taken for those between them. -/
theorem UpdateRequest.decode_encode_marks :
    let plain : Item := ⟨"a&b", "", "", some "1,2 +%é", none, false, .text ⟨false, false, ""⟩⟩
    let multiple : Item := ⟨"x=y", "", "", none, none, false, .text ⟨true, false, ""⟩⟩
    let f : Form := ⟨[⟨"", none, [plain.render none ⟨true, false⟩,
      multiple.render (some (.sequence ["", "p,q"])) ⟨true, false⟩]⟩], .editable [], false⟩
    f.updateRequest.encode = "a%26b=1%2C2%20%2B%25%C3%A9&x%3Dy=,p%2Cq" ∧
      decode? "a%26b=1%2C2%20%2B%25%C3%A9&x%3Dy=,p%2Cq" =
        some [("a&b", ["1,2 +%é"]), ("x=y", ["", "p,q"])] ∧
      decodePlain? true "a%26b=1%2C2%20%2B%25%C3%A9&x%3Dy=,p%2Cq" =
        some [("a&b", "1,2 +%é"), ("x=y", ",p,q")] := by
  intro plain multiple f
  have hencode : f.updateRequest.encode = "a%26b=1%2C2%20%2B%25%C3%A9&x%3Dy=,p%2Cq" := by
    decide +kernel
  have hfilled : f.Filled := by
    simp [Form.Filled, f, Form.blocks, plain, multiple, Item.render, Item.body, groupValues,
      FieldValue.toSequence]
  obtain ⟨hdecode, -, hplain⟩ := decode_encode f hfilled
  rw [hencode] at hdecode hplain
  exact ⟨hencode, hdecode, hplain true⟩

end SettingsForm
