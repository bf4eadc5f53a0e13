import SettingsForm.Proofs.Session.Sound
import SettingsForm.Proofs.Snapshot

/-!
# Saving without edits

A form that was just rendered sends back what the server has. The value of an item goes from the
document to the request as it is, blank or padded text included; only where the server has no value
a default stands in, and in a drop-down also for an empty one (`Item.loadedValues`). So saving right
after a load changes no setting that the server has (`load_verbatim`).
-/

namespace SettingsForm

/-! ## Rendered fields -/

namespace Item

/-- The values of an item that was not edited, given the server's value. -/
def loadedValues (item : Item) (value : Option FieldValue) : List String :=
  match item.kind, value with
  | .text field, none => [if field.multiple then "" else item.defaultValue.getD ""]
  | .text _, some (.scalar text) => [text]
  | .text field, some (.sequence texts) =>
    if field.multiple then texts else [",".intercalate texts]
  | .select _, none => [item.defaultValue.getD ""]
  | .select _, some value =>
    [if value.toScalar = "" then item.defaultValue.getD "" else value.toScalar]

variable {item : Item} {value : Option FieldValue}

theorem values_renderedGroup (item : Item) (field : TextField) (value : Option FieldValue)
    (writable : Bool) : (item.renderedGroup field value writable).values = groupValues value := by
  refine List.ext_getElem (by simp [Group.values, renderedGroup]) fun k _ _ => ?_
  simp [Group.values, renderedGroup, InstanceTemplate.build]

theorem groupValues_eq_loadedValues {field : TextField} (hkind : item.kind = .text field)
    (hmultiple : field.multiple = true) (hvalue : ∀ v ∈ value, v.toSequence ≠ []) :
    groupValues value = item.loadedValues value := by
  unfold groupValues loadedValues
  rw [hkind]
  match value with
  | none => simp [hmultiple]
  | some (.scalar text) => rfl
  | some (.sequence texts) =>
    have hne : texts ≠ [] := hvalue _ rfl
    cases texts with
    | nil => exact absurd rfl hne
    | cons first rest => simp [hmultiple, FieldValue.toSequence]

theorem scalarValue_eq_loadedValues {field : TextField} (hkind : item.kind = .text field)
    (hmultiple : field.multiple = false) :
    [item.scalarValue value] = item.loadedValues value := by
  unfold scalarValue loadedValues
  rw [hkind]
  match value with
  | none => simp [hmultiple]
  | some (.scalar text) => rfl
  | some (.sequence texts) => simp [hmultiple, FieldValue.toScalar]

theorem selectValue_eq_loadedValues {options : List SelectOption}
    (hkind : item.kind = .select options) :
    [item.selectValue value] = item.loadedValues value := by
  unfold selectValue loadedValues
  rw [hkind]
  cases value with
  | none => rfl
  | some v => by_cases hempty : v.toScalar = "" <;> simp [Option.filter, hempty]

/-- The field of a rendered block has the values that the server's value implies. -/
theorem field?_render (ctx : RenderContext) (hvalue : ∀ v ∈ value, v.toSequence ≠ []) :
    (item.render value ctx).field? = some (item.id, item.loadedValues value) := by
  unfold Block.field? render
  rcases item.body_cases value ctx.writable with ⟨field, hkind, hmultiple, hbody⟩ |
    ⟨field, hkind, hmultiple, hbody⟩ | ⟨options, hkind, -, hbody⟩
  · rw [isMultiple, hkind] at hmultiple
    rw [hbody, ← groupValues_eq_loadedValues hkind hmultiple hvalue,
      ← values_renderedGroup item field value ctx.writable]
    rfl
  · rw [isMultiple, hkind] at hmultiple
    rw [hbody, ← scalarValue_eq_loadedValues hkind hmultiple]
    rfl
  · rw [hbody, ← selectValue_eq_loadedValues hkind]
    rfl

end Item

namespace Form

variable {c : Catalog} {values : Snapshot}

theorem field?_renderId? (hvalues : ∀ id, ∀ v ∈ values.lookup id, v.toSequence ≠ [])
    (ctx : RenderContext) (id : String) : (renderId? c values ctx id).bind Block.field? =
      (c.item? id).map fun item => (item.id, item.loadedValues (values.lookup item.id)) := by
  unfold renderId?
  cases hitem : c.item? id with
  | some item =>
    obtain rfl : item.id = id := (Catalog.item?_some hitem).2
    exact Item.field?_render ctx (hvalues item.id)
  | none =>
    cases c.faultFor? id with
    | some fault => rfl
    | none => rfl

/-- A rendered form sends the values that the server's values imply, one field for each item. -/
theorem updateRequest_render (hc : c.Sound)
    (hvalues : ∀ id, ∀ v ∈ values.lookup id, v.toSequence ≠ []) (status : ServerStatus)
    (platform : Platform) (shown : Bool) : (render c values status platform shown).updateRequest =
      ⟨c.items.map fun item => (item.id, item.loadedValues (values.lookup item.id))⟩ := by
  unfold updateRequest
  rw [blocks_render_eq, List.filterMap_filterMap]
  simp only [field?_renderId? hvalues]
  rw [← List.map_filterMap, hc.filterMap_item?]

end Form

/-! ## Loading -/

namespace Session

/-- After a load, saving would send one field for each item: the values of the server as they stand
in its document, a default only where it has none. An item's value is the one under its id, or under
the key of the first field that its id names; under a key stands the last field of the document that
has it, with all characters between its tags, or with the texts of the elements there. -/
theorem load_verbatim (s : Session) (service : Service) (now : Instant)
    (hload : (s.load service now).result = .ok ()) :
    let loaded := (s.load service now).session
    ∃ schema document root ts,
      service .schema = .ok schema ∧ Catalog.ofDocument schema = .ok loaded.catalog ∧
      service .values = .ok document ∧ Markup.parse document = .ok root ∧
      Markup.tokens document = .ok ts ∧
      loaded.updateRequest? = some ⟨loaded.catalog.items.map fun item =>
        (item.id, item.loadedValues (loaded.values.lookup item.id))⟩ ∧
      (∀ id, loaded.values.lookup id =
        if id.toList.contains ':' then loaded.values.get? id
        else ((Snapshot.fieldElements root).find? fun f => Snapshot.bareName f.1 = id).bind fun f =>
          loaded.values.get? f.1) ∧
      ∀ key, Option.Rel (fun f value => FieldValue.ReadFrom ts f.2 value)
        ((Snapshot.fieldElements root).reverse.find? fun f => f.1 = key)
        (loaded.values.get? key) := by
  obtain ⟨catalog, status, values, hschema, hvalues, hx⟩ := load_eq_of_ok hload
  obtain ⟨schema, hschemaText, hcatalog⟩ := receive_eq_ok hschema
  obtain ⟨document, hdocument, hread⟩ := receive_eq_ok hvalues
  obtain ⟨root, hroot, rfl⟩ := Snapshot.ofDocument_eq_ok hread
  obtain ⟨ts, -, hts, -⟩ := Markup.enclosed_root hroot
  rw [hx]
  refine ⟨schema, document, root, ts, hschemaText, hcatalog, hdocument, hroot, hts, ?_,
    Snapshot.lookup_ofRoot root, Snapshot.get?_readFrom hroot hts⟩
  exact congrArg some (Form.updateRequest_render (sound_of_receive hschema)
    (fun _ _ hv => Snapshot.toSequence_ne_nil_of_lookup_ofRoot hv) _ _ _)

/-- The second field of a key counts, with the blanks of its texts; a bare name finds the first key
with it; and an empty value is none in the drop-down only. -/
theorem load_verbatim_fallbacks :
    let server := FixedReplies.service {
      schema := some <|
        "<c><section><item id='dir'><type>text</type><multiple>1</multiple></item>" ++
          "<item id='m:a'><type>select</type><option/><default_value>1</default_value></item>" ++
          "<item id='a'><type>text</type></item></section></c>"
      status := some "<s/>"
      values := some <|
        "<c><m> <dir>x</dir> <a/> <dir><i>a,b</i> <i> c </i></dir></m><n><a> &lt;d></a></n></c>"
      update := none }
    ((start .inMemory .other).load server default).session.updateRequest? =
      some ⟨[("dir", ["a,b", " c "]), ("m:a", ["1"]), ("a", [""])]⟩ := by
  intro server
  obtain ⟨hload, hfields⟩ : ((start .inMemory .other).load server default).result = .ok () ∧
      some (UpdateRequest.mk <|
        ((start .inMemory .other).load server default).session.catalog.items.map fun item =>
          (item.id, item.loadedValues
            (((start .inMemory .other).load server default).session.values.lookup item.id))) =
      some ⟨[("dir", ["a,b", " c "]), ("m:a", ["1"]), ("a", [""])]⟩ := by
    decide +kernel
  obtain ⟨-, -, -, -, -, -, -, -, -, hupdate, -⟩ :=
    load_verbatim (start .inMemory .other) server default hload
  exact hupdate.trans hfields

end Session

end SettingsForm
