import SettingsForm.Proofs.Catalog.Listing
import SettingsForm.Proofs.Form.Edit

/-!
# Rendered forms

The form of a catalog that accounts for its ids has one block for every listed id
(`blocks_render`), whose controls have the ids that the items give them (`render_regular`). Showing
and hiding advanced blocks leads from one rendered form to the other
(`setAdvancedVisible_render`). A block of the same shape sends the field of its item, whatever was
edited (`field?_rel`).
-/

namespace SettingsForm

/-! ## The block of an item -/

theorem groupValues_ne_nil (value : Option FieldValue) : groupValues value ≠ [] := by
  unfold groupValues
  split
  · exact List.cons_ne_nil _ _
  · assumption

namespace Item

variable (item : Item) (field : TextField) (value : Option FieldValue) (writable : Bool)

/-- The group of an item that may have several values, its instances numbered from zero on. -/
def renderedGroup : Group where
  baseId := item.id
  instances := (groupValues value).mapIdx fun i v =>
    (item.template field writable).build item.id i.toUInt32 v
  addLabel := field.addLabel
  disabled := !writable
  template := item.template field writable

/-- The text input of an item that has one value. -/
def renderedInput : Input where
  id := item.id
  label := item.name
  description := item.description
  value := item.scalarValue value
  size := item.size
  disabled := !writable
  affordances := if field.browse then [.browse item.id] else []

/-- The drop-down of an item with options. -/
def renderedSelect (options : List SelectOption) : Select where
  id := item.id
  label := item.name
  description := item.description
  options
  selected := item.selectValue value
  disabled := !writable

/-- What the block of an item shows, by the kind of the item. -/
theorem body_cases :
    (∃ field, item.kind = .text field ∧ item.isMultiple = true ∧
      item.body value writable = .group (item.renderedGroup field value writable)) ∨
    (∃ field, item.kind = .text field ∧ item.isMultiple = false ∧
      item.body value writable = .input (item.renderedInput field value writable)) ∨
    (∃ options, item.kind = .select options ∧ item.isMultiple = false ∧
      item.body value writable = .select (item.renderedSelect value writable options)) := by
  cases hkind : item.kind with
  | text field =>
    cases hmultiple : field.multiple with
    | true =>
      refine .inl ⟨field, rfl, ?_, ?_⟩
      · rw [isMultiple, hkind]
        exact hmultiple
      · rw [body, hkind]
        exact if_pos hmultiple
    | false =>
      refine .inr (.inl ⟨field, rfl, ?_, ?_⟩)
      · rw [isMultiple, hkind]
        exact hmultiple
      · rw [body, hkind]
        exact if_neg (by simp [hmultiple])
  | select options =>
    refine .inr (.inr ⟨options, rfl, ?_, ?_⟩)
    · rw [isMultiple, hkind]
    · rw [body, hkind]
      rfl

variable {item value writable} in
/-- What the block of an item can show after edits, by the kind of the item. -/
theorem sameShape_cases {body : BlockBody}
    (hbody : BlockBody.SameShape (item.body value writable) body) :
    (∃ field instances, item.kind = .text field ∧ item.isMultiple = true ∧
      item.body value writable = .group (item.renderedGroup field value writable) ∧
      body = .group { item.renderedGroup field value writable with instances }) ∨
    (∃ field entered, item.kind = .text field ∧ item.isMultiple = false ∧
      item.body value writable = .input (item.renderedInput field value writable) ∧
      body = .input { item.renderedInput field value writable with value := entered }) ∨
    (∃ options selected, item.kind = .select options ∧ item.isMultiple = false ∧
      item.body value writable = .select (item.renderedSelect value writable options) ∧
      body = .select { item.renderedSelect value writable options with selected }) := by
  rcases item.body_cases value writable with ⟨field, hkind, hmultiple, h⟩ |
    ⟨field, hkind, hmultiple, h⟩ | ⟨options, hkind, hmultiple, h⟩
  · rw [h] at hbody
    cases hbody with
    | group _ instances => exact .inl ⟨field, instances, hkind, hmultiple, h, rfl⟩
  · rw [h] at hbody
    cases hbody with
    | input _ entered => exact .inr (.inl ⟨field, entered, hkind, hmultiple, h, rfl⟩)
  · rw [h] at hbody
    cases hbody with
    | select _ selected => exact .inr (.inr ⟨options, selected, hkind, hmultiple, h, rfl⟩)

/-- An item with several values is rendered as a group. -/
theorem exists_renderedGroup (hitem : item.isMultiple = true) : ∃ field,
    item.body value writable = .group (item.renderedGroup field value writable) := by
  rcases item.body_cases value writable with ⟨field, -, -, hbody⟩ | ⟨_, -, hmultiple, -⟩ |
    ⟨_, -, hmultiple, -⟩
  · exact ⟨field, hbody⟩
  · cases hitem.symm.trans hmultiple
  · cases hitem.symm.trans hmultiple

theorem mem_renderedGroup {i : Instance}
    (hi : i ∈ (item.renderedGroup field value writable).instances) :
    ∃ k < (groupValues value).length, i.suffix = k.toUInt32 ∧
      i = (item.template field writable).build item.id i.suffix i.input.value := by
  obtain ⟨k, hk, rfl⟩ := List.mem_mapIdx.mp hi
  exact ⟨k, hk, rfl, rfl⟩

theorem length_renderedGroup : (item.renderedGroup field value writable).instances.length =
    (groupValues value).length := List.length_mapIdx

theorem body_regular : (item.body value writable).Regular item.id := by
  rcases item.body_cases value writable with ⟨field, -, -, hbody⟩ | ⟨field, -, -, hbody⟩ |
    ⟨options, -, -, hbody⟩
  · rw [hbody]
    refine ⟨rfl, fun i hi => ?_, ?_⟩
    · obtain ⟨-, -, -, hbuilt⟩ := item.mem_renderedGroup field value writable hi
      exact hbuilt
    · rw [← List.length_pos_iff, length_renderedGroup, List.length_pos_iff]
      exact groupValues_ne_nil value
  · rw [hbody]
    rfl
  · rw [hbody]
    rfl

/-- The suffix of each instance of a rendered group is its place. -/
theorem toNat_suffix_renderedGroup (hcount : (groupValues value).length ≤ UInt32.size) :
    ((item.renderedGroup field value writable).instances.map fun i => i.suffix.toNat) =
      List.range (groupValues value).length := by
  refine List.ext_getElem (by simp [length_renderedGroup]) fun k hk _ => ?_
  have hk : k < (groupValues value).length := by simpa [length_renderedGroup] using hk
  simp only [renderedGroup, List.getElem_map, List.getElem_mapIdx, List.getElem_range,
    InstanceTemplate.build]
  exact UInt32.toNat_ofNat_of_lt' (Nat.lt_of_lt_of_le hk hcount)

/-- The suffixes of a rendered group are distinct and below the number of its instances. -/
theorem renderedGroup_suffixesBelow (hcount : (groupValues value).length ≤ UInt32.size) :
    (item.renderedGroup field value writable).SuffixesBelow (groupValues value).length := by
  have hsuffixes := item.toNat_suffix_renderedGroup field value writable hcount
  constructor
  · apply List.Nodup.of_map UInt32.toNat
    rw [List.map_map]
    exact hsuffixes ▸ List.nodup_range
  · intro i hi
    exact List.mem_range.mp (hsuffixes ▸ List.mem_map_of_mem (f := fun i => i.suffix.toNat) hi)

theorem body_suffixesBelow (hcount : (item.body value writable).instanceCount ≤ UInt32.size) :
    (item.body value writable).SuffixesBelow (item.body value writable).instanceCount := by
  rcases item.body_cases value writable with ⟨field, -, -, hbody⟩ | ⟨field, -, -, hbody⟩ |
    ⟨options, -, -, hbody⟩
  · rw [hbody] at hcount ⊢
    simp only [BlockBody.instanceCount, length_renderedGroup] at hcount ⊢
    exact item.renderedGroup_suffixesBelow field value writable hcount
  · rw [hbody]
    trivial
  · rw [hbody]
    trivial

theorem setAdvancedVisible_render (shown visible : Bool) :
    (item.render value ⟨writable, shown⟩).setAdvancedVisible visible =
      item.render value ⟨writable, visible⟩ := by
  unfold render Block.setAdvancedVisible
  cases item.advanced <;> rfl

/-- What an item adds to what saving sends: one field under its id, with at least one value when it
may have several, else with exactly one. -/
def Sends (item : Item) (field : String × List String) : Prop :=
  field.1 = item.id ∧ if item.isMultiple then field.2 ≠ [] else ∃ value, field.2 = [value]

theorem field?_of_sameShape {item : Item} {value : Option FieldValue} {ctx : RenderContext}
    {b : Block} (hb : (item.render value ctx).Related BlockBody.SameShape b)
    (hregular : b.body.Regular b.itemId) : ∃ field, b.field? = some field ∧ item.Sends field := by
  rw [show b.itemId = item.id from hb.itemId] at hregular
  unfold Block.field? Sends
  rcases sameShape_cases (show BlockBody.SameShape (item.body value ctx.writable) b.body from
    hb.body) with ⟨field, instances, -, hmultiple, -, hbody⟩ |
    ⟨field, entered, -, hmultiple, -, hbody⟩ | ⟨options, selected, -, hmultiple, -, hbody⟩
  · rw [hbody] at hregular ⊢
    obtain ⟨-, -, hne⟩ := hregular
    refine ⟨_, rfl, rfl, ?_⟩
    rw [if_pos hmultiple]
    simpa [Group.values] using hne
  · rw [hbody]
    refine ⟨_, rfl, rfl, ?_⟩
    rw [if_neg (by simp [hmultiple])]
    exact ⟨entered, rfl⟩
  · rw [hbody]
    refine ⟨_, rfl, rfl, ?_⟩
    rw [if_neg (by simp [hmultiple])]
    exact ⟨selected, rfl⟩

end Item

namespace Form

variable {c : Catalog} {values : Snapshot} {status : ServerStatus} {platform : Platform}
  {shown : Bool}

/-! ## The blocks of a rendered form -/

/-- A rendered block is that of a registered item, or stands in the place of a rejected one. -/
theorem renderId?_cases {ctx : RenderContext} {id : String} {b : Block}
    (hb : renderId? c values ctx id = some b) :
    (∃ item, c.item? id = some item ∧ b = item.render (values.lookup id) ctx) ∨
      (c.item? id = none ∧ ∃ fault : ItemFault, b = fault.render id) := by
  unfold renderId? at hb
  split at hb
  · rename_i item hitem
    exact .inl ⟨item, hitem, (Option.some.inj hb).symm⟩
  · rename_i hitem
    obtain ⟨fault, -, rfl⟩ := Option.map_eq_some_iff.mp hb
    exact .inr ⟨hitem, fault, rfl⟩

theorem renderId?_itemId {ctx : RenderContext} {id : String} {b : Block}
    (hb : renderId? c values ctx id = some b) : b.itemId = id := by
  rcases renderId?_cases hb with ⟨item, hitem, rfl⟩ | ⟨-, fault, rfl⟩
  · exact (Catalog.item?_some hitem).2
  · rfl

theorem renderId?_isSome (hc : c.Sound) {ctx : RenderContext} {id : String}
    (hid : id ∈ c.listedIds) : ∃ b, renderId? c values ctx id = some b := by
  unfold renderId?
  cases hitem : c.item? id with
  | some item => exact ⟨_, rfl⟩
  | none =>
    obtain ⟨fault, hfault⟩ := hc.faulty id hid hitem
    exact ⟨fault.render id, by rw [hfault]; rfl⟩

theorem renderId?_regular {ctx : RenderContext} {id : String} {b : Block}
    (hb : renderId? c values ctx id = some b) : b.body.Regular b.itemId := by
  rcases renderId?_cases hb with ⟨item, -, rfl⟩ | ⟨-, fault, rfl⟩
  · exact item.body_regular _ _
  · trivial

theorem forall₂_filterMap {α β : Type} {k : α → Option β} {l : List α}
    (hk : ∀ a ∈ l, ∃ b, k a = some b) :
    List.Forall₂ (fun a b => k a = some b) l (l.filterMap k) := by
  induction l with
  | nil => exact .nil
  | cons a l ih =>
    obtain ⟨b, hb⟩ := hk a List.mem_cons_self
    rw [List.filterMap_cons_some hb]
    exact .cons hb (ih fun x hx => hk x (List.mem_cons_of_mem _ hx))

theorem blocks_render_eq (c : Catalog) (values : Snapshot) (status : ServerStatus)
    (platform : Platform) (shown : Bool) : (render c values status platform shown).blocks =
      c.listedIds.filterMap (renderId? c values ⟨status.writable, shown⟩) := by
  simp only [render, blocks, Catalog.listedIds, List.flatMap_map, List.filterMap_flatMap,
    renderSection]

section Rendered

variable (hc : c.Sound) (values : Snapshot) (status : ServerStatus) (platform : Platform)
  (shown : Bool)

include hc

/-- A rendered form has a block for every listed id, in the same order. -/
theorem blocks_render : List.Forall₂
    (fun id b => renderId? c values ⟨status.writable, shown⟩ id = some b) c.listedIds
      (render c values status platform shown).blocks := by
  rw [blocks_render_eq]
  exact forall₂_filterMap fun id hid => renderId?_isSome hc hid

theorem itemIds_render :
    (render c values status platform shown).blocks.map Block.itemId = c.listedIds := by
  have hblocks := blocks_render hc values status platform shown
  revert hblocks
  generalize c.listedIds = ids
  generalize (render c values status platform shown).blocks = blocks
  intro hblocks
  induction hblocks with
  | nil => rfl
  | cons hb _ ih => rw [List.map_cons, renderId?_itemId hb, ih]

theorem exists_renderId?_of_mem {b : Block}
    (hb : b ∈ (render c values status platform shown).blocks) :
    ∃ id, renderId? c values ⟨status.writable, shown⟩ id = some b := by
  obtain ⟨id, -, hid⟩ := exists_of_forall₂_of_mem (blocks_render hc values status platform shown) hb
  exact ⟨id, hid⟩

theorem render_regular : (render c values status platform shown).Regular := by
  intro b hb
  obtain ⟨id, hid⟩ := exists_renderId?_of_mem hc values status platform shown hb
  exact renderId?_regular hid

end Rendered

theorem renderId?_setAdvancedVisible {writable : Bool} (visible : Bool) (id : String) :
    (renderId? c values ⟨writable, shown⟩ id).map (·.setAdvancedVisible visible) =
      renderId? c values ⟨writable, visible⟩ id := by
  unfold renderId?
  cases c.item? id with
  | some item => exact congrArg some (item.setAdvancedVisible_render _ writable shown visible)
  | none =>
    cases c.faultFor? id with
    | some fault => rfl
    | none => rfl

/-- Showing or hiding advanced blocks leads to the form rendered with them shown or hidden. -/
theorem setAdvancedVisible_render (visible : Bool) :
    (render c values status platform shown).setAdvancedVisible visible =
      render c values status platform visible := by
  unfold render setAdvancedVisible
  congr 1
  rw [List.map_map]
  refine List.map_congr_left fun s _ => ?_
  simp only [Function.comp_apply, renderSection, List.map_filterMap,
    renderId?_setAdvancedVisible]

/-! ## Fields -/

/-- A block in the place of a listed id adds the field of the item that has the id, if any. -/
theorem field?_rel {id : String} {b : Block}
    (hb : ∃ r, renderId? c values ⟨status.writable, shown⟩ id = some r ∧
      r.Related BlockBody.SameShape b) (hregular : b.body.Regular b.itemId) :
    Option.Rel Item.Sends (c.item? id) b.field? := by
  obtain ⟨r, hr, hrb⟩ := hb
  rcases renderId?_cases hr with ⟨item, hitem, rfl⟩ | ⟨hitem, fault, rfl⟩
  · obtain ⟨field, hfield, hsends⟩ := Item.field?_of_sameShape hrb hregular
    rw [hitem, hfield]
    exact .some hsends
  · rw [hitem, Block.field?, BlockBody.SameShape.eq_fault hrb.body]
    exact .none

end Form

end SettingsForm
