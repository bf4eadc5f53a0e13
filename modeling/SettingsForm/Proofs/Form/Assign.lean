import SettingsForm.Proofs.Form.Render
import SettingsForm.Text.Split

/-!
# Assigned values

A value is assigned to an item by its id, whatever control the item has: the input and the drop-down
take it as it is, a group takes the parts between commas. On a form whose controls have the ids of
their items, each way of setting a value changes the block of the item and no other
(`setValue?_eq_assign`, `updateBody_eq_assign`), also where an instance of a group has the id of an
item. So saving sends the assigned values in the place of the item's own (`field?_assign`).
-/

namespace SettingsForm

/-! ## Parts between commas -/

namespace Text

theorem splitChars_eq_splitOn (separator : Char) (cs : List Char) :
    splitChars separator cs = cs.splitOn separator := by
  induction cs with
  | nil => rfl
  | cons c cs ih =>
    rw [splitChars, ih, List.splitOn_cons_eq_if_modifyHead]
    by_cases hc : c = separator
    · simp [hc]
    · cases hparts : cs.splitOn separator with
      | nil => exact absurd hparts (List.splitOn_ne_nil _ _)
      | cons part parts => simp [hc]

theorem split_ne_nil (separator : Char) (s : String) : split separator s ≠ [] := by
  rw [split, splitChars_eq_splitOn, Ne, List.map_eq_nil_iff]
  exact List.splitOn_ne_nil _ _

/-- The parts of a text with commas between them are the text. -/
theorem intercalate_split (s : String) : ",".intercalate (split ',' s) = s := by
  refine String.toList_inj.mp ?_
  rw [String.toList_intercalate, split, splitChars_eq_splitOn]
  simp [Function.comp_def, List.intercalate_splitOn]

end Text

/-! ## Bodies and blocks -/

/-- The body with a value assigned to its control. -/
def BlockBody.assign (value : String) : BlockBody → BlockBody
  | .input i => .input { i with value }
  | .select c => .select { c with selected := value }
  | .group g => .group (g.setValues (Text.split ',' value)).1
  | .fault message => .fault message

theorem BlockBody.assign_step (value : String) (body : BlockBody) : body.Step (body.assign value) := by
  cases body with
  | input i => exact .enter i value
  | select c => exact .choose c value
  | group g => exact .group (.set (Text.split ',' value))
  | fault message => exact .same _

/-- The block with a value assigned, if it is that of the item. -/
def Block.assign (itemId value : String) (b : Block) : Block :=
  if b.itemId = itemId then { b with body := b.body.assign value } else b

theorem Block.assign_related (itemId value : String) (b : Block) :
    b.Related BlockBody.Step (b.assign itemId value) := by
  unfold assign
  split
  · exact ⟨rfl, rfl, rfl, b.body.assign_step value⟩
  · exact .refl .same b

/-- The values of an item to which a value is assigned. -/
def Item.assignedValues (item : Item) (value : String) : List String :=
  if item.isMultiple then Text.split ',' value else [value]

/-- The assigned values with commas between them are the value, for every kind of item. -/
theorem Item.intercalate_assignedValues (item : Item) (value : String) :
    ",".intercalate (item.assignedValues value) = value := by
  unfold assignedValues
  split
  · exact Text.intercalate_split value
  · exact String.intercalate_singleton

/-- A block of the rendered shape sends what is assigned to its item, and otherwise what it did. -/
theorem Item.field?_assign {item : Item} {value : Option FieldValue} {ctx : RenderContext}
    {b : Block} (hb : (item.render value ctx).Related BlockBody.SameShape b)
    (hregular : b.body.Regular b.itemId) (itemId assigned : String) :
    (b.assign itemId assigned).field? = b.field?.map fun field =>
      if field.1 = itemId then (field.1, item.assignedValues assigned) else field := by
  have hid : b.itemId = item.id := hb.itemId
  unfold Block.assign
  by_cases hitem : b.itemId = itemId
  · rw [if_pos hitem]
    unfold Block.field? assignedValues
    rcases sameShape_cases (show BlockBody.SameShape (item.body value ctx.writable) b.body from
      hb.body) with ⟨field, instances, -, hmultiple, -, hbody⟩ |
      ⟨field, entered, -, hmultiple, -, hbody⟩ | ⟨options, selected, -, hmultiple, -, hbody⟩
    all_goals simp only [hbody, hmultiple, BlockBody.assign]
    · rw [Group.values_setValues _ (Text.split_ne_nil ',' assigned)]
      simp [Group.baseId_setValues, renderedGroup, ← hid, hitem]
    · simp [renderedInput, ← hid, hitem]
    · simp [renderedSelect, ← hid, hitem]
  · -- the field of another item has another key
    rw [if_neg hitem]
    obtain ⟨field, hfield, hsends⟩ := field?_of_sameShape hb hregular
    rw [hfield, Option.map_some, if_neg]
    rw [hsends.1, ← hid]
    exact hitem

/-! ## Forms -/

namespace Form

variable {f : Form} {itemId value : String} {b : Block}

/-- Changing the body of an item as an assignment would is assigning. -/
theorem updateBody_eq_assign (hf : (f.blocks.map Block.itemId).Nodup)
    (hb : f.block? itemId = some b) {body : BlockBody} (hbody : body = b.body.assign value) :
    f.updateBody itemId (fun _ => body) = f.mapBlocks (Block.assign itemId value) := by
  rw [updateBody_eq_mapBlocks hf]
  refine mapBlocks_congr fun c hc => ?_
  unfold Block.assign
  split
  · rename_i hid
    rw [hbody, eq_of_block? hf hb hc hid]
  · rfl

theorem group?_of_block? (hb : f.block? itemId = some b) {g : Group} (hbody : b.body = .group g) :
    f.group? itemId = some g := by
  obtain ⟨own, advanced, hidden, body⟩ := b
  obtain rfl : body = .group g := hbody
  rw [group?, hb]

theorem setValue?_of_ne {c : Block} (hregular : c.body.Regular c.itemId) (hid : c.itemId ≠ itemId) :
    c.setValue? itemId value false = none := by
  unfold Block.setValue?
  split
  · rename_i i hbody
    rw [hbody] at hregular
    exact if_neg fun h => hid (hregular.symm.trans h)
  · simp
  · rfl

/-- The id of an item with a text input sets the value of this input, and of no instance. -/
theorem setValue?_eq_assign (hf : (f.blocks.map Block.itemId).Nodup) (hregular : f.Regular)
    (hb : f.block? itemId = some b) {i : Input} (hbody : b.body = .input i) :
    f.setValue? itemId value = some (f.mapBlocks (Block.assign itemId value)) := by
  obtain ⟨hmem, rfl⟩ := block?_some hb
  have hid : i.id = b.itemId := by
    have hown := hregular b hmem
    rwa [hbody] at hown
  have hcontrol : f.isItemControl b.itemId = true :=
    List.any_eq_true.mpr ⟨b, hmem, by simp [Block.itemValue?, hbody, hid]⟩
  have hchange : b.setValue? b.itemId value false = some (b.assign b.itemId value) := by
    simp [Block.setValue?, Block.assign, BlockBody.assign, hbody, hid]
  unfold setValue?
  simp only [hcontrol, Bool.not_true]
  rw [replaceBlock?_eq_mapBlocks hf hmem hchange fun c hc hne =>
    setValue?_of_ne (hregular c hc) hne]
  refine congrArg some (mapBlocks_congr fun c hc => ?_)
  by_cases hown : c.itemId = b.itemId
  · rw [eq_of_block? hf hb hc hown, hchange]
    rfl
  · rw [setValue?_of_ne (hregular c hc) hown, Block.assign, if_neg hown]
    rfl

end Form

end SettingsForm
