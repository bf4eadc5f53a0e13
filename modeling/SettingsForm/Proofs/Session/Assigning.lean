import SettingsForm.Proofs.Form.Assign
import SettingsForm.Proofs.Session.Sound

/-!
# Setting a value by the id of an item

Which operation sets the value of an item depends on the kind of its control. Whichever it is, it
leaves the form with the value assigned to the item's block and to no other (`assigned`), in a
session that is in editing.
-/

namespace SettingsForm

namespace Session

variable {s : Session} {f : Form} {key value : String}

/-- The block of a registered item has the shape of the one that would be rendered for it. -/
theorem Sound.exists_block (hs : s.Sound) (hf : s.form = some f) {item : Item}
    (hitem : s.catalog.item? key = some item) : ∃ b, f.block? key = some b ∧
      BlockBody.SameShape (item.body (s.values.lookup key) s.status.writable) b.body := by
  have hlisted : key ∈ f.blocks.map Block.itemId := by
    obtain ⟨hmem, rfl⟩ := Catalog.item?_some hitem
    rw [hs.itemIds hf]
    exact hs.catalog.items_sublist.subset (List.mem_map_of_mem hmem)
  obtain ⟨b, hb, rfl⟩ := List.mem_map.mp hlisted
  obtain ⟨r, hr, hrb⟩ := hs.exists_rendered hf hb
  rw [Form.renderId?, hitem] at hr
  obtain rfl := Option.some.inj hr
  exact ⟨b, Form.block?_of_mem (hs.itemIds_nodup hf) hb, hrb.body⟩

/-- The session with a value assigned to an item. -/
def assigned (s : Session) (f : Form) (key value : String) : Session :=
  { s with form := some (f.mapBlocks (Block.assign key value)), phase := .editing }

theorem Sound.assigned (hs : s.Sound) (hf : s.form = some f) : (s.assigned f key value).Sound :=
  hs.of_related hf (Form.mapBlocks_related fun b _ => b.assign_related key value) (.inr rfl)

section Operations

variable {b : Block} (hs : s.Sound) (hf : s.Loaded f) (hwritable : f.isWritable = true)
  (hb : f.block? key = some b)

include hs hf hwritable hb

theorem setItemValues_eq_assigned {g : Group} (hbody : b.body = .group g) :
    s.setItemValues key (Text.split ',' value) = ⟨s.assigned f key value, .ok ()⟩ := by
  have hassign : f.updateBody key (fun _ => .group (g.setValues (Text.split ',' value)).1) =
      f.mapBlocks (Block.assign key value) :=
    Form.updateBody_eq_assign (hs.itemIds_nodup hf.form) hb (by rw [hbody]; rfl)
  rw [setItemValues, editGroup, edit, editableForm_eq_ok.mpr ⟨hf, hwritable⟩]
  simp only [Form.group?_of_block? hb hbody]
  rw [Group.setValues_ok]
  simp only [hassign]
  rfl

theorem setValue_eq_assigned {i : Input} (hbody : b.body = .input i) :
    s.setValue key value = ⟨s.assigned f key value, .ok ()⟩ := by
  rw [setValue, edit, editableForm_eq_ok.mpr ⟨hf, hwritable⟩]
  simp only [Form.setValue?_eq_assign (hs.itemIds_nodup hf.form) (hs.regular f hf.form) hb hbody]
  rfl

theorem select_eq_assigned {c : Select} (hbody : b.body = .select c)
    (hoption : (c.options.any fun o => o.value = value) = true) :
    s.select key value = ⟨s.assigned f key value, .ok ()⟩ := by
  have hassign : f.updateBody key (fun _ => .select { c with selected := value }) =
      f.mapBlocks (Block.assign key value) :=
    Form.updateBody_eq_assign (hs.itemIds_nodup hf.form) hb (by rw [hbody]; rfl)
  rw [select, edit, editableForm_eq_ok.mpr ⟨hf, hwritable⟩]
  simp only [hb, Option.map_some, hbody, hoption, if_true, hassign]
  rfl

omit hs in
theorem select_eq_unknownOption {c : Select} (hbody : b.body = .select c)
    (hoption : (c.options.any fun o => o.value = value) = false) :
    (s.select key value).result = .error (.unknownOption key value) := by
  rw [select, edit, editableForm_eq_ok.mpr ⟨hf, hwritable⟩]
  simp only [hb, Option.map_some, hbody, hoption, Bool.false_eq_true, if_false]

end Operations

/-- An edit of a form that cannot be written is refused. -/
theorem Loaded.edit_of_not_writable {α : Type} (hf : s.Loaded f) (hwritable : f.isWritable = false)
    (operation : Operation) (change : Form → Form × Except FormError α) :
    (s.edit operation change).result = .error .notWritable := by
  rw [edit, hf.editableForm_of_not_writable hwritable]

end Session

end SettingsForm
