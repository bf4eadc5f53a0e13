import SettingsForm.Session
import SettingsForm.Proofs.Form.Edit

/-!
# Bringing back values

Cancelling goes through the items one after the other and looks up the block of each. It never stops
on the way (`restoreItems_ok`). Where no two items have one id and no item has two blocks, what it
leaves is the form with every block changed once, by its own item (`restoreItems_eq_mapBlocks`).
-/

namespace SettingsForm.Session

variable {f : Form}

theorem restoreBody_ok (item : Item) (value : Option FieldValue) (body : BlockBody) :
    restoreBody item value body = ((restoreBody item value body).1, .ok ()) := by
  unfold restoreBody
  split
  · rename_i g _
    rw [g.setValues_ok]
  all_goals rfl

theorem restoreBody_step (item : Item) (value : Option FieldValue) (body : BlockBody) :
    BlockBody.Step body (restoreBody item value body).1 := by
  unfold restoreBody
  split
  · exact .group (.set _)
  · exact .enter _ _
  · exact .choose _ _
  · exact .same _

/-- One step of bringing back values. -/
def restoreItem (values : Snapshot) (item : Item) (f : Form) : Form :=
  match f.block? item.id with
  | none => f
  | some b => f.updateBody item.id fun _ => (restoreBody item (values.lookup item.id) b.body).1

theorem restoreItems_eq_foldl (values : Snapshot) (items : List Item) (f : Form) :
    restoreItems values items f =
      (items.foldl (fun f item => restoreItem values item f) f, .ok ()) := by
  induction items generalizing f with
  | nil => rfl
  | cons item rest ih =>
    rw [restoreItems, List.foldl_cons, restoreItem]
    cases f.block? item.id with
    | none => exact ih f
    | some b =>
      simp only
      rw [restoreBody_ok]
      exact ih _

/-- Bringing back values always succeeds. -/
theorem restoreItems_ok (values : Snapshot) (items : List Item) (f : Form) :
    restoreItems values items f = ((restoreItems values items f).1, .ok ()) := by
  rw [restoreItems_eq_foldl]

/-- The block with the value of the item that has its id. -/
def restoreBlock (values : Snapshot) (items : List Item) (b : Block) : Block :=
  match items.find? fun item => item.id = b.itemId with
  | none => b
  | some item => { b with body := (restoreBody item (values.lookup item.id) b.body).1 }

theorem restoreBlock_related (values : Snapshot) (items : List Item) (b : Block) :
    b.Related BlockBody.Step (restoreBlock values items b) := by
  unfold restoreBlock
  split
  · exact Block.Related.refl .same b
  · exact ⟨rfl, rfl, rfl, restoreBody_step _ _ _⟩

theorem restoreBlock_of_not_mem {values : Snapshot} {items : List Item} {b : Block}
    (hb : b.itemId ∉ items.map Item.id) : restoreBlock values items b = b := by
  unfold restoreBlock
  rw [List.find?_eq_none.mpr]
  intro item hitem h
  exact hb (of_decide_eq_true h ▸ List.mem_map_of_mem hitem)

theorem restoreBlock_cons_of_ne {values : Snapshot} {items : List Item} {item : Item} {b : Block}
    (hb : item.id ≠ b.itemId) :
    restoreBlock values (item :: items) b = restoreBlock values items b := by
  unfold restoreBlock
  rw [List.find?_cons_of_neg (by simpa using hb)]

theorem restoreBlock_cons_of_eq {values : Snapshot} {items : List Item} {item : Item} {b : Block}
    (hb : item.id = b.itemId) : restoreBlock values (item :: items) b =
      { b with body := (restoreBody item (values.lookup item.id) b.body).1 } := by
  unfold restoreBlock
  rw [List.find?_cons_of_pos (by simpa using hb)]

/-- One step changes the block of its item, where no item has two blocks. -/
theorem restoreItem_eq_mapBlocks (hf : (f.blocks.map Block.itemId).Nodup) (values : Snapshot)
    (item : Item) : restoreItem values item f = f.mapBlocks (restoreBlock values [item]) := by
  unfold restoreItem
  cases hblock : f.block? item.id with
  | none =>
    refine (Form.mapBlocks_eq_self fun b hb => restoreBlock_of_not_mem ?_).symm
    simpa using Form.block?_eq_none.mp hblock b hb
  | some b =>
    simp only
    rw [Form.updateBody_eq_mapBlocks hf]
    refine Form.mapBlocks_congr fun c hc => ?_
    by_cases hid : c.itemId = item.id
    · -- the block that was looked up is this one
      have hfound := Form.block?_of_mem hf hc
      rw [hid, hblock, Option.some.injEq] at hfound
      rw [if_pos hid, restoreBlock_cons_of_eq hid.symm, hfound]
    · rw [if_neg hid, restoreBlock_of_not_mem (by simpa using hid)]

/-- Bringing back values changes every block once, where no two items have one id and no item has
two blocks. -/
theorem restoreItems_eq_mapBlocks (values : Snapshot) {items : List Item}
    (hitems : (items.map Item.id).Nodup) (hf : (f.blocks.map Block.itemId).Nodup) :
    restoreItems values items f = (f.mapBlocks (restoreBlock values items), .ok ()) := by
  rw [restoreItems_eq_foldl]
  congr 1
  induction items generalizing f with
  | nil => exact (Form.mapBlocks_eq_self fun b _ => rfl).symm
  | cons item rest ih =>
    obtain ⟨hitem, hrest⟩ := List.nodup_cons.mp hitems
    have hids : ((restoreItem values item f).blocks.map Block.itemId).Nodup := by
      rw [restoreItem_eq_mapBlocks hf, (Form.mapBlocks_related fun b _ =>
        restoreBlock_related values [item] b).itemIds]
      exact hf
    rw [List.foldl_cons, ih hrest hids, restoreItem_eq_mapBlocks hf, Form.mapBlocks_mapBlocks]
    refine Form.mapBlocks_congr fun b _ => ?_
    by_cases hid : item.id = b.itemId
    · -- no later item has this block
      rw [restoreBlock_cons_of_eq hid, restoreBlock_cons_of_eq hid,
        restoreBlock_of_not_mem (by simpa [hid] using hitem)]
    · rw [restoreBlock_cons_of_ne hid, restoreBlock_cons_of_ne hid]
      rfl

end SettingsForm.Session
