import SettingsForm.Proofs.Form.Render
import SettingsForm.Proofs.Form.Values

/-!
# Drop-downs of a form

The drop-down of an item depends on the body of its block alone. So two forms have the same drop-downs
when corresponding bodies show the same ones, and changing the body of one item changes no drop-down
of another.
-/

namespace SettingsForm

/-- The drop-down that is shown, if one is. -/
def BlockBody.select? : BlockBody → Option Select
  | .select c => some c
  | _ => none

/-- The drop-down of an item. -/
def Form.select? (f : Form) (itemId : String) : Option Select :=
  (f.block? itemId).bind fun b => b.body.select?

/-- The bodies show the same drop-down, or none. -/
def BlockBody.SameSelect (x y : BlockBody) : Prop := y.select? = x.select?

variable {f g : Form} {id : String}

theorem BlockBody.select?_eq_some {body : BlockBody} {c : Select} :
    body.select? = some c ↔ body = .select c := by
  cases body <;> simp [select?]

theorem Form.select?_eq_some {c : Select} :
    f.select? id = some c ↔ ∃ b, f.block? id = some b ∧ b.body = .select c := by
  simp only [select?, Option.bind_eq_some_iff, BlockBody.select?_eq_some]

theorem BlockBody.SameSelect.refl (body : BlockBody) : SameSelect body body := rfl

theorem BlockBody.Entered.sameSelect {value : String} {x y : BlockBody}
    (hentered : Entered id value x y) : SameSelect x y := by
  cases hentered <;> rfl

/-- The item has the same drop-down where all bodies show the same ones. -/
theorem Form.Related.select? (hfg : f.Related BlockBody.SameSelect g) (id : String) :
    g.select? id = f.select? id := by
  have hblock := hfg.block? id
  unfold Form.select?
  generalize f.block? id = x at hblock
  generalize g.block? id = y at hblock
  cases hblock with
  | none => rfl
  | some hbc => exact hbc.body

/-- Showing or hiding advanced blocks changes no drop-down. -/
theorem Form.select?_setAdvancedVisible (f : Form) (visible : Bool) (id : String) :
    (f.setAdvancedVisible visible).select? id = f.select? id := by
  have hblock : (f.setAdvancedVisible visible).block? id =
      (f.block? id).map fun b => b.setAdvancedVisible visible :=
    f.block?_mapBlocks (fun b => b.setAdvancedVisible_itemId visible) id
  rw [select?, hblock, Option.bind_map, select?]
  simp only [Function.comp_def, Block.setAdvancedVisible_body]

/-- Changing the body of an item changes its drop-down and that of no other item. -/
theorem Form.select?_updateBody (hf : (f.blocks.map Block.itemId).Nodup) {b : Block}
    (hb : f.block? id = some b) (body : BlockBody) (other : String) :
    (f.updateBody id fun _ => body).select? other =
      if other = id then body.select? else f.select? other := by
  rw [updateBody_eq_mapBlocks hf, select?, block?_mapBlocks fun b => by split <;> rfl,
    Option.bind_map]
  by_cases hother : other = id
  · subst hother
    simp [hb, (block?_some hb).2]
  · rw [if_neg hother, select?]
    refine Option.bind_congr fun x hx => ?_
    have hid : x.itemId ≠ id := fun h => hother ((block?_some hx).2.symm.trans h)
    rw [Function.comp_apply, if_neg hid]

/-- The drop-downs of a rendered form are those of the registered items. -/
theorem Form.select?_render {c : Catalog} (hc : c.Sound) (values : Snapshot) (status : ServerStatus)
    (platform : Platform) (shown : Bool) (id : String) :
    (render c values status platform shown).select? id = (c.item? id).bind fun item =>
      (item.body (values.lookup id) status.writable).select? := by
  unfold select?
  cases hblock : (render c values status platform shown).block? id with
  | none =>
    have hitem : c.item? id = none := by
      refine Catalog.item?_eq_none.mpr fun hmem => ?_
      have hlisted := hc.items_sublist.subset hmem
      rw [← itemIds_render hc values status platform shown] at hlisted
      obtain ⟨b, hb, hid⟩ := List.mem_map.mp hlisted
      exact block?_eq_none.mp hblock b hb hid
    rw [hitem]
    rfl
  | some b =>
    obtain ⟨hmem, rfl⟩ := block?_some hblock
    obtain ⟨id, hid⟩ := exists_renderId?_of_mem hc values status platform shown hmem
    rw [renderId?_itemId hid]
    rcases renderId?_cases hid with ⟨item, hitem, rfl⟩ | ⟨hitem, fault, rfl⟩
    · rw [hitem]
      rfl
    · rw [hitem]
      rfl

end SettingsForm
