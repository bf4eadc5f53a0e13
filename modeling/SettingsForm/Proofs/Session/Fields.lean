import SettingsForm.Proofs.Session.Sound

/-!
# What saving sends

Whatever a session goes through, its form has one block for every id that the catalog lists, and
saving sends one field for every registered item, in the order of the catalog, and nothing else
(`fields_complete`).
-/

namespace SettingsForm.Session

variable {s : Session} {f : Form}

/-- Blocks add the fields of the items that have their ids; where no item has the id, none. -/
theorem Sound.field?_rel (hs : s.Sound) (hf : s.form = some f) :
    List.Forall₂ (fun id b => Option.Rel Item.Sends (s.catalog.item? id) b.field?)
      s.catalog.listedIds f.blocks :=
  forall₂_imp_of_mem (blocks_of_shape hs.catalog (hs.shape f hf)) fun _ _ b hb hblock =>
    Form.field?_rel hblock (hs.regular f hf b hb)

/-- Saving sends one field for every item, in their order. -/
theorem Sound.sends (hs : s.Sound) (hf : s.form = some f) :
    List.Forall₂ Item.Sends s.catalog.items f.updateRequest.fields := by
  have hrel := List.rel_filterMap (fun _ _ h => h) (hs.field?_rel hf)
  rwa [hs.catalog.filterMap_item?] at hrel

theorem keys_of_sends {items : List Item} {fields : List (String × List String)}
    (hsends : List.Forall₂ Item.Sends items fields) :
    fields.map Prod.fst = items.map Item.id := by
  induction hsends with
  | nil => rfl
  | cons hfield _ ih => rw [List.map_cons, List.map_cons, hfield.1, ih]

/-- After every run, a form has a block for each listed id once and in order. Saving it sends the
fields of the registered items, each once and in order: at least one value for an item that may have
several and exactly one for any other; a rejected item has no field. -/
theorem fields_complete (preferences : PreferenceStore) (platform : Platform)
    (events : List Event) (f : Form)
    (hf : ((start preferences platform).run events).form = some f) :
    let s := (start preferences platform).run events
    f.blocks.map Block.itemId = s.catalog.sections.flatMap CatalogSection.itemIds ∧
      (f.blocks.map Block.itemId).Nodup ∧
      s.updateRequest? = some f.updateRequest ∧
      f.updateRequest.fields.map Prod.fst = s.catalog.items.map Item.id ∧
      (f.updateRequest.fields.map Prod.fst).Nodup ∧
      List.Forall₂ Item.Sends s.catalog.items f.updateRequest.fields ∧
      ∀ b ∈ f.blocks, s.catalog.item? b.itemId = none →
        b.field? = none ∧ b.itemId ∉ f.updateRequest.fields.map Prod.fst := by
  intro s
  have hs : s.Sound := run_sound preferences platform events
  have hsends := hs.sends hf
  have hkeys := keys_of_sends hsends
  refine ⟨hs.itemIds hf, hs.itemIds_nodup hf, by rw [updateRequest?, hf]; rfl, hkeys,
    hkeys ▸ hs.catalog.items_nodup, hsends, fun b hb hrejected => ⟨?_, ?_⟩⟩
  · have hfield := Form.field?_rel (hs.exists_rendered hf hb) (hs.regular f hf b hb)
    rw [hrejected] at hfield
    generalize b.field? = field at hfield
    cases hfield
    rfl
  · rw [hkeys]
    exact Catalog.item?_eq_none.mp hrejected

/-- A rejected item has a block and no field, whatever was edited. -/
theorem fields_complete_rejected :
    let edits : List Event := [.load sampleServer default, .setItemValues "dir" ["a", "b"],
      .setValue "name" "Shed", .toggleAdvanced default]
    ∃ f, ((start .inMemory .other).run edits).form = some f ∧
      f.blocks.map Block.itemId = ["dir", "name", "mode"] ∧
      f.updateRequest.fields.map Prod.fst = ["dir", "name"] := by
  intro edits
  obtain ⟨hform, hlisted, hitems⟩ : ((start .inMemory .other).run edits).form.isSome = true ∧
      ((start .inMemory .other).run edits).catalog.sections.flatMap CatalogSection.itemIds =
        ["dir", "name", "mode"] ∧
      ((start .inMemory .other).run edits).catalog.items.map Item.id = ["dir", "name"] := by
    decide +kernel
  obtain ⟨f, hf⟩ := Option.isSome_iff_exists.mp hform
  obtain ⟨hblocks, -, -, hkeys, -⟩ := fields_complete .inMemory .other edits f hf
  exact ⟨f, hf, hblocks.trans hlisted, hkeys.trans hitems⟩

end SettingsForm.Session
