import SettingsForm.Proofs.Session.Sound

/-!
# Cancelling

However a form was edited since it was loaded, cancelling leads back to the form that would be
rendered anew with advanced items shown as they are now, up to the suffixes under which instances
were added (`cancel_restores`). Rendering and bringing back values are separate functions; that they
agree for every kind of item is `restoreBody_renumbered`.
-/

namespace SettingsForm

/-! ## Other suffixes -/

/-- The affordance with one id of a control in the place of another. -/
def Affordance.rename (old new : String) : Affordance → Affordance
  | .browse controlId => .browse (if controlId = old then new else controlId)
  | .remove groupId instanceId => .remove groupId (if instanceId = old then new else instanceId)

/-- The instance under another suffix, with the ids that follow from it. -/
def Instance.resuffix (baseId : String) (suffix : UInt32) (i : Instance) : Instance :=
  let id := instanceId baseId suffix
  { suffix
    input := { i.input with
      id
      affordances := i.input.affordances.map (Affordance.rename i.input.id id) } }

/-- The bodies are equal up to the suffixes of instances. -/
inductive BlockBody.Renumbered : BlockBody → BlockBody → Prop where
  | same (body : BlockBody) : Renumbered body body
  | group (g : Group) {instances : List Instance}
      (hinstances : List.Forall₂ (fun i j => j = i.resuffix g.baseId j.suffix) g.instances
        instances) :
      Renumbered (.group g) (.group { g with instances })

theorem InstanceTemplate.resuffix_build (t : InstanceTemplate) (baseId : String)
    (old new : UInt32) (value : String) :
    (t.build baseId old value).resuffix baseId new = t.build baseId new value := by
  unfold build Instance.resuffix
  cases t.browse <;> simp [Affordance.rename]

/-- Instances that the template builds are those of a rendered group up to their suffixes. -/
theorem forall₂_resuffix {t : InstanceTemplate} {baseId : String} {l : List Instance}
    (hl : ∀ i ∈ l, i = t.build baseId i.suffix i.input.value) {values : List String}
    (hvalues : l.map (fun i => i.input.value) = values) (number : Nat → UInt32) :
    List.Forall₂ (fun i j => j = i.resuffix baseId j.suffix)
      (values.mapIdx fun k v => t.build baseId (number k) v) l := by
  induction l generalizing values number with
  | nil =>
    subst hvalues
    exact .nil
  | cons j l ih =>
    subst hvalues
    rw [List.map_cons, List.mapIdx_cons]
    refine .cons ?_ (ih (fun i hi => hl i (List.mem_cons_of_mem _ hi)) rfl fun k => number (k + 1))
    rw [InstanceTemplate.resuffix_build]
    exact hl j List.mem_cons_self

/-- Instances that differ in their suffixes have the same values. -/
theorem map_value_of_resuffix {baseId : String} {l m : List Instance}
    (hlm : List.Forall₂ (fun i j => j = i.resuffix baseId j.suffix) l m) :
    m.map (fun i => i.input.value) = l.map fun i => i.input.value := by
  induction hlm with
  | nil => rfl
  | cons hij _ ih =>
    rw [List.map_cons, List.map_cons, ih, hij]
    rfl

theorem Block.field?_of_renumbered {b c : Block} (hbc : b.Related BlockBody.Renumbered c) :
    c.field? = b.field? := by
  have hbody := hbc.body
  unfold field?
  generalize b.body = x at hbody
  generalize c.body = y at hbody
  cases hbody with
  | same => rfl
  | group g hinstances =>
    simp only [Group.values]
    rw [map_value_of_resuffix hinstances]

/-- What saving sends does not depend on the suffixes of instances. -/
theorem Form.updateRequest_of_renumbered {f g : Form} (hfg : f.Related BlockBody.Renumbered g) :
    g.updateRequest = f.updateRequest := by
  have hblocks := hfg.blocks
  unfold updateRequest
  congr 1
  generalize f.blocks = l at hblocks
  generalize g.blocks = m at hblocks
  induction hblocks with
  | nil => rfl
  | cons hbc _ ih => rw [List.filterMap_cons, List.filterMap_cons, Block.field?_of_renumbered hbc, ih]

/-- The block shows a control of the item's kind. -/
def Item.Fits (item : Item) (body : BlockBody) : Prop :=
  match item.kind, body with
  | .text _, .group _ => True
  | .text _, .input _ => True
  | .select _, .select _ => True
  | _, _ => False

theorem Item.fits_of_sameShape {item : Item} {value : Option FieldValue} {writable : Bool}
    {body : BlockBody} (hbody : BlockBody.SameShape (item.body value writable) body) :
    item.Fits body := by
  unfold Fits
  rcases Item.sameShape_cases hbody with ⟨field, instances, hkind, -, -, h⟩ |
    ⟨field, entered, hkind, -, -, h⟩ | ⟨options, selected, hkind, -, -, h⟩
  all_goals
    rw [hkind, h]
    trivial

namespace Session

variable {s : Session} {f : Form}

/-! ## Bringing back one item -/

/-- A group that is brought to the values with which it was rendered is the rendered one, up to
suffixes. -/
theorem setValues_renumbered {item : Item} {field : TextField} {value : Option FieldValue}
    {writable : Bool} {g : Group} (hbuilt : g.Built)
    (hg : g = { item.renderedGroup field value writable with instances := g.instances }) :
    BlockBody.Renumbered (.group (item.renderedGroup field value writable))
      (.group (g.setValues (groupValues value)).1) := by
  have hstep := Group.Step.set (g := g) (groupValues value)
  have hset := hstep.built hbuilt
  have hvalues := g.values_setValues (groupValues_ne_nil value)
  have heq := hstep.eq_with_instances
  generalize (g.setValues (groupValues value)).1 = restored at hset hvalues heq ⊢
  rw [hg] at heq
  rw [heq] at hset ⊢
  exact .group (item.renderedGroup field value writable)
    (forall₂_resuffix hset hvalues fun k => k.toUInt32)

/-- Bringing back the value of an item gives what would be rendered, up to suffixes. -/
theorem restoreBody_renumbered {item : Item} {value : Option FieldValue} {writable : Bool}
    {body : BlockBody} (hshape : BlockBody.SameShape (item.body value writable) body)
    (hregular : body.Regular item.id) :
    BlockBody.Renumbered (item.body value writable) (restoreBody item value body).1 := by
  unfold restoreBody
  rcases Item.sameShape_cases hshape with ⟨field, instances, hkind, -, hrendered, hbody⟩ |
    ⟨field, entered, hkind, -, hrendered, hbody⟩ | ⟨options, selected, hkind, -, hrendered, hbody⟩
  · rw [hbody] at hregular
    rw [hrendered, hkind, hbody]
    obtain ⟨-, hbuilt, -⟩ := hregular
    exact setValues_renumbered hbuilt rfl
  · rw [hrendered, hkind, hbody]
    exact .same _
  · rw [hrendered, hkind, hbody]
    exact .same _

/-- Bringing back the value of a block gives the block that would be rendered, up to suffixes. -/
theorem restoreBlock_renumbered {shown : Bool} {id : String} {b c : Block}
    (hb : Form.renderId? s.catalog s.values ⟨s.status.writable, shown⟩ id = some b)
    (hbc : b.Related BlockBody.SameShape c) (hregular : c.body.Regular c.itemId) :
    b.Related BlockBody.Renumbered (restoreBlock s.values s.catalog.items c) := by
  have hid : c.itemId = id := hbc.itemId.trans (Form.renderId?_itemId hb)
  unfold restoreBlock
  rcases Form.renderId?_cases hb with ⟨item, hitem, rfl⟩ | ⟨hitem, fault, rfl⟩
  · have hfind : s.catalog.items.find? (fun item => item.id = c.itemId) = some item := by
      rw [hid]
      exact hitem
    have hitemId : item.id = id := (Catalog.item?_some hitem).2
    rw [hfind]
    refine ⟨hbc.itemId, hbc.advanced, hbc.hidden, ?_⟩
    rw [hid, ← hitemId] at hregular
    have hbody : BlockBody.SameShape (item.body (s.values.lookup item.id) s.status.writable)
        c.body := by
      rw [hitemId]
      exact hbc.body
    have hrenumbered := restoreBody_renumbered hbody hregular
    rw [hitemId] at hrenumbered
    simp only [hitemId]
    exact hrenumbered
  · have hfind : s.catalog.items.find? (fun item => item.id = c.itemId) = none := by
      rw [hid]
      exact hitem
    rw [hfind]
    refine ⟨hbc.itemId, hbc.advanced, hbc.hidden, ?_⟩
    have hbody : c.body = .fault fault.message := BlockBody.SameShape.eq_fault hbc.body
    show BlockBody.Renumbered (.fault fault.message) c.body
    rw [hbody]
    exact .same _

/-! ## Bringing back all items -/

theorem Sound.restored_renumbered (hs : s.Sound) (hf : s.form = some f) :
    (s.rendered f.showAdvanced).Related BlockBody.Renumbered
      (restoreItems s.values s.catalog.items f).1 := by
  rw [hs.restoreItems_eq hf]
  refine (hs.shape f hf).mapBlocks fun b hb c hc hbc => ?_
  obtain ⟨id, hid⟩ := Form.exists_renderId?_of_mem hs.catalog _ _ _ _ hb
  exact restoreBlock_renumbered hid hbc (hs.regular f hf c hc)

/-- Whenever an item's turn comes, its block is there and shows a control of the item's kind. -/
theorem Sound.fits (hs : s.Sound) (hf : s.form = some f) {before after : List Item} {item : Item}
    (hitems : s.catalog.items = before ++ item :: after) :
    ∃ b, (restoreItems s.values before f).1.block? item.id = some b ∧ item.Fits b.body := by
  have hmem : item ∈ s.catalog.items := by simp [hitems]
  have hbefore : (before.map Item.id).Nodup := by
    have hnodup := hs.catalog.items_nodup
    rw [hitems, List.map_append] at hnodup
    exact hnodup.sublist (List.sublist_append_left _ _)
  rw [restoreItems_eq_mapBlocks s.values hbefore (hs.itemIds_nodup hf)]
  have hrelated := Form.mapBlocks_related (f := f) fun b _ => restoreBlock_related s.values before b
  have hshape : (s.rendered f.showAdvanced).Related BlockBody.SameShape
      (f.mapBlocks (restoreBlock s.values before)) :=
    (hs.shape f hf).trans (fun _ _ _ hxy hyz => hxy.trans hyz.sameShape) hrelated
  have hblocks := blocks_of_shape hs.catalog hshape
  -- the item's id is listed, and the block in its place is the one that is found
  obtain ⟨n, hn, hid⟩ := List.mem_iff_getElem.mp
    (hs.catalog.items_sublist.subset (List.mem_map_of_mem hmem))
  have hn' : n < (f.mapBlocks (restoreBlock s.values before)).blocks.length := by
    rw [← hblocks.length_eq]
    exact hn
  obtain ⟨b, hb, hbc⟩ := hblocks.get hn hn'
  rw [List.get_eq_getElem, hid] at hb
  have hnodup : ((f.mapBlocks (restoreBlock s.values before)).blocks.map Block.itemId).Nodup := by
    rw [hrelated.itemIds]
    exact hs.itemIds_nodup hf
  have hfound := Form.block?_of_mem hnodup (List.getElem_mem hn')
  rw [List.get_eq_getElem] at hbc
  rw [hbc.itemId, Form.renderId?_itemId hb] at hfound
  refine ⟨_, hfound, ?_⟩
  rcases Form.renderId?_cases hb with ⟨found, hitem, rfl⟩ | ⟨hitem, -⟩
  · obtain rfl : item = found := Option.some.inj ((hs.catalog.item?_of_mem hmem).symm.trans hitem)
    exact Item.fits_of_sameShape hbc.body
  · rw [hs.catalog.item?_of_mem hmem] at hitem
    cases hitem

/-! ## What edits leave alone -/

/-- What was loaded is the same in both sessions. -/
structure SameDocuments (s t : Session) : Prop where
  catalog : t.catalog = s.catalog
  values : t.values = s.values
  status : t.status = s.status
  platform : t.platform = s.platform

theorem SameDocuments.rendered {t : Session} (hst : s.SameDocuments t) (shown : Bool) :
    t.rendered shown = s.rendered shown := by
  unfold Session.rendered
  rw [hst.catalog, hst.values, hst.status, hst.platform]

/-- Only a load replaces what was loaded, and only a load leads away from the form. -/
theorem Step.keeps {e : Event} {x : Exchange} (hstep : s.Step e x) (he : e.isLoad = false)
    (hf : s.Loaded f) : s.SameDocuments x.session ∧ ∃ g, x.session.Loaded g := by
  cases hstep with
  | schemaFailed | statusFailed | valuesFailed | loaded => cases he
  | refused => exact ⟨⟨rfl, rfl, rfl, rfl⟩, f, hf⟩
  | edited => exact ⟨⟨rfl, rfl, rfl, rfl⟩, _, rfl, .inr rfl⟩
  | toggled => exact ⟨⟨rfl, rfl, rfl, rfl⟩, _, rfl, hf.phase⟩
  | saved => exact ⟨⟨rfl, rfl, rfl, rfl⟩, f, hf.form, .inl rfl⟩
  | saveRejected => exact ⟨⟨rfl, rfl, rfl, rfl⟩, f, hf⟩
  | cancelled => exact ⟨⟨rfl, rfl, rfl, rfl⟩, _, rfl, .inl rfl⟩
  | fileChanged => exact ⟨⟨rfl, rfl, rfl, rfl⟩, f, hf.form, hf.phase⟩

theorem run_keeps {events : List Event} (hevents : ∀ e ∈ events, e.isLoad = false)
    (hf : s.Loaded f) : s.SameDocuments (s.run events) ∧ ∃ g, (s.run events).Loaded g := by
  refine run_induction (P := fun t => s.SameDocuments t ∧ ∃ g, t.Loaded g) (fun t e he ht => ?_)
    ⟨⟨rfl, rfl, rfl, rfl⟩, f, hf⟩
  obtain ⟨hdocuments, g, hg⟩ := ht
  obtain ⟨hnext, hloaded⟩ := (t.perform_step e).keeps (hevents e he) hg
  exact ⟨⟨hnext.catalog.trans hdocuments.catalog, hnext.values.trans hdocuments.values,
    hnext.status.trans hdocuments.status, hnext.platform.trans hdocuments.platform⟩, hloaded⟩

/-! ## Cancelling -/

/-- Cancelling a form that can be used succeeds when it is writable. -/
theorem cancel_eq (hf : s.Loaded f) (hwritable : f.isWritable = true) :
    s.cancel = ⟨{ s with
      form := some (restoreItems s.values s.catalog.items f).1
      phase := .rendered }, .ok ()⟩ := by
  unfold cancel
  rw [editableForm_eq_ok.mpr ⟨hf, hwritable⟩]
  simp only
  rw [restoreItems_ok]

/-- What a rendered form sends does not depend on whether advanced items are shown. -/
theorem updateRequest_rendered (s : Session) (shown other : Bool) :
    (s.rendered shown).updateRequest = (s.rendered other).updateRequest := by
  have hshown : (s.rendered other).setAdvancedVisible shown = s.rendered shown :=
    Form.setAdvancedVisible_render shown
  rw [← hshown, Form.updateRequest_setAdvancedVisible]

/-- Whatever was done with a writable form since it was loaded, except loading it anew, cancelling
succeeds; every item finds its block, of its own kind, when its turn comes; the form is then the one
that would be rendered from what was loaded, with advanced items shown as they are now, up to the
suffixes of instances; and saving would send what it would have sent right after the load. -/
theorem cancel_restores (s : Session) (service : Service) (now : Instant) (events : List Event)
    (hload : (s.load service now).result = .ok ())
    (hwritable : (s.load service now).session.form.any Form.isWritable = true)
    (hevents : ∀ e ∈ events, e.isLoad = false) :
    let loaded := (s.load service now).session
    let last := loaded.run events
    let cancelled := last.cancel
    cancelled.result = .ok () ∧ cancelled.session.phase = .rendered ∧
      ∃ f g, last.form = some f ∧ cancelled.session.form = some g ∧
        (∀ before item after, loaded.catalog.items = before ++ item :: after →
          ∃ b, (restoreItems loaded.values before f).1.block? item.id = some b ∧
            item.Fits b.body) ∧
        (Form.render loaded.catalog loaded.values loaded.status loaded.platform
          f.showAdvanced).Related BlockBody.Renumbered g ∧
        cancelled.session.updateRequest? = loaded.updateRequest? := by
  intro loaded last cancelled
  obtain ⟨hsound, shown, hrendered⟩ := load_sound hload
  obtain ⟨hdocuments, f, hf⟩ := run_keeps hevents hrendered
  have hlast : last.Sound := hsound.run events
  have hrestored := hlast.restored_renumbered hf.form
  have heditable : f.isWritable = true := by
    rw [(hlast.shape f hf.form).isWritable, hdocuments.rendered]
    rwa [hrendered.form] at hwritable
  rw [hdocuments.rendered] at hrestored
  have hcancel : cancelled = _ := cancel_eq hf heditable
  rw [hcancel]
  refine ⟨rfl, rfl, f, _, hf.form, rfl, fun before item after hitems => ?_, hrestored, ?_⟩
  · rw [← hdocuments.catalog] at hitems
    rw [← hdocuments.values]
    exact hlast.fits hf.form hitems
  · rw [updateRequest?, updateRequest?, hrendered.form]
    refine congrArg some ?_
    rw [Form.updateRequest_of_renumbered hrestored, updateRequest_rendered]

/-- After instances were added and the first was removed, cancelling brings back what saving would
have sent, while saving now would send something else. -/
theorem cancel_restores_added :
    let loaded := ((start .inMemory .other).load sampleServer default).session
    let edits : List Event := [.addInstance "dir" "dir0", .removeInstance "dir" "dir0",
      .setItemValues "dir" ["a", "b"], .save fun _ => .error (.unavailable "")]
    (loaded.run edits).updateRequest? ≠ loaded.updateRequest? ∧
      (loaded.run edits).cancel.session.updateRequest? = loaded.updateRequest? := by
  intro loaded edits
  have hedits : ∀ e ∈ edits, e.isLoad = false := by simp [edits, Event.isLoad]
  obtain ⟨hload, hwritable, hdiffer⟩ :
      ((start .inMemory .other).load sampleServer default).result = .ok () ∧
        loaded.form.any Form.isWritable = true ∧
        (loaded.run edits).updateRequest? ≠ loaded.updateRequest? := by
    decide +kernel
  obtain ⟨-, -, _, _, -, -, -, -, hrequest⟩ :=
    cancel_restores _ sampleServer default edits hload hwritable hedits
  exact ⟨hdiffer, hrequest⟩

end Session

end SettingsForm
