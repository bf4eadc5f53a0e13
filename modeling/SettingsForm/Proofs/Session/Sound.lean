import SettingsForm.Proofs.Form.Render
import SettingsForm.Proofs.Session.Run

/-!
# Sound sessions

Whatever a session goes through, its catalog accounts for every listed id, and its form has the
shape of the form that would be rendered now: a run can change values and instances only
(`run_sound`). The blocks of the form stand for the listed ids, in their order (`Sound.itemIds`).
-/

namespace SettingsForm.Session

variable {s : Session} {e : Event} {x : Exchange} {f g : Form}

/-- The form that would be rendered from what is loaded. -/
def rendered (s : Session) (shown : Bool) : Form :=
  .render s.catalog s.values s.status s.platform shown

/-- The catalog accounts for its ids, the form has the shape of the rendered one, and there is a form
exactly when it can be used. -/
structure Sound (s : Session) : Prop where
  catalog : s.catalog.Sound
  shape : ∀ f, s.form = some f → (s.rendered f.showAdvanced).Related BlockBody.SameShape f
  regular : ∀ f, s.form = some f → f.Regular
  phase : s.form.isSome ↔ s.phase = .rendered ∨ s.phase = .editing

/-- Blocks of the rendered shape stand for the listed ids, in their order. -/
theorem blocks_of_shape (hcatalog : s.catalog.Sound) {shown : Bool}
    (hf : (s.rendered shown).Related BlockBody.SameShape f) :
    List.Forall₂ (fun id c => ∃ b,
      Form.renderId? s.catalog s.values ⟨s.status.writable, shown⟩ id = some b ∧
        b.Related BlockBody.SameShape c) s.catalog.listedIds f.blocks :=
  forall₂_trans_of (fun _ b _ hb hbc => ⟨b, hb, hbc⟩)
    (Form.blocks_render hcatalog s.values s.status s.platform shown) hf.blocks

/-! ## Loading -/

theorem receive_eq_ok {α : Type} {service : Service} {request : Request} {kind : DocumentKind}
    {read : String → Except Markup.DocumentFault α} {a : α}
    (ha : receive service request kind read = .ok a) :
    ∃ text, service request = .ok text ∧ read text = .ok a := by
  unfold receive at ha
  split at ha
  · cases ha
  · rename_i text htext
    split at ha
    · rename_i b hb
      exact ⟨text, htext, hb.trans (congrArg Except.ok (Except.ok.inj ha))⟩
    · cases ha

theorem sound_of_receive {service : Service} {catalog : Catalog}
    (hcatalog : receive service .schema .schema Catalog.ofDocument = .ok catalog) :
    catalog.Sound := by
  obtain ⟨document, -, hdocument⟩ := receive_eq_ok hcatalog
  exact Catalog.sound_of_ofDocument hdocument

/-- A session whose form was just rendered is sound. -/
theorem render_sound (hcatalog : s.catalog.Sound) (now : Instant) : (s.render now).Sound := by
  refine ⟨hcatalog, fun f hf => ?_, fun f hf => ?_, ?_⟩
  · obtain rfl := Option.some.inj hf
    exact Form.Related.refl .refl _
  · obtain rfl := Option.some.inj hf
    exact Form.render_regular hcatalog _ _ _ _
  · simp [render]

/-- A load that succeeds leaves a sound session with a rendered form, whatever was before. -/
theorem load_sound {service : Service} {now : Instant}
    (hload : (s.load service now).result = .ok ()) :
    let loaded := (s.load service now).session
    loaded.Sound ∧ ∃ shown, loaded.Loaded (loaded.rendered shown) := by
  obtain ⟨catalog, status, values, hschema, -, hx⟩ := load_eq_of_ok hload
  rw [hx]
  exact ⟨render_sound (sound_of_receive hschema) now, _, rfl, .inl rfl⟩

/-! ## Changes of the form -/

/-- The form has a block for every listed id, in the same order. -/
theorem Sound.itemIds (hs : s.Sound) (hf : s.form = some f) :
    f.blocks.map Block.itemId = s.catalog.listedIds :=
  (hs.shape f hf).itemIds.trans (Form.itemIds_render hs.catalog _ _ _ _)

theorem Sound.itemIds_nodup (hs : s.Sound) (hf : s.form = some f) :
    (f.blocks.map Block.itemId).Nodup := by
  rw [hs.itemIds hf]
  exact hs.catalog.listed_nodup

/-- Every block has the shape of the one that would be rendered in its place. -/
theorem Sound.exists_rendered (hs : s.Sound) (hf : s.form = some f) {b : Block}
    (hb : b ∈ f.blocks) : ∃ r, Form.renderId? s.catalog s.values
      ⟨s.status.writable, f.showAdvanced⟩ b.itemId = some r ∧ r.Related BlockBody.SameShape b := by
  obtain ⟨id, -, r, hr, hrb⟩ := exists_of_forall₂_of_mem
    (blocks_of_shape hs.catalog (hs.shape f hf)) hb
  rw [hrb.itemId, Form.renderId?_itemId hr]
  exact ⟨r, hr, hrb⟩

/-- Cancelling changes every block once. -/
theorem Sound.restoreItems_eq (hs : s.Sound) (hf : s.form = some f) :
    restoreItems s.values s.catalog.items f =
      (f.mapBlocks (restoreBlock s.values s.catalog.items), .ok ()) :=
  restoreItems_eq_mapBlocks s.values hs.catalog.items_nodup (hs.itemIds_nodup hf)

theorem Sound.restoreItems_related (hs : s.Sound) (hf : s.form = some f) :
    f.Related BlockBody.Step (restoreItems s.values s.catalog.items f).1 := by
  rw [hs.restoreItems_eq hf]
  exact Form.mapBlocks_related fun b _ => restoreBlock_related _ _ b

/-- A form whose bodies were changed is as good as the form before. -/
theorem Sound.of_related (hs : s.Sound) (hf : s.form = some f) (hfg : f.Related BlockBody.Step g)
    {phase : Phase} (hphase : phase = .rendered ∨ phase = .editing) :
    Sound { s with form := some g, phase } := by
  refine ⟨hs.catalog, fun h hh => ?_, fun h hh => ?_, by simpa using hphase⟩
  · obtain rfl := Option.some.inj hh
    rw [hfg.showAdvanced]
    exact (hs.shape f hf).trans (fun _ _ _ hxy hyz => hxy.trans hyz.sameShape) hfg
  · obtain rfl := Option.some.inj hh
    exact hfg.regular (hs.regular f hf)

/-! ## Events -/

theorem Step.sound (hstep : s.Step e x) (hs : s.Sound) : x.session.Sound := by
  cases hstep with
  | schemaFailed => exact ⟨hs.catalog, nofun, nofun, by simp⟩
  | statusFailed hschema => exact ⟨sound_of_receive hschema, nofun, nofun, by simp⟩
  | valuesFailed hschema => exact ⟨sound_of_receive hschema, nofun, nofun, by simp⟩
  | loaded hschema => exact render_sound (sound_of_receive hschema) _
  | refused => exact hs
  | edited hedit hf hwritable hfg => exact hs.of_related hf.form hfg (.inr rfl)
  | @toggled f now preferences hf hset =>
    refine ⟨hs.catalog, fun h hh => ?_, fun h hh => ?_, by simpa using hf.phase⟩
    · obtain rfl := Option.some.inj hh
      have hshape := (hs.shape f hf.form).setAdvancedVisible (!f.showAdvanced)
      rw [rendered, Form.setAdvancedVisible_render] at hshape
      exact hshape
    · obtain rfl := Option.some.inj hh
      exact (hs.regular f hf.form).setAdvancedVisible _
  | saved hf => exact ⟨hs.catalog, hs.shape, hs.regular, by simp [hf.form]⟩
  | saveRejected => exact hs
  | cancelled hf hwritable =>
    exact hs.of_related hf.form (hs.restoreItems_related hf.form) (.inl rfl)
  | fileChanged => exact ⟨hs.catalog, hs.shape, hs.regular, hs.phase⟩

theorem start_sound (preferences : PreferenceStore) (platform : Platform) :
    (start preferences platform).Sound :=
  ⟨Catalog.empty_sound, nofun, nofun, by simp [start]⟩

theorem Sound.run (hs : s.Sound) (events : List Event) : (s.run events).Sound :=
  run_induction (fun s e _ hs => (s.perform_step e).sound hs) hs

/-- Every session that a run reaches is sound. -/
theorem run_sound (preferences : PreferenceStore) (platform : Platform) (events : List Event) :
    ((start preferences platform).run events).Sound :=
  (start_sound preferences platform).run events

end SettingsForm.Session
