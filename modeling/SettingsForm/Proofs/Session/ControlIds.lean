import SettingsForm.Proofs.Form.ControlIds
import SettingsForm.Proofs.Session.Sound

/-!
# Ids of controls along a run

Suffixes are chosen per group from those in use, so how large they are depends on the whole history.
As long as fewer instances were created than there are suffixes, no group uses one twice
(`Numbered.run`), and the form has no two controls of one id when its catalog has no collision
(`controlIds_distinct`).
-/

namespace SettingsForm.Session

variable {s : Session} {e : Event} {x : Exchange} {f : Form} {n : Nat}

/-- The number of instances created since the form was loaded, after an event that leaves `x`, when
it was `n` before. A load creates all instances that it shows; any other event creates those by which
it makes groups larger, as it never removes some instances of a group and adds others. -/
def createdAfter (s : Session) (n : Nat) (e : Event) (x : Exchange) : Nat :=
  match e.isLoad, s.form, x.session.form with
  | true, _, some g => g.instanceCount
  | false, some f, some g => n + f.gained g
  | _, _, none => 0
  | false, none, some _ => n

/-- The number of instances created since the form was loaded, after some events. -/
def created (s : Session) (n : Nat) : List Event → Nat
  | [] => n
  | e :: rest => (s.perform e).session.created (s.createdAfter n e (s.perform e)) rest

/-- While fewer instances were created than there are suffixes, no group uses one twice. -/
def Numbered (n : Nat) (s : Session) : Prop :=
  ∀ f, s.form = some f → n < UInt32.size → f.SuffixesBelow n

theorem Numbered.next {g : Form} (hs : s.Numbered n) (he : e.isLoad = false)
    (hf : s.form = some f) (hg : x.session.form = some g)
    (hkeep : f.SuffixesBelow n → n + f.gained g < UInt32.size → g.SuffixesBelow (n + f.gained g)) :
    x.session.Numbered (s.createdAfter n e x) := by
  intro h hh hn
  obtain rfl : g = h := Option.some.inj (hg.symm.trans hh)
  have hcreated : s.createdAfter n e x = n + f.gained g := by simp [createdAfter, he, hf, hg]
  rw [hcreated] at hn ⊢
  exact hkeep (hs f hf (by omega)) hn

theorem Numbered.kept (hs : s.Numbered n) (he : e.isLoad = false)
    (hsame : x.session.form = s.form) : x.session.Numbered (s.createdAfter n e x) := by
  intro f hf
  have hbefore : s.form = some f := hsame ▸ hf
  exact hs.next he hbefore hf (fun hbelow _ => hbelow.mono (Nat.le_add_right _ _)) f hf

theorem Step.numbered (hstep : s.Step e x) (hsound : s.Sound) (hs : s.Numbered n) :
    x.session.Numbered (s.createdAfter n e x) := by
  cases hstep with
  | schemaFailed | statusFailed | valuesFailed => exact nofun
  | loaded hschema =>
    intro g hg hn
    obtain rfl := Option.some.inj hg
    exact Form.render_suffixesBelow (sound_of_receive hschema) hn
  | refused he => exact hs.kept he rfl
  | edited hedit hf _ hfg =>
    exact hs.next (Event.isLoad_of_isEdit hedit) hf.form rfl fun hbelow hn =>
      hfg.suffixesBelow hbelow hn
  | toggled hf =>
    exact hs.next rfl hf.form rfl fun hbelow _ =>
      (hbelow.setAdvancedVisible _).mono (Nat.le_add_right _ _)
  | saved => exact hs.kept rfl rfl
  | saveRejected => exact hs.kept rfl rfl
  | cancelled hf =>
    exact hs.next rfl hf.form rfl fun hbelow hn =>
      (hsound.restoreItems_related hf.form).suffixesBelow hbelow hn
  | fileChanged => exact hs.kept rfl rfl

theorem Numbered.run (hs : s.Numbered n) (hsound : s.Sound) (events : List Event) :
    (s.run events).Numbered (s.created n events) := by
  induction events generalizing s n with
  | nil => exact hs
  | cons e rest ih =>
    have hstep := s.perform_step e
    exact ih (hstep.numbered hsound hs) (hstep.sound hsound)

/-- The controls of a sound session's form have distinct ids when no group uses a suffix twice and
no collision was reported. -/
theorem Sound.controlIds_nodup (hs : s.Sound) (hf : s.form = some f)
    (hfree : s.catalog.CollisionFree) (hbelow : f.SuffixesBelow n) :
    (f.blocks.flatMap Block.controlIds).Nodup := by
  have hregular := hs.regular f hf
  have hnames : ∀ b ∈ f.blocks, ∀ controlId ∈ b.controlIds,
      ∃ item ∈ s.catalog.items, item.id = b.itemId ∧ item.Names controlId := by
    intro b hb controlId hcontrol
    obtain ⟨r, hr, hrb⟩ := hs.exists_rendered hf hb
    exact Block.names_of_mem_controlIds hr hrb (hregular b hb) hcontrol
  refine List.nodup_flatMap.mpr ⟨fun b hb => ?_, ?_⟩
  · exact Block.controlIds_nodup (hregular b hb) (hbelow b hb)
  · have hdistinct := List.pairwise_map.mp (hs.itemIds_nodup hf)
    refine hdistinct.imp_of_mem fun {b c} hb hc hbc controlId hcontrol hother => hbc ?_
    obtain ⟨item, hitem, hid, hitemNames⟩ := hnames b hb controlId hcontrol
    obtain ⟨other, hotherItem, hotherId, hotherNames⟩ := hnames c hc controlId hother
    rw [← hid, ← hotherId]
    exact hs.catalog.eq_of_names hfree hitem hotherItem hitemNames hotherNames

/-- After every run that created fewer instances since the load than there are suffixes, the ids of
all controls are distinct, unless the catalog reports an item for having the id of an instance. -/
theorem controlIds_distinct (preferences : PreferenceStore) (platform : Platform)
    (events : List Event) (f : Form)
    (hf : ((start preferences platform).run events).form = some f)
    (hfree : ((start preferences platform).run events).catalog.CollisionFree)
    (hcreated : (start preferences platform).created 0 events < UInt32.size) :
    (f.blocks.flatMap Block.controlIds).Nodup := by
  have hsound := start_sound preferences platform
  have hnumbered : (start preferences platform).Numbered 0 := nofun
  exact (hsound.run events).controlIds_nodup hf hfree
    (hnumbered.run hsound events f hf hcreated)

/-- Adding after a removal keeps the ids of controls distinct. -/
theorem controlIds_distinct_after_removal :
    let edits : List Event := [.load sampleServer default, .addInstance "dir" "dir0",
      .removeInstance "dir" "dir0", .addInstance "dir" "dir1", .cancel]
    let s := (start .inMemory .other).run edits
    (start .inMemory .other).created 0 edits = 3 ∧
      ∃ f, s.form = some f ∧ (f.blocks.flatMap Block.controlIds).Nodup := by
  intro edits s
  obtain ⟨hcreated, hform, hfaults⟩ : (start .inMemory .other).created 0 edits = 3 ∧
      s.form.isSome = true ∧ s.catalog.faults = [⟨some "mode", .noType⟩] := by
    decide +kernel
  have hfree : s.catalog.CollisionFree := by simp [Catalog.CollisionFree, hfaults]
  obtain ⟨f, hf⟩ := Option.isSome_iff_exists.mp hform
  exact ⟨hcreated, f, hf,
    controlIds_distinct .inMemory .other edits f hf hfree (by rw [hcreated]; decide)⟩

end SettingsForm.Session
