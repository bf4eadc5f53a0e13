import SettingsForm.Proofs.Preferences.Flags
import SettingsForm.Proofs.Session.ReadOnly

/-!
# What is shown

One flag of the form decides which blocks are hidden. It is read from the preferences when the form
is rendered, and a toggle changes it in the form and in the preferences, or in neither.
-/

namespace SettingsForm

variable {f : Form} {visible : Bool}

/-! ## Blocks -/

/-- Every block is hidden that is advanced while advanced blocks are not shown, and no other. -/
def Form.Consistent (f : Form) : Prop :=
  ∀ b ∈ f.blocks, b.hidden = (b.advanced && !f.showAdvanced)

theorem Form.renderId?_hidden {catalog : Catalog} {values : Snapshot} {ctx : RenderContext}
    {id : String} {b : Block} (hb : renderId? catalog values ctx id = some b) :
    b.hidden = (b.advanced && !ctx.showAdvanced) := by
  rcases renderId?_cases hb with ⟨item, -, rfl⟩ | ⟨-, fault, rfl⟩
  · rfl
  · rfl

theorem Form.visibleControlIds_of_consistent (hf : f.Consistent) : f.visibleControlIds =
    (f.blocks.filter fun b => !b.advanced || f.showAdvanced).flatMap Block.controlIds := by
  unfold visibleControlIds
  congr 1
  refine List.filter_congr fun b hb => ?_
  rw [hf b hb]
  cases b.advanced <;> cases f.showAdvanced <;> rfl

/-- Showing or hiding the advanced blocks of a consistent form changes nothing else. -/
theorem Form.setAdvancedVisible_of_consistent (hf : f.Consistent) (visible : Bool) :
    f.setAdvancedVisible visible =
      { f.mapBlocks fun b => { b with hidden := b.advanced && !visible } with
        showAdvanced := visible } := by
  have hblocks : f.mapBlocks (fun b => b.setAdvancedVisible visible) =
      f.mapBlocks fun b => { b with hidden := b.advanced && !visible } := by
    refine mapBlocks_congr fun b hb => ?_
    have hhidden := hf b hb
    obtain ⟨itemId, advanced, hidden, body⟩ := b
    cases advanced with
    | true => rfl
    | false =>
      obtain rfl : hidden = false := hhidden
      rfl
  rw [← hblocks]
  rfl

/-- Going back to what was shown before gives back the form. -/
theorem Form.setAdvancedVisible_back (hf : f.Consistent) (visible : Bool) :
    (f.setAdvancedVisible visible).setAdvancedVisible f.showAdvanced = f := by
  have hblocks : (f.mapBlocks fun b => b.setAdvancedVisible visible).mapBlocks
      (fun b => b.setAdvancedVisible f.showAdvanced) = f := by
    rw [mapBlocks_mapBlocks]
    refine mapBlocks_eq_self fun b hb => ?_
    have hhidden := hf b hb
    obtain ⟨itemId, advanced, hidden, body⟩ := b
    cases advanced with
    | true =>
      obtain rfl : hidden = !f.showAdvanced := hhidden
      rfl
    | false => rfl
  exact hblocks

namespace Session

variable {s : Session} {e : Event} {x : Exchange} {now time : Instant}

/-! ## Toggles -/

theorem Sound.consistent (hs : s.Sound) (hf : s.form = some f) : f.Consistent := by
  intro b hb
  obtain ⟨r, hr, hrb⟩ := hs.exists_rendered hf hb
  rw [hrb.hidden, hrb.advanced]
  exact Form.renderId?_hidden hr

theorem toggleAdvanced_eq (hf : s.Loaded f) (now : Instant) : s.toggleAdvanced now =
    match s.preferences.change PreferenceStore.showAdvancedKey (!f.showAdvanced) now with
    | (preferences, .error fault) => ⟨{ s with preferences }, .error (.preferences fault)⟩
    | (preferences, .ok ()) =>
      ⟨{ s with preferences, form := some (f.setAdvancedVisible !f.showAdvanced) },
        .ok (!f.showAdvanced)⟩ := by
  rewrite [toggleAdvanced, loadedForm_eq_ok.mpr hf]
  rfl

theorem toggleAdvanced_of_fault (hf : s.Loaded f) {fault : FileFault}
    (hfault : s.preferences.writeFault? = some fault) (now : Instant) :
    s.toggleAdvanced now = ⟨s, .error (.preferences (.access fault))⟩ := by
  rw [toggleAdvanced_eq hf, PreferenceStore.change_of_fault hfault]

theorem toggleAdvanced_of_no_fault (hf : s.Loaded f) (hfault : s.preferences.writeFault? = none)
    (now : Instant) : (s.toggleAdvanced now).result = .ok (!f.showAdvanced) := by
  obtain ⟨changed, hchange⟩ := PreferenceStore.change_of_no_fault hfault
    PreferenceStore.showAdvancedKey (!f.showAdvanced) now
  rw [toggleAdvanced_eq hf, hchange]

/-- A toggle that fails changes nothing. -/
theorem toggleAdvanced_error {error : FormError}
    (herror : (s.toggleAdvanced now).result = .error error) :
    (s.toggleAdvanced now).session = s := by
  cases hform : s.loadedForm .toggleAdvanced with
  | error refusal => rw [toggleAdvanced, hform]
  | ok f =>
    rw [toggleAdvanced_eq (loadedForm_eq_ok.mp hform)] at herror ⊢
    cases hchange : s.preferences.change PreferenceStore.showAdvancedKey (!f.showAdvanced) now with
    | mk changed result =>
      rw [hchange] at herror
      cases result with
      | error fault => rw [PreferenceStore.change_error hchange]
      | ok => cases herror

/-- A toggle that succeeds has a form and has changed the preferences. -/
theorem toggleAdvanced_ok (hok : (s.toggleAdvanced now).result = .ok visible) :
    ∃ f preferences, s.Loaded f ∧ visible = (!f.showAdvanced) ∧
      s.preferences.change PreferenceStore.showAdvancedKey visible now = (preferences, .ok ()) ∧
      (s.toggleAdvanced now).session =
        { s with preferences, form := some (f.setAdvancedVisible visible) } := by
  cases hform : s.loadedForm .toggleAdvanced with
  | error refusal =>
    rw [toggleAdvanced, hform] at hok
    cases hok
  | ok f =>
    have hf := loadedForm_eq_ok.mp hform
    rw [toggleAdvanced_eq hf] at hok ⊢
    cases hchange : s.preferences.change PreferenceStore.showAdvancedKey (!f.showAdvanced) now with
    | mk preferences result =>
      rw [hchange] at hok
      cases result with
      | error fault => cases hok
      | ok =>
        obtain rfl := Except.ok.inj hok
        exact ⟨f, preferences, hf, rfl, hchange, rfl⟩

/-! ## Later loads -/

/-- Advanced blocks are shown, or are hidden, and all other blocks are shown. -/
def Shows (s : Session) (visible : Bool) : Prop :=
  ∃ f, s.form = some f ∧ f.showAdvanced = visible ∧
    ∀ b ∈ f.blocks, b.hidden = (b.advanced && !visible)

/-- A load renders what the preferences say. -/
theorem shows_of_load {service : Service}
    (hflag : s.preferences.flag? PreferenceStore.showAdvancedKey time = some visible)
    (hload : (s.load service time).result = .ok ()) : (s.load service time).session.Shows visible := by
  obtain ⟨hsound, -⟩ := load_sound hload
  obtain ⟨catalog, status, values, -, -, hx⟩ := load_eq_of_ok hload
  obtain ⟨f, hf, hshown⟩ : ∃ f, (s.load service time).session.form = some f ∧
      f.showAdvanced = visible := by
    rw [hx]
    refine ⟨_, rfl, ?_⟩
    show (s.preferences.flag? PreferenceStore.showAdvancedKey time).getD false = visible
    rw [hflag]
    rfl
  exact ⟨f, hf, hshown, hshown ▸ hsound.consistent hf⟩

/-- The event is a call that shows advanced items or hides them. -/
def Event.isToggle : Event → Bool
  | .toggleAdvanced _ => true
  | _ => false

/-- Only a toggle that succeeds changes the preferences. -/
theorem Step.table (hstep : s.Step e x) (hx : e.isToggle = true → x.result.isOk = false) :
    x.session.preferences.table = s.preferences.table := by
  cases hstep with
  | toggled => cases hx rfl
  | _ => rfl

theorem table_run (events : List Event)
    (hevents : ∀ step ∈ s.trace events, step.1.isToggle = true → step.2.result.isOk = false) :
    (s.run events).preferences.table = s.preferences.table := by
  induction events generalizing s with
  | nil => rfl
  | cons e rest ih =>
    have hrest := ih (s := (s.perform e).session) fun step hstep =>
      hevents step (List.mem_cons_of_mem _ hstep)
    exact hrest.trans ((s.perform_step e).table (hevents _ List.mem_cons_self))

/-- Preferences that can be written are kept so by toggles at times whose flags can. -/
theorem run_representable {preferences : PreferenceStore} {events : List Event}
    (hpreferences : preferences.table.Representable)
    (hevents : ∀ now, .toggleAdvanced now ∈ events → (now.addDays 30).Representable)
    (platform : Platform) :
    ((start preferences platform).run events).preferences.table.Representable := by
  refine run_induction (P := fun s => s.preferences.table.Representable) ?_ hpreferences
  intro s e he hs
  have hstep := s.perform_step e
  revert hstep
  generalize s.perform e = x
  intro hstep
  cases hstep with
  | toggled hf hset =>
    rw [PreferenceStore.table_of_change hset]
    exact PreferenceTable.representable_put hs (hevents _ he)
  | _ => exact hs

/-- After every run: the blocks of a form are those of the listed ids, in their order; a block is
hidden when it is advanced while the form does not show advanced blocks, and the visible controls are
those of all other blocks. A toggle that fails changes nothing, and so does every toggle while the
preferences cannot be written; every other toggle of a form succeeds. It negates the flag of the form
and hides the blocks by it, and changes nothing else; another one gives back the form. Up to thirty
days later every load without a toggle in between shows what this one showed, and so does every load
of a session that reads the preferences from their file. -/
theorem visibility_follows_flag (preferences : PreferenceStore) (platform : Platform)
    (events : List Event) :
    let s := (start preferences platform).run events
    (∀ f, s.form = some f →
      f.blocks.map Block.itemId = s.catalog.listedIds ∧
      (∀ b ∈ f.blocks, b.hidden = (b.advanced && !f.showAdvanced)) ∧
      f.visibleControlIds =
        (f.blocks.filter fun b => !b.advanced || f.showAdvanced).flatMap Block.controlIds) ∧
    (∀ now error, (s.toggleAdvanced now).result = .error error →
      (s.toggleAdvanced now).session = s) ∧
    (∀ f now, s.Loaded f →
      (∀ fault, s.preferences.writeFault? = some fault →
        s.toggleAdvanced now = ⟨s, .error (.preferences (.access fault))⟩) ∧
      (s.preferences.writeFault? = none →
        (s.toggleAdvanced now).result = .ok (!f.showAdvanced))) ∧
    ∀ now visible, (s.toggleAdvanced now).result = .ok visible →
      let toggled := (s.toggleAdvanced now).session
      (∃ f g, s.form = some f ∧ visible = (!f.showAdvanced) ∧
        toggled = { s with preferences := toggled.preferences, form := some g } ∧
        g = { f.mapBlocks fun b => { b with hidden := b.advanced && !visible } with
          showAdvanced := visible } ∧
        g.updateRequest = f.updateRequest ∧ (∀ id, g.controlValue? id = f.controlValue? id) ∧
        ∀ later back, (toggled.toggleAdvanced later).result = .ok back →
          (toggled.toggleAdvanced later).session.form = some f) ∧
      (∀ more service time,
        (∀ step ∈ toggled.trace more, step.1.isToggle = true → step.2.result.isOk = false) →
        time.Before (now.addDays 30) → ((toggled.run more).load service time).result = .ok () →
        ((toggled.run more).load service time).session.Shows visible) ∧
      ((preferences = .inMemory ∨ ∃ file, PreferenceStore.load file = .ok preferences) →
        (∀ t, .toggleAdvanced t ∈ events → (t.addDays 30).Representable) →
        (now.addDays 30).Representable →
        ∀ file, toggled.preferences.file = some file →
          ∃ reloaded, PreferenceStore.load file = .ok reloaded ∧
            ∀ platform service time, time.Before (now.addDays 30) →
              ((start reloaded platform).load service time).result = .ok () →
              ((start reloaded platform).load service time).session.Shows visible) := by
  intro s
  have hsound : s.Sound := run_sound preferences platform events
  refine ⟨fun f hf => ?_, fun now error => toggleAdvanced_error, fun f now hf =>
    ⟨fun fault hfault => toggleAdvanced_of_fault hf hfault now,
      fun hfault => toggleAdvanced_of_no_fault hf hfault now⟩, fun now visible hok => ?_⟩
  · have hconsistent := hsound.consistent hf
    exact ⟨hsound.itemIds hf, hconsistent, Form.visibleControlIds_of_consistent hconsistent⟩
  · obtain ⟨f, changed, hf, hvisible, hchange, hsession⟩ := toggleAdvanced_ok hok
    have hconsistent := hsound.consistent hf.form
    intro toggled
    have htoggled : toggled =
        { s with preferences := changed, form := some (f.setAdvancedVisible visible) } := hsession
    clear_value toggled
    subst htoggled
    refine ⟨⟨f, f.setAdvancedVisible visible, hf.form, hvisible, rfl,
      Form.setAdvancedVisible_of_consistent hconsistent visible,
      Form.updateRequest_setAdvancedVisible f visible,
      Form.controlValue?_setAdvancedVisible f visible, fun later back hback => ?_⟩,
      fun more service time hmore htime hload => ?_, fun hloaded hevents hnow file hfile => ?_⟩
    · obtain ⟨g, again, hg, hnegated, -, hsecond⟩ := toggleAdvanced_ok hback
      obtain rfl := Option.some.inj hg.form
      have hback : back = f.showAdvanced := by
        rw [hnegated]
        show (!visible) = f.showAdvanced
        rw [hvisible, Bool.not_not]
      rw [hsecond, hback]
      exact congrArg some (Form.setAdvancedVisible_back hconsistent visible)
    · refine shows_of_load ?_ hload
      rw [PreferenceStore.flag?_eq, table_run more hmore, ← PreferenceStore.flag?_eq]
      exact PreferenceStore.flag?_of_change hchange htime
    · have hrepresentable := run_representable
        (PreferenceStore.backed_of_start hloaded).representable hevents platform
      have hbacked := PreferenceStore.backed_of_change hrepresentable hnow hchange
      exact ⟨changed, hbacked.load_file file hfile, fun platform service time htime hload =>
        shows_of_load (PreferenceStore.flag?_of_change hchange htime) hload⟩

/-- A hidden group with an instance that was added is shown as a whole; it grows again, and a load
within thirty days shows it. -/
theorem visibility_follows_flag_added_instance :
    let service : Service := fun request =>
      if request = .schema then
        .ok ("<config><section><item id='dir'><type>text</type><multiple>1</multiple>" ++
          "<advanced>1</advanced></item></section></config>")
      else sampleServer request
    let events : List Event := [.load service default, .addInstance "dir" "dir0"]
    let s := (start .inMemory .other).run events
    let toggled := (s.toggleAdvanced default).session
    let grown := toggled.run [.addInstance "dir" "dir1"]
    s.form.map Form.visibleControlIds = some [] ∧
      grown.form.map Form.visibleControlIds = some ["dir0", "dir1", "dir2"] ∧
      (grown.load service ⟨29 * 86400, 0⟩).session.Shows true := by
  intro service events s toggled grown
  obtain ⟨hhidden, hshown, hok, hload⟩ : s.form.map Form.visibleControlIds = some [] ∧
      grown.form.map Form.visibleControlIds = some ["dir0", "dir1", "dir2"] ∧
      (s.toggleAdvanced default).result = .ok true ∧
      (grown.load service ⟨29 * 86400, 0⟩).result = .ok () := by
    decide +kernel
  refine ⟨hhidden, hshown, ?_⟩
  have hkept := visibility_follows_flag .inMemory .other events
  have hs : (start .inMemory .other).run events = s := rfl
  rw [hs] at hkept
  clear_value s
  obtain ⟨-, -, -, htoggle⟩ := hkept
  obtain ⟨-, hlater, -⟩ := htoggle default true hok
  refine hlater _ service _ (fun step hstep htoggles => ?_) (by decide) hload
  obtain rfl := List.mem_singleton.mp hstep
  cases htoggles

end Session

end SettingsForm
