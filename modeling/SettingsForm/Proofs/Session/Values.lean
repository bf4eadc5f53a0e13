import SettingsForm.Proofs.Form.Values
import SettingsForm.Proofs.Session.Sound

/-!
# Setting and reading a value

What is set in a session is what is read from its form, in whatever state a run has left it and
whichever controls share an id (`setValue_framed`).
-/

namespace SettingsForm.Session

variable {s : Session} {f : Form}

/-- A form of a sound session can be used. -/
theorem Sound.loaded (hs : s.Sound) (hf : s.form = some f) : s.Loaded f :=
  ⟨hf, hs.phase.mp (by simp [hf])⟩

section SetValue

variable {id : String} (hf : s.Loaded f) (hwritable : f.isWritable = true) (value : String)

include hf hwritable

theorem setValue_of_takesText (hid : f.TakesText id) : ∃ g, f.setValue? id value = some g ∧
    s.setValue id value = ⟨{ s with form := some g, phase := .editing }, .ok ()⟩ := by
  cases hg : f.setValue? id value with
  | none => exact absurd hid (Form.setValue?_eq_none.mp hg)
  | some g => exact ⟨g, rfl, edit_of_ok hf hwritable (by simp only [hg]) .edit⟩

theorem setValue_of_not_takesText (hid : ¬ f.TakesText id) :
    s.setValue id value = ⟨s, .error (.unknownControl id)⟩ :=
  edit_of_error hf hwritable (by simp only [Form.setValue?_eq_none.mpr hid]) .edit

end SetValue

/-- What entering a value does to a body, setting it does to the form of a session. -/
theorem setValue_related {R : BlockBody → BlockBody → Prop} (hR : ∀ body, R body body)
    {id value : String} (hentered : ∀ x y, BlockBody.Entered id value x y → R x y) {g : Form}
    (hf : s.form = some f) (hg : (s.setValue id value).session.form = some g) : f.Related R g := by
  refine edit_related hR (fun f => ?_) hf hg
  cases hset : f.setValue? id value with
  | none => exact .refl hR f
  | some changed =>
    obtain ⟨b, body, hreplaced, hbody, -⟩ := Form.exists_of_setValue? hset
    exact hreplaced.related hR (hentered _ _ hbody)

/-- After every run that left a form that can be saved: setting a value succeeds for the id of an
item's text input, and for that of a group's input where no control of an item has the id. It then
replaces the value of one control with this id, the item's where there is one, and nothing else in
the form or the session, so that reading the control gives the value and reading any other gives what
it gave before. For any other id, that of a drop-down among them, it is refused and changes
nothing. -/
theorem setValue_framed (preferences : PreferenceStore) (platform : Platform)
    (events : List Event) (f : Form)
    (hf : ((start preferences platform).run events).form = some f) (hwritable : f.isWritable = true)
    (id value : String) :
    let s := (start preferences platform).run events
    ((s.setValue id value).result = .ok () ↔
      id ∈ f.inputIds ∨ id ∉ f.inputIds ∧ id ∉ f.selectIds ∧ id ∈ f.instanceIds) ∧
    ((s.setValue id value).result = .ok () → ∃ b body g,
      s.setValue id value = ⟨{ s with form := some g, phase := .editing }, .ok ()⟩ ∧
      f.Replaced b body g ∧ BlockBody.Entered id value b.body body ∧
      (id ∈ f.inputIds → ∃ i, b.body = .input i) ∧
      g.controlValue? id = some value ∧
      ∀ other, other ≠ id → g.controlValue? other = f.controlValue? other) ∧
    ((s.setValue id value).result ≠ .ok () →
      s.setValue id value = ⟨s, .error (.unknownControl id)⟩) ∧
    (id ∈ f.selectIds → s.setValue id value = ⟨s, .error (.unknownControl id)⟩) := by
  intro s
  have hsound : s.Sound := run_sound preferences platform events
  have hregular := hsound.regular f hf
  have hnodup := hsound.itemIds_nodup hf
  have hloaded := hsound.loaded hf
  have hiff : (s.setValue id value).result = .ok () ↔ f.TakesText id := by
    by_cases hid : f.TakesText id
    · obtain ⟨g, -, hset⟩ := setValue_of_takesText hloaded hwritable value hid
      simp [hset, hid]
    · simp [setValue_of_not_takesText hloaded hwritable value hid, hid]
  refine ⟨hiff, fun hok => ?_, fun hnot => ?_, fun hselect => ?_⟩
  · obtain ⟨g, hg, hset⟩ := setValue_of_takesText hloaded hwritable value (hiff.mp hok)
    obtain ⟨b, body, hreplaced, hentered, hitem⟩ := Form.exists_of_setValue? hg
    exact ⟨b, body, g, hset, hreplaced, hentered, hitem,
      Form.controlValue?_of_setValue? hregular hnodup hg,
      fun other hother => Form.controlValue?_of_setValue?_of_ne hg hother⟩
  · exact setValue_of_not_takesText hloaded hwritable value (mt hiff.mpr hnot)
  · refine setValue_of_not_takesText hloaded hwritable value fun hid => ?_
    rcases hid with hinput | ⟨-, hno, -⟩
    · exact hregular.not_mem_selectIds hnodup hinput hselect
    · exact hno hselect

/-- An item named like an instance takes the value itself, and a drop-down named like one hides it. -/
theorem setValue_framed_colliding :
    let server : Service := FixedReplies.service {
      schema := some <|
        "<config><section><item id='dir'><type>text</type><multiple>1</multiple></item>" ++
          "<item id='dir0'><type>text</type></item><item id='dir1'><type>select</type>" ++
          "<option value='a'>A</option></item></section></config>"
      status := some "<status><writable_config>1</writable_config></status>"
      values := some "<config/>"
      update := none }
    let events : List Event := [.load server default, .addInstance "dir" "dir0"]
    let s := (start .inMemory .other).run events
    ∃ f, s.form = some f ∧ ("dir0" ∈ f.inputIds ∧ "dir0" ∈ f.instanceIds) ∧
      ("dir1" ∈ f.selectIds ∧ "dir1" ∈ f.instanceIds) ∧
      (∃ b body g, f.Replaced b body g ∧ (∃ i, b.body = .input i) ∧
        (s.setValue "dir0" "x").session.form = some g ∧ g.controlValue? "dir0" = some "x") ∧
      s.setValue "dir1" "x" = ⟨s, .error (.unknownControl "dir1")⟩ := by
  intro server events s
  obtain ⟨hform, hfacts⟩ : s.form.isSome = true ∧ ∀ f ∈ s.form, f.isWritable = true ∧
      ("dir0" ∈ f.inputIds ∧ "dir0" ∈ f.instanceIds) ∧
      ("dir1" ∈ f.selectIds ∧ "dir1" ∈ f.instanceIds) := by
    decide +kernel
  obtain ⟨f, hf⟩ := Option.isSome_iff_exists.mp hform
  obtain ⟨hwritable, hitem, hselect⟩ := hfacts f hf
  have hs : (start .inMemory .other).run events = s := rfl
  obtain ⟨hdir0, hset, -, -⟩ := setValue_framed .inMemory .other events f hf hwritable "dir0" "x"
  obtain ⟨-, -, -, hdir1⟩ := setValue_framed .inMemory .other events f hf hwritable "dir1" "x"
  rw [hs] at hdir0 hset hdir1
  clear_value s
  obtain ⟨b, body, g, hsession, hreplaced, -, hinput, hvalue, -⟩ := hset (hdir0.mpr (.inl hitem.1))
  exact ⟨f, hf, hitem, hselect, ⟨b, body, g, hreplaced, hinput hitem.1, by rw [hsession], hvalue⟩,
    hdir1 hselect.1⟩

end SettingsForm.Session
