import SettingsForm.Proofs.Session.Sending
import SettingsForm.Proofs.Session.Sound

/-!
# Servers that accept no changes

Whether a form can be edited goes back to one flag in the stats document of the last load. Controls
have it from the item that they were rendered for, instances that were added later from the template
of their group, and the buttons of the form are what an operation looks at (`Sound.disabled`,
`Sound.isWritable`). Without the flag every edit, save and cancel is refused, so that the form keeps
the values of the last load and no update is sent (`read_only_kept`).
-/

namespace SettingsForm

open Markup

variable {f g : Form} {visible : Bool}

/-! ## Controls -/

/-- All controls of a body are disabled, or none is. -/
def BlockBody.Disabled (disabled : Bool) : BlockBody → Prop
  | .input i => i.disabled = disabled
  | .select c => c.disabled = disabled
  | .group g => g.disabled = disabled ∧ ∀ i ∈ g.instances, i.input.disabled = disabled
  | .fault _ => True

/-- What was rendered for a server that accepts no changes is disabled, whatever instances it has by
now, as long as the group's template built them. -/
theorem Item.disabled_of_sameShape {item : Item} {value : Option FieldValue} {writable : Bool}
    {body : BlockBody} {itemId : String}
    (hbody : BlockBody.SameShape (item.body value writable) body) (hregular : body.Regular itemId) :
    body.Disabled (!writable) := by
  rcases Item.sameShape_cases hbody with ⟨field, instances, -, -, -, h⟩ |
    ⟨field, entered, -, -, -, h⟩ | ⟨options, selected, -, -, -, h⟩
  · rw [h] at hregular ⊢
    obtain ⟨-, hbuilt, -⟩ := hregular
    refine ⟨rfl, fun i hi => ?_⟩
    rw [hbuilt i hi]
    rfl
  · rw [h]
    rfl
  · rw [h]
    rfl

theorem Form.isWritable_render (c : Catalog) (values : Snapshot) (status : ServerStatus)
    (platform : Platform) (shown : Bool) :
    (render c values status platform shown).isWritable = status.writable := by
  unfold isWritable render
  cases status.writable <;> rfl

theorem Form.isWritable_iff : f.isWritable = true ↔ ∃ buttons, f.actions = .editable buttons := by
  unfold isWritable
  cases f.actions <;> simp

/-- Showing or hiding advanced blocks changes no value. -/
theorem Form.controlValue?_setAdvancedVisible (f : Form) (visible : Bool) (id : String) :
    (f.setAdvancedVisible visible).controlValue? id = f.controlValue? id := by
  simp only [controlValue?, blocks_setAdvancedVisible, List.findSome?_map, Function.comp_def,
    Block.itemValue?, Block.instanceValue?, Block.setAdvancedVisible_body]

/-! ## The flag of a stats document -/

/-- The server accepts changes when the first flag in its stats document says so. -/
theorem ServerStatus.writable_iff {document : String} {status : ServerStatus}
    (hstatus : ofDocument document = .ok status) :
    status.writable = true ↔ firstText? document "writable_config" = some "1" := by
  unfold ofDocument at hstatus
  split at hstatus
  · rename_i root hroot
    obtain rfl := Except.ok.inj hstatus
    rw [firstText?_eq hroot]
    unfold ofRoot
    cases root.find? "writable_config" <;> simp
  · cases hstatus

namespace Session

variable {s : Session} {e : Event} {x : Exchange} {history : List (Event × Exchange)}

/-- The form of a sound session can be edited when the server that was loaded says so. -/
theorem Sound.isWritable (hs : s.Sound) (hf : s.form = some f) :
    f.isWritable = s.status.writable := by
  rw [(hs.shape f hf).isWritable, rendered, Form.isWritable_render]

theorem Sound.disabled (hs : s.Sound) (hf : s.form = some f) {b : Block} (hb : b ∈ f.blocks) :
    b.body.Disabled (!s.status.writable) := by
  obtain ⟨r, hr, hrb⟩ := hs.exists_rendered hf hb
  rcases Form.renderId?_cases hr with ⟨item, -, rfl⟩ | ⟨-, fault, rfl⟩
  · exact Item.disabled_of_sameShape hrb.body (hs.regular f hf b hb)
  · rw [BlockBody.SameShape.eq_fault hrb.body]
    trivial

/-! ## Refusals -/

/-- The event would change or send what the form holds. -/
def Event.needsWritable : Event → Bool
  | .save _ => true
  | .cancel => true
  | e => e.isEdit

theorem perform_of_not_writable (hf : s.Loaded f) (hwritable : f.isWritable = false)
    (he : e.needsWritable = true) : s.perform e = ⟨s, .error .notWritable, []⟩ := by
  have hform := hf.editableForm_of_not_writable hwritable
  cases e with
  | load | toggleAdvanced | fileChange => cases he
  | save service => simp only [perform, save, hform]
  | cancel =>
    simp only [perform, cancel, hform]
    rfl
  | _ =>
    simp only [perform, setValue, select, addInstance, removeInstance, setItemValues, editGroup, edit,
      hform]
    rfl

/-! ## Since the last load -/

/-- The most recent load and what it did. -/
def lastLoad? (history : List (Event × Exchange)) : Option (Event × Exchange) :=
  history.reverse.find? fun step => step.1.isLoad

theorem lastLoad?_concat_of_load {step : Event × Exchange} (hstep : step.1.isLoad = true) :
    lastLoad? (history ++ [step]) = some step := by
  rw [lastLoad?, List.reverse_concat]
  exact List.find?_cons_of_pos hstep

theorem lastLoad?_concat_of_not_load {step : Event × Exchange} (hstep : step.1.isLoad = false) :
    lastLoad? (history ++ [step]) = lastLoad? history := by
  rw [lastLoad?, List.reverse_concat, List.find?_cons_of_neg (by simp [hstep]), lastLoad?]

/-- A session with a form has the status that its last load read, and a form that cannot be edited is
still the rendered one. -/
def SinceLoad (s : Session) (history : List (Event × Exchange)) : Prop :=
  ∀ f, s.form = some f → ∃ service now x shown,
    lastLoad? history = some (.load service now, x) ∧ x.result = .ok () ∧
    receive service .status .status ServerStatus.ofDocument = .ok s.status ∧
    x.session.form = some (s.rendered shown) ∧
    (f.isWritable = false → f = s.rendered f.showAdvanced)

/-- An event that loads nothing keeps all this when it changes nothing of a form that cannot be edited
but what is hidden. -/
theorem SinceLoad.concat (hs : s.SinceLoad history) (he : e.isLoad = false)
    (hstatus : x.session.status = s.status)
    (hrendered : ∀ shown, x.session.rendered shown = s.rendered shown)
    (hform : ∀ g, x.session.form = some g → ∃ f, s.form = some f ∧ (g.isWritable = false →
      f.isWritable = false ∧ (f = s.rendered f.showAdvanced → g = s.rendered g.showAdvanced))) :
    x.session.SinceLoad (history ++ [(e, x)]) := by
  intro g hg
  obtain ⟨f, hf, hkept⟩ := hform g hg
  obtain ⟨service, now, y, shown, hlast, hresult, hreceived, hloaded, hsame⟩ := hs f hf
  refine ⟨service, now, y, shown, (lastLoad?_concat_of_not_load he).trans hlast, hresult,
    hstatus ▸ hreceived, hrendered shown ▸ hloaded, fun hwritable => ?_⟩
  obtain ⟨hbefore, hafter⟩ := hkept hwritable
  rw [hrendered]
  exact hafter (hsame hbefore)

theorem SinceLoad.kept (hs : s.SinceLoad history) (he : e.isLoad = false)
    (hstatus : x.session.status = s.status)
    (hrendered : ∀ shown, x.session.rendered shown = s.rendered shown)
    (hform : x.session.form = s.form) : x.session.SinceLoad (history ++ [(e, x)]) :=
  hs.concat he hstatus hrendered fun g hg => ⟨g, hform ▸ hg, fun hwritable => ⟨hwritable, id⟩⟩

theorem Step.sinceLoad (hstep : s.Step e x) (hsound : s.Sound) (hs : s.SinceLoad history) :
    x.session.SinceLoad (history ++ [(e, x)]) := by
  cases hstep with
  | schemaFailed | statusFailed | valuesFailed => exact nofun
  | loaded hschema hstatus hvalues =>
    intro f hf
    obtain rfl := Option.some.inj hf
    exact ⟨_, _, _, _, lastLoad?_concat_of_load rfl, rfl, hstatus, rfl, fun _ => rfl⟩
  | refused he => exact hs.kept he rfl (fun _ => rfl) rfl
  | edited hedit hf hwritable hfg =>
    refine hs.concat (Event.isLoad_of_isEdit hedit) rfl (fun _ => rfl) fun g hg => ?_
    obtain rfl := Option.some.inj hg
    refine ⟨_, hf.form, fun hnot => ?_⟩
    rw [hfg.isWritable, hwritable] at hnot
    cases hnot
  | @toggled f now preferences hf hset =>
    refine hs.concat rfl rfl (fun _ => rfl) fun g hg => ?_
    obtain rfl := Option.some.inj hg
    refine ⟨f, hf.form, fun hwritable => ⟨hwritable, fun hsame => ?_⟩⟩
    -- the rendered form with its advanced blocks shown or hidden is the one rendered so
    have hvisible : (s.rendered f.showAdvanced).setAdvancedVisible (!f.showAdvanced) =
        s.rendered (!f.showAdvanced) := Form.setAdvancedVisible_render _
    rwa [← hsame] at hvisible
  | saved | saveRejected => exact hs.kept rfl rfl (fun _ => rfl) rfl
  | cancelled hf hwritable =>
    refine hs.concat rfl rfl (fun _ => rfl) fun g hg => ?_
    obtain rfl := Option.some.inj hg
    refine ⟨_, hf.form, fun hnot => ?_⟩
    rw [(hsound.restoreItems_related hf.form).isWritable, hwritable] at hnot
    cases hnot
  | fileChanged => exact hs.kept rfl rfl (fun _ => rfl) rfl

theorem run_sinceLoad (preferences : PreferenceStore) (platform : Platform) (events : List Event) :
    ((start preferences platform).run events).SinceLoad
      ((start preferences platform).trace events) := by
  have hstart : (start preferences platform).Sound ∧
      (start preferences platform).SinceLoad [] := ⟨start_sound preferences platform, nofun⟩
  refine (run_history_induction (P := fun s history => s.Sound ∧ s.SinceLoad history)
    (fun s history e hs => ?_) hstart events).2
  have hstep := s.perform_step e
  exact ⟨hstep.sound hs.1, hstep.sinceLoad hs.1 hs.2⟩

/-- After every run: an update is sent only when the most recent load succeeded with a stats document
whose first flag says that the configuration can be written. All controls of the form are disabled
when it cannot, and only then the form has no buttons; every edit, save and cancel is then refused
and changes nothing, and the form is the one of that load, with the same values, but for the advanced
blocks that were shown or hidden. -/
theorem read_only_kept (preferences : PreferenceStore) (platform : Platform)
    (events : List Event) :
    let history := (start preferences platform).trace events
    let s := (start preferences platform).run events
    (∀ e body, .update body ∈ (s.perform e).sent → ∃ service now x document,
      lastLoad? history = some (.load service now, x) ∧ x.result = .ok () ∧
      service .status = .ok document ∧ firstText? document "writable_config" = some "1") ∧
    ∀ f, s.form = some f →
      (∀ b ∈ f.blocks, b.body.Disabled (!s.status.writable)) ∧
      ((∃ buttons, f.actions = .editable buttons) ↔ s.status.writable = true) ∧
      (s.status.writable = false →
        (∀ e : Event, e.needsWritable = true → s.perform e = ⟨s, .error .notWritable, []⟩) ∧
        ∃ service now x loaded,
          lastLoad? history = some (.load service now, x) ∧ x.session.form = some loaded ∧
          f = loaded.setAdvancedVisible f.showAdvanced ∧
          f.updateRequest = loaded.updateRequest ∧
          ∀ id, f.controlValue? id = loaded.controlValue? id) := by
  intro history s
  have hsound : s.Sound := run_sound preferences platform events
  have hsince : s.SinceLoad history := run_sinceLoad preferences platform events
  refine ⟨fun e body hbody => ?_, fun f hf => ⟨fun b hb => hsound.disabled hf hb, ?_, ?_⟩⟩
  · obtain ⟨f, hf, hwritable⟩ := writable_of_sent hbody
    rw [hsound.isWritable hf.form] at hwritable
    obtain ⟨service, now, x, shown, hlast, hresult, hreceived, -, -⟩ := hsince f hf.form
    obtain ⟨document, hdocument, hstatus⟩ := receive_eq_ok hreceived
    exact ⟨service, now, x, document, hlast, hresult, hdocument,
      (ServerStatus.writable_iff hstatus).mp hwritable⟩
  · rw [← Form.isWritable_iff, hsound.isWritable hf]
  · intro hreadOnly
    rw [← hsound.isWritable hf] at hreadOnly
    obtain ⟨service, now, x, shown, hlast, -, -, hloaded, hsame⟩ := hsince f hf
    have hvisible : f = (s.rendered shown).setAdvancedVisible f.showAdvanced :=
      (hsame hreadOnly).trans (Form.setAdvancedVisible_render f.showAdvanced).symm
    refine ⟨fun e he => ?_, service, now, x, _, hlast, hloaded, hvisible, ?_, fun id => ?_⟩
    · exact perform_of_not_writable ⟨hf, hsound.phase.mp (by simp [hf])⟩ hreadOnly he
    · rw [hvisible, Form.updateRequest_setAdvancedVisible]
    · rw [hvisible, Form.controlValue?_setAdvancedVisible]

/-- A server that accepted changes and, when it is loaded again, does not: the first flag of its stats
document says so, and a later one does not count. -/
theorem read_only_kept_first_flag :
    let readOnly : Service := fun request =>
      if request = .status then
        .ok ("<s><a><writable_config> 0 </writable_config></a>" ++
          "<writable_config>1</writable_config></s>")
      else sampleServer request
    let events : List Event := [.load sampleServer default, .setValue "name" "Shed",
      .load readOnly default, .toggleAdvanced default]
    let s := (start .inMemory .other).run events
    ∃ f, s.form = some f ∧ (∀ b ∈ f.blocks, b.body.Disabled true) ∧
      s.perform (.setValue "name" "Barn") = ⟨s, .error .notWritable, []⟩ ∧
      s.perform (.save sampleServer) = ⟨s, .error .notWritable, []⟩ := by
  intro readOnly events s
  obtain ⟨hsome, hstatus⟩ : s.form.isSome = true ∧ s.status.writable = false := by
    decide +kernel
  have hkept := read_only_kept .inMemory .other events
  have hs : (start .inMemory .other).run events = s := rfl
  rw [hs] at hkept
  clear_value s
  obtain ⟨f, hf⟩ := Option.isSome_iff_exists.mp hsome
  obtain ⟨-, hform⟩ := hkept
  obtain ⟨hdisabled, -, hreadOnly⟩ := hform f hf
  obtain ⟨hrefused, -⟩ := hreadOnly hstatus
  refine ⟨f, hf, fun b hb => ?_, hrefused _ rfl, hrefused _ rfl⟩
  have hb := hdisabled b hb
  rwa [hstatus] at hb

end Session

end SettingsForm
