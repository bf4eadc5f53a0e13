import SettingsForm.Proofs.Catalog.Listing
import SettingsForm.Proofs.Preferences
import SettingsForm.Proofs.Session.Restore

/-!
# Runs of a session

A run is what a session goes through: calls of its operations in any order, each with what the
server, the clock and the preference file answer to it. `perform_step` says once what an event can
do to a session; whatever holds along all runs follows from it by `run_induction`.
-/

namespace SettingsForm

/-- An outcome as an exchange in which nothing was asked of the server. -/
def Outcome.exchange {α : Type} (o : Outcome α) : Exchange :=
  ⟨o.session, o.result.map fun _ => (), []⟩

namespace Session

/-- What can happen to a session: a call of one of its operations, with the service that answers it
and the time where it needs them, or a change of the preference file by something else. -/
inductive Event where
  | load (service : Service) (now : Instant)
  | setValue (controlId value : String)
  | select (itemId value : String)
  | addInstance (itemId after : String)
  | removeInstance (itemId instanceId : String)
  | setItemValues (itemId : String) (values : List String)
  | toggleAdvanced (now : Instant)
  | save (service : Service)
  | cancel
  | fileChange (file : PreferenceFile)

namespace Event

def isLoad : Event → Bool
  | .load .. => true
  | _ => false

/-- The event is a call that changes values. -/
def isEdit : Event → Bool
  | .setValue .. => true
  | .select .. => true
  | .addInstance .. => true
  | .removeInstance .. => true
  | .setItemValues .. => true
  | _ => false

/-- When a call of this kind succeeds, nothing is left unsaved. -/
def settles : Event → Bool
  | .load .. => true
  | .save _ => true
  | .cancel => true
  | _ => false

theorem isLoad_of_isEdit {e : Event} (he : e.isEdit = true) : e.isLoad = false := by
  cases e <;> first | rfl | cases he

theorem settles_of_isEdit {e : Event} (he : e.isEdit = true) : e.settles = false := by
  cases e <;> first | rfl | cases he

end Event

/-- What an event leaves, how the call ended, and what was asked of the server. -/
def perform (s : Session) : Event → Exchange
  | .load service now => s.load service now
  | .setValue controlId value => (s.setValue controlId value).exchange
  | .select itemId value => (s.select itemId value).exchange
  | .addInstance itemId after => (s.addInstance itemId after).exchange
  | .removeInstance itemId instanceId => (s.removeInstance itemId instanceId).exchange
  | .setItemValues itemId values => (s.setItemValues itemId values).exchange
  | .toggleAdvanced now => (s.toggleAdvanced now).exchange
  | .save service => s.save service
  | .cancel => s.cancel.exchange
  | .fileChange file =>
    ⟨{ s with preferences := { s.preferences with file := s.preferences.file.map fun _ => file } },
      .ok (), []⟩

/-- The session after some events. -/
def run (s : Session) (events : List Event) : Session :=
  events.foldl (fun s e => (s.perform e).session) s

/-- Some events with what each of them did. -/
def trace (s : Session) : List Event → List (Event × Exchange)
  | [] => []
  | e :: rest => (e, s.perform e) :: (s.perform e).session.trace rest

/-- What holds at the start and is kept by every event of a run holds after it. -/
theorem run_induction {P : Session → Prop} {s : Session} {events : List Event}
    (hstep : ∀ s, ∀ e ∈ events, P s → P (s.perform e).session) (hs : P s) : P (s.run events) := by
  induction events generalizing s with
  | nil => exact hs
  | cons e rest ih =>
    exact ih (fun s e he => hstep s e (List.mem_cons_of_mem _ he)) (hstep s e List.mem_cons_self hs)

/-- What holds at the start together with what happened before, and is kept by every event of a run,
holds after it. -/
theorem run_history_induction {P : Session → List (Event × Exchange) → Prop}
    (hstep : ∀ s history e, P s history → P (s.perform e).session (history ++ [(e, s.perform e)]))
    {s : Session} {history : List (Event × Exchange)} (hs : P s history) (events : List Event) :
    P (s.run events) (history ++ s.trace events) := by
  induction events generalizing s history with
  | nil => rwa [trace, List.append_nil]
  | cons e rest ih =>
    have hrest := ih (hstep s history e hs)
    rwa [List.append_assoc] at hrest

variable {s : Session} {f g : Form}

/-! ## Forms that can be used -/

/-- The form is loaded and nothing else is going on. -/
structure Loaded (s : Session) (f : Form) : Prop where
  form : s.form = some f
  phase : s.phase = .rendered ∨ s.phase = .editing

theorem loadedForm_eq_ok {operation : Operation} :
    s.loadedForm operation = .ok f ↔ s.Loaded f := by
  unfold loadedForm
  constructor
  · intro h
    split at h
    · rename_i hphase hform
      exact ⟨Except.ok.inj h ▸ hform, .inl hphase⟩
    · rename_i hphase hform
      exact ⟨Except.ok.inj h ▸ hform, .inr hphase⟩
    · cases h
  · rintro ⟨hform, hphase | hphase⟩
    · rw [hform, hphase]
    · rw [hform, hphase]

theorem editableForm_eq_ok {operation : Operation} :
    s.editableForm operation = .ok f ↔ s.Loaded f ∧ f.isWritable = true := by
  unfold editableForm
  cases h : s.loadedForm operation with
  | error e =>
    simp only [reduceCtorEq, false_iff]
    intro hf
    rw [loadedForm_eq_ok.mpr hf.1] at h
    cases h
  | ok g =>
    have hg := loadedForm_eq_ok.mp h
    simp only
    constructor
    · intro hf
      split at hf
      · obtain rfl := Except.ok.inj hf
        exact ⟨hg, ‹_›⟩
      · cases hf
    · rintro ⟨hf, hwritable⟩
      obtain rfl : g = f := Option.some.inj (hg.form.symm.trans hf.form)
      exact if_pos hwritable

theorem Loaded.editableForm_of_not_writable (hf : s.Loaded f) (hwritable : f.isWritable = false)
    (operation : Operation) : s.editableForm operation = .error .notWritable := by
  rw [editableForm, loadedForm_eq_ok.mpr hf]
  simp [hwritable]

section Edit

variable {α : Type} {change : Form → Form × Except FormError α}

theorem edit_of_ok (hf : s.Loaded f) (hwritable : f.isWritable = true) {a : α}
    (hchange : change f = (g, .ok a)) (operation : Operation) :
    s.edit operation change = ⟨{ s with form := some g, phase := .editing }, .ok a⟩ := by
  rw [edit, editableForm_eq_ok.mpr ⟨hf, hwritable⟩]
  simp only [hchange]

/-- An edit that fails and keeps the form changes nothing. -/
theorem edit_of_error (hf : s.Loaded f) (hwritable : f.isWritable = true) {error : FormError}
    (hchange : change f = (f, .error error)) (operation : Operation) :
    s.edit operation change = ⟨s, .error error⟩ := by
  have hsame : { s with form := some f } = s := by rw [← hf.form]
  rw [edit, editableForm_eq_ok.mpr ⟨hf, hwritable⟩]
  simp only [hchange, hsame]

/-- What a change does to every form, an edit does to the form of a session. -/
theorem edit_related {R : BlockBody → BlockBody → Prop} (hR : ∀ body, R body body)
    (hchange : ∀ f : Form, f.Related R (change f).1) {operation : Operation} (hf : s.form = some f)
    (hg : (s.edit operation change).session.form = some g) : f.Related R g := by
  unfold edit at hg
  cases hform : s.editableForm operation with
  | error error =>
    rw [hform] at hg
    exact Option.some.inj (hf.symm.trans hg) ▸ .refl hR f
  | ok h =>
    obtain rfl : h = f := Option.some.inj ((editableForm_eq_ok.mp hform).1.form.symm.trans hf)
    have hrelated := hchange h
    rw [hform] at hg
    cases hresult : change h with
    | mk changed result =>
      rw [hresult] at hrelated
      simp only [hresult] at hg
      cases result with
      | error error => exact Option.some.inj hg ▸ hrelated
      | ok a => exact Option.some.inj hg ▸ hrelated

end Edit

/-- A save of a form that can be saved asks the server once and goes by its answer. -/
theorem save_eq (hf : s.Loaded f) (hwritable : f.isWritable = true) (service : Service) :
    s.save service =
      match updateResult (service (.update f.updateRequest.encode)) with
      | .ok () => ⟨{ s with phase := .rendered }, .ok (), [.update f.updateRequest.encode]⟩
      | .error error => ⟨s, .error error, [.update f.updateRequest.encode]⟩ := by
  rewrite [save, editableForm_eq_ok.mpr ⟨hf, hwritable⟩]
  rfl

/-! ## What an event can do -/

/-- What an event can do to a session. A load fails in one of three stages or renders a form. Any
other call is refused and changes nothing, or does what is named. -/
inductive Step (s : Session) : Event → Exchange → Prop where
  | schemaFailed {service : Service} {now : Instant} {error : FormError}
      (hschema : receive service .schema .schema Catalog.ofDocument = .error error) :
      Step s (.load service now)
        ⟨{ s with form := none, phase := .loadingSchema }, .error error, [.schema]⟩
  | statusFailed {service : Service} {now : Instant} {catalog : Catalog} {error : FormError}
      (hschema : receive service .schema .schema Catalog.ofDocument = .ok catalog)
      (hstatus : receive service .status .status ServerStatus.ofDocument = .error error) :
      Step s (.load service now)
        ⟨{ s with form := none, phase := .loadingStatus, catalog }, .error error,
          [.schema, .status]⟩
  | valuesFailed {service : Service} {now : Instant} {catalog : Catalog} {status : ServerStatus}
      {error : FormError}
      (hschema : receive service .schema .schema Catalog.ofDocument = .ok catalog)
      (hstatus : receive service .status .status ServerStatus.ofDocument = .ok status)
      (hvalues : receive service .values .values Snapshot.ofDocument = .error error) :
      Step s (.load service now)
        ⟨{ s with form := none, phase := .loadingValues, catalog, status }, .error error,
          [.schema, .status, .values]⟩
  | loaded {service : Service} {now : Instant} {catalog : Catalog} {status : ServerStatus}
      {values : Snapshot}
      (hschema : receive service .schema .schema Catalog.ofDocument = .ok catalog)
      (hstatus : receive service .status .status ServerStatus.ofDocument = .ok status)
      (hvalues : receive service .values .values Snapshot.ofDocument = .ok values) :
      Step s (.load service now)
        ⟨({ s with catalog, status, values } : Session).render now, .ok (),
          [.schema, .status, .values]⟩
  | refused {e : Event} {error : FormError} (hload : e.isLoad = false) :
      Step s e ⟨s, .error error, []⟩
  | edited {e : Event} {f g : Form} (hedit : e.isEdit = true) (hf : s.Loaded f)
      (hwritable : f.isWritable = true) (hfg : f.Related BlockBody.Step g) :
      Step s e ⟨{ s with form := some g, phase := .editing }, .ok (), []⟩
  | toggled {f : Form} {now : Instant} {preferences : PreferenceStore} (hf : s.Loaded f)
      (hset : s.preferences.change PreferenceStore.showAdvancedKey (!f.showAdvanced) now =
        (preferences, .ok ())) :
      Step s (.toggleAdvanced now)
        ⟨{ s with preferences, form := some (f.setAdvancedVisible !f.showAdvanced) }, .ok (), []⟩
  | saved {f : Form} {service : Service} (hf : s.Loaded f) (hwritable : f.isWritable = true)
      (hanswer : updateResult (service (.update f.updateRequest.encode)) = .ok ()) :
      Step s (.save service)
        ⟨{ s with phase := .rendered }, .ok (), [.update f.updateRequest.encode]⟩
  | saveRejected {f : Form} {service : Service} {error : FormError} (hf : s.Loaded f)
      (hwritable : f.isWritable = true)
      (hanswer : updateResult (service (.update f.updateRequest.encode)) = .error error) :
      Step s (.save service) ⟨s, .error error, [.update f.updateRequest.encode]⟩
  | cancelled {f : Form} (hf : s.Loaded f) (hwritable : f.isWritable = true) :
      Step s .cancel
        ⟨{ s with form := some (restoreItems s.values s.catalog.items f).1, phase := .rendered },
          .ok (), []⟩
  | fileChanged (file : PreferenceFile) :
      Step s (.fileChange file) (s.perform (.fileChange file))

/-- Only a load can take the form away. -/
theorem Step.form_isSome {e : Event} {x : Exchange} (hstep : s.Step e x) (hload : e.isLoad = false)
    (hs : s.form.isSome = true) : x.session.form.isSome = true := by
  cases hstep with
  | schemaFailed | statusFailed | valuesFailed | loaded => cases hload
  | edited | toggled | cancelled => rfl
  | refused | saved | saveRejected | fileChanged => exact hs

theorem load_step (s : Session) (service : Service) (now : Instant) :
    s.Step (.load service now) (s.load service now) := by
  unfold load
  cases hschema : receive service .schema .schema Catalog.ofDocument with
  | error error => exact .schemaFailed hschema
  | ok catalog =>
    simp only
    cases hstatus : receive service .status .status ServerStatus.ofDocument with
    | error error => exact .statusFailed hschema hstatus
    | ok status =>
      simp only
      cases hvalues : receive service .values .values Snapshot.ofDocument with
      | error error => exact .valuesFailed hschema hstatus hvalues
      | ok values => exact .loaded hschema hstatus hvalues

/-- A load that succeeds has read three documents and rendered the form. -/
theorem load_eq_of_ok {service : Service} {now : Instant}
    (hload : (s.load service now).result = .ok ()) : ∃ catalog status values,
      receive service .schema .schema Catalog.ofDocument = .ok catalog ∧
      receive service .values .values Snapshot.ofDocument = .ok values ∧
      s.load service now = ⟨({ s with catalog, status, values } : Session).render now, .ok (),
        [.schema, .status, .values]⟩ := by
  have hstep := s.load_step service now
  revert hstep hload
  generalize s.load service now = x
  intro hload hstep
  cases hstep with
  | loaded hschema _ hvalues => exact ⟨_, _, _, hschema, hvalues, rfl⟩
  | edited hedit => cases hedit
  | _ => cases hload

/-- An edit either refuses, leaving the form as it is, or changes bodies. -/
def Edits {α : Type} (change : Form → Form × Except FormError α) : Prop :=
  ∀ f, (∃ error, change f = (f, .error error)) ∨
    ∃ g a, change f = (g, .ok a) ∧ f.Related BlockBody.Step g

theorem edit_step {α : Type} {e : Event} (hedit : e.isEdit = true) (operation : Operation)
    {change : Form → Form × Except FormError α} (hchange : Edits change) :
    s.Step e (s.edit operation change).exchange := by
  have hload := Event.isLoad_of_isEdit hedit
  unfold edit
  cases hform : s.editableForm operation with
  | error error => exact .refused hload
  | ok f =>
    obtain ⟨hf, hwritable⟩ := editableForm_eq_ok.mp hform
    simp only
    rcases hchange f with ⟨error, herror⟩ | ⟨g, a, hok, hfg⟩
    · rw [herror]
      -- the form is put back as it is
      have hsame : { s with form := some f } = s := by rw [← hf.form]
      simp only [hsame]
      exact .refused hload
    · rw [hok]
      exact .edited hedit hf hwritable hfg

theorem setValue_edits (controlId value : String) : Edits fun form =>
    match form.setValue? controlId value with
    | some changed => (changed, .ok ())
    | none => (form, .error (.unknownControl controlId)) := by
  intro f
  simp only
  cases h : f.setValue? controlId value with
  | none => exact .inl ⟨_, rfl⟩
  | some g => exact .inr ⟨g, (), rfl, Form.setValue?_related h⟩

theorem select_edits (itemId value : String) : Edits fun form =>
    match (form.block? itemId).map Block.body with
    | some (.select control) =>
      if control.options.any fun o => o.value = value then
        (form.updateBody itemId fun _ => .select { control with selected := value }, .ok ())
      else (form, .error (.unknownOption itemId value))
    | _ => (form, .error (.unknownItem itemId)) := by
  intro f
  simp only
  split
  · rename_i control hbody
    obtain ⟨b, hb, hcontrol⟩ := Option.map_eq_some_iff.mp hbody
    split
    · refine .inr ⟨_, (), rfl, Form.updateBody_related .same hb ?_⟩
      rw [hcontrol]
      exact .choose control value
    · exact .inl ⟨_, rfl⟩
  · exact .inl ⟨_, rfl⟩

theorem group?_eq_some {itemId : String} {g : Group} (hg : f.group? itemId = some g) :
    ∃ b, f.block? itemId = some b ∧ b.body = .group g := by
  unfold Form.group? at hg
  split at hg
  · rename_i b hb
    obtain rfl := Option.some.inj hg
    exact ⟨_, hb, rfl⟩
  · cases hg

theorem editGroup_edits {α : Type} (itemId : String) {change : Group → Group × Except FormError α}
    (hchange : ∀ g, (∃ error, change g = (g, .error error)) ∨
      ∃ h a, change g = (h, .ok a) ∧ g.Step h) :
    Edits fun form =>
      match form.group? itemId with
      | none => (form, .error (.notMultiple itemId))
      | some g =>
        let (changed, result) := change g
        (form.updateBody itemId fun _ => .group changed, result) := by
  intro f
  simp only
  cases hg : f.group? itemId with
  | none => exact .inl ⟨_, rfl⟩
  | some g =>
    obtain ⟨b, hb, hbody⟩ := group?_eq_some hg
    simp only
    rcases hchange g with ⟨error, herror⟩ | ⟨h, a, hok, hstep⟩
    · rw [herror]
      -- the group is put back as it is
      refine .inl ⟨error, ?_⟩
      rw [← hbody, Form.updateBody_self hb]
    · rw [hok]
      refine .inr ⟨_, a, rfl, Form.updateBody_related .same hb ?_⟩
      rw [hbody]
      exact .group hstep

theorem perform_step (s : Session) (e : Event) : s.Step e (s.perform e) := by
  cases e with
  | load service now => exact s.load_step service now
  | setValue controlId value => exact edit_step rfl .edit (setValue_edits controlId value)
  | select itemId value => exact edit_step rfl .edit (select_edits itemId value)
  | addInstance itemId after =>
    refine edit_step rfl .addInstance (editGroup_edits itemId fun g => ?_)
    cases h : g.addAfter after with
    | error error => exact .inl ⟨error, rfl⟩
    | ok added => exact .inr ⟨added.2, added.1, rfl, Group.step_of_addAfter h⟩
  | removeInstance itemId instanceId =>
    refine edit_step rfl .removeInstance (editGroup_edits itemId fun g => ?_)
    cases h : g.remove instanceId with
    | error error => exact .inl ⟨error, rfl⟩
    | ok smaller => exact .inr ⟨smaller, (), rfl, Group.step_of_remove h⟩
  | setItemValues itemId values =>
    refine edit_step rfl .edit (editGroup_edits itemId fun g => ?_)
    exact .inr ⟨_, (), g.setValues_ok values, .set values⟩
  | toggleAdvanced now =>
    show s.Step _ (s.toggleAdvanced now).exchange
    unfold toggleAdvanced
    cases hform : s.loadedForm .toggleAdvanced with
    | error error => exact .refused rfl
    | ok f =>
      have hf := loadedForm_eq_ok.mp hform
      simp only
      cases hset : s.preferences.change PreferenceStore.showAdvancedKey (!f.showAdvanced) now with
      | mk preferences result =>
        cases result with
        | error fault =>
          -- the preferences are put back as they were
          rw [PreferenceStore.change_error hset]
          exact .refused rfl
        | ok _ => exact .toggled hf hset
  | save service =>
    show s.Step _ (s.save service)
    unfold save
    cases hform : s.editableForm .save with
    | error error => exact .refused rfl
    | ok f =>
      obtain ⟨hf, hwritable⟩ := editableForm_eq_ok.mp hform
      simp only
      cases hanswer : updateResult (service (.update f.updateRequest.encode)) with
      | ok _ => exact .saved hf hwritable hanswer
      | error error => exact .saveRejected hf hwritable hanswer
  | cancel =>
    show s.Step _ s.cancel.exchange
    unfold cancel
    cases hform : s.editableForm .cancel with
    | error error => exact .refused rfl
    | ok f =>
      obtain ⟨hf, hwritable⟩ := editableForm_eq_ok.mp hform
      simp only
      rw [restoreItems_ok]
      exact .cancelled hf hwritable
  | fileChange file => exact .fileChanged file

/-! ## A server -/

/-- A server that accepts updates, with an item of several values, a plain one and a rejected one. -/
def sampleServer : Service := FixedReplies.service {
  schema := some <|
    "<config><section><item id='dir'><type>text</type><multiple>1</multiple></item>" ++
      "<item id='name'><type>text</type></item><item id='mode'/></section></config>"
  status := some "<status><writable_config>1</writable_config></status>"
  values := some "<config><name>Box</name></config>"
  update := some FixedReplies.updateAccepted }

end Session

end SettingsForm
