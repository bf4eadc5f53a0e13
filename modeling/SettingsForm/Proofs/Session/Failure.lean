import SettingsForm.Proofs.Session.Run

/-!
# Failed operations

An operation on a loaded session may change the form, the preferences or the phase before it fails.
Whatever it changed is as before once it has failed, and nothing was sent but one update that the
server, or the way to it, refused (`failure_traceless`).
-/

namespace SettingsForm

/-- The server refused an update, or there was no way to it. -/
def FormError.isRefusal : FormError → Bool
  | .transport _ => true
  | .saveRejected _ => true
  | _ => false

namespace Session

variable {s : Session} {error : FormError}

theorem isRefusal_of_loadedForm {operation : Operation}
    (herror : s.loadedForm operation = .error error) : error.isRefusal = false := by
  unfold loadedForm at herror
  split at herror
  · cases herror
  · cases herror
  · rw [← Except.error.inj herror]
    rfl

theorem isRefusal_of_editableForm {operation : Operation}
    (herror : s.editableForm operation = .error error) : error.isRefusal = false := by
  unfold editableForm at herror
  split at herror
  · rename_i hloaded
    exact isRefusal_of_loadedForm (hloaded.trans herror)
  · split at herror
    · cases herror
    · rw [← Except.error.inj herror]
      rfl

theorem isRefusal_of_updateResult {answer : Except TransportFault String}
    (herror : updateResult answer = .error error) : error.isRefusal = true := by
  unfold updateResult at herror
  split at herror
  · rw [← Except.error.inj herror]
    rfl
  · split at herror
    · cases herror
    · rw [← Except.error.inj herror]
      rfl

/-- An operation that fails before an update was sent sends none. -/
theorem sent_of_save_error {service : Service} (herror : (s.save service).result = .error error) :
    if error.isRefusal then
      ∃ f, s.form = some f ∧ (s.save service).sent = [.update f.updateRequest.encode]
    else (s.save service).sent = [] := by
  unfold save at herror ⊢
  cases hform : s.editableForm .save with
  | error other =>
    rw [hform] at herror
    obtain rfl := Except.error.inj herror
    rw [isRefusal_of_editableForm hform]
    rfl
  | ok f =>
    rw [hform] at herror
    simp only at herror ⊢
    cases hanswer : updateResult (service (.update f.updateRequest.encode)) with
    | ok _ =>
      rw [hanswer] at herror
      cases herror
    | error other =>
      rw [hanswer] at herror
      obtain rfl := Except.error.inj herror
      rw [isRefusal_of_updateResult hanswer]
      exact ⟨f, (editableForm_eq_ok.mp hform).1.form, rfl⟩

/-- The event is an attempt to save. -/
def Event.isSave : Event → Bool
  | .save _ => true
  | _ => false

theorem Step.session_of_error {e : Event} {x : Exchange} (hstep : s.Step e x)
    (he : e.isLoad = false) (herror : x.result = .error error) : x.session = s := by
  cases hstep with
  | schemaFailed | statusFailed | valuesFailed | loaded => cases he
  | refused | saveRejected => rfl
  | edited | toggled | saved | cancelled | fileChanged => cases herror

theorem Step.sent_of_error {e : Event} {x : Exchange} (hstep : s.Step e x)
    (he : e.isLoad = false) (hsave : e.isSave = false) (herror : x.result = .error error) :
    x.sent = [] := by
  cases hstep with
  | schemaFailed | statusFailed | valuesFailed | loaded => cases he
  | saved | saveRejected => cases hsave
  | refused | edited | toggled | cancelled | fileChanged => rfl

/-- Whatever operation on a loaded form fails, and for whatever reason, the session is the one before:
its form with all blocks, groups and instances, its phase, its preferences, and what was loaded. It
has sent one update when it was a save that the server, or the way to it, refused, and otherwise
nothing. -/
theorem failure_traceless (s : Session) (e : Event) (error : FormError) (he : e.isLoad = false)
    (herror : (s.perform e).result = .error error) :
    (s.perform e).session = s ∧
      if e.isSave && error.isRefusal then
        ∃ f, s.form = some f ∧ (s.perform e).sent = [.update f.updateRequest.encode]
      else (s.perform e).sent = [] := by
  have hstep := s.perform_step e
  refine ⟨hstep.session_of_error he herror, ?_⟩
  cases hsave : e.isSave with
  | false => exact hstep.sent_of_error he hsave herror
  | true =>
    cases e with
    | save service => exact sent_of_save_error herror
    | _ => cases hsave

/-- Showing advanced items is undone when the preference file cannot be written, after an edit and
beside a flag that has lapsed. -/
theorem failure_traceless_unwritable :
    let lapsed : PreferenceStore := ⟨some ⟨none, some .denied⟩,
      PreferenceTable.empty.put PreferenceStore.showAdvancedKey ⟨"1", default⟩⟩
    let s := (start lapsed .other).run [.load sampleServer default, .setItemValues "dir" ["a", "b"]]
    (s.perform (.toggleAdvanced default)).result = .error (.preferences (.access .denied)) ∧
      (s.perform (.toggleAdvanced default)).session = s ∧
      (s.perform (.toggleAdvanced default)).sent = [] ∧
      s.phase = .editing := by
  intro lapsed s
  obtain ⟨hresult, hphase⟩ : (s.perform (.toggleAdvanced default)).result =
      .error (.preferences (.access .denied)) ∧ s.phase = .editing := by
    decide +kernel
  obtain ⟨hsession, hsent⟩ := failure_traceless s (.toggleAdvanced default) _ rfl hresult
  exact ⟨hresult, hsession, hsent, hphase⟩

end Session

end SettingsForm
