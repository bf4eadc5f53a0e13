import SettingsForm.Proofs.Session.Sound

/-!
# Unsaved edits

A session is settled when a load, a save or a cancel has succeeded. From then on it is in editing
before anything that saving would send differs from what it was then: every event that may change
the values of the form leads to editing, and every other event keeps them.
-/

namespace SettingsForm.Session

variable {s : Session} {f : Form}

/-- A load, save or cancel that succeeded. -/
def isSettled (step : Event × Exchange) : Bool := step.1.settles && step.2.result.isOk

/-- The session right after the most recent of the loads, saves and cancels that succeeded. -/
def lastSettled? (history : List (Event × Exchange)) : Option Session :=
  (history.reverse.find? isSettled).map fun step => step.2.session

theorem lastSettled?_concat_of_settled {history : List (Event × Exchange)}
    {step : Event × Exchange} (hstep : isSettled step = true) :
    lastSettled? (history ++ [step]) = some step.2.session := by
  rw [lastSettled?, List.reverse_concat, List.find?_cons_of_pos hstep]
  rfl

theorem lastSettled?_concat_of_not_settled {history : List (Event × Exchange)}
    {step : Event × Exchange} (hstep : isSettled step = false) :
    lastSettled? (history ++ [step]) = lastSettled? history := by
  rw [lastSettled?, List.reverse_concat, List.find?_cons_of_neg (by simp [hstep])]
  rfl

/-- A form was loaded, and while the session is not in editing, saving would send what it would have
sent then. -/
def Tracks (s : Session) (history : List (Event × Exchange)) : Prop :=
  s.form.isSome → ∃ settled, lastSettled? history = some settled ∧
    (s.phase = .rendered → s.updateRequest? = settled.updateRequest?)

theorem tracks_of_settled {history : List (Event × Exchange)} {e : Event} {x : Exchange}
    (hx : isSettled (e, x) = true) : x.session.Tracks (history ++ [(e, x)]) :=
  fun _ => ⟨x.session, lastSettled?_concat_of_settled hx, fun _ => rfl⟩

/-- An event that settles nothing keeps track when it keeps what saving would send, or leads to
editing. -/
theorem Tracks.concat {history : List (Event × Exchange)} {e : Event} {x : Exchange}
    (hs : s.Tracks history) (hx : isSettled (e, x) = false)
    (hform : x.session.form.isSome → s.form.isSome)
    (hkeep : x.session.phase = .rendered →
      s.phase = .rendered ∧ x.session.updateRequest? = s.updateRequest?) :
    x.session.Tracks (history ++ [(e, x)]) := by
  intro hsome
  obtain ⟨settled, hlast, hsame⟩ := hs (hform hsome)
  refine ⟨settled, (lastSettled?_concat_of_not_settled hx).trans hlast, fun hphase => ?_⟩
  obtain ⟨hbefore, hrequest⟩ := hkeep hphase
  exact hrequest.trans (hsame hbefore)

theorem Step.tracks {history : List (Event × Exchange)} {e : Event} {x : Exchange}
    (hstep : s.Step e x) (hs : s.Tracks history) : x.session.Tracks (history ++ [(e, x)]) := by
  cases hstep with
  | schemaFailed | statusFailed | valuesFailed => exact nofun
  | loaded | saved | cancelled => exact tracks_of_settled rfl
  | refused => exact hs.concat (Bool.and_false _) id fun hphase => ⟨hphase, rfl⟩
  | edited hedit hf =>
    refine hs.concat ?_ (fun _ => by simp [hf.form]) nofun
    rw [isSettled, Event.settles_of_isEdit hedit, Bool.false_and]
  | @toggled f _ _ hf =>
    refine hs.concat rfl (fun _ => by simp [hf.form]) fun hphase => ⟨hphase, ?_⟩
    simp only [updateRequest?, hf.form, Option.map_some, Form.updateRequest_setAdvancedVisible]
  | saveRejected => exact hs.concat rfl id fun hphase => ⟨hphase, rfl⟩
  | fileChanged => exact hs.concat rfl id fun hphase => ⟨hphase, rfl⟩

theorem Tracks.run {history : List (Event × Exchange)} (hs : s.Tracks history)
    (events : List Event) : (s.run events).Tracks (history ++ s.trace events) :=
  run_history_induction (P := Tracks) (fun s _ e hs => (s.perform_step e).tracks hs) hs events

theorem start_tracks (preferences : PreferenceStore) (platform : Platform) :
    (start preferences platform).Tracks [] := nofun

/-- After every run, a session that is not in editing would send what it would have sent right after
the most recent load, save or cancel that succeeded; so with a form whose values differ from those
it is in editing. -/
theorem unsaved_flagged (preferences : PreferenceStore) (platform : Platform)
    (events : List Event) :
    let history := (start preferences platform).trace events
    let s := (start preferences platform).run events
    (s.phase = .rendered → ∃ settled, lastSettled? history = some settled ∧
      s.updateRequest? = settled.updateRequest?) ∧
    (s.form.isSome → ∃ settled, lastSettled? history = some settled ∧
      (s.updateRequest? ≠ settled.updateRequest? → s.phase = .editing)) := by
  intro history s
  have hsound : s.Sound := run_sound preferences platform events
  have htracks : s.Tracks history := (start_tracks preferences platform).run events
  constructor
  · intro hphase
    obtain ⟨settled, hlast, hsame⟩ := htracks (hsound.phase.mpr (.inl hphase))
    exact ⟨settled, hlast, hsame hphase⟩
  · intro hform
    obtain ⟨settled, hlast, hsame⟩ := htracks hform
    refine ⟨settled, hlast, fun hdiffer => ?_⟩
    rcases hsound.phase.mp hform with hphase | hphase
    · exact absurd (hsame hphase) hdiffer
    · exact hphase

/-- A save that fails leaves an edit flagged. -/
theorem unsaved_flagged_after_failure :
    let events : List Event := [.load sampleServer default, .setValue "name" "Shed",
      .save fun _ => .error (.unavailable "")]
    let s := (start .inMemory .other).run events
    ∃ settled, lastSettled? ((start .inMemory .other).trace events) = some settled ∧
      s.updateRequest? ≠ settled.updateRequest? ∧ s.phase = .editing := by
  intro events s
  obtain ⟨hform, hdiffer⟩ : s.form.isSome = true ∧ s.updateRequest? ≠
      (lastSettled? ((start .inMemory .other).trace events)).bind updateRequest? := by
    decide +kernel
  obtain ⟨settled, hlast, hflagged⟩ := (unsaved_flagged .inMemory .other events).2 hform
  rw [hlast] at hdiffer
  exact ⟨settled, hlast, hdiffer, hflagged hdiffer⟩

end SettingsForm.Session
