import SettingsForm.CommandLine.Run
import SettingsForm.Proofs.Screen.Question
import SettingsForm.Proofs.Session.Failure
import SettingsForm.Proofs.Session.Loading
import SettingsForm.Proofs.Session.Unsaved
import Mathlib.Data.List.Induction

/-!
# Runs of the editor

A run of the editor is a list of turns: whatever happens on its screen, each with the service that
would answer a save then. `take_turned` says once what a turn can do. A run calls operations of the
session one after the other (`Ready.session_after`), a save opens the screen anew with the session
that it leaves, and a run ends when nothing is left unsaved or the user discards what is
(`Ready.exists_last`). So edits are not lost before the user was asked (`edits_kept_or_discarded`).
On the command line the editor is opened by a run without keys and takes the keys one after the other
(`run_edit`).
-/

namespace SettingsForm

namespace Session

theorem run_append (s : Session) (events later : List Event) :
    s.run (events ++ later) = (s.run events).run later := List.foldl_append

end Session

namespace Editor

/-- What happens on the screen at a time, and the service that would answer a save. -/
structure Turn where
  service : Service
  now : Instant
  happening : Screen.Happening

/-- The editor after one more turn. -/
def take (e : Editor) (t : Turn) : Editor := e.step t.service fun s => s.apply t.now t.happening

/-- The editor after some turns. -/
def after (e : Editor) (turns : List Turn) : Editor := turns.foldl take e

/-- The runs on events and on keys are runs of turns with one service. -/
theorem run_eq_after (e : Editor) (service : Service) (events : List (Instant × Screen.Event)) :
    e.run service events = e.after (events.map fun event => ⟨service, event.1, .event event.2⟩) := by
  rw [after, List.foldl_map]
  rfl

theorem runKeys_eq_after (e : Editor) (service : Service) (now : Instant) (keys : List Screen.Key) :
    e.runKeys service now keys = e.after (keys.map fun key => ⟨service, now, .key key⟩) := by
  rw [after, List.foldl_map]
  rfl

variable {e : Editor} {t : Turn} {turns : List Turn}

/-- The turn asks a running editor to save a form that can be saved. -/
structure Saves (e : Editor) (t : Turn) : Prop where
  running : e.screen.running = true
  demand : e.screen.demand t.now t.happening = .save
  writable : e.screen.session.form.any Form.isWritable = true

/-- The operations of the session that a turn calls. -/
def calls (e : Editor) (t : Turn) : List Session.Event :=
  if e.screen.running then
    match e.screen.demand t.now t.happening with
    | .call event => [event]
    | .save => if e.screen.session.form.any Form.isWritable then [.save t.service] else []
    | _ => []
  else []

/-- The operations of the session that some turns call. -/
def callsIn (e : Editor) : List Turn → List Session.Event
  | [] => []
  | t :: rest => e.calls t ++ (e.take t).callsIn rest

/-! ## What a turn can do -/

/-- What a turn can do: nothing once the editor has ended; before, it changes layers only, calls an
operation, ends the editor, or saves and opens the screen anew. -/
inductive Turned (e : Editor) (t : Turn) : Editor → Prop where
  | finished (hover : e.screen.running = false) (hcalls : e.calls t = []) : Turned e t e
  | shown (hrunning : e.screen.running = true) {s : Screen} (hs : e.screen.Alike s)
      (hcalls : e.calls t = []) : Turned e t { e with screen := s }
  | called (hrunning : e.screen.running = true) {s : Screen} (hs : e.screen.Alike s)
      {event : Session.Event} (hload : event.isLoad = false) (hcalls : e.calls t = [event]) :
      Turned e t
        { e with screen := { s with session := (e.screen.session.perform event).session } }
  | ended (hrunning : e.screen.running = true) (hcalls : e.calls t = [])
      (hasked : e.screen.session.phase ≠ .editing ∨
        e.screen.demand t.now t.happening = .discard) :
      Turned e t ⟨e.screen.close .quit, e.sent⟩
  | reopened (hsaves : e.Saves t) (hcalls : e.calls t = [.save t.service]) {s : Screen}
      (hs : screen? (e.screen.session.save t.service).session
        (saveStatus (e.screen.session.save t.service).result) = some s) :
      Turned e t ⟨s, e.sent ++ (e.screen.session.save t.service).sent⟩

theorem screen?_isSome {session : Session} (hform : session.form.isSome = true)
    (status : Option String) : ∃ s, screen? session status = some s := by
  obtain ⟨f, hf⟩ := Option.isSome_iff_exists.mp hform
  exact ⟨_, by rw [screen?, Screen.ofSession?, hf]; rfl⟩

/-- What a newly opened screen is like. -/
theorem screen?_eq_some {session : Session} {status : Option String} {s : Screen}
    (hs : screen? session status = some s) : s.session = session ∧ s.status = status ∧
      s.intent = .quit ∧ s.running = true ∧ s.Guarded ∧ ∃ f, s.Drawn f := by
  obtain ⟨opened, hopened, rfl⟩ := Option.map_eq_some_iff.mp hs
  obtain ⟨f, -, hdrawn⟩ := Screen.drawn_of_ofSession? hopened
  obtain ⟨g, -, rfl⟩ := Option.map_eq_some_iff.mp hopened
  refine ⟨rfl, rfl, rfl, rfl, ?_, f, hdrawn⟩
  intro l hl
  obtain rfl := List.mem_singleton.mp hl
  have hfocus := Screen.Dialog.focusFirst_focusMoved (.ofForm g status)
  exact (Screen.Layer.guarded_ofForm g status).refocused hfocus.refocused

theorem isSome_form_save {session : Session} (service : Service)
    (hform : session.form.isSome = true) : (session.save service).session.form.isSome = true :=
  (session.perform_step (.save service)).form_isSome rfl hform

/-- A turn that asks to save opens the screen anew with what the save leaves. -/
theorem take_of_saves (hform : e.screen.session.form.isSome = true) (hsaves : e.Saves t) :
    ∃ s, screen? (e.screen.session.save t.service).session
        (saveStatus (e.screen.session.save t.service).result) = some s ∧
      e.take t = ⟨s, e.sent ++ (e.screen.session.save t.service).sent⟩ := by
  obtain ⟨s, hs⟩ := screen?_isSome (isSome_form_save t.service hform)
    (saveStatus (e.screen.session.save t.service).result)
  have hclosed : e.screen.apply t.now t.happening = e.screen.close .save := by
    have hmoves := e.screen.apply_moves t.now t.happening
    rw [hsaves.demand] at hmoves
    revert hmoves
    generalize e.screen.apply t.now t.happening = after
    intro hmoves
    cases hmoves with
    | saving => rfl
    | saveRefused hwritable =>
      rw [hsaves.writable] at hwritable
      cases hwritable
  refine ⟨s, hs, ?_⟩
  rw [take, step, if_pos hsaves.running, hclosed]
  have hreopened : saveAndReopen { e with screen := e.screen.close .save } t.service =
      ⟨s, e.sent ++ (e.screen.session.save t.service).sent⟩ := by
    unfold saveAndReopen
    simp only [show (e.screen.close .save).session = e.screen.session from rfl, hs]
  exact hreopened

theorem settle_of_running (hrunning : e.screen.running = true) (service : Service) :
    e.settle service = e := if_pos hrunning

theorem take_turned (hform : e.screen.session.form.isSome = true) (t : Turn) :
    e.Turned t (e.take t) := by
  by_cases hrunning : e.screen.running = true
  case neg =>
    rw [take, step, if_neg hrunning]
    exact .finished (Bool.eq_false_iff.mpr hrunning) (if_neg hrunning)
  have hmoves := e.screen.apply_moves t.now t.happening
  have htake : e.take t =
      settle { e with screen := e.screen.apply t.now t.happening } t.service := if_pos hrunning
  have hcalls : e.calls t = match e.screen.demand t.now t.happening with
    | .call event => [event]
    | .save => if e.screen.session.form.any Form.isWritable then [.save t.service] else []
    | _ => [] := if_pos hrunning
  rw [htake]
  revert hmoves hcalls
  generalize hdemand : e.screen.demand t.now t.happening = demand
  generalize happly : e.screen.apply t.now t.happening = s
  intro hmoves hcalls
  cases hmoves with
  | shown hs =>
    rw [settle_of_running]
    · exact .shown hrunning hs hcalls
    · exact hs.running.trans hrunning
  | called hload hs =>
    rw [settle_of_running]
    · exact .called hrunning hs hload hcalls
    · exact hs.running.trans hrunning
  | saving hwritable =>
    have hsaves : e.Saves t := ⟨hrunning, hdemand, hwritable⟩
    obtain ⟨s, hs, hreopened⟩ := take_of_saves hform hsaves
    rw [← happly, ← htake, hreopened]
    exact .reopened hsaves (hcalls.trans (if_pos hwritable)) hs
  | saveRefused hwritable hs =>
    rw [settle_of_running]
    · exact .shown hrunning hs (hcalls.trans (if_neg (by simp [hwritable])))
    · exact hs.running.trans hrunning
  | quitting hphase => exact .ended hrunning hcalls (.inl hphase)
  | asked hphase =>
    rw [settle_of_running]
    · exact .shown hrunning (.of (.question _)) hcalls
    · exact hrunning
  | discarded => exact .ended hrunning hcalls (.inr hdemand)

/-! ## Runs -/

/-- The editor has a form, and nothing that it would do when it is closed is left over. -/
structure Ready (e : Editor) : Prop where
  form : e.screen.session.form.isSome = true
  intent : e.screen.intent = .quit
  guarded : e.screen.Guarded

theorem ready_of_screen? {session : Session} {status : Option String} {s : Screen}
    (hform : session.form.isSome = true) (hs : screen? session status = some s)
    (sent : List Request) : Ready ⟨s, sent⟩ := by
  obtain ⟨hsession, -, hintent, -, hguarded, -⟩ := screen?_eq_some hs
  exact ⟨hsession ▸ hform, hintent, hguarded⟩

namespace Turned

variable {next : Editor}

theorem ready (hturned : e.Turned t next) (he : e.Ready) : next.Ready := by
  cases hturned with
  | finished => exact he
  | shown hrunning hs =>
    exact ⟨hs.session ▸ he.form, hs.intent.trans he.intent, hs.guarded he.guarded⟩
  | called hrunning hs hload =>
    exact ⟨(e.screen.session.perform_step _).form_isSome hload he.form, hs.intent.trans he.intent,
      hs.guarded he.guarded⟩
  | ended => exact ⟨he.form, rfl, he.guarded⟩
  | reopened hsaves hcalls hs => exact ready_of_screen? (isSome_form_save t.service he.form) hs _

/-- A turn leaves the session that its calls leave. -/
theorem session (hturned : e.Turned t next) :
    next.screen.session = e.screen.session.run (e.calls t) := by
  cases hturned with
  | finished hover hcalls =>
    rw [hcalls]
    rfl
  | shown hrunning hs hcalls =>
    rw [hcalls]
    exact hs.session
  | called hrunning hs hload hcalls =>
    rw [hcalls]
    rfl
  | ended hrunning hcalls =>
    rw [hcalls]
    rfl
  | reopened hsaves hcalls hs =>
    rw [hcalls]
    exact (screen?_eq_some hs).1

/-- Nothing is sent in a turn that does not ask to save. -/
theorem sent (hturned : e.Turned t next) (hsaves : ¬e.Saves t) : next.sent = e.sent := by
  cases hturned with
  | finished | shown | called | ended => rfl
  | reopened hsaved => exact absurd hsaved hsaves

/-- An editor is over with nothing to ask about or with a demand to discard. -/
theorem asked (hturned : e.Turned t next) (hover : next.screen.running = false) :
    (e.screen.running = false ∧ next = e) ∨ e.screen.running = true ∧
      (e.screen.session.phase ≠ .editing ∨ e.screen.demand t.now t.happening = .discard) ∧
      next = ⟨e.screen.close .quit, e.sent⟩ := by
  cases hturned with
  | finished hover => exact .inl ⟨hover, rfl⟩
  | shown hrunning hs => cases (hs.running.trans hrunning).symm.trans hover
  | called hrunning hs => cases (hs.running.trans hrunning).symm.trans hover
  | ended hrunning hcalls hasked => exact .inr ⟨hrunning, hasked, rfl⟩
  | reopened hsaves hcalls hs =>
    obtain ⟨-, -, -, hopen, -⟩ := screen?_eq_some hs
    cases hopen.symm.trans hover

end Turned

theorem Ready.take (he : e.Ready) (t : Turn) : (e.take t).Ready := (take_turned he.form t).ready he

theorem Ready.after (he : e.Ready) (turns : List Turn) : (e.after turns).Ready := by
  induction turns generalizing e with
  | nil => exact he
  | cons t rest ih => exact ih (he.take t)

/-- A run leaves the session that its calls leave, one after the other. -/
theorem Ready.session_after (he : e.Ready) (turns : List Turn) :
    (e.after turns).screen.session = e.screen.session.run (e.callsIn turns) := by
  induction turns generalizing e with
  | nil => rfl
  | cons t rest ih =>
    rw [callsIn, Session.run_append, ← (take_turned he.form t).session]
    exact ih (he.take t)

theorem after_concat (e : Editor) (turns : List Turn) (t : Turn) :
    e.after (turns ++ [t]) = (e.after turns).take t := List.foldl_concat ..

/-- A run that is over ended with nothing to ask about or with a demand to discard. -/
theorem Ready.exists_last (he : e.Ready) (hrunning : e.screen.running = true)
    (hover : (e.after turns).screen.running = false) :
    ∃ earlier t later, turns = earlier ++ t :: later ∧
      let last := e.after earlier
      last.screen.running = true ∧ (last.screen.session.phase ≠ .editing ∨
        last.screen.demand t.now t.happening = .discard) ∧
      e.after turns = ⟨last.screen.close .quit, last.sent⟩ := by
  induction turns using List.reverseRecOn with
  | nil => cases hrunning.symm.trans hover
  | append_singleton turns t ih =>
    rw [after_concat] at hover ⊢
    rcases (take_turned (he.after turns).form t).asked hover with ⟨hbefore, hsame⟩ |
      ⟨hbefore, hasked, hended⟩
    · -- it was over before
      obtain ⟨earlier, u, later, hturns, hlast, hasked, hended⟩ := ih hbefore
      exact ⟨earlier, u, later ++ [t], by simp [hturns], hlast, hasked, hsame.trans hended⟩
    · exact ⟨turns, t, [], rfl, hbefore, hasked, hended⟩

/-- A run of the editor on a session that anything happened to before, a load of its form included.
When it is over and saving would send something else than right after the most recent load, save or
cancel that succeeded, then the user discarded the edits in the question on top of its last screen.
A turn sends nothing unless it asks to save itself, whatever was asked before; then the screen opens
anew with what the save leaves, which is the session before where the save fails. -/
theorem edits_kept_or_discarded (preferences : PreferenceStore) (platform : Platform)
    (before : List Session.Event) {opened : Editor}
    (hopened : ofSession? ((Session.start preferences platform).run before) = some opened)
    (turns : List Turn) :
    let start := Session.start preferences platform
    let calls := before ++ opened.callsIn turns
    let e := opened.after turns
    e.screen.session = start.run calls ∧
    (∃ settled, Session.lastSettled? (start.trace calls) = some settled ∧
      (e.screen.running = false → e.screen.session.updateRequest? ≠ settled.updateRequest? →
        ∃ earlier t later, turns = earlier ++ t :: later ∧
          let last := opened.after earlier
          last.screen.running = true ∧ last.screen.Discards t.happening ∧
          e = ⟨last.screen.close .quit, last.sent⟩)) ∧
    e.screen.intent = .quit ∧
    ∀ t, (¬e.Saves t → (e.take t).sent = e.sent) ∧
      (e.Saves t →
        let saved := e.screen.session.save t.service
        let next := e.take t
        next.sent = e.sent ++ saved.sent ∧ next.screen.running = true ∧
        next.screen.session = saved.session ∧
        next.screen.status = some (saveStatus saved.result) ∧ (∃ f, next.screen.Drawn f) ∧
        ∀ error, saved.result = .error error → next.screen.session = e.screen.session) := by
  intro start calls e
  obtain ⟨screen, hscreen, rfl⟩ := Option.map_eq_some_iff.mp hopened
  obtain ⟨hfirst, -, -, hrunning, -, f, hdrawn⟩ := screen?_eq_some hscreen
  have hform : (start.run before).form.isSome = true := by
    rw [← hfirst, hdrawn.1]
    rfl
  have hready : Ready ⟨screen, []⟩ := ready_of_screen? hform hscreen []
  have he : e.Ready := hready.after turns
  have hsession : e.screen.session = start.run calls := by
    rw [Session.run_append, ← hfirst]
    exact hready.session_after turns
  have htracks : (start.run calls).Tracks (start.trace calls) :=
    (Session.start_tracks preferences platform).run calls
  rw [← hsession] at htracks
  obtain ⟨settled, hlast, hsame⟩ := htracks he.form
  refine ⟨hsession, ⟨settled, hlast, fun hover hdiffer => ?_⟩, he.intent, fun t =>
    ⟨(take_turned he.form t).sent, fun hsaves => ?_⟩⟩
  · obtain ⟨earlier, t, later, rfl, hlater, hasked, hended⟩ := hready.exists_last hrunning hover
    refine ⟨earlier, t, later, rfl, hlater, ?_, hended⟩
    rcases hasked with hphase | hdiscard
    · -- nothing was left unsaved
      have hsound : e.screen.session.Sound := hsession ▸ Session.run_sound preferences platform calls
      have hsession : e.screen.session = _ := congrArg (fun e => e.screen.session) hended
      have hrendered : e.screen.session.phase = .rendered :=
        (hsound.phase.mp he.form).resolve_right (hsession ▸ hphase)
      exact absurd (hsame hrendered) hdiffer
    · exact Screen.discards_of_demand (hready.after earlier).guarded hdiscard
  · obtain ⟨s, hs, htake⟩ := take_of_saves he.form hsaves
    obtain ⟨hsaved, hstatus, -, hopen, -, hdrawn⟩ := screen?_eq_some hs
    intro saved next
    have hnext : next = ⟨s, e.sent ++ saved.sent⟩ := htake
    rw [hnext]
    refine ⟨rfl, hopen, hsaved, hstatus, hdrawn, fun error herror => hsaved.trans ?_⟩
    exact (e.screen.session.perform_step (.save t.service)).session_of_error rfl herror

/-- Edits that a save did not get to the server are asked about twice, and discarded. -/
theorem edits_discarded_after_failed_save :
    let start := Session.start .inMemory .other
    let lost : Service := fun _ => .error (.unavailable "")
    let before : List Session.Event := [.load Session.sampleServer default]
    let turns : List Turn := [.event (.type 1 "Shed"), .key (.character 's'), .key (.character 'q'),
      .event (.press "<Back>" 0), .event (.shortcut .quit), .event (.press "<Discard>" 0)].map
        fun happening => ⟨lost, default, happening⟩
    ∃ opened settled, ofSession? (start.run before) = some opened ∧
      Session.lastSettled? (start.trace (before ++ opened.callsIn turns)) = some settled ∧
      (opened.after turns).screen.session.updateRequest? ≠ settled.updateRequest? ∧
      ∃ earlier t later, turns = earlier ++ t :: later ∧
        (opened.after earlier).screen.Discards t.happening := by
  intro start lost before turns
  have hrun : (ofSession? (start.run before)).map (fun opened =>
      ((opened.after turns).screen.running,
        decide ((opened.after turns).screen.session.updateRequest? =
          (Session.lastSettled? (start.trace (before ++ opened.callsIn turns))).bind
            Session.updateRequest?))) = some (false, false) := by
    decide +kernel
  obtain ⟨opened, hopened, hboth⟩ := Option.map_eq_some_iff.mp hrun
  obtain ⟨hover, hdiffer⟩ := Prod.mk.inj hboth
  obtain ⟨-, ⟨settled, hlast, hasked⟩, -⟩ :=
    edits_kept_or_discarded .inMemory .other before hopened turns
  have hdiffer : (opened.after turns).screen.session.updateRequest? ≠ settled.updateRequest? := by
    have hnot := of_decide_eq_false hdiffer
    rwa [hlast] at hnot
  obtain ⟨earlier, t, later, hturns, -, hdiscards, -⟩ := hasked hover hdiffer
  exact ⟨opened, settled, hopened, hlast, hdiffer, earlier, t, later, hturns, hdiscards⟩

/-! ## On the command line -/

/-- A newly opened editor has sent nothing. -/
theorem ofSession?_eq_some {session : Session} (he : ofSession? session = some e) :
    e.screen.session = session ∧ e.sent = [] := by
  obtain ⟨screen, hscreen, rfl⟩ := Option.map_eq_some_iff.mp he
  exact ⟨(screen?_eq_some hscreen).1, rfl⟩

/-- No editor is opened for what could not be loaded. -/
theorem ofSession?_of_load_error {s : Session} {service : Service} {now : Instant}
    {error : FormError} (hload : (s.load service now).result = .error error) :
    ofSession? (s.load service now).session = none := by
  have hform : (s.load service now).session.form = none := by
    rcases s.gives_or_failsTo service with ⟨_, _, _, hschema, hstatus, hvalues⟩ | ⟨_, left, hfails⟩
    · rw [Session.load_of_gives hschema hstatus hvalues] at hload
      cases hload
    · rw [(Session.load_of_failsTo hfails now).2]
      exact hfails.form
  rw [ofSession?, screen?, Screen.ofSession?, hform]
  rfl

end Editor

namespace CommandLine

/-- The editor of a run is opened by the run without keys, and then the keys are typed in it, one after
the other. -/
theorem run_edit (w : Surroundings) (settings : Settings) :
    let opened := run { w with keys := [] } ⟨settings, .edit⟩
    run w ⟨settings, .edit⟩ =
      match opened.editor? with
      | some (source, editor) => opened.close w source <| w.keys.foldl
          (fun editor key => editor.runKeys (source.service w.network) w.now [key]) editor
      | none => opened := by
  have hset : Command.edit ≠ .set [] := nofun
  have hopening : openSession { w with keys := [] } settings = openSession w settings := rfl
  simp only [run, if_neg hset, hopening]
  cases openSession w settings with
  | error fault => rfl
  | ok opened =>
    simp only
    cases hload : (opened.session.load (opened.source.service w.network) w.now).result with
    | error error => simp [Ending.editor?, Editor.ofSession?_of_load_error hload]
    | ok _ =>
      simp only [carryOut]
      cases heditor : Editor.ofSession?
          (opened.session.load (opened.source.service w.network) w.now).session with
      | none => simp [Ending.editor?, heditor]
      | some editor =>
        -- without keys the editor is left as it was opened, and is opened so again
        obtain ⟨hsession, hsent⟩ := Editor.ofSession?_eq_some heditor
        have hagain : Editor.ofSession? editor.screen.session = some editor := by
          rw [hsession, heditor]
        simp [Ending.editor?, Ending.close, Ending.ofEditor, Editor.runKeys, hagain, hsent]

end CommandLine

end SettingsForm
