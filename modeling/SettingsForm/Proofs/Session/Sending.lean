import SettingsForm.Proofs.Markup.DocumentOrder
import SettingsForm.Proofs.Session.Run

/-!
# What the server is sent and what it answers

The updates that a run sends are those of its saves of a writable form, one each, with the values of
the form at that moment. Such a save succeeds exactly when the server answers with the status 200,
and tells otherwise what the server, or the way to it, answered (`saves_faithful`).
-/

namespace SettingsForm

open Markup

/-- The body of an update; the other requests have none. -/
def Request.body? : Request → Option String
  | .update body => some body
  | _ => none

namespace Session

variable {s : Session} {f : Form} {service : Service}

/-- The events of a run, each with the session in which it happens. -/
def moments (s : Session) : List Event → List (Session × Event)
  | [] => []
  | e :: rest => (s, e) :: (s.perform e).session.moments rest

theorem trace_eq_map (s : Session) (events : List Event) :
    s.trace events = (s.moments events).map fun (t, e) => (e, t.perform e) := by
  induction events generalizing s with
  | nil => rfl
  | cons e rest ih => rw [trace, moments, List.map_cons, ih]

/-! ## Updates -/

/-- The bodies of the updates that were sent, in order. -/
def updates (history : List (Event × Exchange)) : List String :=
  history.flatMap fun step => step.2.sent.filterMap Request.body?

/-- What an event submits: a save submits the values of a form that is rendered or editing and
accepts changes. -/
def submission? : Session × Event → Option String
  | (s, .save _) =>
    if s.phase = .rendered ∨ s.phase = .editing then
      (s.form.filter Form.isWritable).map fun f => f.updateRequest.encode
    else none
  | _ => none

theorem submission?_eq_some {body : String} : submission? (s, .save service) = some body ↔
    ∃ f, s.Loaded f ∧ f.isWritable = true ∧ f.updateRequest.encode = body := by
  simp only [submission?, Option.ite_none_right_eq_some, Option.map_eq_some_iff,
    Option.filter_eq_some_iff]
  constructor
  · rintro ⟨hphase, f, ⟨hform, hwritable⟩, hbody⟩
    exact ⟨f, ⟨hform, hphase⟩, hwritable, hbody⟩
  · rintro ⟨f, hf, hwritable, hbody⟩
    exact ⟨hf.phase, f, ⟨hf.form, hwritable⟩, hbody⟩

theorem save_of_submission?_eq_none (hnone : submission? (s, .save service) = none) :
    (s.save service).sent = [] := by
  unfold save
  cases hform : s.editableForm .save with
  | error e => rfl
  | ok f =>
    obtain ⟨hf, hwritable⟩ := editableForm_eq_ok.mp hform
    rw [submission?_eq_some.mpr ⟨f, hf, hwritable, rfl⟩] at hnone
    cases hnone

theorem sent_save (hf : s.Loaded f) (hwritable : f.isWritable = true) (service : Service) :
    (s.save service).sent = [.update f.updateRequest.encode] := by
  rw [save_eq hf hwritable]
  split <;> rfl

theorem filterMap_sent_save (s : Session) (service : Service) :
    (s.save service).sent.filterMap Request.body? = (submission? (s, .save service)).toList := by
  cases hbody : submission? (s, .save service) with
  | none =>
    rw [save_of_submission?_eq_none hbody]
    rfl
  | some body =>
    obtain ⟨f, hf, hwritable, rfl⟩ := submission?_eq_some.mp hbody
    rw [sent_save hf hwritable]
    rfl

/-- An event that is no save sends no update. -/
theorem Step.filterMap_sent {e : Event} {x : Exchange} (hstep : s.Step e x)
    (he : ∀ service, e ≠ .save service) : x.sent.filterMap Request.body? = [] := by
  cases hstep with
  | saved | saveRejected => exact absurd rfl (he _)
  | _ => rfl

theorem filterMap_sent_perform (s : Session) (e : Event) :
    (s.perform e).sent.filterMap Request.body? = (submission? (s, e)).toList := by
  cases e with
  | save service => exact s.filterMap_sent_save service
  | _ => exact (s.perform_step _).filterMap_sent nofun

/-- Only a form that can be edited and that accepts changes is sent. -/
theorem writable_of_sent {e : Event} {body : String} (hbody : .update body ∈ (s.perform e).sent) :
    ∃ f, s.Loaded f ∧ f.isWritable = true := by
  have hmem : body ∈ (s.perform e).sent.filterMap Request.body? :=
    List.mem_filterMap.mpr ⟨_, hbody, rfl⟩
  rw [filterMap_sent_perform, Option.mem_toList] at hmem
  cases e with
  | save service =>
    obtain ⟨f, hf, hwritable, -⟩ := submission?_eq_some.mp hmem
    exact ⟨f, hf, hwritable⟩
  | _ => cases hmem

theorem updates_trace (s : Session) (events : List Event) :
    updates (s.trace events) = (s.moments events).filterMap submission? := by
  rw [updates, trace_eq_map, List.flatMap_map, List.filterMap_eq_flatMap_toList]
  exact List.flatMap_congr fun (t, e) _ => t.filterMap_sent_perform e

/-! ## Answers -/

theorem replyStatus?_eq (reply : String) : replyStatus? reply = firstText? reply "status" := by
  unfold replyStatus?
  cases hroot : parse reply with
  | ok root => exact (firstText?_eq hroot "status").symm
  | error fault => rw [firstText?, hroot]

/-- An update is accepted when the first status in the reply to it is 200. -/
theorem updateResult_eq_ok {answer : Except TransportFault String} : updateResult answer = .ok () ↔
    ∃ reply, answer = .ok reply ∧ firstText? reply "status" = some "200" := by
  cases answer with
  | error fault => simp [updateResult]
  | ok reply => simp [updateResult, replyStatus?_eq, acceptedStatus]

/-- What a save that was answered, but not accepted, tells: that there was no answer, or the first
status in it, if there is one. -/
def refusal : Except TransportFault String → FormError
  | .error fault => .transport fault
  | .ok reply => .saveRejected (firstText? reply "status")

theorem updateResult_eq_error {answer : Except TransportFault String} {error : FormError}
    (herror : updateResult answer = .error error) : error = refusal answer := by
  cases answer with
  | error fault => exact (Except.error.inj herror).symm
  | ok reply =>
    unfold updateResult at herror
    simp only [replyStatus?_eq] at herror
    split at herror
    · cases herror
    · exact (Except.error.inj herror).symm

/-- Along every run, the updates that are sent are the encoded forms of the saves on a writable form
that is rendered or editing, in order, and nothing else. Each of these saves sends one. When the reply
can be read and the trimmed text of its first status is 200, the save succeeds and the form is then
rendered; otherwise the error is that of the transport or tells the status there is, and the phase is
the one before. The form and the values are the same either way. -/
theorem saves_faithful (preferences : PreferenceStore) (platform : Platform)
    (events : List Event) :
    let s₀ := start preferences platform
    updates (s₀.trace events) = (s₀.moments events).filterMap submission? ∧
    ∀ (s : Session) (service : Service) (f : Form), s.Loaded f → f.isWritable = true →
      let x := s.perform (.save service)
      let answer := service (.update f.updateRequest.encode)
      let accepted := ∃ reply, answer = .ok reply ∧ firstText? reply "status" = some "200"
      x.sent = [.update f.updateRequest.encode] ∧
      x.session.form = s.form ∧ x.session.values = s.values ∧
      (accepted → x.result = .ok () ∧ x.session.phase = .rendered) ∧
      (¬ accepted → x.result = .error (refusal answer) ∧ x.session.phase = s.phase) := by
  intro s₀
  refine ⟨s₀.updates_trace events, ?_⟩
  intro s service f hf hwritable x answer accepted
  have hx : x = _ := save_eq hf hwritable service
  have haccepted : accepted ↔ updateResult answer = .ok () := updateResult_eq_ok.symm
  clear_value accepted
  rw [haccepted, hx]
  cases hanswer : updateResult answer with
  | ok u => exact ⟨rfl, rfl, rfl, fun _ => ⟨rfl, rfl⟩, fun hnot => absurd rfl hnot⟩
  | error e =>
    exact ⟨rfl, rfl, rfl, nofun,
      fun _ => ⟨congrArg Except.error (updateResult_eq_error hanswer), rfl⟩⟩

/-- A reply whose first status in document order stands inside another element, and one that breaks
off: the first decides the save by that status, and the second leaves nothing to tell. -/
theorem saves_faithful_nested_status :
    let answering (reply : String) : Service := fun request =>
      if request.body?.isSome then .ok reply else sampleServer request
    let nested := "<r><x><status> 200 </status></x><status>500</status></r>"
    let events : List Event := [.load sampleServer default, .setValue "name" "Shed",
      .save (answering "<r><status>500</status></r>"), .cancel, .save (answering nested)]
    let s₀ := start .inMemory .other
    let s := s₀.run events
    updates (s₀.trace events) = ["dir=&name=Shed", "dir=&name="] ∧
      (s.perform (.save (answering nested))).result = .ok () ∧
      (s.perform (.save (answering "<r><status>200"))).result = .error (.saveRejected none) := by
  intro answering nested events s₀ s
  obtain ⟨hupdates, hsave⟩ := saves_faithful .inMemory .other events
  obtain ⟨hsubmitted, hphase, hform⟩ :
      (s₀.moments events).filterMap submission? = ["dir=&name=Shed", "dir=&name="] ∧
      s.phase = .rendered ∧ s.form.any Form.isWritable = true := by
    decide +kernel
  obtain ⟨f, hf, hwritable⟩ := (Option.any_eq_true _ _).mp hform
  have hloaded : s.Loaded f := ⟨hf, .inl hphase⟩
  refine ⟨hupdates.trans hsubmitted, ?_, ?_⟩
  · obtain ⟨-, -, -, haccepted, -⟩ := hsave s (answering nested) f hloaded hwritable
    have hstatus : firstText? nested "status" = some "200" := by decide +kernel
    exact (haccepted ⟨nested, rfl, hstatus⟩).1
  · obtain ⟨-, -, -, -, hrefused⟩ := hsave s (answering "<r><status>200") f hloaded hwritable
    have hstatus : firstText? "<r><status>200" "status" = none := by decide +kernel
    have hnot : ¬ ∃ reply, answering "<r><status>200" (.update f.updateRequest.encode) = .ok reply ∧
        firstText? reply "status" = some "200" := by
      rintro ⟨reply, hreply, htext⟩
      obtain rfl := Except.ok.inj hreply
      rw [hstatus] at htext
      cases htext
    rw [(hrefused hnot).1]
    show Except.error (FormError.saveRejected (firstText? "<r><status>200" "status")) = _
    rw [hstatus]

end Session

end SettingsForm
