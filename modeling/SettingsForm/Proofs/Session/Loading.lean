import SettingsForm.Proofs.Session.Sound

/-!
# Loading

A load that succeeds leaves what a new session would have after it: nothing that was loaded, edited
or saved before matters. A load that fails leaves the documents of the stages that it has passed, and
those from before for the others; there is no form then, and until a load succeeds every other call
is refused and sends nothing (`load_independent`).
-/

namespace SettingsForm.Session

variable {s left : Session} {e : Event} {x : Exchange} {service : Service} {now : Instant}
  {error : FormError}

/-! ## Stages of a load -/

section

variable {α : Type} {request : Request} {kind : DocumentKind}
  {read : String → Except Markup.DocumentFault α}

/-- A service gives a document, and it can be read. -/
def Gives (service : Service) (request : Request) (read : String → Except Markup.DocumentFault α)
    (a : α) : Prop :=
  ∃ text, service request = .ok text ∧ read text = .ok a

/-- A service gives no document, or one that cannot be read. -/
inductive Denies (service : Service) (request : Request) (kind : DocumentKind)
    (read : String → Except Markup.DocumentFault α) : FormError → Prop where
  | missing {fault : TransportFault} (hanswer : service request = .error fault) :
      Denies service request kind read (.transport fault)
  | unreadable {text : String} {fault : Markup.DocumentFault} (hanswer : service request = .ok text)
      (hread : read text = .error fault) : Denies service request kind read (.document kind fault)

theorem receive_of_gives {a : α} (h : Gives service request read a) :
    receive service request kind read = .ok a := by
  obtain ⟨text, hanswer, hread⟩ := h
  simp only [receive, hanswer, hread]

theorem receive_of_denies (h : Denies service request kind read error) :
    receive service request kind read = .error error := by
  cases h with
  | missing hanswer => simp only [receive, hanswer]
  | unreadable hanswer hread => simp only [receive, hanswer, hread]

theorem denies_of_receive (h : receive service request kind read = .error error) :
    Denies service request kind read error := by
  unfold receive at h
  split at h
  · cases h
    exact .missing ‹_›
  · split at h
    · cases h
    · cases h
      exact .unreadable ‹_› ‹_›

end

/-- A load fails in one of its stages. The documents of the stages before are new, all others are
those from before, and there is no form. -/
inductive FailsTo (s : Session) (service : Service) : FormError → Session → Prop where
  | schema {error : FormError} (hschema : Denies service .schema .schema Catalog.ofDocument error) :
      FailsTo s service error { s with form := none, phase := .loadingSchema }
  | status {error : FormError} {catalog : Catalog}
      (hschema : Gives service .schema Catalog.ofDocument catalog)
      (hstatus : Denies service .status .status ServerStatus.ofDocument error) :
      FailsTo s service error { s with form := none, phase := .loadingStatus, catalog }
  | values {error : FormError} {catalog : Catalog} {status : ServerStatus}
      (hschema : Gives service .schema Catalog.ofDocument catalog)
      (hstatus : Gives service .status ServerStatus.ofDocument status)
      (hvalues : Denies service .values .values Snapshot.ofDocument error) :
      FailsTo s service error { s with form := none, phase := .loadingValues, catalog, status }

theorem FailsTo.form (h : s.FailsTo service error left) : left.form = none := by
  cases h <;> rfl

theorem load_of_failsTo (h : s.FailsTo service error left) (now : Instant) :
    (s.load service now).result = .error error ∧ (s.load service now).session = left := by
  cases h with
  | schema hschema => simp only [load, receive_of_denies hschema, and_self]
  | status hschema hstatus =>
    simp only [load, receive_of_gives hschema, receive_of_denies hstatus, and_self]
  | values hschema hstatus hvalues =>
    simp only [load, receive_of_gives hschema, receive_of_gives hstatus,
      receive_of_denies hvalues, and_self]

theorem load_of_gives {catalog : Catalog} {status : ServerStatus} {values : Snapshot}
    (hschema : Gives service .schema Catalog.ofDocument catalog)
    (hstatus : Gives service .status ServerStatus.ofDocument status)
    (hvalues : Gives service .values Snapshot.ofDocument values) (s : Session) (now : Instant) :
    s.load service now = ⟨({ s with catalog, status, values } : Session).render now, .ok (),
      [.schema, .status, .values]⟩ := by
  simp only [load, receive_of_gives hschema, receive_of_gives hstatus, receive_of_gives hvalues]
  rfl

/-- A service gives all documents that a load asks for, or the load fails in one of its stages. -/
theorem gives_or_failsTo (s : Session) (service : Service) :
    (∃ catalog status values, Gives service .schema Catalog.ofDocument catalog ∧
      Gives service .status ServerStatus.ofDocument status ∧
      Gives service .values Snapshot.ofDocument values) ∨
    ∃ error left, s.FailsTo service error left := by
  cases hschema : receive service .schema .schema Catalog.ofDocument with
  | error error => exact .inr ⟨_, _, .schema (denies_of_receive hschema)⟩
  | ok catalog =>
    have hcatalog := receive_eq_ok hschema
    cases hstatus : receive service .status .status ServerStatus.ofDocument with
    | error error => exact .inr ⟨_, _, .status hcatalog (denies_of_receive hstatus)⟩
    | ok status =>
      have hstatus := receive_eq_ok hstatus
      cases hvalues : receive service .values .values Snapshot.ofDocument with
      | error error => exact .inr ⟨_, _, .values hcatalog hstatus (denies_of_receive hvalues)⟩
      | ok values => exact .inl ⟨_, _, _, hcatalog, hstatus, receive_eq_ok hvalues⟩

/-- A load that succeeds reads nothing of the session but its preferences and its platform. -/
theorem load_eq_load_start (hload : (s.load service now).result = .ok ()) :
    s.load service now = (start s.preferences s.platform).load service now := by
  rcases s.gives_or_failsTo service with
    ⟨catalog, status, values, hschema, hstatus, hvalues⟩ | ⟨error, left, hfails⟩
  · rw [load_of_gives hschema hstatus hvalues, load_of_gives hschema hstatus hvalues]
    rfl
  · rw [(load_of_failsTo hfails now).1] at hload
    cases hload

/-! ## Without a form -/

/-- The operation that a call asks for; loading is always possible. -/
def Event.operation? : Event → Option Operation
  | .load .. => none
  | .setValue .. => some .edit
  | .select .. => some .edit
  | .addInstance .. => some .addInstance
  | .removeInstance .. => some .removeInstance
  | .setItemValues .. => some .edit
  | .toggleAdvanced _ => some .toggleAdvanced
  | .save _ => some .save
  | .cancel => some .cancel
  | .fileChange _ => none

theorem loadedForm_of_none (hform : s.form = none) (operation : Operation) :
    s.loadedForm operation = .error (.invalidPhase operation s.phase) := by
  unfold loadedForm
  rw [hform]
  split
  · cases ‹none = some _›
  · cases ‹none = some _›
  · rfl

theorem editableForm_of_none (hform : s.form = none) (operation : Operation) :
    s.editableForm operation = .error (.invalidPhase operation s.phase) := by
  rw [editableForm, loadedForm_of_none hform]

/-- Without a form every call but a load is refused, changes nothing and sends nothing. -/
theorem perform_of_none (hform : s.form = none) {operation : Operation}
    (he : e.operation? = some operation) :
    s.perform e = ⟨s, .error (.invalidPhase operation s.phase), []⟩ := by
  cases e with
  | load | fileChange => cases he
  | toggleAdvanced now =>
    cases he
    simp only [perform, toggleAdvanced, loadedForm_of_none hform]
    rfl
  | save service =>
    cases he
    simp only [perform, save, editableForm_of_none hform]
  | cancel =>
    cases he
    simp only [perform, cancel, editableForm_of_none hform]
    rfl
  | _ =>
    cases he
    simp only [perform, setValue, select, addInstance, removeInstance, setItemValues, editGroup, edit,
      editableForm_of_none hform]
    rfl

theorem Step.form_none (hstep : s.Step e x) (hform : s.form = none)
    (hload : e.isLoad = true → x.result ≠ .ok ()) : x.session.form = none := by
  cases hstep with
  | schemaFailed | statusFailed | valuesFailed => rfl
  | loaded => exact absurd rfl (hload rfl)
  | refused | fileChanged => exact hform
  | edited _ hf | toggled hf | saved hf | saveRejected hf | cancelled hf =>
    exact absurd (hform.symm.trans hf.form) nofun

/-- No form appears until a load succeeds. -/
theorem run_form_none (hform : s.form = none) {later : List Event}
    (hlater : ∀ step ∈ s.trace later, step.1.isLoad = true → step.2.result ≠ .ok ()) :
    (s.run later).form = none := by
  induction later generalizing s with
  | nil => exact hform
  | cons e rest ih =>
    refine ih ?_ fun step hstep => hlater step (List.mem_cons_of_mem _ hstep)
    exact (s.perform_step e).form_none hform (hlater _ List.mem_cons_self)

/-! ## Between calls -/

/-- The session is neither saving nor cancelling. -/
def Idle (s : Session) : Prop := s.phase ≠ .saving ∧ s.phase ≠ .cancelling

theorem Step.idle (hstep : s.Step e x) (hs : s.Idle) : x.session.Idle := by
  cases hstep with
  | refused | toggled | saveRejected | fileChanged => exact hs
  | _ => exact ⟨nofun, nofun⟩

theorem run_idle (preferences : PreferenceStore) (platform : Platform) (events : List Event) :
    ((start preferences platform).run events).Idle :=
  run_induction (fun s e _ hs => (s.perform_step e).idle hs) ⟨nofun, nofun⟩

/-- After every run: a load that succeeds does all that it does to a new session with the same
preferences and platform. A load that fails in one of its stages leaves no form, the documents of the
stages before, and those that the session had for the others; and until a load succeeds every other
call is refused, changes nothing and sends nothing. There is a form exactly when the session is
rendered or editing, and it is neither saving nor cancelling. -/
theorem load_independent (preferences : PreferenceStore) (platform : Platform)
    (events : List Event) (service : Service) (now : Instant) :
    let s := (start preferences platform).run events
    let x := s.load service now
    (x.result = .ok () → x = (start s.preferences s.platform).load service now) ∧
    (x.result = .ok () ∨ ∃ error left, s.FailsTo service error left) ∧
    (∀ error left, s.FailsTo service error left →
      x.result = .error error ∧ x.session = left ∧
      ∀ later, (∀ step ∈ left.trace later, step.1.isLoad = true → step.2.result ≠ .ok ()) →
        let t := left.run later
        ∀ e operation, e.operation? = some operation →
          t.perform e = ⟨t, .error (.invalidPhase operation t.phase), []⟩) ∧
    (s.form.isSome ↔ s.phase = .rendered ∨ s.phase = .editing) ∧
    s.phase ≠ .saving ∧ s.phase ≠ .cancelling := by
  intro s x
  refine ⟨load_eq_load_start, ?_, fun error left hfails => ?_,
    (run_sound preferences platform events).phase, run_idle preferences platform events⟩
  · rcases s.gives_or_failsTo service with ⟨_, _, _, hschema, hstatus, hvalues⟩ | hfails
    · exact .inl (congrArg Exchange.result (load_of_gives hschema hstatus hvalues s now))
    · exact .inr hfails
  · obtain ⟨hresult, hleft⟩ := load_of_failsTo hfails now
    refine ⟨hresult, hleft, ?_⟩
    intro later hlater t e operation he
    exact perform_of_none (run_form_none hfails.form hlater) he

/-- After an edit, a server that has another schema by now and cannot give the values: the session
has the new items and the old values, and cannot be saved, also not after the schema cannot be had
either. The first server then brings back what it brings to a new session. -/
theorem load_independent_stale :
    let changed := FixedReplies.service {
      schema := some "<config><section><item id='port'><type>text</type></item></section></config>"
      status := some "<status/>", values := some "<config>", update := none }
    let absent : Service := fun request => .error (.unavailable request.path)
    let s := (start .inMemory .other).run [.load sampleServer default, .setValue "name" "Shed"]
    let left := (s.load changed default).session
    left.catalog.listedIds = ["port"] ∧ left.values = s.values ∧ left.form = none ∧
      left.phase = .loadingValues ∧
      ((left.run [.load absent default, .setValue "port" "1"]).perform (.save sampleServer)).result =
        .error (.invalidPhase .save .loadingSchema) ∧
      (s.load sampleServer default).session =
        ((start .inMemory .other).load sampleServer default).session := by
  intro changed absent s left
  obtain ⟨hfailed, hloaded, hpreferences, hplatform⟩ :
      (s.load changed default).result ≠ .ok () ∧ (s.load sampleServer default).result = .ok () ∧
        s.preferences = .inMemory ∧ s.platform = .other := by
    decide +kernel
  obtain ⟨hcatalog, hvalues, hform, hphase⟩ : left.catalog.listedIds = ["port"] ∧
      left.values = s.values ∧ left.form = none ∧ left.phase = .loadingValues := by
    decide +kernel
  obtain ⟨hlater, hlaterPhase⟩ : (∀ step ∈ left.trace [.load absent default, .setValue "port" "1"],
      step.1.isLoad = true → step.2.result ≠ .ok ()) ∧
      (left.run [.load absent default, .setValue "port" "1"]).phase = .loadingSchema := by
    decide +kernel
  have hindependent := load_independent .inMemory .other
    [.load sampleServer default, .setValue "name" "Shed"]
  obtain ⟨-, hended, hfails, -⟩ := hindependent changed default
  obtain ⟨error, last, hlast⟩ := hended.resolve_left hfailed
  obtain ⟨-, rfl, hrefused⟩ := hfails error last hlast
  have hsave := hrefused _ hlater (.save sampleServer) .save rfl
  have hfresh := (hindependent sampleServer default).1 hloaded
  refine ⟨hcatalog, hvalues, hform, hphase, ?_, ?_⟩
  · rw [hsave, hlaterPhase]
  · rw [hfresh, hpreferences, hplatform]

end SettingsForm.Session
