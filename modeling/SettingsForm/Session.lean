import SettingsForm.Form.Control
import SettingsForm.Form.Update
import SettingsForm.Service

/-!
# Editing sessions

A session loads the server's schema, status and values, renders the form from them, and applies
edits. Saving sends the values of the whole form; cancelling brings back the values that were loaded.
An operation that fails gives its error beside the session that it leaves.
-/

namespace SettingsForm

/-- The state of an editing session. -/
structure Session where
  preferences : PreferenceStore
  platform : Platform
  phase : Phase
  catalog : Catalog
  values : Snapshot
  status : ServerStatus
  form : Option Form
  deriving Repr, DecidableEq, Inhabited

/-- What an operation on a session leaves and gives. -/
structure Outcome (α : Type) where
  session : Session
  result : Except FormError α

/-- What an operation that talks to the server leaves and gives, and the requests that it sent. -/
structure Exchange where
  session : Session
  result : Except FormError Unit
  sent : List Request

namespace Session

/-- A session before anything was loaded. -/
def start (preferences : PreferenceStore) (platform : Platform) : Session :=
  ⟨preferences, platform, .loadingSchema, .empty, .empty, .unknown, none⟩

/-! ## Loading -/

/-- Asks for a document and reads it. -/
def receive {α : Type} (service : Service) (request : Request) (kind : DocumentKind)
    (read : String → Except Markup.DocumentFault α) : Except FormError α :=
  match service request with
  | .error fault => .error (.transport fault)
  | .ok text =>
    match read text with
    | .ok a => .ok a
    | .error fault => .error (.document kind fault)

/-- Renders the form from what was loaded. -/
def render (s : Session) (now : Instant) : Session :=
  let showAdvanced := (s.preferences.flag? PreferenceStore.showAdvancedKey now).getD false
  { s with
    form := some (.render s.catalog s.values s.status s.platform showAdvanced)
    phase := .rendered }

/-- Loads schema, status and values in this order and renders the form. A load that fails leaves
what was loaded before it failed, and no form. -/
def load (s : Session) (service : Service) (now : Instant) : Exchange :=
  let s := { s with form := none, phase := .loadingSchema }
  match receive service .schema .schema Catalog.ofDocument with
  | .error e => ⟨s, .error e, [.schema]⟩
  | .ok catalog =>
    let s := { s with catalog, phase := .loadingStatus }
    match receive service .status .status ServerStatus.ofDocument with
    | .error e => ⟨s, .error e, [.schema, .status]⟩
    | .ok status =>
      let s := { s with status, phase := .loadingValues }
      match receive service .values .values Snapshot.ofDocument with
      | .error e => ⟨s, .error e, [.schema, .status, .values]⟩
      | .ok values => ⟨{ s with values }.render now, .ok (), [.schema, .status, .values]⟩

/-! ## Editing -/

/-- The form, when it is loaded and nothing else is going on. -/
def loadedForm (s : Session) (operation : Operation) : Except FormError Form :=
  match s.phase, s.form with
  | .rendered, some form => .ok form
  | .editing, some form => .ok form
  | phase, _ => .error (.invalidPhase operation phase)

/-- The loaded form, when the server accepts changes. -/
def editableForm (s : Session) (operation : Operation) : Except FormError Form :=
  match s.loadedForm operation with
  | .error e => .error e
  | .ok form => if form.isWritable then .ok form else .error .notWritable

/-- Applies a change to the form; one that succeeds leaves the session in editing. -/
def edit {α : Type} (s : Session) (operation : Operation)
    (change : Form → Form × Except FormError α) : Outcome α :=
  match s.editableForm operation with
  | .error e => ⟨s, .error e⟩
  | .ok form =>
    match change form with
    | (changed, .ok a) => ⟨{ s with form := some changed, phase := .editing }, .ok a⟩
    | (changed, .error e) => ⟨{ s with form := some changed }, .error e⟩

/-- Sets the value of a text input. -/
def setValue (s : Session) (controlId value : String) : Outcome Unit :=
  s.edit .edit fun form =>
    match form.setValue? controlId value with
    | some changed => (changed, .ok ())
    | none => (form, .error (.unknownControl controlId))

/-- Selects an option of an item's drop-down. -/
def select (s : Session) (itemId value : String) : Outcome Unit :=
  s.edit .edit fun form =>
    match (form.block? itemId).map Block.body with
    | some (.select control) =>
      if control.options.any fun o => o.value = value then
        (form.updateBody itemId fun _ => .select { control with selected := value }, .ok ())
      else (form, .error (.unknownOption itemId value))
    | _ => (form, .error (.unknownItem itemId))

/-- Applies a change to an item's group. -/
def editGroup {α : Type} (s : Session) (operation : Operation) (itemId : String)
    (change : Group → Group × Except FormError α) : Outcome α :=
  s.edit operation fun form =>
    match form.group? itemId with
    | none => (form, .error (.notMultiple itemId))
    | some g =>
      let (changed, result) := change g
      (form.updateBody itemId fun _ => .group changed, result)

/-- Adds an empty input to an item's group after another one, and gives its id. -/
def addInstance (s : Session) (itemId after : String) : Outcome String :=
  s.editGroup .addInstance itemId fun g =>
    match g.addAfter after with
    | .ok (id, changed) => (changed, .ok id)
    | .error e => (g, .error e)

/-- Removes an input from an item's group, or clears it when it is the only one. -/
def removeInstance (s : Session) (itemId instanceId : String) : Outcome Unit :=
  s.editGroup .removeInstance itemId fun g =>
    match g.remove instanceId with
    | .ok changed => (changed, .ok ())
    | .error e => (g, .error e)

/-- Sets all values of an item's group. -/
def setItemValues (s : Session) (itemId : String) (values : List String) : Outcome Unit :=
  s.editGroup .edit itemId fun g => g.setValues values

/-- Shows advanced items, or hides them again, from now on and in later sessions. Gives whether they
are shown. -/
def toggleAdvanced (s : Session) (now : Instant) : Outcome Bool :=
  match s.loadedForm .toggleAdvanced with
  | .error e => ⟨s, .error e⟩
  | .ok form =>
    let visible := !form.showAdvanced
    match s.preferences.change PreferenceStore.showAdvancedKey visible now with
    | (preferences, .error fault) => ⟨{ s with preferences }, .error (.preferences fault)⟩
    | (preferences, .ok ()) =>
      ⟨{ s with preferences, form := some (form.setAdvancedVisible visible) }, .ok visible⟩

/-! ## Saving and cancelling -/

/-- What saving would send. -/
def updateRequest? (s : Session) : Option UpdateRequest := s.form.map Form.updateRequest

/-- The trimmed text of the first status in a reply to an update. -/
def replyStatus? (reply : String) : Option String :=
  match Markup.parse reply with
  | .ok root => (root.find? "status").map fun e => Text.trim e.text
  | .error _ => none

/-- The status of an accepted update. -/
def acceptedStatus : String := "200"

/-- Whether the answer to an update accepts it. -/
def updateResult (answer : Except TransportFault String) : Except FormError Unit :=
  match answer with
  | .error fault => .error (.transport fault)
  | .ok reply =>
    if replyStatus? reply = some acceptedStatus then .ok ()
    else .error (.saveRejected (replyStatus? reply))

/-- Sends the values of the whole form. An update that is not accepted leaves the session in the
phase in which it was sent. -/
def save (s : Session) (service : Service) : Exchange :=
  match s.editableForm .save with
  | .error e => ⟨s, .error e, []⟩
  | .ok form =>
    let request := Request.update form.updateRequest.encode
    let waiting := { s with phase := .saving }
    match updateResult (service request) with
    | .ok () => ⟨{ waiting with phase := .rendered }, .ok (), [request]⟩
    | .error e => ⟨{ waiting with phase := s.phase }, .error e, [request]⟩

/-- The body of an item's block with the loaded value, as far as it could be brought back. -/
def restoreBody (item : Item) (value : Option FieldValue) (body : BlockBody) :
    BlockBody × Except FormError Unit :=
  match item.kind, body with
  | .text _, .group g =>
    let (changed, result) := g.setValues (groupValues value)
    (.group changed, result)
  | .text _, .input i => (.input { i with value := item.scalarValue value }, .ok ())
  | .select _, .select c => (.select { c with selected := item.selectValue value }, .ok ())
  | _, _ => (body, .ok ())

/-- Brings back the loaded values of some items, one after the other. -/
def restoreItems (values : Snapshot) : List Item → Form → Form × Except FormError Unit
  | [], form => (form, .ok ())
  | item :: rest, form =>
    match form.block? item.id with
    | none => restoreItems values rest form
    | some block =>
      let (body, result) := restoreBody item (values.lookup item.id) block.body
      let restored := form.updateBody item.id fun _ => body
      match result with
      | .ok () => restoreItems values rest restored
      | .error e => (restored, .error e)

/-- Brings back the loaded values of all items. -/
def cancel (s : Session) : Outcome Unit :=
  match s.editableForm .cancel with
  | .error e => ⟨s, .error e⟩
  | .ok form =>
    let cancelling := { s with phase := .cancelling }
    let (restored, result) := restoreItems s.values s.catalog.items form
    ⟨{ cancelling with form := some restored, phase := .rendered }, result⟩

end Session

end SettingsForm
