import SettingsForm.Proofs.Screen.Cells
import SettingsForm.Proofs.Session.Run
import Mathlib.Data.Option.Basic

/-!
# What the user asks for

Whatever happens on a screen changes its layers, calls at most one operation of the session, or asks
to save, to quit or to discard. `Reaches` lists what of the screen a happening can reach, and
`apply_reaches` goes through the events and keys once. `Moves` says what each demand can do to the
screen, and `apply_moves` that whatever happens does what it asks for; what the session goes through
follows from it without looking at the layers.
-/

namespace SettingsForm.Screen

/-- What can happen on a screen: the user does something or presses a key, or something else changes
the preference file. -/
inductive Happening where
  | event (event : Event)
  | key (key : Key)
  | fileChange (file : PreferenceFile)

/-- The screen after something has happened at a time. -/
def apply (s : Screen) (now : Instant) : Happening → Screen
  | .event e => (s.handle now e).1
  | .key k => s.pressKey now k
  | .fileChange file => { s with session := (s.session.perform (.fileChange file)).session }

/-- What is asked for beyond the layers. -/
inductive Demand where
  | nothing
  | call (event : Session.Event)
  | save
  | quit
  | discard

/-! ## Demands of a happening -/

/-- What a button or a shortcut asks for. -/
def actionDemand (s : Screen) (now : Instant) : Action → Demand
  | .toggleAdvanced => .call (.toggleAdvanced now)
  | .save => .save
  | .cancel => .call .cancel
  | .quit => .quit
  | .addInstance groupId after => .call (.addInstance groupId after)
  | .removeInstance groupId instanceId => .call (.removeInstance groupId instanceId)
  | .browse _ => .nothing
  | .acceptPath controlId => .call (.setValue controlId s.promptText)
  | .discard => .discard
  | .dismiss => .nothing

/-- What a text in a field asks for. -/
def textDemand (s : Screen) (f : Field) (text : String) : Demand :=
  if s.isPrompting then .nothing else .call (.setValue f.controlId text)

/-- What an entry of a drop-down asks for. -/
def entryDemand (c : Choice) (entry : Nat) : Demand :=
  match (c.pick? entry).bind Prod.snd with
  | none => .nothing
  | some value => .call (.select c.itemId value)

def eventDemand (s : Screen) (now : Instant) : Event → Demand
  | .press caption n =>
    match (((s.layers.head?.map Layer.buttons).getD []).filter fun b => b.caption = caption)[n]? with
    | none => .nothing
    | some b => if b.enabled then s.actionDemand now b.action else .nothing
  | .type n text =>
    match s.cellAt? Cell.field? n with
    | none => .nothing
    | some (_, f) => s.textDemand f text
  | .submit n =>
    match s.cellAt? Cell.field? n with
    | none => .nothing
    | some (_, f) => if s.isPrompting then .call (.setValue f.controlId f.text) else .nothing
  | .choose n entry =>
    match s.cellAt? Cell.choice? n with
    | none => .nothing
    | some (_, c) => if c.enabled then entryDemand c entry else .nothing
  | .shortcut k => s.actionDemand now k.action

/-- What a key asks for in a cell that has a use for it. -/
def cellDemand? (s : Screen) (now : Instant) (key : Key) (cell : Cell) : Option Demand :=
  if !cell.isEnabled then none
  else
    match cell, key with
    | .field f, .character c => some (s.textDemand f (f.text.push c))
    | .field f, .enter => if s.isPrompting then some (.call (.setValue f.controlId f.text)) else none
    | .choice _, .enter => some .nothing
    | .button b, .enter => some (s.actionDemand now b.action)
    | _, _ => none

def dialogDemand? (s : Screen) (now : Instant) (key : Key) (d : Dialog) : Option Demand :=
  match d.focusedButton with
  | none => d.focusedCell?.bind fun (_, cell) => s.cellDemand? now key cell
  | some i => if key = .enter then d.buttons[i]?.map fun b => s.actionDemand now b.action else none

def popupDemand? (key : Key) (p : Popup) : Option Demand :=
  match key with
  | .enter => some (entryDemand p.choice p.highlighted)
  | .up => some .nothing
  | .down => some .nothing
  | .tab => some .nothing
  | _ => none

/-- What a key asks for in the top layer if that has a use for it. -/
def topDemand? (s : Screen) (now : Instant) (key : Key) : Option Demand :=
  match s.layers with
  | [] => none
  | .popup p :: _ => popupDemand? key p
  | .dialog d :: _ =>
    (s.dialogDemand? now key d).or ((key.step?.bind d.moveFocus?).map fun _ => .nothing)

def keyDemand (s : Screen) (now : Instant) (key : Key) : Demand :=
  match s.topDemand? now key, key with
  | some demand, _ => demand
  | none, .character c =>
    match Shortcut.ofLetter? c with
    | some k => s.actionDemand now k.action
    | none => .nothing
  | none, _ => .nothing

/-- What is asked for by what happens on a screen. -/
def demand (s : Screen) (now : Instant) : Happening → Demand
  | .event e => s.eventDemand now e
  | .key k => s.keyDemand now k
  | .fileChange file => .call (.fileChange file)

/-! ## What a demand can do -/

/-- What can happen to the layers. A cell is replaced by a field or a drop-down only. -/
inductive Relayered : List Layer → List Layer → Prop where
  | refl (layers : List Layer) : Relayered layers layers
  | trans {a b c : List Layer} (hab : Relayered a b) (hbc : Relayered b c) : Relayered a c
  | closed (layers : List Layer) : Relayered layers layers.tail
  | form (f : Form) (status : Option String) (layers : List Layer) :
      Relayered layers (.dialog (.ofForm f status) :: layers)
  | path (controlId current : String) (layers : List Layer) :
      Relayered layers (.dialog (.askPath controlId current) :: layers)
  | question (layers : List Layer) : Relayered layers (.dialog .askDiscard :: layers)
  | message (text : String) (layers : List Layer) :
      Relayered layers (.dialog (.ofError text) :: layers)
  | list (p : Popup) (layers : List Layer) : Relayered layers (.popup p :: layers)
  | refocused {d e : Dialog} (he : d.Refocused e) (rest : List Layer) :
      Relayered (.dialog d :: rest) (.dialog e :: rest)
  | changed (place : Nat) {cell : Cell} (hcell : cell.button? = none) (top : Layer)
      (rest : List Layer) : Relayered (top :: rest) (top.modifyCell place (fun _ => cell) :: rest)

/-- The screens differ in nothing but their layers. -/
inductive Alike (s : Screen) : Screen → Prop where
  | of {layers : List Layer} (hlayers : Relayered s.layers layers) : Alike s { s with layers }

/-- What a demand can do to a screen: a call loads nothing and leaves the session that the operation
leaves, nothing else touches the session, and only a demand to save, to quit or to discard closes the
screen. -/
inductive Moves (s : Screen) : Demand → Screen → Prop where
  | shown {t : Screen} (ht : s.Alike t) : Moves s .nothing t
  | called {event : Session.Event} (hload : event.isLoad = false) {t : Screen} (ht : s.Alike t) :
      Moves s (.call event) { t with session := (s.session.perform event).session }
  | saving (hwritable : s.session.form.any Form.isWritable = true) : Moves s .save (s.close .save)
  | saveRefused (hwritable : s.session.form.any Form.isWritable = false) {t : Screen}
      (ht : s.Alike t) : Moves s .save t
  | quitting (hphase : s.session.phase ≠ .editing) : Moves s .quit (s.close .quit)
  | asked (hphase : s.session.phase = .editing) : Moves s .quit (s.push .askDiscard)
  | discarded : Moves s .discard (s.close .quit)

variable {s t : Screen} {now : Instant}

namespace Alike

theorem refl (s : Screen) : s.Alike s := .of (.refl s.layers)

theorem trans {u : Screen} (hst : s.Alike t) (htu : t.Alike u) : s.Alike u := by
  obtain ⟨hst⟩ := hst
  obtain ⟨htu⟩ := htu
  exact .of (hst.trans htu)

theorem session (hst : s.Alike t) : t.session = s.session := by
  obtain ⟨-⟩ := hst
  rfl

theorem intent (hst : s.Alike t) : t.intent = s.intent := by
  obtain ⟨-⟩ := hst
  rfl

theorem running (hst : s.Alike t) : t.running = s.running := by
  obtain ⟨-⟩ := hst
  rfl

end Alike

theorem pop_alike (s : Screen) : s.Alike s.pop := .of (.closed s.layers)

theorem refresh_alike (s : Screen) : s.Alike s.refresh := by
  unfold refresh
  split
  · exact .refl s
  · exact s.pop_alike.trans (.of (.form _ _ _))

theorem modifyCell_alike (s : Screen) (place : Nat) (cell : Cell) (hcell : cell.button? = none) :
    s.Alike (s.modifyCell place fun _ => cell) := by
  unfold modifyCell
  split
  · exact .refl s
  · rename_i top rest hlayers
    exact .of (hlayers ▸ .changed place hcell top rest)

/-- An operation that is reported was called, whatever its outcome is. -/
theorem moves_report {α : Type} {o : Outcome α} {event : Session.Event} {proceed : Screen → Screen}
    (hst : s.Alike t) (hload : event.isLoad = false)
    (ho : o.session = (s.session.perform event).session)
    (hproceed : ∀ u : Screen, u.Alike (proceed u)) :
    s.Moves (.call event) (t.report o proceed) := by
  have hcalled : ∀ u : Screen,
      Alike { t with session := (s.session.perform event).session } u → s.Moves (.call event) u := by
    rintro _ ⟨hlayers⟩
    exact .called hload (hst.trans (.of hlayers))
  unfold report
  rw [ho]
  split
  · exact hcalled _ (hproceed _)
  · exact hcalled _ (.of (.message _ _))

theorem perform_moves (s : Screen) (now : Instant) (action : Action) :
    s.Moves (s.actionDemand now action) (s.perform now action) := by
  cases action with
  | toggleAdvanced => exact moves_report (.refl s) rfl rfl refresh_alike
  | save =>
    show s.Moves .save s.save
    unfold save
    by_cases hwritable : s.session.form.any Form.isWritable = true
    · rw [if_pos hwritable]
      exact .saving hwritable
    · rw [if_neg hwritable]
      exact .saveRefused (Bool.eq_false_iff.mpr hwritable) (.of (.message _ _))
  | cancel => exact moves_report (.refl s) rfl rfl refresh_alike
  | quit =>
    show s.Moves .quit s.quit
    unfold quit
    by_cases hphase : s.session.phase = .editing
    · rw [if_pos hphase]
      exact .asked hphase
    · rw [if_neg hphase]
      exact .quitting hphase
  | addInstance groupId after => exact moves_report (.refl s) rfl rfl refresh_alike
  | removeInstance groupId instanceId => exact moves_report (.refl s) rfl rfl refresh_alike
  | browse controlId => exact .shown (.of (.path _ _ _))
  | acceptPath controlId => exact moves_report s.pop_alike rfl rfl refresh_alike
  | discard => exact .discarded
  | dismiss => exact .shown s.pop_alike

theorem setText_moves (s : Screen) (place : Nat) (f : Field) (text : String) :
    s.Moves (s.textDemand f text) (s.setText place f text) := by
  have hwritten := s.modifyCell_alike place (.field { f with text }) rfl
  unfold textDemand setText
  by_cases hprompting : s.isPrompting = true
  · rw [if_pos hprompting]
    simp only [if_pos hprompting]
    exact .shown hwritten
  · rw [if_neg hprompting]
    simp only [if_neg hprompting]
    exact moves_report hwritten rfl rfl Alike.refl

/-- Showing an entry does not depend on what else is on the screen. -/
theorem showEntry_moves (hst : s.Alike t) (place : Nat) (c : Choice) (entry : Nat) :
    s.Moves (entryDemand c entry) (t.showEntry place c entry).1 := by
  unfold entryDemand showEntry
  cases hpick : c.pick? entry with
  | none => exact .shown hst
  | some picked =>
    obtain ⟨shown, value⟩ := picked
    have hshown := hst.trans (t.modifyCell_alike place (.choice shown) rfl)
    cases value with
    | none => exact .shown hshown
    | some value =>
      simp only [Option.bind_some, hshown.session]
      exact moves_report hshown rfl rfl Alike.refl

theorem storePath_moves (s : Screen) (controlId path : String) :
    s.Moves (.call (.setValue controlId path)) (s.storePath controlId path) :=
  moves_report s.pop_alike rfl rfl refresh_alike

/-! ## What is reached -/

/-- What a happening can reach: a shortcut, a button or cell of the top layer, or its focus. -/
inductive Reaches (s : Screen) (now : Instant) : Demand → Screen → Prop where
  | nothing : Reaches s now .nothing s
  | shortcut (k : Shortcut) :
      Reaches s now (s.actionDemand now k.action) (s.perform now k.action)
  | button {top : Layer} {rest : List Layer} {b : Button} (hlayers : s.layers = top :: rest)
      (hb : b ∈ top.buttons) : Reaches s now (s.actionDemand now b.action) (s.perform now b.action)
  | text {top : Layer} {rest : List Layer} {place : Nat} {f : Field}
      (hlayers : s.layers = top :: rest) (hcell : top.cells[place]? = some (.field f))
      (text : String) : Reaches s now (s.textDemand f text) (s.setText place f text)
  | path {f : Field} (hprompting : s.isPrompting = true) :
      Reaches s now (.call (.setValue f.controlId f.text)) (s.storePath f.controlId f.text)
  | entry {top : Layer} {rest : List Layer} {place : Nat} {c : Choice}
      (hlayers : s.layers = top :: rest) (hcell : top.cells[place]? = some (.choice c))
      (entry : Nat) : Reaches s now (entryDemand c entry) (s.showEntry place c entry).1
  | opened {top : Layer} {rest : List Layer} {place : Nat} {c : Choice}
      (hlayers : s.layers = top :: rest) (hcell : top.cells[place]? = some (.choice c)) :
      Reaches s now .nothing (s.openPopup place c)
  | highlighted {p : Popup} {rest : List Layer} (hlayers : s.layers = .popup p :: rest)
      (highlighted : Nat) :
      Reaches s now .nothing { s with layers := .popup { p with highlighted } :: rest }
  | picked {p : Popup} {rest : List Layer} (hlayers : s.layers = .popup p :: rest) :
      Reaches s now (entryDemand p.choice p.highlighted)
        (s.pop.showEntry p.cell p.choice p.highlighted).1
  | focused {d e : Dialog} {rest : List Layer} {step : Step} (hlayers : s.layers = .dialog d :: rest)
      (he : d.moveFocus? step = some e) :
      Reaches s now .nothing { s with layers := .dialog e :: rest }
  | fileChanged (file : PreferenceFile) : Reaches s now (.call (.fileChange file))
      { s with session := (s.session.perform (.fileChange file)).session }

theorem pressButton_reaches (now : Instant) {top : Layer} {rest : List Layer}
    (hlayers : s.layers = top :: rest) {b : Button} (hb : b ∈ top.buttons) :
    s.Reaches now (if b.enabled then s.actionDemand now b.action else .nothing)
      (s.pressButton now b).1 := by
  unfold pressButton
  cases b.enabled with
  | true => exact .button hlayers hb
  | false => exact .nothing

theorem handle_reaches (s : Screen) (now : Instant) (e : Event) :
    s.Reaches now (s.eventDemand now e) (s.handle now e).1 := by
  cases e with
  | press caption n =>
    simp only [eventDemand, handle, press]
    cases hfound : (((s.layers.head?.map Layer.buttons).getD []).filter
        fun b => b.caption = caption)[n]? with
    | none => exact .nothing
    | some b =>
      have hb := List.mem_of_mem_filter (List.mem_of_getElem? hfound)
      cases hlayers : s.layers with
      | nil => simp [hlayers] at hb
      | cons top rest => exact pressButton_reaches now hlayers (by simpa [hlayers] using hb)
  | type n text =>
    simp only [eventDemand, handle, type]
    cases hfound : s.cellAt? Cell.field? n with
    | none => exact .nothing
    | some found =>
      obtain ⟨top, rest, cell, hlayers, hcell, hfield⟩ := exists_of_cellAt? hfound
      exact .text hlayers (Cell.field?_eq_some.mp hfield ▸ hcell) text
  | submit n =>
    simp only [eventDemand, handle, submit]
    cases s.cellAt? Cell.field? n with
    | none => exact .nothing
    | some found =>
      cases hprompting : s.isPrompting with
      | true => exact .path hprompting
      | false => exact .nothing
  | choose n entry =>
    simp only [eventDemand, handle, choose]
    cases hfound : s.cellAt? Cell.choice? n with
    | none => exact .nothing
    | some found =>
      obtain ⟨place, c⟩ := found
      obtain ⟨top, rest, cell, hlayers, hcell, hchoice⟩ := exists_of_cellAt? hfound
      cases henabled : c.enabled with
      | true =>
        simp only [henabled, if_true]
        exact .entry hlayers (Cell.choice?_eq_some.mp hchoice ▸ hcell) entry
      | false =>
        simp only [henabled]
        exact .nothing
  | shortcut k => exact .shortcut k

/-! ## Keys -/

/-- Both have a use for a key or neither has, and then the demand reaches what the key does. -/
abbrev KeyReaches (s : Screen) (now : Instant) : Option Demand → Option Screen → Prop :=
  Option.Rel (s.Reaches now)

section Keys

variable {top : Layer} {d : Dialog} {p : Popup} {rest : List Layer} (key : Key)

theorem keyInCell_reaches (hlayers : s.layers = top :: rest) {place : Nat} {cell : Cell}
    (hcell : top.cells[place]? = some cell) (hbutton : ∀ b, cell = .button b → b ∈ top.buttons) :
    s.KeyReaches now (s.cellDemand? now key cell) (s.keyInCell? now place key cell) := by
  unfold cellDemand? keyInCell?
  cases cell.isEnabled with
  | false => exact .none
  | true =>
    cases cell with
    | field f =>
      cases key with
      | character c => exact .some (.text hlayers hcell (f.text.push c))
      | enter =>
        cases hprompting : s.isPrompting with
        | true => exact .some (.path hprompting)
        | false => exact .none
      | _ => exact .none
    | choice c =>
      cases key with
      | enter => exact .some (.opened hlayers hcell)
      | _ => exact .none
    | button b =>
      cases key with
      | enter => exact .some (.button hlayers (hbutton b rfl))
      | _ => exact .none
    | _ => exact .none

theorem keyInDialog_reaches (hlayers : s.layers = .dialog d :: rest) :
    s.KeyReaches now (s.dialogDemand? now key d) (s.keyInDialog? now key d) := by
  unfold dialogDemand? keyInDialog?
  cases d.focusedButton with
  | none =>
    cases hfocused : d.focusedCell? with
    | none => exact .none
    | some placed =>
      obtain ⟨place, cell⟩ := placed
      have hcell := Dialog.cells_of_focusedCell? hfocused
      refine keyInCell_reaches key hlayers hcell ?_
      rintro b rfl
      exact Layer.mem_buttons.mpr (.inl (List.mem_of_getElem? hcell))
  | some i =>
    simp only
    split
    · cases hb : d.buttons[i]? with
      | none => exact .none
      | some b =>
        exact .some (.button hlayers (Layer.mem_buttons.mpr (.inr (List.mem_of_getElem? hb))))
    · exact .none

theorem keyInPopup_reaches (hlayers : s.layers = .popup p :: rest) :
    s.KeyReaches now (popupDemand? key p) (s.keyInPopup? key p) := by
  have hlist : ∀ highlighted, s.Reaches now .nothing
      { s with layers := .popup { p with highlighted } :: s.layers.tail } := by
    rw [hlayers]
    exact .highlighted hlayers
  cases key with
  | enter => exact .some (.picked hlayers)
  | up => exact .some (hlist _)
  | down => exact .some (hlist _)
  | tab => exact .some .nothing
  | character c => exact .none
  | other => exact .none

theorem keyInTop_reaches (s : Screen) (now : Instant) :
    s.KeyReaches now (s.topDemand? now key) (s.keyInTop? now key) := by
  unfold topDemand? keyInTop?
  cases hlayers : s.layers with
  | nil => exact .none
  | cons top rest =>
    cases top with
    | popup p => exact keyInPopup_reaches key hlayers
    | dialog d =>
      have hdialog : s.KeyReaches now (s.dialogDemand? now key d) (s.keyInDialog? now key d) :=
        keyInDialog_reaches key hlayers
      simp only
      generalize s.dialogDemand? now key d = demand at hdialog ⊢
      generalize s.keyInDialog? now key d = after at hdialog ⊢
      cases hdialog with
      | some h => exact .some h
      | none =>
        cases hmoved : key.step?.bind d.moveFocus? with
        | none => exact .none
        | some moved =>
          obtain ⟨step, -, hstep⟩ := Option.bind_eq_some_iff.mp hmoved
          exact .some (.focused hlayers hstep)

theorem pressKey_reaches (s : Screen) (now : Instant) :
    s.Reaches now (s.keyDemand now key) (s.pressKey now key) := by
  have htop := keyInTop_reaches key s now
  unfold keyDemand pressKey
  generalize s.topDemand? now key = demand at htop ⊢
  generalize s.keyInTop? now key = after at htop ⊢
  cases htop with
  | some h => exact h
  | none =>
    cases key with
    | character c =>
      simp only
      cases Shortcut.ofLetter? c with
      | none => exact .nothing
      | some k => exact .shortcut k
    | _ => exact .nothing

end Keys

/-- Whatever happens on a screen reaches what it asks for. -/
theorem apply_reaches (s : Screen) (now : Instant) (h : Happening) :
    s.Reaches now (s.demand now h) (s.apply now h) := by
  cases h with
  | event e => exact s.handle_reaches now e
  | key k => exact pressKey_reaches k s now
  | fileChange file => exact .fileChanged file

theorem Reaches.moves {demand : Demand} (ht : s.Reaches now demand t) : s.Moves demand t := by
  cases ht with
  | nothing => exact .shown (.refl s)
  | shortcut k => exact s.perform_moves now k.action
  | @button top rest b hlayers hb => exact s.perform_moves now b.action
  | text hlayers hcell text => exact s.setText_moves _ _ text
  | path hprompting => exact s.storePath_moves _ _
  | entry hlayers hcell entry => exact showEntry_moves (.refl s) _ _ entry
  | opened hlayers hcell => exact .shown (.of (.list _ _))
  | @highlighted p rest hlayers highlighted =>
    have hlist := s.pop_alike.trans (.of (.list { p with highlighted } s.pop.layers))
    simp only [pop, hlayers, List.tail_cons] at hlist
    exact .shown hlist
  | picked hlayers => exact showEntry_moves s.pop_alike _ _ _
  | @focused d e rest step hlayers he =>
    have hrefocused : Relayered s.layers (.dialog e :: rest) :=
      hlayers ▸ .refocused (Dialog.focusMoved_of_moveFocus he).refocused rest
    exact .shown (.of hrefocused)
  | fileChanged file => exact .called rfl (.refl s)

/-- Whatever happens on a screen does what it asks for. -/
theorem apply_moves (s : Screen) (now : Instant) (h : Happening) :
    s.Moves (s.demand now h) (s.apply now h) := (s.apply_reaches now h).moves

end SettingsForm.Screen
