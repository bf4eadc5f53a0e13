import SettingsForm.Proofs.Screen.Outline
import SettingsForm.Proofs.Screen.Question
import SettingsForm.Proofs.Session.Failure
import SettingsForm.Proofs.Session.Selection

/-!
# The form among the layers

The form stands on the screen as it is drawn now, but for the focus and what was entered. Above it
there may be a path prompt or an open list, and questions and error messages above that (`Stands`).
An operation that draws the form anew puts it in the place of the top layer. That is the old form,
with one exception: the key that shows or hides advanced items works whatever is on top, and then the
top layer goes and the old form stays beneath the new one (`buries`). While that does not happen
there is one form on the screen, at the bottom, and nothing above it goes unasked (`layers_after`).
-/

namespace SettingsForm.Screen

/-! ## What stands above a form -/

namespace Dialog

/-- A question or an error message. -/
def IsNotice (d : Dialog) : Prop :=
  d.outline = askDiscard.outline ∨ ∃ text, d.outline = (ofError text).outline

/-- A prompt for a path. -/
def IsPrompt (d : Dialog) : Prop := ∃ controlId, d.outline = (askPath controlId "").outline

variable {d e : Dialog} {b : Button}

theorem IsNotice.of_outline (hd : d.IsNotice) (hde : e.outline = d.outline) : e.IsNotice := by
  unfold IsNotice
  rwa [hde]

theorem IsPrompt.of_outline (hd : d.IsPrompt) (hde : e.outline = d.outline) : e.IsPrompt := by
  unfold IsPrompt
  rwa [hde]

theorem IsNotice.isForm (hd : d.IsNotice) : (Layer.dialog d).isForm = false := by
  rcases hd with hd | ⟨text, hd⟩ <;> exact isForm_of_outline hd

theorem IsPrompt.isForm (hd : d.IsPrompt) : (Layer.dialog d).isForm = false := by
  obtain ⟨controlId, hd⟩ := hd
  exact isForm_of_outline hd

theorem IsNotice.cells (hd : d.IsNotice) : d.cells = [] := by
  have hnone : d.outline.cells = [] := by
    rcases hd with hd | ⟨text, hd⟩ <;> exact congrArg Dialog.cells hd
  rwa [cells_outline, List.map_eq_nil_iff] at hnone

theorem IsPrompt.cells (hd : d.IsPrompt) : ∃ f, d.cells = [.field f] := by
  obtain ⟨controlId, hd⟩ := hd
  obtain ⟨title, content, buttons, focusedButton⟩ := d
  cases content with
  | prompt f => exact ⟨f, rfl⟩
  | form body => cases congrArg Dialog.content hd
  | message text => cases congrArg Dialog.content hd

/-- The buttons of a notice close the screen or take the notice away. -/
theorem IsNotice.action (hd : d.IsNotice) (hb : b ∈ (Layer.dialog d).buttons) :
    b.action = .discard ∨ b.action = .dismiss := by
  rcases hd with hd | ⟨text, hd⟩
  · rw [buttons_of_outline hd] at hb
    change b ∈ askDiscard.buttons at hb
    simp only [askDiscard, List.mem_cons, List.not_mem_nil, or_false] at hb
    rcases hb with rfl | rfl
    · exact .inl rfl
    · exact .inr rfl
  · rw [buttons_of_outline hd] at hb
    obtain rfl := List.mem_singleton.mp hb
    exact .inr rfl

/-- The buttons of a prompt accept its path or take the prompt away. -/
theorem IsPrompt.action (hd : d.IsPrompt) (hb : b ∈ (Layer.dialog d).buttons) :
    (∃ controlId, b.action = .acceptPath controlId) ∨ b.action = .dismiss := by
  obtain ⟨controlId, hd⟩ := hd
  rw [buttons_of_outline hd] at hb
  change b ∈ (askPath controlId "").buttons at hb
  simp only [askPath, List.mem_cons, List.not_mem_nil, or_false] at hb
  rcases hb with rfl | rfl
  · exact .inl ⟨controlId, rfl⟩
  · exact .inr rfl

theorem isSome_promptText?_of_outline (hde : d.outline = e.outline) :
    d.promptText?.isSome = e.promptText?.isSome := by
  have hprompt : ∀ d : Dialog, d.promptText?.isSome = d.outline.promptText?.isSome := by
    rintro ⟨title, content, buttons, focusedButton⟩
    cases content <;> rfl
  rw [hprompt d, hde, ← hprompt e]

end Dialog

/-- What can stand above a form, the top layer first. -/
inductive Above (form : Dialog) : List Layer → Prop where
  | nothing : Above form []
  | prompt {p : Dialog} (hp : p.IsPrompt) : Above form [.dialog p]
  | list {p : Popup} (hcell : form.cells[p.cell]? = some (.choice p.choice)) :
      Above form [.popup p]
  | notice {n : Dialog} {above : List Layer} (hn : n.IsNotice) (habove : Above form above) :
      Above form (.dialog n :: above)

/-- The form of the session is on the screen between what stands above and below it, as it is drawn
now but for what a user can change in it. -/
structure Stands (s : Screen) (above : List Layer) (form : Dialog) (below : List Layer) : Prop where
  layers : s.layers = above ++ .dialog form :: below
  dialogs : Above form above
  drawn : ∃ f, s.session.form = some f ∧ form.outline = (Dialog.ofForm f s.status).outline

/-- The form is drawn anew in the place of the top layer, whatever that is. -/
def Redrawn (s t : Screen) : Prop :=
  ∃ g, t.session.form = some g ∧ t.layers = .dialog (.ofForm g t.status) :: s.layers.tail

/-- The form stands on some layers, and others are kept between it and what came on top of them. -/
def StandsOn (s : Screen) (kept below : List Layer) : Prop :=
  ∃ above form, s.Stands above form below ∧ kept <:+ above

variable {s t : Screen} {now : Instant} {above below kept : List Layer} {form d e : Dialog}

theorem Above.isForm {l : Layer} (h : Above form above) (hl : l ∈ above) : l.isForm = false := by
  induction h with
  | nothing => cases hl
  | prompt hp =>
    obtain rfl := List.mem_singleton.mp hl
    exact hp.isForm
  | list hcell =>
    obtain rfl := List.mem_singleton.mp hl
    rfl
  | notice hn _ ih =>
    rcases List.mem_cons.mp hl with rfl | hl
    · exact hn.isForm
    · exact ih hl

namespace Stands

theorem isForm (hs : s.Stands above form below) : (Layer.dialog form).isForm = true := by
  obtain ⟨f, -, hform⟩ := hs.drawn
  exact Dialog.isForm_of_outline hform

theorem standsOn (hs : s.Stands above form below) (hkept : kept <:+ above) :
    s.StandsOn kept below := ⟨above, form, hs, hkept⟩

/-- The form is on top where nothing stands above it. -/
theorem any_isForm (hs : s.Stands above form below) :
    s.layers.head?.any Layer.isForm = above.isEmpty := by
  rw [hs.layers]
  cases above with
  | nil => exact hs.isForm
  | cons l rest => exact hs.dialogs.isForm List.mem_cons_self

/-- On top is the form, or else the first layer that stands above it. -/
theorem top_cases (hs : s.Stands above form below) {top : Layer} {rest : List Layer}
    (hlayers : s.layers = top :: rest) : (above = [] ∧ top = .dialog form ∧ rest = below) ∨
      ∃ above', above = top :: above' ∧ rest = above' ++ .dialog form :: below := by
  rw [hs.layers] at hlayers
  cases above with
  | nil =>
    obtain ⟨rfl, rfl⟩ := List.cons.inj hlayers
    exact .inl ⟨rfl, rfl, rfl⟩
  | cons l above' =>
    obtain ⟨rfl, rfl⟩ := List.cons.inj hlayers
    exact .inr ⟨above', rfl, rfl⟩

theorem isPrompting (hs : s.Stands above form below) (hprompting : s.isPrompting = true) :
    ∃ p, p.IsPrompt ∧ above = [.dialog p] := by
  have hlayers := hs.layers
  unfold Screen.isPrompting at hprompting
  cases hs.dialogs with
  | nothing =>
    obtain ⟨f, -, hform⟩ := hs.drawn
    rw [hlayers] at hprompting
    cases (Dialog.isSome_promptText?_of_outline hform).symm.trans hprompting
  | @prompt p hp => exact ⟨p, hp, rfl⟩
  | list hcell =>
    rw [hlayers] at hprompting
    cases hprompting
  | @notice n above hn habove =>
    rw [hlayers] at hprompting
    rcases hn with hn | ⟨text, hn⟩ <;>
      cases (Dialog.isSome_promptText?_of_outline hn).symm.trans hprompting

/-- Only the form has drop-downs. -/
theorem eq_nil_of_choice (hs : s.Stands above form below) {top : Layer} {rest : List Layer}
    {place : Nat} {c : Choice} (hlayers : s.layers = top :: rest)
    (hcell : top.cells[place]? = some (.choice c)) : above = [] ∧ top = .dialog form := by
  rcases hs.top_cases hlayers with ⟨rfl, rfl, -⟩ | ⟨above', rfl, -⟩
  · exact ⟨rfl, rfl⟩
  · cases hs.dialogs with
    | prompt hp =>
      obtain ⟨f, hf⟩ := hp.cells
      change (Dialog.cells _)[place]? = _ at hcell
      rw [hf, List.getElem?_singleton] at hcell
      cases (Option.ite_none_right_eq_some.mp hcell).2
    | list => cases hcell
    | notice hn =>
      change (Dialog.cells _)[place]? = _ at hcell
      rw [hn.cells] at hcell
      cases hcell

/-! ## Changes of layers -/

theorem push (hs : s.Stands above form below) {n : Dialog} (hn : n.IsNotice) :
    (s.push n).Stands (.dialog n :: above) form below :=
  ⟨by rw [Screen.push, hs.layers]; rfl, .notice hn hs.dialogs, hs.drawn⟩

theorem push_error (hs : s.Stands above form below) (text : String) :
    (s.push (.ofError text)).StandsOn above below :=
  (hs.push (.inr ⟨text, rfl⟩)).standsOn (List.suffix_cons ..)

/-- A screen with the same layers and the form that is drawn in them. -/
theorem of_layers (hs : s.Stands above form below) (hlayers : t.layers = s.layers)
    (hdrawn : ∃ g, t.session.form = some g ∧ form.outline = (Dialog.ofForm g t.status).outline) :
    t.Stands above form below :=
  ⟨hlayers.trans hs.layers, hs.dialogs, hdrawn⟩

theorem close (hs : s.Stands above form below) (intent : Intent) :
    (s.close intent).Stands above form below := hs.of_layers rfl hs.drawn

/-- What stands above the form can go, the top layer first. -/
theorem pop {top : Layer} (hs : s.Stands (top :: above) form below) :
    s.pop.Stands above form below := by
  refine ⟨by rw [Screen.pop, hs.layers]; rfl, ?_, hs.drawn⟩
  cases hs.dialogs with
  | prompt | list => exact .nothing
  | notice hn habove => exact habove

/-- The top layer can be changed in what has no outline. -/
theorem retop (hs : s.Stands above form below) {rest : List Layer}
    (hlayers : s.layers = .dialog d :: rest) (hde : e.outline = d.outline) :
    ∃ above' form', ({ s with layers := .dialog e :: rest } : Screen).Stands above' form' below ∧
      above'.tail = above.tail := by
  rcases hs.top_cases hlayers with ⟨rfl, hd, rfl⟩ | ⟨above', rfl, rfl⟩
  · obtain rfl := Layer.dialog.inj hd
    obtain ⟨f, hf, hform⟩ := hs.drawn
    exact ⟨[], e, ⟨rfl, .nothing, f, hf, hde.trans hform⟩, rfl⟩
  · have habove : Above form (.dialog e :: above') := by
      cases hs.dialogs with
      | prompt hp => exact .prompt (hp.of_outline hde)
      | notice hn habove => exact .notice (hn.of_outline hde) habove
    exact ⟨.dialog e :: above', form, ⟨rfl, habove, hs.drawn⟩, rfl⟩

/-- A cell of the top layer can be changed in what has no outline. -/
theorem modifyCell (hs : s.Stands above form below) {top : Layer} {rest : List Layer} {place : Nat}
    {old cell : Cell} (hlayers : s.layers = top :: rest) (hold : top.cells[place]? = some old)
    (hcell : cell.outline = old.outline) :
    ∃ above' form', (s.modifyCell place fun _ => cell).Stands above' form' below ∧
      above'.tail = above.tail := by
  simp only [Screen.modifyCell, hlayers]
  cases top with
  | popup p => cases hold
  | dialog d =>
    refine hs.retop hlayers (Dialog.outline_modifyCell fun c hc => ?_)
    rw [hcell, Option.some.inj (hold.symm.trans hc)]

end Stands

/-! ## Operations that are reported -/

/-- An operation that is reported goes on from what it leaves, or the screen is as before below an
error message. -/
theorem report_cases {α : Type} {o : Outcome α} {event : Session.Event}
    (hload : event.isLoad = false) (ho : s.session.perform event = o.exchange)
    (proceed : Screen → Screen) :
    (o.result.isOk = true ∧ s.report o proceed = proceed { s with session := o.session }) ∨
      o.result.isOk = false ∧ ∃ text, s.report o proceed = s.push (.ofError text) := by
  unfold report
  cases hresult : o.result with
  | ok a => exact .inl ⟨rfl, rfl⟩
  | error error =>
    have hsession : o.session = s.session := by
      have hstep := s.session.perform_step event
      rw [ho] at hstep
      exact hstep.session_of_error hload (by rw [Outcome.exchange, hresult]; rfl)
    exact .inr ⟨rfl, error.message, by rw [hsession]⟩

theorem Redrawn.stands (hst : s.Redrawn t) : ∃ form, t.Stands [] form s.layers.tail := by
  obtain ⟨g, hg, hlayers⟩ := hst
  exact ⟨_, hlayers, .nothing, g, hg, rfl⟩

theorem redrawn_refresh {g : Form} (hg : s.session.form = some g) : s.Redrawn s.refresh := by
  unfold refresh
  rw [hg]
  exact ⟨g, hg, rfl⟩

section Reports

variable {α : Type} {o : Outcome α} (hs : s.Stands above form below) (event : Session.Event)
  (hload : event.isLoad = false) (ho : s.session.perform event = o.exchange)

include hs hload ho

theorem Stands.exists_form : ∃ g, o.session.form = some g := by
  obtain ⟨f, hf, -⟩ := hs.drawn
  have hstep := (s.session.perform_step event).form_isSome hload (by rw [hf]; rfl)
  rw [ho] at hstep
  exact Option.isSome_iff_exists.mp hstep

/-- An operation that draws the form anew does so in the place of the top layer, if it succeeds. -/
theorem Stands.report_refresh : (o.result.isOk = true ∧ s.Redrawn (s.report o refresh)) ∨
    o.result.isOk = false ∧ (s.report o refresh).StandsOn above below := by
  obtain ⟨g, hg⟩ := hs.exists_form event hload ho
  rcases report_cases hload ho refresh with ⟨hok, hreport⟩ | ⟨hnot, text, hreport⟩
  · have hredrawn : Redrawn { s with session := o.session } _ := redrawn_refresh hg
    rw [hreport]
    exact .inl ⟨hok, hredrawn⟩
  · rw [hreport]
    exact .inr ⟨hnot, hs.push_error text⟩

/-- Where nothing stands above the form, that is its own place. -/
theorem Stands.redrawn (habove : above = []) : (s.report o refresh).StandsOn [] below := by
  rcases hs.report_refresh event hload ho with ⟨-, hredrawn⟩ | ⟨-, hstands⟩
  · obtain ⟨form', hform⟩ := hredrawn.stands
    have hbelow : s.layers.tail = below := by
      rw [hs.layers, habove]
      rfl
    exact ⟨[], form', hbelow ▸ hform, List.nil_suffix⟩
  · exact habove ▸ hstands

/-- An operation that changes values leaves the drawn form as it is. -/
theorem Stands.entered (hsame : ∀ f g, s.session.form = some f → o.session.form = some g →
    f.Related BlockBody.SameView g) : (s.report o id).StandsOn above below := by
  obtain ⟨f, hf, hform⟩ := hs.drawn
  obtain ⟨g, hg⟩ := hs.exists_form event hload ho
  rcases report_cases hload ho id with ⟨-, hreport⟩ | ⟨-, text, hreport⟩
  · have hdrawn := hform.trans (outline_ofForm_of_related (hsame f g hf hg) s.status).symm
    have hstands : ({ s with session := o.session } : Screen).Stands above form below :=
      hs.of_layers rfl ⟨g, hg, hdrawn⟩
    rw [hreport]
    exact hstands.standsOn List.suffix_rfl
  · rw [hreport]
    exact hs.push_error text

end Reports

/-- The path of a prompt is stored in the form under it. -/
theorem Stands.storePath {p : Layer} (hs : s.Stands [p] form below) (controlId path : String) :
    (s.storePath controlId path).StandsOn [] below :=
  hs.pop.redrawn (.setValue controlId path) rfl rfl rfl

theorem Stands.showEntry (hs : s.Stands [] form below) {place : Nat} {c : Choice}
    (hcell : form.cells[place]? = some (.choice c)) (entry : Nat) :
    (s.showEntry place c entry).1.StandsOn [] below := by
  unfold Screen.showEntry
  cases hpick : c.pick? entry with
  | none => exact hs.standsOn List.nil_suffix
  | some picked =>
    obtain ⟨shown, value⟩ := picked
    obtain ⟨above, form, hshown, -⟩ := hs.modifyCell hs.layers hcell (outline_of_pick? hpick)
    cases value with
    | none => exact hshown.standsOn List.nil_suffix
    | some value =>
      obtain ⟨above', form', hselected, -⟩ :=
        hshown.entered (.select c.itemId value) rfl rfl fun f g hf hg =>
          Session.select_related .refl (fun c => .select c value) hf hg
      exact hselected.standsOn List.nil_suffix

theorem Stands.setText (hs : s.Stands above form below) {top : Layer} {rest : List Layer}
    {place : Nat} {f : Field} (hlayers : s.layers = top :: rest)
    (hcell : top.cells[place]? = some (.field f)) (text : String) :
    (s.setText place f text).StandsOn above.tail below := by
  have houtline : (Cell.field { f with text }).outline = (Cell.field f).outline := rfl
  obtain ⟨above', form', hwritten, htail⟩ := hs.modifyCell hlayers hcell houtline
  have hsession : (s.modifyCell place fun _ => .field { f with text }).session = s.session := by
    simp only [Screen.modifyCell, hlayers]
  unfold Screen.setText
  simp only
  split
  · exact hwritten.standsOn (htail ▸ List.tail_suffix _)
  · -- a field of the form passes its text on at once
    rw [← hsession]
    obtain ⟨above'', form'', hentered, hsuffix⟩ :=
      hwritten.entered (.setValue f.controlId text) rfl rfl fun g h hg hh =>
        Session.setValue_related .refl (fun _ _ h => h.sameView) hg hh
    exact hentered.standsOn (htail ▸ (List.tail_suffix _).trans hsuffix)

/-! ## Shortcuts -/

/-- The shortcut that asks for the same, if there is one. -/
def Demand.shortcut? : Demand → Option Shortcut
  | .call (.toggleAdvanced _) => some .toggleAdvanced
  | .save => some .save
  | .quit => some .quit
  | _ => none

theorem shortcut?_actionDemand {action : Action} {k : Shortcut} :
    (s.actionDemand now action).shortcut? = some k ↔ action = k.action := by
  cases action <;> cases k <;> simp [actionDemand, Demand.shortcut?, Shortcut.action]

theorem shortcut?_textDemand (s : Screen) (f : Field) (text : String) :
    (s.textDemand f text).shortcut? = none := by
  unfold textDemand
  split <;> rfl

theorem shortcut?_entryDemand (c : Choice) (entry : Nat) :
    (entryDemand c entry).shortcut? = none := by
  unfold entryDemand
  split <;> rfl

/-- What asks for the same as a shortcut does the same. -/
theorem Reaches.eq_perform {demand : Demand} (ht : s.Reaches now demand t) {k : Shortcut}
    (hk : demand.shortcut? = some k) : t = s.perform now k.action := by
  cases ht with
  | nothing | path | opened | highlighted | focused | fileChanged => cases hk
  | shortcut k' => rw [shortcut?_actionDemand.mp hk]
  | @button top rest b hlayers hb => rw [shortcut?_actionDemand.mp hk]
  | text => cases (shortcut?_textDemand s _ _).symm.trans hk
  | entry | picked => cases (shortcut?_entryDemand _ _).symm.trans hk

/-- The form is drawn anew in the place of a layer above it, and the old one stays beneath: advanced
items are shown or hidden while something else is on top. -/
def buries (s : Screen) (now : Instant) (h : Happening) : Bool :=
  (s.demand now h).shortcut? = some .toggleAdvanced &&
    (s.session.toggleAdvanced now).result.isOk && !s.layers.head?.any Layer.isForm

/-- A shortcut takes nothing away that stands above the form, unless it buries the form. -/
theorem Stands.shortcut (hs : s.Stands above form below) (k : Shortcut)
    (hk : k = .toggleAdvanced → (s.session.toggleAdvanced now).result.isOk = true → above = []) :
    (s.perform now k.action).StandsOn above below := by
  cases k with
  | toggleAdvanced =>
    rcases hs.report_refresh (.toggleAdvanced now) rfl rfl with ⟨hok, -⟩ | ⟨-, hstands⟩
    · obtain rfl := hk rfl hok
      exact hs.redrawn (.toggleAdvanced now) rfl rfl rfl
    · exact hstands
  | save =>
    show s.save.StandsOn above below
    unfold save
    split
    · exact (hs.close .save).standsOn List.suffix_rfl
    · exact hs.push_error _
  | quit =>
    show s.quit.StandsOn above below
    unfold quit
    split
    · exact (hs.push (.inl rfl)).standsOn (List.suffix_cons ..)
    · exact (hs.close .quit).standsOn List.suffix_rfl

/-! ## Everything else -/

/-- A button of the form that is no shortcut changes the form or opens a prompt on it. -/
theorem Stands.formButton (hs : s.Stands [] form below) {b : Button}
    (hb : b ∈ (Layer.dialog form).buttons) (hno : (s.actionDemand now b.action).shortcut? = none) :
    (s.perform now b.action).StandsOn [] below := by
  obtain ⟨f, -, hform⟩ := hs.drawn
  rw [Dialog.buttons_of_outline hform] at hb
  have honForm := Layer.action_of_mem_ofForm hb
  cases haction : b.action with
  | toggleAdvanced | save | quit =>
    rw [haction] at hno
    cases hno
  | acceptPath | discard | dismiss =>
    rw [haction] at honForm
    cases honForm
  | cancel => exact hs.redrawn .cancel rfl rfl rfl
  | addInstance groupId after => exact hs.redrawn (.addInstance groupId after) rfl rfl rfl
  | removeInstance groupId instanceId =>
    exact hs.redrawn (.removeInstance groupId instanceId) rfl rfl rfl
  | browse controlId =>
    have hprompt : ∀ current, (Dialog.askPath controlId current).IsPrompt :=
      fun _ => ⟨controlId, rfl⟩
    have hlayers : (s.perform now (.browse controlId)).layers = .dialog _ :: s.layers := rfl
    rw [hs.layers] at hlayers
    exact ⟨_, form, ⟨hlayers, .prompt (hprompt _), hs.drawn⟩, List.nil_suffix⟩

theorem Stands.button (hs : s.Stands above form below) {top : Layer} {rest : List Layer} {b : Button}
    (hlayers : s.layers = top :: rest) (hb : b ∈ top.buttons)
    (hno : (s.actionDemand now b.action).shortcut? = none) :
    (s.perform now b.action).StandsOn above.tail below := by
  rcases hs.top_cases hlayers with ⟨rfl, rfl, -⟩ | ⟨above', rfl, -⟩
  · exact hs.formButton hb hno
  · cases hs.dialogs with
    | prompt hp =>
      rcases hp.action hb with ⟨controlId, haction⟩ | haction
      · rw [haction]
        exact hs.storePath controlId _
      · rw [haction]
        exact hs.pop.standsOn List.nil_suffix
    | list => cases hb
    | notice hn =>
      rcases hn.action hb with haction | haction
      · rw [haction]
        exact (hs.close .quit).standsOn (List.tail_suffix _)
      · rw [haction]
        exact hs.pop.standsOn List.suffix_rfl

/-- What asks for no shortcut can change the top layer, take it away or put one on it. -/
theorem Reaches.standsOn {demand : Demand} (ht : s.Reaches now demand t)
    (hs : s.Stands above form below) (hno : demand.shortcut? = none) :
    t.StandsOn above.tail below := by
  cases ht with
  | nothing => exact hs.standsOn (List.tail_suffix _)
  | shortcut k => cases (shortcut?_actionDemand.mpr rfl).symm.trans hno
  | button hlayers hb => exact hs.button hlayers hb hno
  | text hlayers hcell text => exact hs.setText hlayers hcell text
  | path hprompting =>
    obtain ⟨p, -, rfl⟩ := hs.isPrompting hprompting
    exact hs.storePath _ _
  | entry hlayers hcell entry =>
    obtain ⟨rfl, rfl⟩ := hs.eq_nil_of_choice hlayers hcell
    exact hs.showEntry hcell entry
  | @opened top rest place c hlayers hcell =>
    obtain ⟨rfl, rfl⟩ := hs.eq_nil_of_choice hlayers hcell
    refine ⟨[.popup ⟨place, c, c.shown⟩], form, ⟨?_, .list hcell, hs.drawn⟩, List.nil_suffix⟩
    rw [openPopup, hs.layers]
    rfl
  | @highlighted p rest hlayers highlighted =>
    rcases hs.top_cases hlayers with ⟨-, hlist, -⟩ | ⟨above', rfl, rfl⟩
    · cases hlist
    · cases hs.dialogs with
      | list hcell =>
        exact ⟨[.popup { p with highlighted }], form, ⟨rfl, .list hcell, hs.drawn⟩,
          List.nil_suffix⟩
  | picked hlayers =>
    rcases hs.top_cases hlayers with ⟨-, hlist, -⟩ | ⟨above', rfl, -⟩
    · cases hlist
    · cases hs.dialogs with
      -- the list goes, and the drop-down that it belongs to is in the form under it
      | list hcell => exact hs.pop.showEntry hcell _
  | focused hlayers he =>
    obtain ⟨above', form', hmoved, htail⟩ :=
      hs.retop hlayers (Dialog.focusMoved_of_moveFocus he).outline
    exact hmoved.standsOn (htail ▸ List.tail_suffix _)
  | fileChanged file =>
    have hstands : Stands { s with session := (s.session.perform (.fileChange file)).session } above
        form below := hs.of_layers rfl hs.drawn
    exact hstands.standsOn (List.tail_suffix _)

/-- What happens on a screen leaves the form on the same layers, unless it buries the form; of what
stands above it, only the top layer can go, and not by a shortcut. -/
theorem Stands.apply (hs : s.Stands above form below) (now : Instant) (h : Happening) :
    if s.buries now h then above ≠ [] ∧ s.Redrawn (s.apply now h)
    else (s.apply now h).StandsOn
      (if (s.demand now h).shortcut?.isSome then above else above.tail) below := by
  have hreaches := s.apply_reaches now h
  unfold buries
  rw [hs.any_isForm]
  cases hk : (s.demand now h).shortcut? with
  | none => exact hreaches.standsOn hs hk
  | some k =>
    -- it may be a button or a key, but it does what the shortcut does
    rw [hreaches.eq_perform hk]
    split
    · rename_i hburies
      simp only [Bool.and_eq_true, decide_eq_true_eq, Option.some.injEq, Bool.not_eq_true',
        List.isEmpty_eq_false_iff] at hburies
      obtain ⟨⟨rfl, hok⟩, habove⟩ := hburies
      have hfailed : (s.session.toggleAdvanced now).result.isOk ≠ false := by simp [hok]
      exact ⟨habove, ((hs.report_refresh (.toggleAdvanced now) rfl rfl).resolve_right
        fun h => hfailed h.1).2⟩
    · rename_i hburies
      refine hs.shortcut k fun hk hok => ?_
      simpa [hk, hok] using hburies

/-! ## Runs -/

/-- The screen after some things that happened, each at its time. -/
def after (s : Screen) (turns : List (Instant × Happening)) : Screen :=
  turns.foldl (fun s turn => s.apply turn.1 turn.2) s

/-- How often the form is buried while some things happen. -/
def burials (s : Screen) : List (Instant × Happening) → Nat
  | [] => 0
  | (now, h) :: rest => (s.buries now h).toNat + (s.apply now h).burials rest

/-- The form stands on a number of others, of which one is at the bottom. -/
def Piled (s : Screen) (n : Nat) : Prop :=
  ∃ above form below, s.Stands above form below ∧ below.countP Layer.isForm = n ∧
    ∀ l ∈ below.getLast?, l.isForm = true

theorem Stands.countP (hs : s.Stands above form below) :
    s.layers.countP Layer.isForm = below.countP Layer.isForm + 1 := by
  have habove : above.countP Layer.isForm = 0 :=
    List.countP_eq_zero.mpr fun l hl => by simp [hs.dialogs.isForm hl]
  rw [hs.layers, List.countP_append, habove, List.countP_cons_of_pos hs.isForm, Nat.zero_add]

theorem Stands.getLast? (hs : s.Stands above form below)
    (hlast : ∀ l ∈ below.getLast?, l.isForm = true) : ∀ l ∈ s.layers.getLast?, l.isForm = true := by
  intro l hl
  rw [hs.layers, List.getLast?_append_cons, List.getLast?_cons] at hl
  obtain rfl := Option.some.inj hl
  cases hbelow : below.getLast? with
  | none => exact hs.isForm
  | some last => exact hlast last hbelow

theorem Piled.apply {n : Nat} (hs : s.Piled n) (now : Instant) (h : Happening) :
    (s.apply now h).Piled ((s.buries now h).toNat + n) := by
  obtain ⟨above, form, below, hstands, hcount, hlast⟩ := hs
  have hstep := hstands.apply now h
  cases hburies : s.buries now h with
  | false =>
    rw [hburies] at hstep
    obtain ⟨above', form', hafter, -⟩ := hstep
    exact ⟨above', form', below, hafter, by rw [hcount, Bool.toNat_false, Nat.zero_add], hlast⟩
  | true =>
    rw [hburies, if_pos rfl] at hstep
    obtain ⟨habove, hredrawn⟩ := hstep
    obtain ⟨top, rest, rfl⟩ := List.exists_cons_of_ne_nil habove
    obtain ⟨form', hafter⟩ := hredrawn.stands
    -- the old form is below the new one from now on
    refine ⟨[], form', s.layers.tail, hafter, ?_, ?_⟩
    · rw [Bool.toNat_true, Nat.add_comm, ← hcount]
      exact hstands.pop.countP
    · exact hstands.pop.getLast? hlast

theorem Piled.after {n : Nat} (hs : s.Piled n) (turns : List (Instant × Happening)) :
    (s.after turns).Piled (s.burials turns + n) := by
  induction turns generalizing s n with
  | nil => rwa [burials, Nat.zero_add]
  | cons turn rest ih =>
    obtain ⟨now, h⟩ := turn
    have hrest := ih (hs.apply now h)
    rwa [← Nat.add_assoc, Nat.add_comm (burials _ rest)] at hrest

theorem piled_of_ofSession? {session : Session} {status : Option String} {opened : Screen}
    (hopened : ofSession? session status = some opened) : opened.layOut.Piled 0 := by
  obtain ⟨f, hf, rfl⟩ := Option.map_eq_some_iff.mp hopened
  exact ⟨[], _, [], ⟨rfl, .nothing, f, hf, (Dialog.focusFirst_focusMoved _).outline⟩, rfl, nofun⟩

/-- On a screen that was opened, whatever happened since: one layer is the form as it is drawn now
from the session, but for what a user can change in it; there are no other forms above it, and as many
below it as there were burials, one of them at the bottom. So without burials the form is the one at
the bottom. Whatever happens next leaves the layers below it and those above it, but for the top one
if it was not a shortcut that was asked for; or it is a burial, which puts a new form in the place of
the top one. -/
theorem layers_after {session : Session} {status : Option String} {opened : Screen}
    (hopened : ofSession? session status = some opened) (turns : List (Instant × Happening)) :
    let s := opened.layOut.after turns
    let n := opened.layOut.burials turns
    ∃ above form below, s.Stands above form below ∧ (∀ l ∈ above, l.isForm = false) ∧
      s.layers.countP Layer.isForm = n + 1 ∧ (∀ l ∈ s.layers.getLast?, l.isForm = true) ∧
      (n = 0 → below = []) ∧
      ∀ now h, if s.buries now h then above ≠ [] ∧ s.Redrawn (s.apply now h)
      else (s.apply now h).StandsOn
        (if (s.demand now h).shortcut?.isSome then above else above.tail) below := by
  intro s n
  obtain ⟨above, form, below, hs, hcount, hlast⟩ := (piled_of_ofSession? hopened).after turns
  refine ⟨above, form, below, hs, fun l hl => hs.dialogs.isForm hl, by rw [hs.countP, hcount],
    hs.getLast? hlast, fun hn => ?_, hs.apply⟩
  cases hbelow : below.getLast? with
  | none => exact List.getLast?_eq_none_iff.mp hbelow
  | some l =>
    have hnone := List.countP_eq_zero.mp (hcount.trans hn) l (List.mem_of_getLast? hbelow)
    exact absurd (hlast l hbelow) hnone

/-- A server with an item whose path can be browsed for. -/
def browseServer : Service := FixedReplies.service {
  schema := some <|
    "<config><section><item id='dir'><type>text</type><browse>1</browse></item></section></config>"
  status := some "<status><writable_config>1</writable_config></status>"
  values := some "<config><dir>/srv</dir></config>"
  update := some FixedReplies.updateAccepted }

/-- A question stands above a prompt above the form. -/
theorem layers_after_browse :
    let session := (Session.start .inMemory .other).run [.load browseServer default]
    let turns : List (Instant × Happening) := [.event (.type 0 "/home"),
      .event (.press "<Browse>" 0), .event (.shortcut .quit)].map fun h => (default, h)
    ∃ opened above form, ofSession? session none = some opened ∧
      (opened.layOut.after turns).Stands above form [] ∧ above.length = 2 ∧
      ∀ l ∈ above, l.isForm = false := by
  intro session turns
  have hrun : (ofSession? session none).map (fun opened =>
      ((opened.layOut.after turns).layers.length, opened.layOut.burials turns)) =
      some (3, 0) := by
    decide +kernel
  obtain ⟨opened, hopened, hboth⟩ := Option.map_eq_some_iff.mp hrun
  obtain ⟨hlength, hnone⟩ := Prod.mk.inj hboth
  obtain ⟨above, form, below, hs, habove, -, -, hbelow, -⟩ := layers_after hopened turns
  obtain rfl := hbelow hnone
  refine ⟨opened, above, form, hopened, hs, ?_, habove⟩
  rw [hs.layers, List.length_append] at hlength
  exact Nat.succ.inj hlength

/-- Showing advanced items while a prompt is on top takes the prompt away and leaves two forms. -/
theorem prompt_lost_by_toggle :
    let session := (Session.start .inMemory .other).run [.load browseServer default]
    let turns : List (Instant × Happening) := [.event (.press "<Browse>" 0),
      .event (.shortcut .toggleAdvanced)].map fun h => (default, h)
    ∃ opened, ofSession? session none = some opened ∧
      (opened.layOut.after [(default, .event (.press "<Browse>" 0))]).isPrompting = true ∧
      (opened.layOut.after turns).layers.map Layer.isForm = [true, true] := by
  intro session turns
  have hrun : (ofSession? session none).map (fun opened =>
      ((opened.layOut.after [(default, .event (.press "<Browse>" 0))]).isPrompting,
        (opened.layOut.after turns).layers.map Layer.isForm)) = some (true, [true, true]) := by
    decide +kernel
  obtain ⟨opened, hopened, hboth⟩ := Option.map_eq_some_iff.mp hrun
  exact ⟨opened, hopened, Prod.mk.inj hboth⟩

end SettingsForm.Screen
