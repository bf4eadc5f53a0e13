import SettingsForm.Proofs.Screen.Demand

/-!
# The question before edits are lost

Nothing on the screen discards edits but one button of the question that is asked before they are
lost (`Guarded`), whatever else was opened above or below it. So what asks to discard is that button
of a question on top (`discards_of_demand`).
-/

namespace SettingsForm.Screen

/-- The layer is the question, or none of its buttons discards anything. -/
def Layer.Guarded (l : Layer) : Prop :=
  (∃ focusedButton, l = .dialog { Dialog.askDiscard with focusedButton }) ∨
    ∀ b ∈ l.buttons, b.action ≠ .discard

/-- Only the question discards edits. -/
def Guarded (s : Screen) : Prop := ∀ l ∈ s.layers, l.Guarded

/-! ## Dialogs as they are drawn -/

/-- The action is one for a form. The others are for the dialogs above it. -/
def Action.OnForm : Action → Prop
  | .acceptPath _ | .discard | .dismiss => False
  | _ => True

theorem Action.OnForm.ne_discard {action : Action} (haction : action.OnForm) :
    action ≠ .discard := by
  rintro rfl
  exact haction

theorem action_of_mem_inputRow {i : Input} {b : Button}
    (hb : .button b ∈ Widget.cells (inputRow i)) : b.action.OnForm := by
  rw [cells_inputRow] at hb
  simp only [List.cons_append, List.nil_append, List.mem_cons, reduceCtorEq, List.mem_append,
    List.mem_map, false_or, noteCells] at hb
  rcases hb with ⟨affordance, -, haction⟩ | hnote
  · cases affordance <;> exact Cell.button.inj haction ▸ trivial
  · split at hnote <;> simp at hnote

/-- The buttons of a drawn block change instances or open a prompt. -/
theorem action_of_mem_blockView {block : Block} {b : Button}
    (hb : .button b ∈ Widget.cells (blockView block)) : b.action.OnForm := by
  rw [cells_blockView] at hb
  cases hbody : block.body with
  | input i => exact action_of_mem_inputRow (by simpa only [hbody] using hb)
  | select c =>
    simp only [hbody, noteCells, List.cons_append, List.nil_append, List.mem_cons, reduceCtorEq,
      false_or] at hb
    split at hb <;> simp at hb
  | group g =>
    simp only [hbody, List.mem_append, List.mem_flatMap] at hb
    rcases hb with ⟨i, -, hi⟩ | hadd
    · exact action_of_mem_inputRow hi
    · rw [addRow, cells_row] at hadd
      simp only [List.mem_cons, reduceCtorEq, Cell.button.injEq, List.not_mem_nil, or_false,
        false_or] at hadd
      exact hadd ▸ trivial
  | fault message => simp [hbody] at hb

theorem action_of_mem_formButtons {f : Form} {b : Button} (hb : b ∈ formButtons f) :
    b.action.OnForm := by
  simp only [formButtons, List.cons_append, List.mem_cons, List.mem_append, List.not_mem_nil,
    or_false] at hb
  rcases hb with rfl | hedit | rfl
  · trivial
  · split at hedit
    · obtain ⟨action, -, rfl⟩ := List.mem_map.mp hedit
      cases action <;> trivial
    · cases hedit
  · trivial

namespace Layer

theorem action_of_mem_ofForm {f : Form} {status : Option String} {b : Button}
    (hb : b ∈ (Layer.dialog (.ofForm f status)).buttons) : b.action.OnForm := by
  rcases mem_buttons.mp hb with hcell | haction
  · rw [cells_ofForm] at hcell
    obtain ⟨block, -, hblock⟩ := List.mem_flatMap.mp hcell
    exact action_of_mem_blockView hblock
  · exact action_of_mem_formButtons haction

theorem guarded_ofForm (f : Form) (status : Option String) :
    (Layer.dialog (.ofForm f status)).Guarded :=
  .inr fun _ hb => (action_of_mem_ofForm hb).ne_discard

theorem guarded_askPath (controlId current : String) :
    (Layer.dialog (.askPath controlId current)).Guarded := by
  refine .inr fun b hb => ?_
  change b ∈ (Dialog.askPath controlId current).buttons at hb
  simp only [Dialog.askPath, List.mem_cons, List.not_mem_nil, or_false] at hb
  rcases hb with rfl | rfl <;> exact nofun

theorem guarded_ofError (text : String) : (Layer.dialog (.ofError text)).Guarded := by
  refine .inr fun b hb => ?_
  obtain rfl := List.mem_singleton.mp hb
  exact nofun

/-! ## Changes of a layer -/

theorem Guarded.refocused {d e : Dialog} (hd : (Layer.dialog d).Guarded) (he : d.Refocused e) :
    (Layer.dialog e).Guarded := by
  rcases hd with ⟨focusedButton, hd⟩ | hd
  · obtain rfl := Layer.dialog.inj hd
    cases he with
    | buttons focusedButton => exact .inl ⟨focusedButton, rfl⟩
    | content hbody => cases hbody
  · refine .inr fun b hb => hd b ?_
    have hbuttons : e.buttons = d.buttons := by
      cases he <;> rfl
    rwa [mem_buttons, he.cells, hbuttons, ← mem_buttons] at hb

/-- A cell that is no button adds none to the buttons. -/
theorem mem_buttons_of_modifyCell {d : Dialog} {place : Nat} {cell : Cell}
    (hcell : cell.button? = none) {b : Button}
    (hb : b ∈ (Layer.dialog (d.modifyCell place fun _ => cell)).buttons) :
    b ∈ (Layer.dialog d).buttons := by
  rw [mem_buttons] at hb ⊢
  cases hcontent : d.content with
  | form body =>
    have hbuttons : (d.modifyCell place fun _ => cell).buttons = d.buttons := by
      simp only [Dialog.modifyCell, hcontent]
    rw [Dialog.cells_modifyCell hcontent, hbuttons] at hb
    refine hb.imp_left fun hinside => ?_
    obtain ⟨i, hi⟩ := List.getElem?_of_mem hinside
    rw [List.getElem?_modify] at hi
    obtain ⟨c, hc, hsame⟩ := Option.map_eq_some_iff.mp hi
    split at hsame
    · rw [hsame] at hcell
      cases hcell
    · exact hsame ▸ List.mem_of_getElem? hc
  | prompt f =>
    simp only [Dialog.modifyCell, hcontent] at hb
    split at hb <;> simpa [Dialog.cells, hcontent] using hb
  | message text => simpa only [Dialog.modifyCell, hcontent] using hb

theorem Guarded.modifyCell {l : Layer} (hl : l.Guarded) (place : Nat) {cell : Cell}
    (hcell : cell.button? = none) : (l.modifyCell place fun _ => cell).Guarded := by
  cases l with
  | popup p => exact hl
  | dialog d =>
    rcases hl with ⟨focusedButton, hd⟩ | hd
    · obtain rfl := Layer.dialog.inj hd
      exact .inl ⟨focusedButton, rfl⟩
    · exact .inr fun b hb => hd b (mem_buttons_of_modifyCell hcell hb)

end Layer

/-! ## Screens -/

theorem Relayered.guarded {a b : List Layer} (hab : Relayered a b) (ha : ∀ l ∈ a, l.Guarded) :
    ∀ l ∈ b, l.Guarded := by
  induction hab with
  | refl => exact ha
  | trans _ _ ihab ihbc => exact ihbc (ihab ha)
  | closed layers => exact fun l hl => ha l (List.mem_of_mem_tail hl)
  | form f status layers => exact List.forall_mem_cons.mpr ⟨Layer.guarded_ofForm f status, ha⟩
  | path controlId current layers =>
    exact List.forall_mem_cons.mpr ⟨Layer.guarded_askPath controlId current, ha⟩
  | question layers => exact List.forall_mem_cons.mpr ⟨.inl ⟨none, rfl⟩, ha⟩
  | message text layers => exact List.forall_mem_cons.mpr ⟨Layer.guarded_ofError text, ha⟩
  | list p layers => exact List.forall_mem_cons.mpr ⟨.inr nofun, ha⟩
  | refocused he rest =>
    obtain ⟨hd, hrest⟩ := List.forall_mem_cons.mp ha
    exact List.forall_mem_cons.mpr ⟨hd.refocused he, hrest⟩
  | changed place hcell top rest =>
    obtain ⟨htop, hrest⟩ := List.forall_mem_cons.mp ha
    exact List.forall_mem_cons.mpr ⟨htop.modifyCell place hcell, hrest⟩

variable {s t : Screen} {now : Instant} {demand : Demand} {h : Happening}

theorem Alike.guarded (hst : s.Alike t) (hs : s.Guarded) : t.Guarded := by
  obtain ⟨hlayers⟩ := hst
  exact hlayers.guarded hs

theorem Moves.guarded (hst : s.Moves demand t) (hs : s.Guarded) : t.Guarded := by
  cases hst with
  | shown ht => exact ht.guarded hs
  | called hload ht => exact ht.guarded hs
  | saveRefused hwritable ht => exact ht.guarded hs
  | asked hphase => exact (Relayered.question s.layers).guarded hs
  | saving | quitting | discarded => exact hs

/-! ## The demand to discard -/

/-- The button of the question on top is pressed, by its caption or by the enter key. -/
def Discards (s : Screen) (h : Happening) : Prop :=
  ∃ focusedButton rest, s.layers = .dialog { Dialog.askDiscard with focusedButton } :: rest ∧
    (h = .event (.press "<Discard>" 0) ∨ h = .key .enter ∧ focusedButton = some 0)

theorem actionDemand_eq_discard {action : Action} :
    s.actionDemand now action = .discard ↔ action = .discard := by
  cases action <;> simp [actionDemand]

theorem textDemand_ne_discard (s : Screen) (f : Field) (text : String) :
    s.textDemand f text ≠ .discard := by
  unfold textDemand
  split <;> exact nofun

theorem entryDemand_ne_discard (c : Choice) (entry : Nat) : entryDemand c entry ≠ .discard := by
  unfold entryDemand
  split <;> exact nofun

/-- A button that discards edits is the one of the question. -/
theorem Layer.Guarded.question {l : Layer} (hl : l.Guarded) {b : Button} (hb : b ∈ l.buttons)
    (haction : b.action = .discard) :
    b = ⟨"Discard", true, .discard⟩ ∧
      ∃ focusedButton, l = .dialog { Dialog.askDiscard with focusedButton } := by
  rcases hl with ⟨focusedButton, rfl⟩ | hl
  · rcases mem_buttons.mp hb with hcell | hbutton
    · cases hcell
    · simp only [Dialog.askDiscard, List.mem_cons, List.not_mem_nil, or_false] at hbutton
      rcases hbutton with rfl | rfl
      · exact ⟨rfl, focusedButton, rfl⟩
      · cases haction
  · exact absurd haction (hl b hb)

/-- Such a button is found by its caption alone, as the first one. -/
theorem Layer.Guarded.pressed {l : Layer} (hl : l.Guarded) {caption : String} {n : Nat} {b : Button}
    (hb : (l.buttons.filter fun b => b.caption = caption)[n]? = some b)
    (haction : b.action = .discard) : (caption = "<Discard>" ∧ n = 0) ∧
      ∃ focusedButton, l = .dialog { Dialog.askDiscard with focusedButton } := by
  obtain ⟨hmem, hcaption⟩ := List.mem_filter.mp (List.mem_of_getElem? hb)
  obtain ⟨rfl, focusedButton, rfl⟩ := hl.question hmem haction
  obtain rfl : "<Discard>" = caption := by
    simpa [Button.caption] using of_decide_eq_true hcaption
  have hfound : (Layer.dialog { Dialog.askDiscard with focusedButton }).buttons.filter
      (fun b => b.caption = "<Discard>") = [⟨"Discard", true, .discard⟩] := rfl
  rw [hfound, List.getElem?_singleton] at hb
  exact ⟨⟨rfl, (Option.ite_none_right_eq_some.mp hb).1⟩, focusedButton, rfl⟩

theorem discards_of_eventDemand (hs : s.Guarded) {e : Event}
    (hdemand : s.eventDemand now e = .discard) : s.Discards (.event e) := by
  cases e with
  | press caption n =>
    cases hlayers : s.layers with
    | nil => simp [eventDemand, hlayers] at hdemand
    | cons top rest =>
      have htop : top.Guarded := hs top (hlayers ▸ List.mem_cons_self)
      simp only [eventDemand, hlayers, List.head?_cons, Option.map_some, Option.getD_some] at hdemand
      split at hdemand
      · cases hdemand
      · rename_i b hb
        split at hdemand
        · obtain ⟨⟨rfl, rfl⟩, focusedButton, rfl⟩ :=
            htop.pressed hb (actionDemand_eq_discard.mp hdemand)
          exact ⟨focusedButton, rest, hlayers, .inl rfl⟩
        · cases hdemand
  | type n text =>
    simp only [eventDemand] at hdemand
    split at hdemand
    · cases hdemand
    · exact absurd hdemand (s.textDemand_ne_discard _ _)
  | submit n =>
    simp only [eventDemand] at hdemand
    split at hdemand
    · cases hdemand
    · split at hdemand <;> cases hdemand
  | choose n entry =>
    simp only [eventDemand] at hdemand
    split at hdemand
    · cases hdemand
    · split at hdemand
      · exact absurd hdemand (entryDemand_ne_discard _ _)
      · cases hdemand
  | shortcut k => cases k <;> cases hdemand

theorem button_of_cellDemand {key : Key} {cell : Cell}
    (hdemand : s.cellDemand? now key cell = some .discard) :
    ∃ b, cell = .button b ∧ b.action = .discard := by
  unfold cellDemand? at hdemand
  split at hdemand
  · cases hdemand
  · split at hdemand
    · exact absurd (Option.some.inj hdemand) (s.textDemand_ne_discard _ _)
    · split at hdemand <;> cases hdemand
    · cases hdemand
    · exact ⟨_, rfl, actionDemand_eq_discard.mp (Option.some.inj hdemand)⟩
    · cases hdemand

theorem discards_of_dialogDemand {d : Dialog} {rest : List Layer} (hs : s.Guarded)
    (hlayers : s.layers = .dialog d :: rest) {key : Key}
    (hdemand : s.dialogDemand? now key d = some .discard) : s.Discards (.key key) := by
  have htop : (Layer.dialog d).Guarded := hs _ (hlayers ▸ List.mem_cons_self)
  unfold dialogDemand? at hdemand
  cases hfocus : d.focusedButton with
  | none =>
    -- the question has no cells, and no other dialog has such a button
    rw [hfocus] at hdemand
    obtain ⟨⟨i, cell⟩, hcell, hdemand⟩ := Option.bind_eq_some_iff.mp hdemand
    obtain ⟨b, rfl, haction⟩ := button_of_cellDemand hdemand
    have hmem : Cell.button b ∈ d.cells := List.mem_of_getElem? (Dialog.cells_of_focusedCell? hcell)
    obtain ⟨-, focusedButton, hd⟩ := htop.question (Layer.mem_buttons.mpr (.inl hmem)) haction
    obtain rfl := Layer.dialog.inj hd
    cases hmem
  | some i =>
    rw [hfocus] at hdemand
    obtain ⟨hkey, hdemand⟩ := Option.ite_none_right_eq_some.mp hdemand
    obtain ⟨b, hb, haction⟩ := Option.map_eq_some_iff.mp hdemand
    obtain ⟨rfl, focusedButton, hd⟩ := htop.question
      (Layer.mem_buttons.mpr (.inr (List.mem_of_getElem? hb))) (actionDemand_eq_discard.mp haction)
    obtain rfl := Layer.dialog.inj hd
    have hi : i = 0 := by
      match i with
      | 0 => rfl
      | 1 => simp [Dialog.askDiscard] at hb
      | i + 2 => cases hb
    exact ⟨focusedButton, rest, hlayers, .inr ⟨congrArg Happening.key hkey, hfocus.trans (hi ▸ rfl)⟩⟩

theorem discards_of_topDemand (hs : s.Guarded) {key : Key}
    (hdemand : s.topDemand? now key = some .discard) : s.Discards (.key key) := by
  unfold topDemand? at hdemand
  split at hdemand
  · cases hdemand
  · unfold popupDemand? at hdemand
    split at hdemand
    · exact absurd (Option.some.inj hdemand) (entryDemand_ne_discard _ _)
    all_goals cases hdemand
  · rename_i d rest hlayers
    rcases Option.or_eq_some_iff.mp hdemand with hdialog | ⟨-, hmoved⟩
    · exact discards_of_dialogDemand hs hlayers hdialog
    · obtain ⟨-, -, hnothing⟩ := Option.map_eq_some_iff.mp hmoved
      cases hnothing

/-- What asks to discard edits is the button of a question on top. -/
theorem discards_of_demand (hs : s.Guarded) (hdemand : s.demand now h = .discard) :
    s.Discards h := by
  cases h with
  | event e => exact discards_of_eventDemand hs hdemand
  | key k =>
    have hkey : s.keyDemand now k = .discard := hdemand
    unfold keyDemand at hkey
    split at hkey
    · rename_i htop
      exact discards_of_topDemand hs (htop.trans (congrArg some hkey))
    · split at hkey
      · rename_i k _
        cases k <;> cases hkey
      · cases hkey
    · cases hkey
  | fileChange file => cases hdemand

end SettingsForm.Screen
