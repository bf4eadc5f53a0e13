import SettingsForm.Screen.Keyboard
import Mathlib.Data.List.Basic

/-!
# Cells of the screen

The cells of a widget are those of its members, whichever of them has the focus
(`LawfulWidget.cells_moveFocus`), and changing the cell at a place changes that cell of the list
(`LawfulWidget.cells_modifyCell`). So a dialog whose focus moves shows what it did
(`Dialog.Refocused`), a cell that is replaced by one of its kind is still counted as it was
(`cellAt?_modifyCell`), and a drawn form has the cells of its visible blocks (`cells_ofForm`).
-/

namespace SettingsForm.Screen

/-- Focus moves over the cells of a widget without changing them, and what is changed at a place is
the cell there. -/
class LawfulWidget (α : Type) [Widget α] : Prop where
  cells_modifyCell (place : Nat) (change : Cell → Cell) (a : α) :
    Widget.cells (Widget.modifyCell place change a) = (Widget.cells a).modify place change
  cells_takeFocus {approach : Approach} {a b : α} (hb : Widget.takeFocus? approach a = some b) :
    Widget.cells b = Widget.cells a
  cells_moveFocus {step : Step} {a b : α} (hb : Widget.moveFocus? step a = some b) :
    Widget.cells b = Widget.cells a

export LawfulWidget (cells_modifyCell cells_takeFocus cells_moveFocus)

instance : LawfulWidget Cell where
  cells_modifyCell place change c := by
    cases place with
    | zero => rfl
    | succ place => simp [Widget.cells, Widget.modifyCell]
  cells_takeFocus hb := by
    obtain ⟨-, hb⟩ := Option.ite_none_right_eq_some.mp hb
    rw [Option.some.inj hb]
  cells_moveFocus hb := by cases hb

/-! ## Panes -/

namespace Pane

variable {axis : Axis} {α : Type} [Widget α] [LawfulWidget α]

omit [LawfulWidget α] in
theorem flatMap_cells_set {l : List α} {i : Nat} {a b : α} (ha : l[i]? = some a)
    (hb : Widget.cells b = Widget.cells a) :
    (l.set i b).flatMap Widget.cells = l.flatMap Widget.cells := by
  obtain ⟨hi, rfl⟩ := List.getElem?_eq_some_iff.mp ha
  conv_rhs => rw [← List.take_append_drop i l, List.drop_eq_getElem_cons hi]
  rw [List.set_eq_take_cons_drop b hi, List.flatMap_append, List.flatMap_cons, hb,
    List.flatMap_append, List.flatMap_cons]

theorem flatMap_modifyMember (members : List α) (place : Nat) (change : Cell → Cell) :
    (modifyMember members place change).flatMap Widget.cells =
      (members.flatMap Widget.cells).modify place change := by
  induction members generalizing place with
  | nil => exact (List.modify_nil ..).symm
  | cons a rest ih =>
    unfold modifyMember
    refine List.ext_getElem? fun k => ?_
    by_cases hplace : place < (Widget.cells a).length
    · rw [if_pos hplace, List.flatMap_cons, cells_modifyCell, List.flatMap_cons]
      simp only [List.getElem?_modify, List.getElem?_append, List.length_modify]
      grind
    · rw [if_neg hplace, List.flatMap_cons, ih, List.flatMap_cons]
      simp only [List.getElem?_modify, List.getElem?_append]
      grind

omit [LawfulWidget α] in
/-- A pane that is entered gives the focus to one member. -/
theorem exists_of_enter {p q : Pane axis α} {approach : Approach} {places : List Nat}
    (hq : p.enter? approach places = some q) : ∃ i a b, p.members[i]? = some a ∧
      Widget.takeFocus? approach a = some b ∧ q.members = p.members.set i b := by
  obtain ⟨i, -, hi⟩ := List.exists_of_findSome?_eq_some hq
  obtain ⟨a, ha, hfocus⟩ := Option.bind_eq_some_iff.mp hi
  obtain ⟨b, hb, rfl⟩ := Option.map_eq_some_iff.mp hfocus
  exact ⟨i, a, b, ha, hb, rfl⟩

omit [LawfulWidget α] in
theorem exists_of_moveInside {p q : Pane axis α} {step : Step} (hq : p.moveInside? step = some q) :
    ∃ a b, p.members[p.focus]? = some a ∧ Widget.moveFocus? step a = some b ∧
      q.members = p.members.set p.focus b := by
  obtain ⟨a, ha, hfocus⟩ := Option.bind_eq_some_iff.mp hq
  obtain ⟨b, hb, rfl⟩ := Option.map_eq_some_iff.mp hfocus
  exact ⟨a, b, ha, hb, rfl⟩

theorem cells_enter {p q : Pane axis α} {approach : Approach} {places : List Nat}
    (hq : p.enter? approach places = some q) : Widget.cells q = Widget.cells p := by
  obtain ⟨i, a, b, ha, hb, hmembers⟩ := exists_of_enter hq
  exact (congrArg (List.flatMap Widget.cells) hmembers).trans
    (flatMap_cells_set ha (cells_takeFocus hb))

theorem cells_moveInside {p q : Pane axis α} {step : Step} (hq : p.moveInside? step = some q) :
    Widget.cells q = Widget.cells p := by
  obtain ⟨a, b, ha, hb, hmembers⟩ := exists_of_moveInside hq
  exact (congrArg (List.flatMap Widget.cells) hmembers).trans
    (flatMap_cells_set ha (cells_moveFocus hb))

instance : LawfulWidget (Pane axis α) where
  cells_modifyCell place change p := flatMap_modifyMember p.members place change
  cells_takeFocus hb := cells_enter hb
  cells_moveFocus hb := by
    rcases Option.or_eq_some_iff.mp hb with hinside | ⟨-, hout⟩
    · exact cells_moveInside hinside
    · exact cells_enter hout

end Pane

instance {α : Type} [Widget α] [LawfulWidget α] : LawfulWidget (Part α) where
  cells_modifyCell place change p := by
    cases p with
    | line text emphasis => exact (List.modify_nil ..).symm
    | widget a => exact cells_modifyCell place change a
  cells_takeFocus {approach p q} hq := by
    cases p with
    | line text emphasis => cases hq
    | widget a =>
      obtain ⟨b, hb, rfl⟩ := Option.map_eq_some_iff.mp hq
      exact cells_takeFocus (a := a) hb
  cells_moveFocus {step p q} hq := by
    cases p with
    | line text emphasis => cases hq
    | widget a =>
      obtain ⟨b, hb, rfl⟩ := Option.map_eq_some_iff.mp hq
      exact cells_moveFocus (a := a) hb

instance : LawfulWidget BlockView where
  cells_modifyCell place change v := by
    cases v with
    | row r => exact cells_modifyCell place change r
    | column c => exact cells_modifyCell place change c
  cells_takeFocus {approach v w} hw := by
    cases v with
    | row r =>
      obtain ⟨b, hb, rfl⟩ := Option.map_eq_some_iff.mp hw
      exact cells_takeFocus (a := r) hb
    | column c =>
      obtain ⟨b, hb, rfl⟩ := Option.map_eq_some_iff.mp hw
      exact cells_takeFocus (a := c) hb
  cells_moveFocus {step v w} hw := by
    cases v with
    | row r =>
      obtain ⟨b, hb, rfl⟩ := Option.map_eq_some_iff.mp hw
      exact cells_moveFocus (a := r) hb
    | column c =>
      obtain ⟨b, hb, rfl⟩ := Option.map_eq_some_iff.mp hw
      exact cells_moveFocus (a := c) hb

/-! ## Dialogs -/

namespace Dialog

/-- The dialogs differ in nothing but where the focus is. -/
inductive Refocused (d : Dialog) : Dialog → Prop where
  | buttons (focusedButton : Option Nat) : Refocused d { d with focusedButton }
  | content {body moved : Body} (hbody : d.content = .form body)
      (hcells : Widget.cells moved = Widget.cells body) (focusedButton : Option Nat) :
      Refocused d { d with content := .form moved, focusedButton }

variable {d e : Dialog}

theorem Refocused.cells (h : d.Refocused e) : e.cells = d.cells := by
  cases h with
  | buttons focusedButton => rfl
  | content hbody hcells focusedButton =>
    simp only [Dialog.cells, hbody]
    exact hcells

/-- How the focus of a dialog moves: to a button or away from it, into the content, or inside it. -/
inductive FocusMoved (d : Dialog) : Dialog → Prop where
  | buttons (focusedButton : Option Nat) : FocusMoved d { d with focusedButton }
  | entered {approach : Approach} {body moved : Body} (hbody : d.content = .form body)
      (hmoved : Widget.takeFocus? approach body = some moved) :
      FocusMoved d { d with content := .form moved, focusedButton := none }
  | inside {step : Step} {body moved : Body} (hbody : d.content = .form body)
      (hmoved : Widget.moveFocus? step body = some moved) :
      FocusMoved d { d with content := .form moved }

theorem focusMoved_of_focusContent {approach : Approach}
    (he : d.focusContent? approach = some e) : d.FocusMoved e := by
  unfold focusContent? at he
  split at he
  · rename_i body hbody
    obtain ⟨moved, hmoved, rfl⟩ := Option.map_eq_some_iff.mp he
    exact .entered hbody hmoved
  · obtain rfl := Option.some.inj he
    exact .buttons none
  · cases he

theorem focusFirst_focusMoved (d : Dialog) : d.FocusMoved d.focusFirst := by
  unfold focusFirst
  cases he : d.focusContent? .start with
  | none => exact .buttons _
  | some e => exact focusMoved_of_focusContent he

theorem focusAgain_focusMoved (d : Dialog) : d.FocusMoved d.focusAgain := by
  unfold focusAgain
  cases he : d.focusContent? .before with
  | none => exact .buttons _
  | some e => exact focusMoved_of_focusContent he

theorem focusMoved_of_moveFromContent {step : Step} (he : d.moveFromContent? step = some e) :
    d.FocusMoved e := by
  unfold moveFromContent? at he
  simp only at he
  split at he
  · rename_i inside hinside
    obtain rfl := Option.some.inj he
    split at hinside
    · rename_i body hbody
      obtain ⟨moved, hmoved, rfl⟩ := Option.map_eq_some_iff.mp hinside
      exact .inside hbody hmoved
    · cases hinside
  · cases he
  · obtain rfl := Option.some.inj he
    exact .buttons _

theorem focusMoved_of_moveFocus {step : Step} (he : d.moveFocus? step = some e) :
    d.FocusMoved e := by
  unfold moveFocus? at he
  split at he
  · exact focusMoved_of_moveFromContent he
  · cases step with
    | next =>
      obtain rfl := Option.some.inj he
      split
      · exact .buttons _
      · exact d.focusAgain_focusMoved
    | up => exact focusMoved_of_focusContent he
    | down => cases he

/-- The cells are the same wherever the focus is. -/
theorem FocusMoved.refocused (h : d.FocusMoved e) : d.Refocused e := by
  cases h with
  | buttons focusedButton => exact .buttons focusedButton
  | entered hbody hmoved => exact .content hbody (cells_takeFocus hmoved) none
  | inside hbody hmoved => exact .content hbody (cells_moveFocus hmoved) d.focusedButton

end Dialog

theorem Cell.field?_eq_some {cell : Cell} {f : Field} : cell.field? = some f ↔ cell = .field f := by
  cases cell <;> simp [field?]

theorem Cell.choice?_eq_some {cell : Cell} {c : Choice} :
    cell.choice? = some c ↔ cell = .choice c := by
  cases cell <;> simp [choice?]

theorem Cell.button?_eq_some {cell : Cell} {b : Button} :
    cell.button? = some b ↔ cell = .button b := by
  cases cell <;> simp [button?]

theorem Layer.mem_buttons {d : Dialog} {b : Button} :
    b ∈ (Layer.dialog d).buttons ↔ .button b ∈ d.cells ∨ b ∈ d.buttons := by
  simp only [Layer.buttons, List.mem_append, List.mem_filterMap, Cell.button?_eq_some,
    exists_eq_right]

theorem Dialog.cells_of_focusedCell? {d : Dialog} {place : Nat} {cell : Cell}
    (hcell : d.focusedCell? = some (place, cell)) : d.cells[place]? = some cell := by
  obtain ⟨i, -, hi⟩ := Option.bind_eq_some_iff.mp hcell
  obtain ⟨c, hc, hsame⟩ := Option.map_eq_some_iff.mp hi
  obtain ⟨rfl, rfl⟩ := Prod.mk.inj hsame
  exact hc

/-! ## Cells of one kind -/

section Kind

variable {α : Type} {kind : Cell → Option α}

theorem exists_placesOf (kind : Cell → Option α) {l : Layer} {cell : Cell} (hcell : cell ∈ l.cells)
    {a : α} (ha : kind cell = some a) :
    ∃ n place : Nat, (l.placesOf kind)[n]? = some (place, a) := by
  obtain ⟨place, hplace⟩ := List.getElem?_of_mem hcell
  have hmem : (place, a) ∈ l.placesOf kind :=
    List.mem_filterMap.mpr ⟨(cell, place), List.mem_zipIdx_iff_getElem?.mpr hplace, by simp [ha]⟩
  obtain ⟨n, hn⟩ := List.getElem?_of_mem hmem
  exact ⟨n, place, hn⟩

/-- A cell that is counted is one of the top layer. -/
theorem exists_of_cellAt? {s : Screen} {n place : Nat} {a : α}
    (ha : s.cellAt? kind n = some (place, a)) : ∃ top rest cell, s.layers = top :: rest ∧
      top.cells[place]? = some cell ∧ kind cell = some a := by
  obtain ⟨top, htop, ha⟩ := Option.bind_eq_some_iff.mp ha
  obtain ⟨rest, hlayers⟩ := List.head?_eq_some_iff.mp htop
  obtain ⟨⟨cell, i⟩, hcell, hkind⟩ := List.mem_filterMap.mp (List.mem_of_getElem? ha)
  obtain ⟨b, hb, hsame⟩ := Option.map_eq_some_iff.mp hkind
  obtain ⟨rfl, rfl⟩ := Prod.mk.inj hsame
  exact ⟨top, rest, cell, hlayers, List.mem_zipIdx_iff_getElem?.mp hcell, hb⟩

/-- The places of the cells of one kind where the first cell has the place `start`. -/
def places (kind : Cell → Option α) (cells : List Cell) (start : Nat) : List (Nat × α) :=
  (cells.zipIdx start).filterMap fun (cell, place) => (kind cell).map fun a => (place, a)

theorem places_cons (c : Cell) (rest : List Cell) (start : Nat) : places kind (c :: rest) start =
    ((kind c).map fun a => (start, a)).toList ++ places kind rest (start + 1) := by
  simp only [places, List.zipIdx_cons, List.filterMap_cons]
  cases kind c <;> rfl

theorem getElem?_places_modify {cell : Cell} {b : α} (hb : kind cell = some b) {cells : List Cell}
    {start n place : Nat} {a : α} (ha : (places kind cells start)[n]? = some (place, a)) :
    start ≤ place ∧
      (places kind (cells.modify (place - start) fun _ => cell) start)[n]? = some (place, b) := by
  induction cells generalizing start n with
  | nil => cases ha
  | cons c rest ih =>
    have hlater : start < place → (c :: rest).modify (place - start) (fun _ => cell) =
        c :: rest.modify (place - (start + 1)) fun _ => cell := by
      intro hplace
      obtain ⟨k, rfl⟩ : ∃ k, place = start + 1 + k := ⟨place - (start + 1), by omega⟩
      rw [show start + 1 + k - start = k + 1 by omega, List.modify_succ_cons,
        Nat.add_sub_cancel_left]
    rw [places_cons] at ha
    cases hc : kind c with
    | none =>
      rw [hc] at ha
      obtain ⟨hplace, hrest⟩ := ih ha
      rw [hlater hplace, places_cons, hc]
      exact ⟨by omega, hrest⟩
    | some first =>
      rw [hc] at ha
      cases n with
      | zero =>
        obtain ⟨rfl, -⟩ := Prod.mk.inj (Option.some.inj ha)
        rw [Nat.sub_self, List.modify_zero_cons, places_cons, hb]
        exact ⟨Nat.le_refl _, rfl⟩
      | succ n =>
        obtain ⟨hplace, hrest⟩ := ih (n := n) ha
        rw [hlater hplace, places_cons, hc]
        exact ⟨by omega, hrest⟩

theorem Dialog.cells_modifyCell {d : Dialog} {body : Body} (hbody : d.content = .form body)
    (place : Nat) (change : Cell → Cell) :
    (d.modifyCell place change).cells = d.cells.modify place change := by
  simp only [Dialog.modifyCell, Dialog.cells, hbody]
  exact LawfulWidget.cells_modifyCell place change body

/-- A cell of a form that is replaced by another of its kind comes after as many others of it. -/
theorem cellAt?_modifyCell {s : Screen} {d : Dialog} {rest : List Layer} {body : Body}
    (hlayers : s.layers = .dialog d :: rest) (hbody : d.content = .form body) {n place : Nat}
    {a b : α} (ha : s.cellAt? kind n = some (place, a)) {cell : Cell} (hb : kind cell = some b) :
    (s.modifyCell place fun _ => cell).cellAt? kind n = some (place, b) := by
  simp only [cellAt?, hlayers, List.head?_cons, Option.bind_some] at ha
  simp only [modifyCell, cellAt?, hlayers, List.head?_cons, Option.bind_some, Layer.modifyCell,
    Layer.placesOf, Layer.cells, Dialog.cells_modifyCell hbody]
  exact (getElem?_places_modify hb ha).2

end Kind

/-! ## Drawn forms -/

theorem cells_ofList {axis : Axis} {α : Type} [Widget α] (members : List α) :
    Widget.cells (Pane.ofList members : Pane axis α) = members.flatMap Widget.cells := rfl

theorem cells_row (members : List Cell) : Widget.cells (Pane.ofList members : Row) = members :=
  List.flatMap_singleton' members

theorem cells_inputRow (i : Input) : Widget.cells (inputRow i) =
    [.label i.label, .field ⟨i.id, i.value, fieldWidth i.size, !i.disabled⟩]
      ++ i.affordances.map (affordanceCell !i.disabled) ++ noteCells i.description :=
  cells_row _

/-- The cells of a block, by what it shows. -/
theorem cells_blockView (b : Block) : Widget.cells (blockView b) =
    match b.body with
    | .input i => Widget.cells (inputRow i)
    | .select s =>
      [.label s.label, .choice (.ofSelect b.itemId s)] ++ noteCells s.description
    | .group g =>
      (g.instances.flatMap fun i => Widget.cells (inputRow i.input)) ++ Widget.cells (addRow g)
    | .fault _ => [] := by
  unfold blockView
  cases b.body with
  | input i => rfl
  | select s => exact cells_row _
  | group g =>
    show Widget.cells (Pane.ofList _ : Pane .column (Part Row)) = _
    rw [cells_ofList, List.flatMap_append, List.flatMap_map, List.flatMap_singleton]
    rfl
  | fault message => rfl

/-- The lines around the blocks are no cells, and hidden blocks are not drawn. -/
theorem cells_ofForm (f : Form) (status : Option String) : (Dialog.ofForm f status).cells =
    (f.blocks.filter fun b => !b.hidden).flatMap fun b => Widget.cells (blockView b) := by
  have hsection : ∀ s : FormSection, Widget.cells (sectionView s) =
      (s.items.filter fun b => !b.hidden).flatMap fun b => Widget.cells (blockView b) := by
    intro s
    simp only [sectionView, cells_ofList, List.flatMap_append, List.flatMap_map]
    rw [List.flatMap_eq_nil_iff.mpr (by simp [Widget.cells]), List.nil_append]
    rfl
  show Widget.cells (formBody f status) = _
  simp only [formBody, cells_ofList, List.flatMap_append, List.flatMap_map]
  rw [List.flatMap_eq_nil_iff.mpr (by simp [Widget.cells]), List.flatMap_eq_nil_iff.mpr]
  · simp only [List.nil_append, Form.blocks, List.filter_flatMap, List.flatMap_assoc]
    exact List.flatMap_congr fun s _ => hsection s
  · cases f.actions <;> simp [Widget.cells]

/-- The drop-down of a visible block is on the screen as it is drawn. -/
theorem choice_mem_ofForm {f : Form} {b : Block} (hb : b ∈ f.blocks) (hvisible : b.hidden = false)
    {c : Select} (hbody : b.body = .select c) (status : Option String) :
    Cell.choice (.ofSelect b.itemId c) ∈ (Dialog.ofForm f status).cells := by
  rw [cells_ofForm]
  refine List.mem_flatMap.mpr ⟨b, List.mem_filter.mpr ⟨hb, by simp [hvisible]⟩, ?_⟩
  simp [cells_blockView, hbody]

/-- The top layer is the form as it was drawn, but for the focus. -/
def Drawn (s : Screen) (f : Form) : Prop :=
  s.session.form = some f ∧
    ∃ d rest, s.layers = .dialog d :: rest ∧ (Dialog.ofForm f s.status).Refocused d

theorem drawn_of_ofSession? {session : Session} {status : Option String} {s : Screen}
    (hs : ofSession? session status = some s) : ∃ f, s.Drawn f ∧ s.layOut.Drawn f := by
  obtain ⟨f, hf, rfl⟩ := Option.map_eq_some_iff.mp hs
  exact ⟨f, ⟨hf, _, _, rfl, .buttons none⟩, hf, _, _, rfl, (Dialog.focusFirst_focusMoved _).refocused⟩

end SettingsForm.Screen
