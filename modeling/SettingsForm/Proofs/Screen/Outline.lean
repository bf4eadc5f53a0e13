import SettingsForm.Proofs.Form.Values
import SettingsForm.Proofs.Screen.Cells

/-!
# Outlines

The outline of a dialog leaves out where its focus is, what stands in its fields and which entries its
drop-downs show. Moving the focus, entering text and picking entries do not change it
(`Dialog.FocusMoved.outline`, `Dialog.outline_modifyCell`), and two forms that differ in values are
drawn with one outline (`outline_ofForm_of_related`).
-/

namespace SettingsForm

namespace Screen

/-! ## Widgets -/

/-- The cell without what stands in it. An entry of its own for a value that is no option stands
before the options. -/
def Cell.outline : Cell → Cell
  | .field f => .field { f with text := "" }
  | .choice c =>
    .choice { c with
      entries := if c.unmatched.isSome then c.entries.tail else c.entries
      shown := 0
      unmatched := none }
  | cell => cell

/-- Widgets with an outline, which neither a move of the focus changes nor a cell in the place of one
with the same outline. -/
class OutlinedWidget (α : Type) [Widget α] where
  outline : α → α
  cells_outline (a : α) : Widget.cells (outline a) = (Widget.cells a).map Cell.outline
  outline_modifyCell {place : Nat} {cell : Cell} {a : α}
    (hcell : ∀ c, (Widget.cells a)[place]? = some c → cell.outline = c.outline) :
    outline (Widget.modifyCell place (fun _ => cell) a) = outline a
  outline_takeFocus {approach : Approach} {a b : α} (hb : Widget.takeFocus? approach a = some b) :
    outline b = outline a
  outline_moveFocus {step : Step} {a b : α} (hb : Widget.moveFocus? step a = some b) :
    outline b = outline a

export OutlinedWidget (outline cells_outline outline_modifyCell outline_takeFocus outline_moveFocus)

instance : OutlinedWidget Cell where
  outline := Cell.outline
  cells_outline _ := rfl
  outline_modifyCell {place cell c} hcell := by
    cases place with
    | zero => exact hcell c rfl
    | succ place => rfl
  outline_takeFocus hb := by
    obtain ⟨-, hb⟩ := Option.ite_none_right_eq_some.mp hb
    rw [Option.some.inj hb]
  outline_moveFocus hb := by cases hb

namespace Pane

variable {axis : Axis} {α : Type} [Widget α] [OutlinedWidget α]

theorem map_outline_set {l : List α} {i : Nat} {a b : α} (ha : l[i]? = some a)
    (hb : outline b = outline a) : (l.set i b).map outline = l.map outline := by
  obtain ⟨hi, rfl⟩ := List.getElem?_eq_some_iff.mp ha
  rw [List.map_set, hb, ← List.getElem_map outline (h := by simpa using hi), List.set_getElem_self]

theorem map_outline_modifyMember {members : List α} {place : Nat} {cell : Cell}
    (hcell : ∀ c, (members.flatMap Widget.cells)[place]? = some c → cell.outline = c.outline) :
    (modifyMember members place fun _ => cell).map outline = members.map outline := by
  induction members generalizing place with
  | nil => rfl
  | cons a rest ih =>
    rw [List.flatMap_cons] at hcell
    unfold modifyMember
    by_cases hplace : place < (Widget.cells a).length
    · rw [if_pos hplace, List.map_cons, List.map_cons, outline_modifyCell]
      exact fun c hc => hcell c (by rw [List.getElem?_append_left hplace, hc])
    · rw [if_neg hplace, List.map_cons, List.map_cons, ih]
      exact fun c hc => hcell c (by rw [List.getElem?_append_right (Nat.le_of_not_lt hplace), hc])

/-- The outline of a pane. -/
def outlined (p : Pane axis α) : Pane axis α := .ofList (p.members.map outline)

theorem outlined_enter {p q : Pane axis α} {approach : Approach} {places : List Nat}
    (hq : p.enter? approach places = some q) : q.outlined = p.outlined := by
  obtain ⟨i, a, b, ha, hb, hmembers⟩ := exists_of_enter hq
  rw [outlined, hmembers, map_outline_set ha (outline_takeFocus hb), outlined]

theorem outlined_moveInside {p q : Pane axis α} {step : Step} (hq : p.moveInside? step = some q) :
    q.outlined = p.outlined := by
  obtain ⟨a, b, ha, hb, hmembers⟩ := exists_of_moveInside hq
  rw [outlined, hmembers, map_outline_set ha (outline_moveFocus hb), outlined]

instance : OutlinedWidget (Pane axis α) where
  outline := outlined
  cells_outline p := by
    show (p.members.map outline).flatMap Widget.cells = (p.members.flatMap Widget.cells).map _
    rw [List.flatMap_map, List.map_flatMap]
    exact List.flatMap_congr fun a _ => cells_outline a
  outline_modifyCell hcell := congrArg Pane.ofList (map_outline_modifyMember hcell)
  outline_takeFocus hb := outlined_enter hb
  outline_moveFocus hb := by
    rcases Option.or_eq_some_iff.mp hb with hinside | ⟨-, hout⟩
    · exact outlined_moveInside hinside
    · exact outlined_enter hout

end Pane

instance {α : Type} [Widget α] [OutlinedWidget α] : OutlinedWidget (Part α) where
  outline
    | .line text emphasis => .line text emphasis
    | .widget a => .widget (outline a)
  cells_outline p := by
    cases p with
    | line text emphasis => rfl
    | widget a => exact cells_outline a
  outline_modifyCell {place cell p} hcell := by
    cases p with
    | line text emphasis => rfl
    | widget a => exact congrArg Part.widget (outline_modifyCell hcell)
  outline_takeFocus {approach p q} hq := by
    cases p with
    | line text emphasis => cases hq
    | widget a =>
      obtain ⟨b, hb, rfl⟩ := Option.map_eq_some_iff.mp hq
      exact congrArg Part.widget (outline_takeFocus hb)
  outline_moveFocus {step p q} hq := by
    cases p with
    | line text emphasis => cases hq
    | widget a =>
      obtain ⟨b, hb, rfl⟩ := Option.map_eq_some_iff.mp hq
      exact congrArg Part.widget (outline_moveFocus hb)

instance : OutlinedWidget BlockView where
  outline
    | .row r => .row (outline r)
    | .column c => .column (outline c)
  cells_outline v := by
    cases v with
    | row r => exact cells_outline r
    | column c => exact cells_outline c
  outline_modifyCell {place cell v} hcell := by
    cases v with
    | row r => exact congrArg BlockView.row (outline_modifyCell hcell)
    | column c => exact congrArg BlockView.column (outline_modifyCell hcell)
  outline_takeFocus {approach v w} hw := by
    cases v with
    | row r =>
      obtain ⟨b, hb, rfl⟩ := Option.map_eq_some_iff.mp hw
      exact congrArg BlockView.row (outline_takeFocus hb)
    | column c =>
      obtain ⟨b, hb, rfl⟩ := Option.map_eq_some_iff.mp hw
      exact congrArg BlockView.column (outline_takeFocus hb)
  outline_moveFocus {step v w} hw := by
    cases v with
    | row r =>
      obtain ⟨b, hb, rfl⟩ := Option.map_eq_some_iff.mp hw
      exact congrArg BlockView.row (outline_moveFocus hb)
    | column c =>
      obtain ⟨b, hb, rfl⟩ := Option.map_eq_some_iff.mp hw
      exact congrArg BlockView.column (outline_moveFocus hb)

/-! ## Cells -/

theorem Cell.button?_outline (cell : Cell) : cell.outline.button? = cell.button? := by
  cases cell <;> rfl

/-- Showing another entry does not change the outline of a drop-down. -/
theorem outline_of_pick? {c shown : Choice} {entry : Nat} {value : Option String}
    (hpick : c.pick? entry = some (shown, value)) :
    (Cell.choice shown).outline = (Cell.choice c).outline := by
  obtain ⟨e, -, hshown⟩ := Option.map_eq_some_iff.mp hpick
  obtain ⟨rfl, -⟩ := Prod.mk.inj hshown
  rfl

/-- A drop-down is drawn with one outline, whatever is selected. -/
theorem outline_ofSelect (itemId : String) (c : Select) : (Cell.choice (.ofSelect itemId c)).outline =
    .choice ⟨itemId, c.options, 0, none, !c.disabled⟩ := by
  unfold Choice.ofSelect
  split <;> rfl

/-! ## Dialogs -/

/-- The content without what a user can change in it. -/
def Content.outline : Content → Content
  | .form body => .form (Screen.outline body)
  | .prompt f => .prompt { f with text := "" }
  | .message text => .message text

namespace Dialog

variable {d e : Dialog}

/-- The dialog without what a user can change in it. -/
def outline (d : Dialog) : Dialog := { d with content := d.content.outline, focusedButton := none }

theorem cells_outline (d : Dialog) : d.outline.cells = d.cells.map Cell.outline := by
  unfold cells outline Content.outline
  cases d.content with
  | form body => exact Screen.cells_outline body
  | prompt f => rfl
  | message text => rfl

/-- Dialogs with one outline have the same buttons. -/
theorem buttons_of_outline (hde : d.outline = e.outline) :
    (Layer.dialog d).buttons = (Layer.dialog e).buttons := by
  have hbuttons : ∀ d : Dialog, (Layer.dialog d).buttons = (Layer.dialog d.outline).buttons := by
    intro d
    simp only [Layer.buttons, cells_outline, List.filterMap_map, Function.comp_def,
      Cell.button?_outline]
    rfl
  rw [hbuttons d, hde, ← hbuttons e]

theorem isForm_of_outline (hde : d.outline = e.outline) :
    (Layer.dialog d).isForm = (Layer.dialog e).isForm := by
  have hform : ∀ d : Dialog, (Layer.dialog d).isForm = (Layer.dialog d.outline).isForm := by
    rintro ⟨title, content, buttons, focusedButton⟩
    cases content <;> rfl
  rw [hform d, hde, ← hform e]

theorem outline_modifyCell {place : Nat} {cell : Cell}
    (hcell : ∀ c, d.cells[place]? = some c → cell.outline = c.outline) :
    (d.modifyCell place fun _ => cell).outline = d.outline := by
  obtain ⟨title, content, buttons, focusedButton⟩ := d
  cases content with
  | form body =>
    have hbody : Screen.outline (Widget.modifyCell place (fun _ => cell) body) =
        Screen.outline body := Screen.outline_modifyCell hcell
    simp only [modifyCell, outline, Content.outline, hbody]
  | prompt f =>
    cases place with
    | zero =>
      have hfield : cell.outline = (Cell.field f).outline := hcell _ rfl
      cases cell with
      | field g =>
        obtain hsame : ({ g with text := "" } : Field) = { f with text := "" } :=
          Cell.field.inj hfield
        simp only [modifyCell, Widget.modifyCell, if_true, outline, Content.outline, hsame]
      | _ => cases hfield
    | succ place => rfl
  | message text => rfl

/-- The outline does not depend on where the focus is. -/
theorem FocusMoved.outline (h : d.FocusMoved e) : e.outline = d.outline := by
  cases h with
  | buttons focusedButton => rfl
  | entered hbody hmoved =>
    simp only [Dialog.outline, hbody, Content.outline, outline_takeFocus hmoved]
  | inside hbody hmoved =>
    simp only [Dialog.outline, hbody, Content.outline, Screen.outline_moveFocus hmoved]

end Dialog

end Screen

/-! ## Forms that differ in values -/

open Screen

/-- The bodies are drawn with one outline in whatever block they stand. -/
def BlockBody.SameView (x y : BlockBody) : Prop :=
  ∀ b : Block, outline (blockView { b with body := y }) = outline (blockView { b with body := x })

variable {f g : Form} {x y : BlockBody} {id value : String}

theorem BlockBody.SameView.refl (body : BlockBody) : SameView body body := fun _ => rfl

theorem BlockBody.SameView.select (c : Select) (value : String) :
    SameView (.select c) (.select { c with selected := value }) := by
  intro b
  have hrow : ∀ c : Select, outline (selectRow b.itemId c) = .ofList
      ([.label c.label, .choice ⟨b.itemId, c.options, 0, none, !c.disabled⟩] ++
        (noteCells c.description).map Cell.outline) := by
    intro c
    show Pane.ofList (List.map Cell.outline ([_, _] ++ _)) = _
    rw [List.map_append, List.map_cons, List.map_cons, outline_ofSelect]
    rfl
  exact congrArg BlockView.row ((hrow { c with selected := value }).trans (hrow c).symm)

/-- The button that adds an input depends on the ids of the inputs, not on their values. -/
theorem Screen.addRow_congr {g h : Group} (hids : h.ids = g.ids) (hbase : h.baseId = g.baseId)
    (hlabel : h.addLabel = g.addLabel) (hdisabled : h.disabled = g.disabled) :
    addRow h = addRow g := by
  have hlast : h.instances.getLast?.map (fun i => i.input.id) =
      g.instances.getLast?.map fun i => i.input.id := by
    rw [← List.getLast?_map, ← List.getLast?_map]
    exact congrArg List.getLast? hids
  simp only [addRow, hlast, hbase, hlabel, hdisabled]

theorem BlockBody.Entered.sameView (hentered : Entered id value x y) : SameView x y := by
  intro b
  cases hentered with
  | input hid => rfl
  | @inGroup g pre post i hinstances hid hpre =>
    have hadd : addRow { g with instances := pre ++ i.withValue value :: post } = addRow g := by
      refine addRow_congr ?_ rfl rfl rfl
      rw [Group.ids, Group.ids, hinstances, List.map_append, List.map_append]
      rfl
    have hrow : outline (Part.widget (inputRow (i.withValue value).input)) =
        outline (Part.widget (inputRow i.input)) := rfl
    refine congrArg (fun members => BlockView.column (.ofList members)) ?_
    simp only [hadd, hinstances, Pane.ofList, List.map_append, List.map_cons, hrow]

theorem map_eq_of_forall₂ {α β : Type} {P : α → α → Prop} {k : α → β} {l m : List α}
    (hlm : List.Forall₂ P l m) (hk : ∀ a b, P a b → k b = k a) : m.map k = l.map k := by
  induction hlm with
  | nil => rfl
  | cons hab _ ih => rw [List.map_cons, List.map_cons, hk _ _ hab, ih]

theorem filter_visible_forall₂ {l m : List Block}
    (hlm : List.Forall₂ (Block.Related BlockBody.SameView) l m) :
    List.Forall₂ (Block.Related BlockBody.SameView) (l.filter fun b => !b.hidden)
      (m.filter fun b => !b.hidden) := by
  induction hlm with
  | nil => exact .nil
  | @cons b c _ _ hbc _ ih =>
    rw [List.filter_cons, List.filter_cons, hbc.hidden]
    split
    · exact .cons hbc ih
    · exact ih

theorem outline_blockView_of_related {b c : Block} (hbc : b.Related BlockBody.SameView c) :
    outline (blockView c) = outline (blockView b) := by
  obtain ⟨itemId, advanced, hidden, body⟩ := c
  obtain rfl : itemId = b.itemId := hbc.itemId
  exact hbc.body b

theorem outline_sectionView_of_related {s t : FormSection}
    (hst : s.Related BlockBody.SameView t) : outline (sectionView t) = outline (sectionView s) := by
  refine congrArg Pane.ofList ?_
  simp only [sectionView, Pane.ofList, List.map_append, hst.configPath, List.map_map]
  refine congrArg (List.map _ _ ++ ·) (map_eq_of_forall₂ (filter_visible_forall₂ hst.items) ?_)
  exact fun b c hbc => congrArg Part.widget (outline_blockView_of_related hbc)

/-- Forms that differ in what has one outline are drawn with one outline. -/
theorem outline_ofForm_of_related (hfg : f.Related BlockBody.SameView g) (status : Option String) :
    (Dialog.ofForm g status).outline = (Dialog.ofForm f status).outline := by
  have hbuttons : formButtons g = formButtons f := by
    unfold formButtons
    rw [hfg.actions, hfg.showAdvanced]
  have hbody : outline (formBody g status) = outline (formBody f status) := by
    refine congrArg Pane.ofList ?_
    simp only [formBody, Pane.ofList, hfg.actions, List.map_append, List.map_map]
    refine congrArg (_ ++ ·) (map_eq_of_forall₂ hfg.sections fun s t hst => ?_)
    exact congrArg Part.widget (outline_sectionView_of_related hst)
  simp only [Dialog.outline, Dialog.ofForm, Content.outline, hbuttons, hbody]

end SettingsForm
