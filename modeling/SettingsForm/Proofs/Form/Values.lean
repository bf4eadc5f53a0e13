import SettingsForm.Proofs.Form.Edit
import SettingsForm.Proofs.Form.Resize

/-!
# Values by the ids of controls

A value is read in two passes, over the controls of items and then over those of groups. It is written
in one pass, which reaches into groups when a look at the items has found no control with the id. Both
mean the same control, whichever controls share an id (`controlValue?_of_setValue?`).
-/

namespace SettingsForm

/-! ## Ids by the kind of control -/

namespace Block

/-- The id of the item's text input. -/
def inputIds (b : Block) : List String :=
  match b.body with
  | .input i => [i.id]
  | _ => []

/-- The id of the item's drop-down. -/
def selectIds (b : Block) : List String :=
  match b.body with
  | .select c => [c.id]
  | _ => []

/-- The ids of the group's inputs. -/
def instanceIds (b : Block) : List String :=
  match b.body with
  | .group g => g.ids
  | _ => []

end Block

namespace Form

/-- The ids of the items' text inputs. -/
def inputIds (f : Form) : List String := f.blocks.flatMap Block.inputIds

/-- The ids of the drop-downs. -/
def selectIds (f : Form) : List String := f.blocks.flatMap Block.selectIds

/-- The ids of the groups' inputs. -/
def instanceIds (f : Form) : List String := f.blocks.flatMap Block.instanceIds

/-- The id is that of an item's text input, or of a group's where no control of an item has it. -/
def TakesText (f : Form) (id : String) : Prop :=
  id ∈ f.inputIds ∨ id ∉ f.inputIds ∧ id ∉ f.selectIds ∧ id ∈ f.instanceIds

end Form

variable {f g : Form} {b c : Block} {id value : String}

theorem Block.itemValue?_eq_none : b.itemValue? id = none ↔ id ∉ b.inputIds ∧ id ∉ b.selectIds := by
  unfold itemValue? inputIds selectIds
  cases b.body <;> simp [eq_comm]

theorem Block.instanceValue?_eq_none : b.instanceValue? id = none ↔ id ∉ b.instanceIds := by
  unfold instanceValue? instanceIds
  cases b.body <;> simp [Group.ids]

theorem Form.isItemControl_eq_false :
    f.isItemControl id = false ↔ id ∉ f.inputIds ∧ id ∉ f.selectIds := by
  have hblocks : f.isItemControl id = false ↔ ∀ b ∈ f.blocks, b.itemValue? id = none := by
    simp [isItemControl]
  simp only [hblocks, Block.itemValue?_eq_none, inputIds, selectIds, List.mem_flatMap, not_exists,
    not_and, forall_and]

/-- Where no item has two blocks, an id is not that of a text input and of a drop-down. -/
theorem Form.Regular.not_mem_selectIds (hf : f.Regular) (hnodup : (f.blocks.map Block.itemId).Nodup)
    (hid : id ∈ f.inputIds) : id ∉ f.selectIds := by
  intro hselect
  obtain ⟨b, hb, hinput⟩ := List.mem_flatMap.mp hid
  obtain ⟨c, hc, hselect⟩ := List.mem_flatMap.mp hselect
  have hbRegular := hf b hb
  have hcRegular := hf c hc
  unfold Block.inputIds at hinput
  unfold Block.selectIds at hselect
  split at hinput <;> rename_i hbody <;> [skip; cases hinput]
  split at hselect <;> rename_i hcontrol <;> [skip; cases hselect]
  rw [hbody] at hbRegular
  rw [hcontrol] at hcRegular
  -- both blocks are of the item with the id
  have hbc : b.itemId = c.itemId := by
    rw [← show _ = b.itemId from hbRegular, ← show _ = c.itemId from hcRegular,
      ← List.mem_singleton.mp hinput, ← List.mem_singleton.mp hselect]
  rw [List.inj_on_of_nodup_map hnodup hb hc hbc, hcontrol] at hbody
  cases hbody

/-! ## One block -/

/-- The value of one input with an id is replaced, in a group that of the first with it. -/
inductive BlockBody.Entered (id value : String) : BlockBody → BlockBody → Prop where
  | input {i : Input} (hid : i.id = id) : Entered id value (.input i) (.input { i with value })
  | inGroup {g : Group} {pre post : List Instance} {i : Instance}
      (hinstances : g.instances = pre ++ i :: post) (hid : i.input.id = id)
      (hpre : ∀ j ∈ pre, j.input.id ≠ id) :
      Entered id value (.group g) (.group { g with instances := pre ++ i.withValue value :: post })

theorem Group.setValue?_eq_none {g : Group} : g.setValue? id value = none ↔ id ∉ g.ids := by
  simp [setValue?, replaceFirst?_eq_none, ids]

theorem Group.entered_of_setValue? {g h : Group} (hset : g.setValue? id value = some h) :
    BlockBody.Entered id value (.group g) (.group h) := by
  obtain ⟨l, hl, rfl⟩ := Option.map_eq_some_iff.mp hset
  obtain ⟨pre, i, j, post, hg, hpre, hj, rfl⟩ := exists_of_replaceFirst?_eq_some hl
  obtain ⟨hid, hj⟩ := Option.ite_none_right_eq_some.mp hj
  obtain rfl := Option.some.inj hj
  exact .inGroup hg hid fun j hj => by simpa using hpre j hj

theorem Block.setValue?_eq_none {instances : Bool} : b.setValue? id value instances = none ↔
    id ∉ b.inputIds ∧ (instances = true → id ∉ b.instanceIds) := by
  cases hbody : b.body with
  | group g =>
    cases instances with
    | false => simp [setValue?, inputIds, hbody]
    | true =>
      rw [b.setValue?_of_group hbody, Option.map_eq_none_iff, Group.setValue?_eq_none]
      simp [inputIds, instanceIds, hbody]
  | _ => simp [setValue?, inputIds, instanceIds, hbody, eq_comm]

/-- Setting a value in a block enters it in an input, and in a group only where that is meant. -/
theorem Block.exists_of_setValue? {instances : Bool}
    (hc : b.setValue? id value instances = some c) : ∃ body, c = { b with body } ∧
      BlockBody.Entered id value b.body body ∧ (instances = false → ∃ i, b.body = .input i) := by
  cases hbody : b.body with
  | input i =>
    rw [setValue?, hbody] at hc
    obtain ⟨hid, hc⟩ := Option.ite_none_right_eq_some.mp hc
    exact ⟨_, (Option.some.inj hc).symm, .input hid, fun _ => ⟨i, rfl⟩⟩
  | group g =>
    cases instances with
    | false => simp [setValue?, hbody] at hc
    | true =>
      rw [b.setValue?_of_group hbody] at hc
      obtain ⟨h, hh, rfl⟩ := Option.map_eq_some_iff.mp hc
      exact ⟨_, rfl, Group.entered_of_setValue? hh, fun htrue => by cases htrue⟩
  | select c => simp [setValue?, hbody] at hc
  | fault message => simp [setValue?, hbody] at hc

/-- The values of the controls with other ids are as before. -/
theorem BlockBody.Entered.values_of_ne {body : BlockBody} (hentered : Entered id value b.body body)
    {other : String} (hother : other ≠ id) :
    ({ b with body } : Block).itemValue? other = b.itemValue? other ∧
      ({ b with body } : Block).instanceValue? other = b.instanceValue? other := by
  unfold Block.itemValue? Block.instanceValue?
  revert hentered
  generalize b.body = before
  intro hentered
  cases hentered with
  | input hid => simp [hid, hother.symm]
  | inGroup hinstances hid =>
    simp [hinstances, Instance.withValue, List.find?_append, hid, hother.symm]

/-- The input with the id is the first of its block, and has the value. -/
theorem BlockBody.Entered.reads {body : BlockBody} (hentered : Entered id value b.body body) :
    ((∃ i, b.body = .input i) → ({ b with body } : Block).itemValue? id = some value) ∧
      ((∀ i, b.body ≠ .input i) → ({ b with body } : Block).itemValue? id = none ∧
        ({ b with body } : Block).instanceValue? id = some value) := by
  unfold Block.itemValue? Block.instanceValue?
  revert hentered
  generalize b.body = before
  intro hentered
  cases hentered with
  | input hid => simp [hid]
  | @inGroup g pre post i hinstances hid hpre =>
    have hnone : pre.find? (fun j => j.input.id = id) = none := by simpa using hpre
    simp [Instance.withValue, List.find?_append, hnone, hid]

theorem BlockBody.Entered.mem_inputIds {body : BlockBody} (hentered : Entered id value b.body body)
    (hinput : ∃ i, b.body = .input i) : id ∈ b.inputIds := by
  obtain ⟨i, hi⟩ := hinput
  rw [hi] at hentered
  cases hentered with
  | input hid => simp [Block.inputIds, hi, hid]

/-! ## The form -/

theorem Form.setValue?_eq_none : f.setValue? id value = none ↔ ¬ f.TakesText id := by
  have hblocks : f.setValue? id value = none ↔
      id ∉ f.inputIds ∧ (f.isItemControl id = false → id ∉ f.instanceIds) := by
    simp only [setValue?, replaceBlock?_eq_none, Block.setValue?_eq_none, Bool.not_eq_true', inputIds,
      instanceIds, List.mem_flatMap, not_exists, not_and]
    exact ⟨fun h => ⟨fun b hb => (h b hb).1, fun hitem b hb => (h b hb).2 hitem⟩,
      fun h b hb => ⟨h.1 b hb, fun hitem => h.2 hitem b hb⟩⟩
  rw [hblocks, isItemControl_eq_false, TakesText]
  tauto

theorem findSome?_append_cons {α β : Type} {p : α → Option β} {pre post : List α} {a : α} {v : β}
    (hpre : ∀ x ∈ pre, p x = none) (ha : p a = some v) :
    (pre ++ a :: post).findSome? p = some v := by
  rw [List.findSome?_append, List.findSome?_eq_none_iff.mpr hpre, Option.none_or,
    List.findSome?_cons, ha]

section Reading

variable {l r : List Block} (hblocks : f.blocks = l ++ c :: r)

include hblocks

theorem Form.controlValue?_of_item (hl : ∀ x ∈ l, x.itemValue? id = none)
    (hc : c.itemValue? id = some value) : f.controlValue? id = some value := by
  have hitem : f.blocks.findSome? (fun x => x.itemValue? id) = some value :=
    hblocks ▸ findSome?_append_cons hl hc
  rw [controlValue?, hitem, Option.some_or]

theorem Form.controlValue?_of_instance (hitems : ∀ x ∈ f.blocks, x.itemValue? id = none)
    (hl : ∀ x ∈ l, x.instanceValue? id = none) (hc : c.instanceValue? id = some value) :
    f.controlValue? id = some value := by
  have hinstance : f.blocks.findSome? (fun x => x.instanceValue? id) = some value :=
    hblocks ▸ findSome?_append_cons hl hc
  rw [controlValue?, List.findSome?_eq_none_iff.mpr hitems, Option.none_or, hinstance]

end Reading

/-- Where a value is set: in the first block that takes it, which is a group's only when no item has a
control with the id. -/
theorem Form.split_of_setValue? (hg : f.setValue? id value = some g) : ∃ l b r body,
    f.blocks = l ++ b :: r ∧ g.blocks = l ++ { b with body } :: r ∧
      (∀ x ∈ l, x.setValue? id value (!f.isItemControl id) = none) ∧ f.Replaced b body g ∧
      BlockBody.Entered id value b.body body ∧
      (f.isItemControl id = true → ∃ i, b.body = .input i) := by
  obtain ⟨before, s, pre, b, c, post, after, hs, hb, hnone, hc, hchanged⟩ :=
    split_of_replaceBlock? hg
  obtain ⟨body, rfl, hentered, hitem⟩ := Block.exists_of_setValue? hc
  exact ⟨_, b, _, body, blocks_split hs hb, blocks_split (congrArg Form.sections hchanged) rfl, hnone,
    ⟨before, s, pre, post, after, hs, hb, hchanged⟩, hentered,
    fun hcontrol => hitem (by rw [hcontrol]; rfl)⟩

/-- Setting the value of a control changes that value and nothing else. A control of an item comes
before those of groups. -/
theorem Form.exists_of_setValue? (hg : f.setValue? id value = some g) : ∃ b body,
    f.Replaced b body g ∧ BlockBody.Entered id value b.body body ∧
      (id ∈ f.inputIds → ∃ i, b.body = .input i) := by
  obtain ⟨l, b, r, body, -, -, -, hreplaced, hentered, hitem⟩ := split_of_setValue? hg
  refine ⟨b, body, hreplaced, hentered, fun hid => hitem ?_⟩
  by_contra hcontrol
  exact (isItemControl_eq_false.mp (by simpa using hcontrol)).1 hid

/-- Reading the value that was set gives it back. -/
theorem Form.controlValue?_of_setValue? (hf : f.Regular)
    (hnodup : (f.blocks.map Block.itemId).Nodup) (hg : f.setValue? id value = some g) :
    g.controlValue? id = some value := by
  obtain ⟨l, b, r, body, hblocks, hafter, hnone, -, hentered, hitem⟩ := split_of_setValue? hg
  by_cases hbody : ∃ i, b.body = .input i
  · have hid : id ∈ f.inputIds :=
      List.mem_flatMap.mpr ⟨b, by simp [hblocks], hentered.mem_inputIds hbody⟩
    have hselect := hf.not_mem_selectIds hnodup hid
    refine controlValue?_of_item hafter (fun x hx => ?_) (hentered.reads.1 hbody)
    refine Block.itemValue?_eq_none.mpr ⟨(Block.setValue?_eq_none.mp (hnone x hx)).1, fun h => ?_⟩
    exact hselect (List.mem_flatMap.mpr ⟨x, by simp [hblocks, hx], h⟩)
  · have hcontrol : f.isItemControl id = false := by simpa using fun h => hbody (hitem h)
    have hitems : ∀ x ∈ f.blocks, x.itemValue? id = none := by simpa [isItemControl] using hcontrol
    obtain ⟨hitemValue, hinstanceValue⟩ := hentered.reads.2 (by simpa using hbody)
    refine controlValue?_of_instance hafter (fun x hx => ?_) (fun x hx => ?_) hinstanceValue
    · rw [hafter] at hx
      rw [hblocks] at hitems
      rcases List.mem_append.mp hx with hx | hx
      · exact hitems x (List.mem_append_left _ hx)
      · rcases List.mem_cons.mp hx with rfl | hx
        · exact hitemValue
        · exact hitems x (by simp [hx])
    · exact Block.instanceValue?_eq_none.mpr
        ((Block.setValue?_eq_none.mp (hnone x hx)).2 (by rw [hcontrol]; rfl))

/-- Reading any other control gives what it gave before. -/
theorem Form.controlValue?_of_setValue?_of_ne (hg : f.setValue? id value = some g) {other : String}
    (hother : other ≠ id) : g.controlValue? other = f.controlValue? other := by
  obtain ⟨l, b, r, body, hblocks, hafter, -, -, hentered, -⟩ := split_of_setValue? hg
  obtain ⟨hitemValue, hinstanceValue⟩ := hentered.values_of_ne hother
  simp only [controlValue?, hblocks, hafter, List.findSome?_append, List.findSome?_cons, hitemValue,
    hinstanceValue]

end SettingsForm
