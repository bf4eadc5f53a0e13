import SettingsForm.Form.Update
import SettingsForm.Proofs.Form.Group
import SettingsForm.Proofs.Form.Related

/-!
# Edits of a form

`BlockBody.Step` lists what one operation can do to what a block shows; every edit of a form changes
the bodies of its blocks in this way. It keeps the outline of the form (`BlockBody.SameShape`), and
the ids that controls have on account of their items (`BlockBody.Regular`).
-/

namespace SettingsForm

/-! ## Changes of a body -/

namespace BlockBody

variable {x y z : BlockBody}

/-- What one operation can do to what a block shows. -/
inductive Step : BlockBody → BlockBody → Prop where
  | same (body : BlockBody) : Step body body
  | enter (i : Input) (value : String) : Step (.input i) (.input { i with value })
  | choose (c : Select) (value : String) : Step (.select c) (.select { c with selected := value })
  | group {g h : Group} (hstep : g.Step h) : Step (.group g) (.group h)

/-- The bodies differ at most in a value, or in the instances of a group. -/
inductive SameShape : BlockBody → BlockBody → Prop where
  | input (i : Input) (value : String) : SameShape (.input i) (.input { i with value })
  | select (c : Select) (selected : String) : SameShape (.select c) (.select { c with selected })
  | group (g : Group) (instances : List Instance) :
      SameShape (.group g) (.group { g with instances })
  | fault (message : String) : SameShape (.fault message) (.fault message)

theorem SameShape.refl : (body : BlockBody) → SameShape body body
  | .input i => .input i i.value
  | .select c => .select c c.selected
  | .group g => .group g g.instances
  | .fault message => .fault message

theorem SameShape.trans (hxy : SameShape x y) (hyz : SameShape y z) : SameShape x z := by
  cases hxy with
  | input i value => cases hyz with | input _ value' => exact .input i value'
  | select c selected => cases hyz with | select _ selected' => exact .select c selected'
  | group g instances => cases hyz with | group _ instances' => exact .group g instances'
  | fault message => exact hyz

theorem SameShape.eq_fault {message : String} (hx : SameShape (.fault message) x) :
    x = .fault message := by
  cases hx
  rfl

theorem Step.sameShape (hstep : Step x y) : SameShape x y := by
  cases hstep with
  | same => exact .refl x
  | enter i value => exact .input i value
  | choose c value => exact .select c value
  | @group g h hstep =>
    rw [hstep.eq_with_instances]
    exact .group g h.instances

/-- The ids of controls are those that an item's id gives them, and a group has an instance. -/
def Regular (itemId : String) : BlockBody → Prop
  | .input i => i.id = itemId
  | .select c => c.id = itemId
  | .group g => g.baseId = itemId ∧ g.Built ∧ g.instances ≠ []
  | .fault _ => True

theorem Step.regular (hstep : Step x y) {itemId : String} (hx : x.Regular itemId) :
    y.Regular itemId := by
  cases hstep with
  | same => exact hx
  | enter i value => exact hx
  | choose c value => exact hx
  | @group g h hstep =>
    obtain ⟨hbase, hbuilt, hne⟩ := hx
    refine ⟨?_, hstep.built hbuilt, hstep.instances_ne_nil hne⟩
    rw [hstep.eq_with_instances]
    exact hbase

/-- The number of instances that are shown. -/
def instanceCount : BlockBody → Nat
  | .group g => g.instances.length
  | _ => 0

/-- The suffixes of a group's instances are distinct and below a number. -/
def SuffixesBelow (n : Nat) : BlockBody → Prop
  | .group g => g.SuffixesBelow n
  | _ => True

theorem SuffixesBelow.mono {m n : Nat} (hx : x.SuffixesBelow m) (hmn : m ≤ n) :
    x.SuffixesBelow n := by
  cases x with
  | group g => exact Group.SuffixesBelow.mono hx hmn
  | _ => trivial

theorem Step.suffixesBelow (hstep : Step x y) {n : Nat} (hx : x.SuffixesBelow n)
    (hn : n + (y.instanceCount - x.instanceCount) < UInt32.size) :
    y.SuffixesBelow (n + (y.instanceCount - x.instanceCount)) := by
  cases hstep with
  | same => exact hx.mono (Nat.le_add_right _ _)
  | enter i value => trivial
  | choose c value => trivial
  | group hstep => exact hstep.suffixesBelow hx (Nat.le_of_lt hn)

end BlockBody

/-! ## Changes of a form -/

variable {f g : Form}

/-- What holds of the bodies of all blocks and is kept by a relation of bodies holds of the bodies of
a related form. -/
theorem Form.Related.forall_body {R : BlockBody → BlockBody → Prop} (hfg : f.Related R g)
    {P Q : String → BlockBody → Prop} (hPQ : ∀ id x y, R x y → P id x → Q id y)
    (hf : ∀ b ∈ f.blocks, P b.itemId b.body) : ∀ c ∈ g.blocks, Q c.itemId c.body := by
  have hblocks := hfg.blocks
  revert hf
  generalize f.blocks = l at hblocks
  generalize g.blocks = m at hblocks
  intro hf
  induction hblocks with
  | nil => simp
  | cons hbc _ ih =>
    intro c hc
    rcases List.mem_cons.mp hc with rfl | hc
    · rw [hbc.itemId]
      exact hPQ _ _ _ hbc.body (hf _ List.mem_cons_self)
    · exact ih (fun b hb => hf b (List.mem_cons_of_mem _ hb)) c hc

/-- Every control has the id that its item gives it. -/
def Form.Regular (f : Form) : Prop := ∀ b ∈ f.blocks, b.body.Regular b.itemId

theorem Form.Related.regular (hfg : f.Related BlockBody.Step g) (hf : f.Regular) : g.Regular :=
  hfg.forall_body (fun _ _ _ hstep hx => hstep.regular hx) hf

theorem modify_append_cons (pre post : List Instance) (i : Instance) (value : String) :
    (pre ++ i :: post).modify pre.length (·.withValue value) =
      pre ++ i.withValue value :: post := by
  induction pre with
  | nil => rfl
  | cons j pre ih => simp [ih]

/-- The group with another value in the first instance with an id, if there is one. -/
def Group.setValue? (g : Group) (id value : String) : Option Group :=
  (replaceFirst? (fun i : Instance => if i.input.id = id then some (i.withValue value) else none)
    g.instances).map fun instances => { g with instances }

theorem Group.step_of_setValue? {g h : Group} {id value : String}
    (hset : g.setValue? id value = some h) : g.Step h := by
  obtain ⟨l, hl, rfl⟩ := Option.map_eq_some_iff.mp hset
  obtain ⟨pre, i, j, post, hg, -, hj, rfl⟩ := exists_of_replaceFirst?_eq_some hl
  obtain ⟨-, hj⟩ := Option.ite_none_right_eq_some.mp hj
  obtain rfl := Option.some.inj hj
  have hstep := Group.Step.enter (g := g) pre.length value
  rwa [hg, modify_append_cons] at hstep

/-- Setting the value of a block's instance changes its group. -/
theorem Block.setValue?_of_group {b : Block} {g : Group} (hbody : b.body = .group g)
    (id value : String) : b.setValue? id value true =
      (g.setValue? id value).map fun h => { b with body := .group h } := by
  unfold Block.setValue? Group.setValue?
  rw [hbody]
  simp only [if_true, Option.map_map]
  rfl

theorem Block.setValue?_related {b c : Block} {id value : String} {instances : Bool}
    (hc : b.setValue? id value instances = some c) : b.Related BlockBody.Step c := by
  cases hbody : b.body with
  | input i =>
    rw [Block.setValue?, hbody] at hc
    obtain ⟨-, hc⟩ := Option.ite_none_right_eq_some.mp hc
    obtain rfl := Option.some.inj hc
    exact ⟨rfl, rfl, rfl, hbody ▸ .enter i value⟩
  | group g =>
    cases instances with
    | false => simp [Block.setValue?, hbody] at hc
    | true =>
      rw [b.setValue?_of_group hbody] at hc
      obtain ⟨h, hh, rfl⟩ := Option.map_eq_some_iff.mp hc
      exact ⟨rfl, rfl, rfl, hbody ▸ .group (Group.step_of_setValue? hh)⟩
  | select c => simp [Block.setValue?, hbody] at hc
  | fault message => simp [Block.setValue?, hbody] at hc

/-- Setting the value of a text input changes one body. -/
theorem Form.setValue?_related {id value : String} (hg : f.setValue? id value = some g) :
    f.Related BlockBody.Step g :=
  replaceBlock?_related .same hg fun _ _ _ hc => Block.setValue?_related hc

/-! ## Fields of a regular form -/

theorem Block.field?_fst {b : Block} (hb : b.body.Regular b.itemId)
    {field : String × List String} (hfield : b.field? = some field) : field.1 = b.itemId := by
  unfold Block.field? at hfield
  cases hbody : b.body with
  | input i =>
    rw [hbody] at hb hfield
    exact Option.some.inj hfield ▸ hb
  | select c =>
    rw [hbody] at hb hfield
    exact Option.some.inj hfield ▸ hb
  | group g =>
    rw [hbody] at hb hfield
    exact Option.some.inj hfield ▸ hb.1
  | fault message =>
    rw [hbody] at hfield
    cases hfield

/-- Where no item has two blocks, the field of a block is found under the item's id. -/
theorem Form.find?_field (hf : (f.blocks.map Block.itemId).Nodup) (hregular : f.Regular)
    {b : Block} (hb : b ∈ f.blocks) {field : String × List String} (hfield : b.field? = some field) :
    f.updateRequest.fields.find? (fun x => x.1 = b.itemId) = some field := by
  have hmem : field ∈ f.updateRequest.fields := List.mem_filterMap.mpr ⟨b, hb, hfield⟩
  obtain ⟨found, hfound⟩ : ∃ found,
      f.updateRequest.fields.find? (fun x => x.1 = b.itemId) = some found :=
    Option.isSome_iff_exists.mp (List.find?_isSome.mpr
      ⟨field, hmem, by simpa using Block.field?_fst (hregular b hb) hfield⟩)
  obtain ⟨c, hc, hother⟩ := List.mem_filterMap.mp (List.mem_of_find?_eq_some hfound)
  have hid : c.itemId = b.itemId := by
    rw [← Block.field?_fst (hregular c hc) hother]
    simpa using List.find?_some hfound
  obtain rfl := List.inj_on_of_nodup_map hf hc hb hid
  rw [hfound, ← hfield, hother]

/-! ## Showing and hiding -/

theorem Block.setAdvancedVisible_itemId (b : Block) (visible : Bool) :
    (b.setAdvancedVisible visible).itemId = b.itemId := by
  unfold setAdvancedVisible
  split <;> rfl

theorem Block.setAdvancedVisible_advanced (b : Block) (visible : Bool) :
    (b.setAdvancedVisible visible).advanced = b.advanced := by
  unfold setAdvancedVisible
  split <;> rfl

theorem Block.setAdvancedVisible_body (b : Block) (visible : Bool) :
    (b.setAdvancedVisible visible).body = b.body := by
  unfold setAdvancedVisible
  split <;> rfl

theorem Block.setAdvancedVisible_hidden (b : Block) (visible : Bool) :
    (b.setAdvancedVisible visible).hidden = if b.advanced then !visible else b.hidden := by
  unfold setAdvancedVisible
  split <;> rfl

theorem Form.blocks_setAdvancedVisible (f : Form) (visible : Bool) :
    (f.setAdvancedVisible visible).blocks =
      f.blocks.map fun b => b.setAdvancedVisible visible := by
  simp only [setAdvancedVisible, blocks, List.flatMap_map, List.map_flatMap]

theorem Form.Regular.setAdvancedVisible (hf : f.Regular) (visible : Bool) :
    (f.setAdvancedVisible visible).Regular := by
  intro c hc
  rw [blocks_setAdvancedVisible] at hc
  obtain ⟨b, hb, rfl⟩ := List.mem_map.mp hc
  rw [Block.setAdvancedVisible_body, Block.setAdvancedVisible_itemId]
  exact hf b hb

/-- Related forms stay related when advanced blocks are shown or hidden in both. -/
theorem Form.Related.setAdvancedVisible {R : BlockBody → BlockBody → Prop} (hfg : f.Related R g)
    (visible : Bool) : (f.setAdvancedVisible visible).Related R (g.setAdvancedVisible visible) := by
  refine ⟨hfg.actions, rfl, ?_⟩
  refine List.forall₂_map_left_iff.mpr (List.forall₂_map_right_iff.mpr ?_)
  refine hfg.sections.imp fun s t hst => ⟨hst.name, hst.configPath, ?_⟩
  refine List.forall₂_map_left_iff.mpr (List.forall₂_map_right_iff.mpr ?_)
  refine hst.items.imp fun b c hbc => ⟨?_, ?_, ?_, ?_⟩
  · rw [Block.setAdvancedVisible_itemId, Block.setAdvancedVisible_itemId, hbc.itemId]
  · rw [Block.setAdvancedVisible_advanced, Block.setAdvancedVisible_advanced, hbc.advanced]
  · rw [Block.setAdvancedVisible_hidden, Block.setAdvancedVisible_hidden, hbc.advanced, hbc.hidden]
  · rw [Block.setAdvancedVisible_body, Block.setAdvancedVisible_body]
    exact hbc.body

theorem Block.field?_setAdvancedVisible (b : Block) (visible : Bool) :
    (b.setAdvancedVisible visible).field? = b.field? := by
  unfold Block.field?
  rw [setAdvancedVisible_body]

/-- Showing or hiding advanced blocks does not change what saving sends. -/
theorem Form.updateRequest_setAdvancedVisible (f : Form) (visible : Bool) :
    (f.setAdvancedVisible visible).updateRequest = f.updateRequest := by
  unfold updateRequest
  rw [blocks_setAdvancedVisible, List.filterMap_map]
  congr 1
  exact List.filterMap_congr fun b _ => Block.field?_setAdvancedVisible b visible

end SettingsForm
