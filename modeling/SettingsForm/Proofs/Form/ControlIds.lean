import SettingsForm.Proofs.Form.Render
import Mathlib.Algebra.Order.BigOperators.Group.List
import Mathlib.Algebra.Order.Ring.Nat

/-!
# Ids of controls

The control of an item with one value has the item's id; those of an item with several have that id
with a number after it. Hence items share an id of a control only when the id of one of them is that
of the other with digits after it (`Item.eq_of_names`), and a catalog reports such items. The ids of
a form's controls are distinct when there are none and the suffixes in each group are distinct
(`controlIds_nodup`).
-/

namespace SettingsForm

/-! ## Ids of instances -/

theorem toList_instanceId (baseId : String) (suffix : UInt32) :
    (instanceId baseId suffix).toList = baseId.toList ++ Nat.toDigits 10 suffix.toNat := by
  rw [instanceId, String.toList_append]
  exact congrArg _ Nat.toList_repr

theorem instanceId_injective (baseId : String) : Function.Injective (instanceId baseId) := by
  intro m n h
  have hlist := congrArg String.toList h
  rw [toList_instanceId, toList_instanceId] at hlist
  have hdigits := congrArg (Nat.ofDigitChars 10 · 0) (List.append_cancel_left hlist)
  simp only [Nat.ofDigitChars_ten_toDigits] at hdigits
  exact UInt32.toNat_inj.mp hdigits

theorem isDigit_of_mem_digits {suffix : UInt32} :
    ∀ c ∈ Nat.toDigits 10 suffix.toNat, c.isDigit = true :=
  fun _ hc => Nat.isDigit_of_mem_toDigits (by decide) (by decide) hc

theorem isInstanceIdOf_of_append {base id : String} {digits : List Char}
    (hid : id.toList = base.toList ++ digits) (hne : digits ≠ [])
    (hdigits : ∀ c ∈ digits, c.isDigit = true) : isInstanceIdOf base id = true := by
  have hprefix : base.toList.isPrefixOf? id.toList = some digits :=
    List.isPrefixOf?_eq_some_iff_append_eq.mpr hid.symm
  simpa [isInstanceIdOf, hprefix, hne] using hdigits

/-- An id followed by a number is that of an instance. -/
theorem isInstanceIdOf_instanceId (baseId : String) (suffix : UInt32) :
    isInstanceIdOf baseId (instanceId baseId suffix) = true :=
  isInstanceIdOf_of_append (toList_instanceId baseId suffix) Nat.toDigits_ne_nil
    isDigit_of_mem_digits

/-- Two ids that become the same by numbers after them differ in digits at the end of one. -/
theorem eq_or_isInstanceIdOf {a b : String} {m n : UInt32}
    (h : instanceId a m = instanceId b n) :
    a = b ∨ isInstanceIdOf a b = true ∨ isInstanceIdOf b a = true := by
  have hlist := congrArg String.toList h
  rw [toList_instanceId, toList_instanceId] at hlist
  rcases List.append_eq_append_iff.mp hlist with ⟨rest, hb, hm⟩ | ⟨rest, ha, hn⟩
  · by_cases hrest : rest = []
    · rw [hrest, List.append_nil] at hb
      exact .inl (String.toList_inj.mp hb).symm
    · refine .inr (.inl (isInstanceIdOf_of_append hb hrest fun c hc => ?_))
      exact isDigit_of_mem_digits c (hm ▸ List.mem_append_left _ hc)
  · by_cases hrest : rest = []
    · rw [hrest, List.append_nil] at ha
      exact .inl (String.toList_inj.mp ha)
    · refine .inr (.inr (isInstanceIdOf_of_append ha hrest fun c hc => ?_))
      exact isDigit_of_mem_digits c (hn ▸ List.mem_append_left _ hc)

/-! ## Ids that items give -/

/-- The item gives the id to one of its controls. -/
def Item.Names (item : Item) (id : String) : Prop :=
  if item.isMultiple then ∃ suffix, id = instanceId item.id suffix else id = item.id

theorem Item.eq_of_names {item other : Item} {id : String} (hitem : item.Names id)
    (hother : other.Names id) : item.id = other.id ∨
      (item.isMultiple = true ∧ isInstanceIdOf item.id other.id = true) ∨
      (other.isMultiple = true ∧ isInstanceIdOf other.id item.id = true) := by
  unfold Names at hitem hother
  cases hm : item.isMultiple with
  | false =>
    rw [hm, if_neg Bool.false_ne_true] at hitem
    subst hitem
    cases hn : other.isMultiple with
    | false =>
      rw [hn, if_neg Bool.false_ne_true] at hother
      exact .inl hother
    | true =>
      rw [hn, if_pos rfl] at hother
      obtain ⟨suffix, hsuffix⟩ := hother
      exact .inr (.inr ⟨rfl, hsuffix ▸ isInstanceIdOf_instanceId other.id suffix⟩)
  | true =>
    rw [hm, if_pos rfl] at hitem
    obtain ⟨suffix, rfl⟩ := hitem
    cases hn : other.isMultiple with
    | false =>
      rw [hn, if_neg Bool.false_ne_true] at hother
      exact .inr (.inl ⟨rfl, hother ▸ isInstanceIdOf_instanceId item.id suffix⟩)
    | true =>
      rw [hn, if_pos rfl] at hother
      obtain ⟨last, hlast⟩ := hother
      rcases eq_or_isInstanceIdOf hlast with heq | hfirst | hsecond
      · exact .inl heq
      · exact .inr (.inl ⟨rfl, hfirst⟩)
      · exact .inr (.inr ⟨rfl, hsecond⟩)

/-- No item was reported for having the id of an instance of another one. -/
def Catalog.CollisionFree (c : Catalog) : Prop :=
  ∀ fault ∈ c.faults, ∀ base, fault.cause ≠ .instanceCollision base

/-- Without reported collisions, the items that give an id to controls are one. -/
theorem Catalog.Sound.eq_of_names {c : Catalog} (hc : c.Sound) (hfree : c.CollisionFree)
    {item other : Item} (hitem : item ∈ c.items) (hother : other ∈ c.items) {id : String}
    (hid : item.Names id) (hotherId : other.Names id) : item.id = other.id := by
  rcases Item.eq_of_names hid hotherId with heq | ⟨hmultiple, hdigits⟩ | ⟨hmultiple, hdigits⟩
  · exact heq
  · obtain ⟨first, hfault⟩ := hc.reported other hother item hitem hmultiple hdigits
    exact absurd rfl (hfree _ hfault first)
  · obtain ⟨first, hfault⟩ := hc.reported item hitem other hother hmultiple hdigits
    exact absurd rfl (hfree _ hfault first)

/-! ## Controls of a form -/

/-- The controls of a block of the rendered shape have ids that its item gives. -/
theorem Block.names_of_mem_controlIds {c : Catalog} {values : Snapshot} {ctx : RenderContext}
    {id : String} {r b : Block} (hr : Form.renderId? c values ctx id = some r)
    (hrb : r.Related BlockBody.SameShape b) (hregular : b.body.Regular b.itemId) {controlId : String}
    (hcontrol : controlId ∈ b.controlIds) :
    ∃ item ∈ c.items, item.id = b.itemId ∧ item.Names controlId := by
  rcases Form.renderId?_cases hr with ⟨item, hitem, rfl⟩ | ⟨-, fault, rfl⟩
  · have hid : b.itemId = item.id := hrb.itemId
    refine ⟨item, (Catalog.item?_some hitem).1, hid.symm, ?_⟩
    unfold Block.controlIds at hcontrol
    unfold Item.Names
    rcases Item.sameShape_cases (show BlockBody.SameShape (item.body (values.lookup id)
      ctx.writable) b.body from hrb.body) with ⟨field, instances, -, hmultiple, -, hbody⟩ |
      ⟨field, entered, -, hmultiple, -, hbody⟩ | ⟨options, selected, -, hmultiple, -, hbody⟩
    all_goals
      rw [hbody] at hregular hcontrol
      rw [hmultiple]
    · obtain ⟨-, hbuilt, -⟩ := hregular
      obtain ⟨i, hi, rfl⟩ := List.mem_map.mp hcontrol
      exact ⟨i.suffix, congrArg (fun i => i.input.id) (hbuilt i hi)⟩
    · exact List.mem_singleton.mp hcontrol
    · exact List.mem_singleton.mp hcontrol
  · rw [Block.controlIds, BlockBody.SameShape.eq_fault hrb.body]
      at hcontrol
    simp at hcontrol

/-- Instances as the template builds them have distinct ids when their suffixes are distinct. -/
theorem Group.Built.ids_nodup {g : Group} (hg : g.Built)
    (hsuffixes : (g.instances.map Instance.suffix).Nodup) :
    (g.instances.map fun i => i.input.id).Nodup := by
  have hids : g.instances.map (fun i => i.input.id) =
      (g.instances.map Instance.suffix).map (instanceId g.baseId) := by
    rw [List.map_map]
    exact List.map_congr_left fun i hi => congrArg (fun i => i.input.id) (hg i hi)
  rw [hids]
  exact hsuffixes.map (instanceId_injective g.baseId)

/-- The controls of a block have distinct ids. -/
theorem Block.controlIds_nodup {b : Block} {n : Nat} (hregular : b.body.Regular b.itemId)
    (hb : b.body.SuffixesBelow n) : b.controlIds.Nodup := by
  unfold controlIds
  generalize b.body = shown at hregular hb
  cases shown with
  | input i => exact List.nodup_singleton _
  | select c => exact List.nodup_singleton _
  | group g =>
    obtain ⟨-, hbuilt, -⟩ := hregular
    exact hbuilt.ids_nodup hb.nodup
  | fault message => exact List.nodup_nil

/-! ## Instances created -/

namespace Form

variable {f g : Form} {n : Nat}

/-- The number of instances that the form shows. -/
def instanceCount (f : Form) : Nat := (f.blocks.map fun b => b.body.instanceCount).sum

/-- The number of instances that a form with the same blocks shows in addition, group by group. -/
def gained (f g : Form) : Nat :=
  (List.zipWith (fun b c => c.body.instanceCount - b.body.instanceCount) f.blocks g.blocks).sum

/-- The suffixes in every group are distinct and below a number. -/
def SuffixesBelow (n : Nat) (f : Form) : Prop := ∀ b ∈ f.blocks, b.body.SuffixesBelow n

theorem SuffixesBelow.mono {m : Nat} (hf : f.SuffixesBelow m) (hmn : m ≤ n) : f.SuffixesBelow n :=
  fun b hb => (hf b hb).mono hmn

theorem SuffixesBelow.setAdvancedVisible (hf : f.SuffixesBelow n) (visible : Bool) :
    (f.setAdvancedVisible visible).SuffixesBelow n := by
  intro c hc
  rw [blocks_setAdvancedVisible] at hc
  obtain ⟨b, hb, rfl⟩ := List.mem_map.mp hc
  rw [Block.setAdvancedVisible_body]
  exact hf b hb

theorem suffixesBelow_of_forall₂ {l m : List Block}
    (hlm : List.Forall₂ (Block.Related BlockBody.Step) l m)
    (hl : ∀ b ∈ l, b.body.SuffixesBelow n) {more : Nat}
    (hmore : (List.zipWith (fun b c => c.body.instanceCount - b.body.instanceCount) l m).sum ≤ more)
    (hn : n + more < UInt32.size) : ∀ c ∈ m, c.body.SuffixesBelow (n + more) := by
  induction hlm with
  | nil => simp
  | @cons b c l m hbc _ ih =>
    rw [List.zipWith_cons_cons, List.sum_cons] at hmore
    intro d hd
    rcases List.mem_cons.mp hd with rfl | hd
    · exact (hbc.body.suffixesBelow (hl b List.mem_cons_self) (by omega)).mono (by omega)
    · exact ih (fun x hx => hl x (List.mem_cons_of_mem _ hx)) (by omega) d hd

/-- Suffixes stay distinct, and are below the number of instances created so far. -/
theorem Related.suffixesBelow (hfg : f.Related BlockBody.Step g) (hf : f.SuffixesBelow n)
    (hn : n + f.gained g < UInt32.size) : g.SuffixesBelow (n + f.gained g) :=
  suffixesBelow_of_forall₂ hfg.blocks hf (Nat.le_refl _) hn

/-- The suffixes of a rendered form are below the number of its instances. -/
theorem render_suffixesBelow {c : Catalog} (hc : c.Sound) {values : Snapshot}
    {status : ServerStatus} {platform : Platform} {shown : Bool}
    (hcount : (render c values status platform shown).instanceCount < UInt32.size) :
    (render c values status platform shown).SuffixesBelow
      (render c values status platform shown).instanceCount := by
  intro b hb
  have hle : b.body.instanceCount ≤ (render c values status platform shown).instanceCount :=
    List.le_sum_of_mem (List.mem_map_of_mem hb)
  obtain ⟨id, hid⟩ := exists_renderId?_of_mem hc values status platform shown hb
  rcases renderId?_cases hid with ⟨item, -, rfl⟩ | ⟨-, fault, rfl⟩
  · exact (item.body_suffixesBelow _ _ (hle.trans (Nat.le_of_lt hcount))).mono hle
  · trivial

end Form

end SettingsForm
