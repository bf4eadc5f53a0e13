import SettingsForm.Form.Control
import Mathlib.Data.List.Forall2
import Mathlib.Data.List.Nodup

/-!
# Forms that differ in their bodies

Two forms are related along a relation of bodies when they have the same sections, blocks and
buttons, and the bodies of corresponding blocks are in that relation. Every change of a form but
hiding and showing is of this kind: `replaceBlock?_related` says so of replacing the first block
that has a replacement, and `updateBody_eq_mapBlocks` that changing the body of an item changes that
of its block and no other, where no item has two blocks.
-/

namespace SettingsForm

/-! ## Replacing the first member -/

section ReplaceFirst

variable {α : Type} {f : α → Option α} {l l' : List α}

theorem replaceFirst?_eq_none : replaceFirst? f l = none ↔ ∀ a ∈ l, f a = none := by
  induction l with
  | nil => simp [replaceFirst?]
  | cons a l ih =>
    cases h : f a with
    | none => simp [replaceFirst?, h, ih]
    | some b => simp [replaceFirst?, h]

/-- A member is replaced, and no member before it has a replacement. -/
theorem exists_of_replaceFirst?_eq_some (h : replaceFirst? f l = some l') :
    ∃ pre a b post, l = pre ++ a :: post ∧ (∀ x ∈ pre, f x = none) ∧ f a = some b ∧
      l' = pre ++ b :: post := by
  induction l generalizing l' with
  | nil => simp [replaceFirst?] at h
  | cons a l ih =>
    cases ha : f a with
    | some b =>
      simp only [replaceFirst?, ha, Option.some.injEq] at h
      exact ⟨[], a, b, l, rfl, by simp, ha, h.symm⟩
    | none =>
      simp only [replaceFirst?, ha, Option.map_eq_some_iff] at h
      obtain ⟨m, hm, rfl⟩ := h
      obtain ⟨pre, c, d, post, rfl, hpre, hc, rfl⟩ := ih hm
      refine ⟨a :: pre, c, d, post, rfl, ?_, hc, rfl⟩
      intro x hx
      rcases List.mem_cons.mp hx with rfl | hx
      · exact ha
      · exact hpre x hx

/-- Where two members never both have a replacement, replacing the first replaces all. -/
theorem replaceFirst?_getD (hl : l.Pairwise fun a b => f a = none ∨ f b = none) :
    (replaceFirst? f l).getD l = l.map fun a => (f a).getD a := by
  induction l with
  | nil => rfl
  | cons a l ih =>
    obtain ⟨ha, hl⟩ := List.pairwise_cons.mp hl
    rw [List.map_cons, ← ih hl]
    cases hfa : f a with
    | none =>
      simp only [replaceFirst?, hfa]
      cases replaceFirst? f l <;> rfl
    | some b =>
      have hnone : replaceFirst? f l = none :=
        replaceFirst?_eq_none.mpr fun x hx => (ha x hx).resolve_left (by simp [hfa])
      simp [replaceFirst?, hfa, hnone]

end ReplaceFirst

theorem find?_append_cons {α : Type} {p : α → Bool} {pre post : List α} {a : α}
    (hpre : ∀ x ∈ pre, p x = false) (ha : p a = true) :
    (pre ++ a :: post).find? p = some a := by
  rw [List.find?_append, List.find?_eq_none.mpr (by simpa using hpre), Option.none_or,
    List.find?_cons_of_pos ha]

/-! ## The relation -/

variable {R S T : BlockBody → BlockBody → Prop} {f g h : Form}

/-- The blocks are alike but for their bodies, which are in the relation. -/
structure Block.Related (R : BlockBody → BlockBody → Prop) (b c : Block) : Prop where
  itemId : c.itemId = b.itemId
  advanced : c.advanced = b.advanced
  hidden : c.hidden = b.hidden
  body : R b.body c.body

/-- The sections are alike but for the bodies of their blocks. -/
structure FormSection.Related (R : BlockBody → BlockBody → Prop) (s t : FormSection) : Prop where
  name : t.name = s.name
  configPath : t.configPath = s.configPath
  items : List.Forall₂ (Block.Related R) s.items t.items

/-- The forms are alike but for the bodies of their blocks, which are in the relation. -/
structure Form.Related (R : BlockBody → BlockBody → Prop) (f g : Form) : Prop where
  actions : g.actions = f.actions
  showAdvanced : g.showAdvanced = f.showAdvanced
  sections : List.Forall₂ (FormSection.Related R) f.sections g.sections

theorem Block.Related.refl (hR : ∀ body, R body body) (b : Block) : b.Related R b :=
  ⟨rfl, rfl, rfl, hR b.body⟩

theorem Block.Related.trans (hRS : ∀ x y z, R x y → S y z → T x z) {b c d : Block}
    (hbc : b.Related R c) (hcd : c.Related S d) : b.Related T d :=
  ⟨hcd.itemId.trans hbc.itemId, hcd.advanced.trans hbc.advanced, hcd.hidden.trans hbc.hidden,
    hRS _ _ _ hbc.body hcd.body⟩

theorem forall₂_refl_of {α : Type} {Q : α → α → Prop} (hQ : ∀ a, Q a a) (l : List α) :
    List.Forall₂ Q l l :=
  List.forall₂_same.mpr fun a _ => hQ a

theorem forall₂_trans_of {α β γ : Type} {P : α → β → Prop} {Q : β → γ → Prop} {U : α → γ → Prop}
    (hPQ : ∀ a b c, P a b → Q b c → U a c) {k : List α} {l : List β} {m : List γ}
    (hkl : List.Forall₂ P k l) (hlm : List.Forall₂ Q l m) : List.Forall₂ U k m := by
  induction hkl generalizing m with
  | nil => cases hlm; exact .nil
  | cons hab _ ih =>
    cases hlm with
    | cons hbc hlm => exact .cons (hPQ _ _ _ hab hbc) (ih hlm)

theorem forall₂_imp_of_mem {α β : Type} {P Q : α → β → Prop} {l : List α} {m : List β}
    (hlm : List.Forall₂ P l m) (hPQ : ∀ a ∈ l, ∀ b ∈ m, P a b → Q a b) : List.Forall₂ Q l m := by
  induction hlm with
  | nil => exact .nil
  | cons hab _ ih =>
    exact .cons (hPQ _ List.mem_cons_self _ List.mem_cons_self hab) (ih fun a ha b hb =>
      hPQ a (List.mem_cons_of_mem _ ha) b (List.mem_cons_of_mem _ hb))

theorem exists_of_forall₂_of_mem {α β : Type} {P : α → β → Prop} {l : List α} {m : List β}
    (hlm : List.Forall₂ P l m) {b : β} (hb : b ∈ m) : ∃ a ∈ l, P a b := by
  induction hlm with
  | nil => cases hb
  | cons hab _ ih =>
    rcases List.mem_cons.mp hb with rfl | hb
    · exact ⟨_, List.mem_cons_self, hab⟩
    · obtain ⟨c, hc, hcb⟩ := ih hb
      exact ⟨c, List.mem_cons_of_mem _ hc, hcb⟩

theorem FormSection.Related.refl (hR : ∀ body, R body body) (s : FormSection) : s.Related R s :=
  ⟨rfl, rfl, forall₂_refl_of (Block.Related.refl hR) s.items⟩

theorem FormSection.Related.trans (hRS : ∀ x y z, R x y → S y z → T x z) {s t u : FormSection}
    (hst : s.Related R t) (htu : t.Related S u) : s.Related T u :=
  ⟨htu.name.trans hst.name, htu.configPath.trans hst.configPath,
    forall₂_trans_of (fun b c d (hbc : b.Related R c) (hcd : c.Related S d) => hbc.trans hRS hcd)
      hst.items htu.items⟩

theorem Form.Related.refl (hR : ∀ body, R body body) (f : Form) : f.Related R f :=
  ⟨rfl, rfl, forall₂_refl_of (FormSection.Related.refl hR) f.sections⟩

theorem Form.Related.trans (hRS : ∀ x y z, R x y → S y z → T x z) (hfg : f.Related R g)
    (hgh : g.Related S h) : f.Related T h :=
  ⟨hgh.actions.trans hfg.actions, hgh.showAdvanced.trans hfg.showAdvanced,
    forall₂_trans_of (fun s t u (hst : s.Related R t) (htu : t.Related S u) => hst.trans hRS htu)
      hfg.sections hgh.sections⟩

theorem Form.Related.imp (hRS : ∀ x y, R x y → S x y) (hfg : f.Related R g) : f.Related S g :=
  ⟨hfg.actions, hfg.showAdvanced, hfg.sections.imp fun _ _ hst => ⟨hst.name, hst.configPath,
    hst.items.imp fun _ _ hbc => ⟨hbc.itemId, hbc.advanced, hbc.hidden, hRS _ _ hbc.body⟩⟩⟩

theorem flatMap_items_forall₂ {l m : List FormSection}
    (hlm : List.Forall₂ (FormSection.Related R) l m) :
    List.Forall₂ (Block.Related R) (l.flatMap FormSection.items) (m.flatMap FormSection.items) := by
  induction hlm with
  | nil => exact .nil
  | cons hst _ ih => exact List.rel_append hst.items ih

theorem Form.Related.blocks (hfg : f.Related R g) :
    List.Forall₂ (Block.Related R) f.blocks g.blocks :=
  flatMap_items_forall₂ hfg.sections

theorem Form.Related.isWritable (hfg : f.Related R g) : g.isWritable = f.isWritable := by
  unfold Form.isWritable
  rw [hfg.actions]

theorem map_itemId_eq {l m : List Block} (hlm : List.Forall₂ (Block.Related R) l m) :
    m.map Block.itemId = l.map Block.itemId := by
  induction hlm with
  | nil => rfl
  | cons hbc _ ih => rw [List.map_cons, List.map_cons, hbc.itemId, ih]

theorem Form.Related.itemIds (hfg : f.Related R g) :
    g.blocks.map Block.itemId = f.blocks.map Block.itemId :=
  map_itemId_eq hfg.blocks

theorem find?_rel {l m : List Block} (hlm : List.Forall₂ (Block.Related R) l m) (itemId : String) :
    Option.Rel (Block.Related R) (l.find? fun b => b.itemId = itemId)
      (m.find? fun b => b.itemId = itemId) := by
  induction hlm with
  | nil => exact .none
  | @cons b c _ _ hbc _ ih =>
    by_cases hid : b.itemId = itemId
    · rw [List.find?_cons_of_pos (by simpa using hid),
        List.find?_cons_of_pos (by simpa [hbc.itemId] using hid)]
      exact .some hbc
    · rw [List.find?_cons_of_neg (by simpa using hid),
        List.find?_cons_of_neg (by simpa [hbc.itemId] using hid)]
      exact ih

theorem Form.Related.block? (hfg : f.Related R g) (itemId : String) :
    Option.Rel (Block.Related R) (f.block? itemId) (g.block? itemId) :=
  find?_rel hfg.blocks itemId

theorem Form.block?_eq_none {itemId : String} :
    f.block? itemId = none ↔ ∀ b ∈ f.blocks, b.itemId ≠ itemId := by
  simp [block?]

theorem Form.block?_some {itemId : String} {b : Block} (hb : f.block? itemId = some b) :
    b ∈ f.blocks ∧ b.itemId = itemId :=
  ⟨List.mem_of_find?_eq_some hb, by simpa using List.find?_some hb⟩

/-! ## Replacing a block -/

/-- One block shows something else, and nothing else is different. -/
def Form.Replaced (f : Form) (b : Block) (body : BlockBody) (g : Form) : Prop :=
  ∃ before s pre post after, f.sections = before ++ s :: after ∧ s.items = pre ++ b :: post ∧
    g = { f with sections :=
      before ++ { s with items := pre ++ { b with body } :: post } :: after }

/-- A block is replaced, and no block before it has a replacement. -/
theorem Form.split_of_replaceBlock? {change : Block → Option Block}
    (hg : f.replaceBlock? change = some g) :
    ∃ before s pre b c post after, f.sections = before ++ s :: after ∧ s.items = pre ++ b :: post ∧
      (∀ x ∈ before.flatMap FormSection.items ++ pre, change x = none) ∧ change b = some c ∧
      g = { f with sections := before ++ { s with items := pre ++ c :: post } :: after } := by
  unfold replaceBlock? at hg
  obtain ⟨sections, hsections, rfl⟩ := Option.map_eq_some_iff.mp hg
  obtain ⟨before, s, t, after, hs, hbefore, ht, rfl⟩ := exists_of_replaceFirst?_eq_some hsections
  obtain ⟨items, hitems, rfl⟩ := Option.map_eq_some_iff.mp ht
  obtain ⟨pre, b, c, post, hb, hpre, hc, rfl⟩ := exists_of_replaceFirst?_eq_some hitems
  refine ⟨before, s, pre, b, c, post, after, hs, hb, fun x hx => ?_, hc, rfl⟩
  rcases List.mem_append.mp hx with hx | hx
  · obtain ⟨u, hu, hxu⟩ := List.mem_flatMap.mp hx
    exact replaceFirst?_eq_none.mp (Option.map_eq_none_iff.mp (hbefore u hu)) x hxu
  · exact hpre x hx

theorem Form.blocks_split {before after : List FormSection} {s : FormSection} {pre post : List Block}
    {b : Block} (hs : f.sections = before ++ s :: after) (hb : s.items = pre ++ b :: post) :
    f.blocks = (before.flatMap FormSection.items ++ pre) ++ b ::
      (post ++ after.flatMap FormSection.items) := by
  simp [blocks, hs, hb]

theorem Form.Replaced.related {b : Block} {body : BlockBody} (hR : ∀ body, R body body)
    (hg : f.Replaced b body g) (hbody : R b.body body) : f.Related R g := by
  obtain ⟨before, s, pre, post, after, hs, hb, rfl⟩ := hg
  refine ⟨rfl, rfl, ?_⟩
  rw [hs]
  refine List.rel_append (forall₂_refl_of (FormSection.Related.refl hR) before)
    (.cons ⟨rfl, rfl, ?_⟩ (forall₂_refl_of (FormSection.Related.refl hR) after))
  rw [hb]
  exact List.rel_append (forall₂_refl_of (Block.Related.refl hR) pre)
    (.cons ⟨rfl, rfl, rfl, hbody⟩ (forall₂_refl_of (Block.Related.refl hR) post))

/-- Where a block is replaced: it is the first that has a replacement. -/
theorem Form.exists_of_replaceBlock?_eq_some {change : Block → Option Block}
    (hg : f.replaceBlock? change = some g) :
    ∃ before s pre b c post after, f.sections = before ++ s :: after ∧ s.items = pre ++ b :: post ∧
      f.blocks.find? (fun x => (change x).isSome) = some b ∧ change b = some c ∧
      g = { f with sections := before ++ { s with items := pre ++ c :: post } :: after } := by
  obtain ⟨before, s, pre, b, c, post, after, hs, hb, hnone, hc, rfl⟩ := split_of_replaceBlock? hg
  refine ⟨before, s, pre, b, c, post, after, hs, hb, ?_, hc, rfl⟩
  rw [blocks_split hs hb]
  exact find?_append_cons (fun x hx => by simp [hnone x hx]) (by simp [hc])

theorem Form.replaceBlock?_eq_none {change : Block → Option Block} :
    f.replaceBlock? change = none ↔ ∀ b ∈ f.blocks, change b = none := by
  simp only [replaceBlock?, Option.map_eq_none_iff, replaceFirst?_eq_none, blocks,
    List.mem_flatMap]
  exact ⟨fun h b ⟨s, hs, hb⟩ => h s hs b hb, fun h s hs b hb => h b ⟨s, hs, hb⟩⟩

/-- Replacing the first block that has a replacement changes that block only. -/
theorem Form.replaceBlock?_related {change : Block → Option Block} (hR : ∀ body, R body body)
    (hg : f.replaceBlock? change = some g)
    (hchange : ∀ b c, f.blocks.find? (fun x => (change x).isSome) = some b → change b = some c →
      b.Related R c) :
    f.Related R g := by
  obtain ⟨before, s, pre, b, c, post, after, hs, hb, hfirst, hc, rfl⟩ :=
    exists_of_replaceBlock?_eq_some hg
  refine ⟨rfl, rfl, ?_⟩
  rw [hs]
  refine List.rel_append (forall₂_refl_of (FormSection.Related.refl hR) before)
    (.cons ⟨rfl, rfl, ?_⟩ (forall₂_refl_of (FormSection.Related.refl hR) after))
  rw [hb]
  exact List.rel_append (forall₂_refl_of (Block.Related.refl hR) pre)
    (.cons (hchange b c hfirst hc) (forall₂_refl_of (Block.Related.refl hR) post))

/-- The block whose body is changed is the one that the item's id finds. -/
theorem Form.find?_change (f : Form) (itemId : String) (change : Block → Block) :
    f.blocks.find? (fun b => (if b.itemId = itemId then some (change b) else none).isSome) =
      f.block? itemId := by
  unfold block?
  congr 1
  funext b
  by_cases h : b.itemId = itemId <;> simp [h]

/-- Changing the body of an item replaces what its block shows. -/
theorem Form.updateBody_replaced {itemId : String} {b : Block} (hb : f.block? itemId = some b)
    (body : BlockBody) : f.Replaced b body (f.updateBody itemId fun _ => body) := by
  unfold updateBody
  cases hg : f.replaceBlock? fun b => if b.itemId = itemId then some { b with body } else none with
  | none =>
    obtain ⟨hmem, hid⟩ := block?_some hb
    have hnone := replaceBlock?_eq_none.mp hg b hmem
    rw [if_pos hid] at hnone
    cases hnone
  | some g =>
    obtain ⟨before, s, pre, x, c, post, after, hs, hx, hfirst, hc, rfl⟩ :=
      exists_of_replaceBlock?_eq_some hg
    rw [find?_change, hb] at hfirst
    obtain rfl := Option.some.inj hfirst
    obtain ⟨-, rfl⟩ : _ ∧ { b with body } = c := by simpa using hc
    exact ⟨before, s, pre, post, after, hs, hx, rfl⟩

theorem Form.updateBody_related (hR : ∀ body, R body body) {itemId : String} {b : Block}
    {body : BlockBody} (hb : f.block? itemId = some b) (hbody : R b.body body) :
    f.Related R (f.updateBody itemId fun _ => body) :=
  (updateBody_replaced hb body).related hR hbody

/-- Giving a block the body that it has changes nothing. -/
theorem Form.updateBody_self {itemId : String} {b : Block} (hb : f.block? itemId = some b) :
    f.updateBody itemId (fun _ => b.body) = f := by
  obtain ⟨before, s, pre, post, after, hs, hx, hsame⟩ := updateBody_replaced hb b.body
  rw [hsame]
  show ({ f with sections := _ } : Form) = f
  rw [← hx, ← hs]

/-! ## Changing every block -/

/-- The form with every block changed. -/
def Form.mapBlocks (f : Form) (change : Block → Block) : Form :=
  { f with sections := f.sections.map fun s => { s with items := s.items.map change } }

theorem Form.mapBlocks_mapBlocks (f : Form) (change next : Block → Block) :
    (f.mapBlocks change).mapBlocks next = f.mapBlocks fun b => next (change b) := by
  simp [mapBlocks, Function.comp_def]

theorem Form.blocks_mapBlocks (f : Form) (change : Block → Block) :
    (f.mapBlocks change).blocks = f.blocks.map change := by
  simp only [mapBlocks, blocks, List.flatMap_map, List.map_flatMap]

/-- Changing every block changes the block of an item. -/
theorem Form.block?_mapBlocks {change : Block → Block} (hid : ∀ b, (change b).itemId = b.itemId)
    (f : Form) (itemId : String) :
    (f.mapBlocks change).block? itemId = (f.block? itemId).map change := by
  rw [block?, blocks_mapBlocks, List.find?_map]
  simp only [Function.comp_def, hid]
  rfl

theorem Form.mapBlocks_congr {change next : Block → Block}
    (hcn : ∀ b ∈ f.blocks, change b = next b) : f.mapBlocks change = f.mapBlocks next := by
  unfold mapBlocks
  congr 1
  refine List.map_congr_left fun s hs => ?_
  rw [List.map_congr_left fun b hb => hcn b (List.mem_flatMap.mpr ⟨s, hs, hb⟩)]

theorem Form.mapBlocks_eq_self {change : Block → Block} (hid : ∀ b ∈ f.blocks, change b = b) :
    f.mapBlocks change = f := by
  rw [mapBlocks_congr hid]
  simp [mapBlocks]

theorem Form.mapBlocks_related {change : Block → Block}
    (hchange : ∀ b ∈ f.blocks, b.Related R (change b)) : f.Related R (f.mapBlocks change) := by
  refine ⟨rfl, rfl, ?_⟩
  refine List.forall₂_map_right_iff.mpr (List.forall₂_same.mpr fun s hs => ⟨rfl, rfl, ?_⟩)
  exact List.forall₂_map_right_iff.mpr (List.forall₂_same.mpr fun b hb =>
    hchange b (List.mem_flatMap.mpr ⟨s, hs, hb⟩))

/-- What holds between the blocks of related forms when the second form's are changed. -/
theorem Form.Related.mapBlocks {change : Block → Block} (hfg : f.Related R g)
    (hchange : ∀ b ∈ f.blocks, ∀ c ∈ g.blocks, b.Related R c → b.Related S (change c)) :
    f.Related S (g.mapBlocks change) := by
  refine ⟨hfg.actions, hfg.showAdvanced, List.forall₂_map_right_iff.mpr ?_⟩
  refine forall₂_imp_of_mem hfg.sections fun s hs t ht hst => ⟨hst.name, hst.configPath, ?_⟩
  refine List.forall₂_map_right_iff.mpr (forall₂_imp_of_mem hst.items fun b hb c hc hbc => ?_)
  exact hchange b (List.mem_flatMap.mpr ⟨s, hs, hb⟩) c (List.mem_flatMap.mpr ⟨t, ht, hc⟩) hbc

/-- Where no item has two blocks, an item's id finds its block. -/
theorem Form.block?_of_mem (hf : (f.blocks.map Block.itemId).Nodup) {b : Block}
    (hb : b ∈ f.blocks) : f.block? b.itemId = some b := by
  obtain ⟨c, hc⟩ : ∃ c, f.block? b.itemId = some c :=
    Option.ne_none_iff_exists'.mp fun h => block?_eq_none.mp h b hb rfl
  obtain ⟨hmem, hid⟩ := block?_some hc
  rw [hc, List.inj_on_of_nodup_map hf hmem hb hid]

/-- Where two blocks never both have a replacement, replacing the first replaces all. -/
theorem Form.replaceBlock?_getD {change : Block → Option Block}
    (hf : f.blocks.Pairwise fun b c => change b = none ∨ change c = none) :
    (f.replaceBlock? change).getD f = f.mapBlocks fun b => (change b).getD b := by
  obtain ⟨hinside, hacross⟩ := List.pairwise_flatMap.mp hf
  have hsections := replaceFirst?_getD (l := f.sections)
    (f := fun s => (replaceFirst? change s.items).map fun items => { s with items }) ?_
  · have hitems : ∀ s ∈ f.sections, ((replaceFirst? change s.items).map fun items =>
        { s with items }).getD s = { s with items := s.items.map fun b => (change b).getD b } := by
      intro s hs
      rw [← replaceFirst?_getD (hinside s hs)]
      cases replaceFirst? change s.items <;> rfl
    rw [List.map_congr_left hitems] at hsections
    unfold mapBlocks replaceBlock?
    rw [← hsections]
    cases replaceFirst? _ f.sections <;> rfl
  · -- two sections with replacements would hold two blocks with replacements
    refine hacross.imp fun {s t} hst => ?_
    simp only [Option.map_eq_none_iff, replaceFirst?_eq_none]
    by_cases hs : ∀ b ∈ s.items, change b = none
    · exact .inl hs
    · obtain ⟨b, hb, hbChange⟩ : ∃ b ∈ s.items, change b ≠ none := by simpa using hs
      exact .inr fun c hc => (hst b hb c hc).resolve_left hbChange

/-- Where no item has two blocks, changing the body of an item changes that of its block. -/
theorem Form.updateBody_eq_mapBlocks (hf : (f.blocks.map Block.itemId).Nodup) (itemId : String)
    (change : BlockBody → BlockBody) :
    f.updateBody itemId change = f.mapBlocks fun b =>
      if b.itemId = itemId then { b with body := change b.body } else b := by
  unfold updateBody
  rw [replaceBlock?_getD]
  · refine mapBlocks_congr fun b _ => ?_
    split <;> rfl
  · refine (List.pairwise_map.mp hf).imp fun {b c} hbc => ?_
    by_cases hb : b.itemId = itemId
    · exact .inr (if_neg fun hc => hbc (hb.trans hc.symm))
    · exact .inl (if_neg hb)

/-- Where no item has two blocks and only the block of one has a replacement, that block is
replaced. -/
theorem Form.replaceBlock?_eq_mapBlocks (hf : (f.blocks.map Block.itemId).Nodup) {b c : Block}
    {change : Block → Option Block} (hb : b ∈ f.blocks) (hc : change b = some c)
    (hother : ∀ x ∈ f.blocks, x.itemId ≠ b.itemId → change x = none) :
    f.replaceBlock? change = some (f.mapBlocks fun x => (change x).getD x) := by
  have hpair : f.blocks.Pairwise fun x y => change x = none ∨ change y = none := by
    refine (List.pairwise_map.mp hf).imp_of_mem fun {x y} hx hy hxy => ?_
    by_cases hid : x.itemId = b.itemId
    · exact .inr (hother y hy fun h => hxy (hid.trans h.symm))
    · exact .inl (hother x hx hid)
  rw [← replaceBlock?_getD hpair]
  cases hreplaced : f.replaceBlock? change with
  | none =>
    rw [replaceBlock?_eq_none.mp hreplaced b hb] at hc
    cases hc
  | some g => rfl

/-- Where no item has two blocks, a block with an item's id is the one that the id finds. -/
theorem Form.eq_of_block? (hf : (f.blocks.map Block.itemId).Nodup) {itemId : String} {b c : Block}
    (hb : f.block? itemId = some b) (hc : c ∈ f.blocks) (hid : c.itemId = itemId) : c = b := by
  subst hid
  exact Option.some.inj ((block?_of_mem hf hc).symm.trans hb)

end SettingsForm
