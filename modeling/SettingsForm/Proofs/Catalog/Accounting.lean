import SettingsForm.Proofs.Catalog.Listing
import SettingsForm.Proofs.Form.ControlIds

/-!
# What becomes of the nodes of a schema

Every item node of a schema document either registers an item or yields one fault, depending on the
node and on the ids of the nodes before it (`Accounted`). A fault for every item that shares its id
with an instance of a multiple item comes after those. `ofDocument_accounts` tells the items of a
catalog, their order, the lists of its sections and its faults from the nodes of the document
(`Accounts`).
-/

namespace SettingsForm

open Markup

/-! ## What nodes declare -/

namespace Item

/-- The words for a type of control. -/
def typeNames : List String :=
  ["text", "short_text", "long_text", "short_text_multiple", "long_text_multiple", "select"]

/-- Why a node describes no control. -/
inductive NoControl (node : Element) : FaultCause → Prop where
  | noType (htype : childText node "type" = "") : NoControl node .noType
  | unknownType (htype : childText node "type" ≠ "") (hunknown : childText node "type" ∉ typeNames) :
      NoControl node (.unknownType (childText node "type"))
  | noOptions (htype : childText node "type" = "select")
      (hoptions : node.elementsNamed "option" = []) : NoControl node .noOptions

/-- Why a node, taken by itself, describes no item. -/
inductive Invalid (node : Element) : ItemFault → Prop where
  | noId (hid : idOf? node = none) : Invalid node ⟨none, .noId⟩
  | noControl {id : String} {cause : FaultCause} (hid : idOf? node = some id)
      (hcause : NoControl node cause) : Invalid node ⟨some id, cause⟩

/-- A node declares a drop-down: what there is to choose, in order and at least one, and what is chosen
where the server says nothing. -/
structure DeclaresSelect (node : Element) (options : List SelectOption)
    (defaultValue : Option String) : Prop where
  type_eq : childText node "type" = "select"
  options_eq : options = (node.elementsNamed "option").map fun option =>
    ⟨(option.attribute? "value").getD "", Text.trim option.text⟩
  options_ne_nil : options ≠ []
  default_eq : defaultValue = (node.child? "default_value").map Element.text

variable {node : Element} {fault : ItemFault} {cause : FaultCause} {item : Item} {id : String}

/-- A node has an id when its attribute is not empty without the blanks around it. -/
theorem idOf?_eq_some : idOf? node = some id ↔
    ∃ written, node.attribute? "id" = some written ∧ Text.trim written = id ∧ id ≠ "" := by
  simp only [idOf?, Option.filter_eq_some_iff, Option.map_eq_some_iff, decide_eq_true_eq]
  constructor
  · rintro ⟨⟨written, hwritten, htrim⟩, hne⟩
    exact ⟨written, hwritten, htrim, hne⟩
  · rintro ⟨written, hwritten, htrim, hne⟩
    exact ⟨⟨written, hwritten, htrim⟩, hne⟩

theorem kindOf_of_noControl (hcause : NoControl node cause) : kindOf node = .error cause := by
  unfold kindOf
  cases hcause with
  | noType htype => simp [htype]
  | unknownType htype hunknown =>
    simp only [typeNames, List.mem_cons, List.not_mem_nil, or_false, not_or] at hunknown
    simp [htype, hunknown]
  | noOptions htype hoptions => simp [htype, declaredOptions, hoptions]

theorem noControl_of_kindOf (hkind : kindOf node = .error cause) : NoControl node cause := by
  unfold kindOf at hkind
  dsimp only at hkind
  split_ifs at hkind with htext hshort hlong hshorts hlongs hselect hoptions hnone
  · cases hkind
    exact .noOptions hselect (by simpa [declaredOptions] using hoptions)
  · cases hkind
    exact .noType hnone
  · cases hkind
    exact .unknownType hnone
      (by simp [typeNames, htext, hshort, hlong, hshorts, hlongs, hselect])

theorem ofElement_eq_error : ofElement node = .error fault ↔ Invalid node fault := by
  unfold ofElement
  constructor
  · intro h
    split at h
    · rename_i hid
      cases h
      exact .noId hid
    · rename_i id hid
      split at h
      · rename_i cause hkind
        cases h
        exact .noControl hid (noControl_of_kindOf hkind)
      · cases h
  · intro h
    cases h with
    | noId hid => rw [hid]
    | noControl hid hcause => simp only [hid, kindOf_of_noControl hcause]

theorem idOf?_of_ok (hitem : ofElement node = .ok item) : idOf? node = some item.id := by
  unfold ofElement at hitem
  split at hitem
  · cases hitem
  · rename_i id hid
    split at hitem
    · cases hitem
    · cases hitem
      exact hid

/-- A drop-down has the options that its node declares, and has some. -/
theorem kindOf_eq_select {options : List SelectOption} {size : Option Nat}
    (hkind : kindOf node = .ok (.select options, size)) :
    childText node "type" = "select" ∧ options = declaredOptions node ∧ options ≠ [] := by
  unfold kindOf textKind at hkind
  dsimp only at hkind
  split_ifs at hkind with _ _ _ _ _ htype hoptions
  all_goals cases hkind
  exact ⟨htype, rfl, by simpa using hoptions⟩

theorem declaresSelect_of_ok (hitem : ofElement node = .ok item) {options : List SelectOption}
    (hkind : item.kind = .select options) : DeclaresSelect node options item.defaultValue := by
  unfold ofElement at hitem
  split at hitem
  · cases hitem
  · split at hitem
    · cases hitem
    · rename_i kind size hdeclared
      obtain rfl := Except.ok.inj hitem
      obtain rfl : kind = .select options := hkind
      obtain ⟨htype, hoptions, hne⟩ := kindOf_eq_select hdeclared
      exact ⟨htype, hoptions, hne, rfl⟩

theorem Invalid.idOf? (hfault : Invalid node fault) : idOf? node = fault.itemId := by
  cases hfault with
  | noId hid => exact hid
  | noControl hid => exact hid

end Item

namespace Catalog

theorem toOption_eq_some {α ε : Type} {e : Except ε α} {a : α} :
    e.toOption = some a ↔ e = .ok a := by
  cases e <;> simp [Except.toOption]

/-! ## Ids on nodes -/

/-- The ids on some nodes. -/
def idsOn (ns : List Element) : List String := ns.filterMap Item.idOf?

/-- The ids on some nodes, each where it stands first. -/
def firstIds (ns : List Element) : List String := (idsOn ns).eraseDups

/-- The ids on some nodes that are on none before them, each where it stands first. -/
def newIds (earlier ns : List Element) : List String :=
  ((idsOn ns).removeAll (idsOn earlier)).eraseDups

/-- The first of some nodes that has an id. -/
def firstNode? (ns : List Element) (id : String) : Option Element :=
  ns.find? fun n => Item.idOf? n = some id

variable {ns earlier : List Element} {n : Element} {id : String} {items : List Item}
  {faults : List ItemFault}

theorem mem_idsOn : id ∈ idsOn ns ↔ ∃ n ∈ ns, Item.idOf? n = some id := List.mem_filterMap

theorem idsOn_append (earlier ns : List Element) :
    idsOn (earlier ++ ns) = idsOn earlier ++ idsOn ns :=
  List.filterMap_append

theorem firstIds_append (earlier ns : List Element) :
    firstIds (earlier ++ ns) = firstIds earlier ++ newIds earlier ns := by
  rw [firstIds, idsOn_append, List.eraseDups_append]
  rfl

theorem mem_firstIds : id ∈ firstIds ns ↔ id ∈ idsOn ns := List.mem_eraseDups

theorem newIds_of_none (hid : Item.idOf? n = none) : newIds earlier [n] = [] := by
  simp [newIds, idsOn, hid, List.removeAll]

theorem newIds_of_some (hid : Item.idOf? n = some id) :
    newIds earlier [n] = if id ∈ idsOn earlier then [] else [id] := by
  have hids : idsOn [n] = [id] := by simp [idsOn, hid]
  rw [newIds, hids]
  by_cases hmem : id ∈ idsOn earlier
  · simp [List.removeAll, hmem]
  · simp [List.removeAll, hmem, List.eraseDups_cons]

theorem firstNode?_eq_none : firstNode? ns id = none ↔ id ∉ idsOn ns := by
  simp [firstNode?, mem_idsOn]

theorem firstNode?_concat_of_ne (hid : Item.idOf? n ≠ some id) :
    firstNode? (ns ++ [n]) id = firstNode? ns id := by
  simp [firstNode?, List.find?_append, hid]

theorem firstNode?_concat_of_mem (hid : id ∈ idsOn ns) :
    firstNode? (ns ++ [n]) id = firstNode? ns id := by
  obtain ⟨m, hm⟩ := Option.ne_none_iff_exists'.mp fun h => firstNode?_eq_none.mp h hid
  rw [hm, firstNode?, List.find?_append, ← firstNode?, hm]
  rfl

theorem firstNode?_concat_self (hid : Item.idOf? n = some id) (hmem : id ∉ idsOn ns) :
    firstNode? (ns ++ [n]) id = some n := by
  rw [firstNode?, List.find?_append, ← firstNode?, firstNode?_eq_none.mpr hmem]
  simp [hid]

/-- The first node that has an id is an earlier one, or the last when no earlier one has it. -/
theorem firstNode?_concat_eq_some {m : Element} (hfirst : firstNode? (ns ++ [n]) id = some m) :
    firstNode? ns id = some m ∨ (id ∉ idsOn ns ∧ m = n) := by
  by_cases hmem : id ∈ idsOn ns
  · exact .inl (firstNode?_concat_of_mem hmem ▸ hfirst)
  · by_cases hid : Item.idOf? n = some id
    · rw [firstNode?_concat_self hid hmem] at hfirst
      exact .inr ⟨hmem, (Option.some.inj hfirst).symm⟩
    · exact .inl (firstNode?_concat_of_ne hid ▸ hfirst)

/-! ## Items and faults of nodes -/

/-- The items that are registered from some nodes in their order, and a fault for every other node.
A node registers an item when it is valid and no node before it has its id. -/
inductive Accounted : List Element → List Item → List ItemFault → Prop where
  | nil : Accounted [] [] []
  | registered {ns : List Element} {items : List Item} {faults : List ItemFault} {n : Element}
      {item : Item} (hns : Accounted ns items faults) (hitem : Item.ofElement n = .ok item)
      (hnew : item.id ∉ idsOn ns) : Accounted (ns ++ [n]) (items ++ [item]) faults
  | duplicate {ns : List Element} {items : List Item} {faults : List ItemFault} {n : Element}
      {item : Item} (hns : Accounted ns items faults) (hitem : Item.ofElement n = .ok item)
      (hmet : item.id ∈ idsOn ns) :
      Accounted (ns ++ [n]) items (faults ++ [⟨some item.id, .duplicateId⟩])
  | invalid {ns : List Element} {items : List Item} {faults : List ItemFault} {n : Element}
      {fault : ItemFault} (hns : Accounted ns items faults) (hfault : Item.Invalid n fault) :
      Accounted (ns ++ [n]) items (faults ++ [fault])

namespace Accounted

/-- Every node counts once. -/
theorem length_eq (h : Accounted ns items faults) : items.length + faults.length = ns.length := by
  induction h with
  | nil => rfl
  | registered _ _ _ ih | duplicate _ _ _ ih | invalid _ _ ih =>
    simp only [List.length_append, List.length_singleton]
    omega

theorem mem_idsOn_of_fault (h : Accounted ns items faults) {fault : ItemFault}
    (hfault : fault ∈ faults) (hid : fault.itemId = some id) : id ∈ idsOn ns := by
  induction h with
  | nil => cases hfault
  | registered _ _ _ ih =>
    rw [idsOn_append]
    exact List.mem_append_left _ (ih hfault)
  | duplicate _ _ hmet ih =>
    rw [idsOn_append]
    rcases List.mem_append.mp hfault with hfault | hfault
    · exact List.mem_append_left _ (ih hfault)
    · obtain rfl := List.mem_singleton.mp hfault
      obtain rfl := Option.some.inj hid
      exact List.mem_append_left _ hmet
  | @invalid _ _ _ n _ _ hinvalid ih =>
    rw [idsOn_append]
    rcases List.mem_append.mp hfault with hfault | hfault
    · exact List.mem_append_left _ (ih hfault)
    · obtain rfl := List.mem_singleton.mp hfault
      exact List.mem_append_right _
        (mem_idsOn.mpr ⟨n, List.mem_singleton_self n, hinvalid.idOf?.trans hid⟩)

/-- An id is registered when the first node that has it is valid, with the definition there. -/
theorem find?_items (h : Accounted ns items faults) (id : String) :
    (items.find? fun item => item.id = id) =
      (firstNode? ns id).bind fun n => (Item.ofElement n).toOption := by
  induction h with
  | nil => rfl
  | @registered ns items _ n item _ hitem hnew ih =>
    have hid := Item.idOf?_of_ok hitem
    by_cases heq : item.id = id
    · subst heq
      have hnone := ih
      rw [firstNode?_eq_none.mpr hnew] at hnone
      rw [firstNode?_concat_self hid hnew, List.find?_append, hnone]
      simp [hitem, Except.toOption]
    · rw [firstNode?_concat_of_ne (by rw [hid]; simpa using heq), List.find?_append, ih]
      simp [heq]
  | @duplicate ns _ _ n item _ hitem hmet ih =>
    by_cases heq : item.id = id
    · rw [ih, firstNode?_concat_of_mem (heq ▸ hmet)]
    · rw [ih, firstNode?_concat_of_ne]
      rw [Item.idOf?_of_ok hitem]
      simpa using heq
  | @invalid ns _ _ n fault _ hfault ih =>
    by_cases hid : Item.idOf? n = some id
    · by_cases hmet : id ∈ idsOn ns
      · rw [ih, firstNode?_concat_of_mem hmet]
      · rw [ih, firstNode?_concat_self hid hmet, firstNode?_eq_none.mpr hmet]
        simp [Item.ofElement_eq_error.mpr hfault, Except.toOption]
    · rw [ih, firstNode?_concat_of_ne hid]

/-- When the first node that has an id is not valid, its fault is the first one of that id. -/
theorem find?_faults (h : Accounted ns items faults) {fault : ItemFault}
    (hfirst : firstNode? ns id = some n) (hfault : Item.Invalid n fault) :
    (faults.find? fun fault => fault.itemId = some id) = some fault := by
  have hid : fault.itemId = some id :=
    hfault.idOf?.symm.trans (by simpa using List.find?_some hfirst)
  induction h with
  | nil => cases hfirst
  | registered _ hitem _ ih =>
    rcases firstNode?_concat_eq_some hfirst with hfirst | ⟨-, rfl⟩
    · exact ih hfirst
    · rw [Item.ofElement_eq_error.mpr hfault] at hitem
      cases hitem
  | duplicate _ hitem _ ih =>
    rcases firstNode?_concat_eq_some hfirst with hfirst | ⟨-, rfl⟩
    · rw [List.find?_append, ih hfirst]
      rfl
    · rw [Item.ofElement_eq_error.mpr hfault] at hitem
      cases hitem
  | @invalid ns _ faults _ other hns hother ih =>
    rcases firstNode?_concat_eq_some hfirst with hfirst | ⟨hnew, rfl⟩
    · rw [List.find?_append, ih hfirst]
      rfl
    · -- no fault before this one is of an id that no node before this one has
      have hnone : (faults.find? fun fault => fault.itemId = some id) = none :=
        List.find?_eq_none.mpr fun f hf hfid =>
          hnew (hns.mem_idsOn_of_fault hf (by simpa using hfid))
      obtain rfl : other = fault := Except.error.inj
        ((Item.ofElement_eq_error.mpr hother).symm.trans (Item.ofElement_eq_error.mpr hfault))
      rw [List.find?_append, hnone]
      simp [hid]

end Accounted

/-! ## Taking nodes in -/

/-- Some nodes have been taken in: what has been gathered accounts for them. -/
structure Intake.Took (t : Intake) (ns : List Element) : Prop where
  sound : t.Sound
  seen : t.seen = firstIds ns
  accounted : Accounted ns t.items t.faults

namespace Intake

variable {t : Intake}

theorem Took.mem_seen (ht : t.Took ns) : id ∈ t.seen ↔ id ∈ idsOn ns := by
  rw [ht.seen, mem_firstIds]

theorem took_start : start.Took [] := ⟨start_sound, rfl, .nil⟩

@[simp] theorem list_items (t : Intake) (id : String) : (t.list id).items = t.items := by
  unfold list
  split <;> rfl

@[simp] theorem list_faults (t : Intake) (id : String) : (t.list id).faults = t.faults := by
  unfold list
  split <;> rfl

/-- Listing the id of the next node keeps up with the ids met. -/
theorem Took.seen_list (ht : t.Took ns) (hid : Item.idOf? n = some id) :
    (t.list id).seen = firstIds (ns ++ [n]) := by
  rw [firstIds_append, ← ht.seen]
  by_cases hmem : id ∈ t.seen
  · rw [list_of_mem hmem, newIds_of_some hid, if_pos (ht.mem_seen.mp hmem), List.append_nil]
  · rw [list_of_not_mem hmem, newIds_of_some hid, if_neg fun h => hmem (ht.mem_seen.mpr h)]

theorem Took.node (ht : t.Took ns) (n : Element) : (t.node n).Took (ns ++ [n]) := by
  have hsound := (t.node_step n).sound ht.sound
  unfold Intake.node at hsound ⊢
  cases hn : Item.ofElement n with
  | ok item =>
    have hseen := ht.seen_list (Item.idOf?_of_ok hn)
    simp only [hn, List.contains_iff_mem] at hsound ⊢
    by_cases hmem : item.id ∈ t.seen
    · rw [if_pos hmem] at hsound ⊢
      rw [list_of_mem hmem] at hseen
      exact ⟨hsound, hseen, .duplicate ht.accounted hn (ht.mem_seen.mp hmem)⟩
    · rw [if_neg hmem] at hsound ⊢
      refine ⟨hsound, hseen, ?_⟩
      rw [list_faults]
      exact .registered ht.accounted hn fun h => hmem (ht.mem_seen.mpr h)
  | error fault =>
    have hinvalid := Item.ofElement_eq_error.mp hn
    have hid := hinvalid.idOf?
    simp only [hn] at hsound ⊢
    cases hfault : fault.itemId with
    | none =>
      simp only [hfault] at hsound ⊢
      refine ⟨hsound, ?_, .invalid ht.accounted hinvalid⟩
      rw [firstIds_append, newIds_of_none (hid.trans hfault), List.append_nil, ht.seen]
    | some id =>
      simp only [hfault] at hsound ⊢
      refine ⟨hsound, ht.seen_list (hid.trans hfault), ?_⟩
      rw [list_items]
      exact .invalid ht.accounted hinvalid

theorem Took.foldl_node (ht : t.Took earlier) (ns : List Element) :
    (ns.foldl Intake.node t).Took (earlier ++ ns) := by
  induction ns generalizing t earlier with
  | nil => rwa [List.append_nil]
  | cons n ns ih => simpa using ih (ht.node n)

theorem Took.nodes (ht : t.Took earlier) (ns : List Element) :
    (t.nodes ns).Took (earlier ++ ns) := by
  have hunlisted : Took { t with listed := [] } earlier :=
    ⟨⟨ht.sound.seen_nodup, ht.sound.items_sublist, ht.sound.faulty⟩, ht.seen, ht.accounted⟩
  exact hunlisted.foldl_node ns

/-- A section lists the ids that are on its nodes and on none before them. -/
theorem Took.listed (ht : t.Took earlier) (ns : List Element) :
    (t.nodes ns).listed = newIds earlier ns := by
  have hseen := (nodes_sound ns ht.sound).2
  rw [(ht.nodes ns).seen, firstIds_append, ht.seen] at hseen
  exact (List.append_cancel_left hseen).symm

end Intake

/-! ## Sections -/

/-- The item nodes of some sections, in document order. -/
def itemNodes (sections : List Element) : List Element :=
  sections.flatMap fun s => s.elementsNamed "item"

theorem took_gather {t : Intake} (ht : t.Took earlier) (sections : List Element) :
    (gather t sections).2.Took (earlier ++ itemNodes sections) := by
  induction sections generalizing t earlier with
  | nil => simpa [itemNodes, gather] using ht
  | cons s rest ih =>
    have hrest := ih (ht.nodes (s.elementsNamed "item"))
    rwa [List.append_assoc] at hrest

theorem length_gather (t : Intake) (sections : List Element) :
    (gather t sections).1.length = sections.length := by
  induction sections generalizing t with
  | nil => rfl
  | cons s rest ih => exact congrArg (· + 1) (ih _)

theorem getElem?_gather {t : Intake} (ht : t.Took earlier) (before : List Element) (s : Element)
    (after : List Element) :
    (gather t (before ++ s :: after)).1[before.length]? = some
      ⟨(s.attribute? "name").getD "",
        newIds (earlier ++ itemNodes before) (s.elementsNamed "item")⟩ := by
  induction before generalizing t earlier with
  | nil =>
    have hlisted := ht.listed (s.elementsNamed "item")
    simp [gather, itemNodes, hlisted]
  | cons b before ih =>
    have hrest := ih (ht.nodes (b.elementsNamed "item"))
    rw [List.append_assoc] at hrest
    exact hrest

/-! ## Collisions -/

/-- An item is named as an instance of another one, which holds several values, would be. -/
def NamedAsInstance (base item : Item) : Prop :=
  base.isMultiple = true ∧ ∃ digits ≠ [], (∀ c ∈ digits, c.isDigit = true) ∧
    item.id.toList = base.id.toList ++ digits

/-- An item is named as an instance of one of the items would be. -/
def Collides (items : List Item) (item : Item) : Prop := ∃ base ∈ items, NamedAsInstance base item

theorem namedAsInstance_iff {base item : Item} : NamedAsInstance base item ↔
    (base.isMultiple && isInstanceIdOf base.id item.id) = true := by
  rw [Bool.and_eq_true]
  refine and_congr_right fun _ => ⟨?_, fun h => ?_⟩
  · rintro ⟨digits, hne, hdigits, hid⟩
    exact isInstanceIdOf_of_append hid hne hdigits
  · unfold isInstanceIdOf at h
    split at h
    · rename_i digits hprefix
      simp only [Bool.and_eq_true, Bool.not_eq_true', List.isEmpty_eq_false_iff,
        List.all_eq_true] at h
      exact ⟨digits, h.1, h.2, (List.isPrefixOf?_eq_some_iff_append_eq.mp hprefix).symm⟩
    · cases h

instance (items : List Item) : DecidablePred (Collides items) := fun item =>
  decidable_of_iff (items.any fun base => base.isMultiple && isInstanceIdOf base.id item.id)
    (by simp only [List.any_eq_true, ← namedAsInstance_iff, Collides])

theorem collision?_of_collides {item : Item} (hitem : Collides items item) :
    ∃ base ∈ items, NamedAsInstance base item ∧
      collision? items item = some ⟨item.id, .instanceCollision base.id⟩ := by
  obtain ⟨base, hbase, hnamed⟩ := hitem
  obtain ⟨first, hfirst, hid, hfault⟩ := collision?_of_mem hbase (namedAsInstance_iff.mp hnamed)
  exact ⟨first, hfirst, namedAsInstance_iff.mpr hid, hfault⟩

theorem collision?_of_not_collides {item : Item} (hitem : ¬ Collides items item) :
    collision? items item = none := by
  rw [collision?, Option.map_eq_none_iff, List.find?_eq_none]
  exact fun base hbase hnamed => hitem ⟨base, hbase, namedAsInstance_iff.mpr hnamed⟩

/-- Every item that collides is reported once, with an item that it collides with. -/
theorem forall₂_collisions (items kept : List Item) :
    List.Forall₂ (fun item fault => ∃ base ∈ items, NamedAsInstance base item ∧
        fault = ⟨some item.id, .instanceCollision base.id⟩)
      (kept.filter fun item => Collides items item) (kept.filterMap (collision? items)) := by
  induction kept with
  | nil => exact .nil
  | cons item rest ih =>
    by_cases hitem : Collides items item
    · obtain ⟨base, hbase, hnamed, hfault⟩ := collision?_of_collides hitem
      rw [List.filter_cons_of_pos (by simpa using hitem), List.filterMap_cons_some hfault]
      exact .cons ⟨base, hbase, hnamed, rfl⟩ ih
    · rw [List.filter_cons_of_neg (by simpa using hitem),
        List.filterMap_cons_none (collision?_of_not_collides hitem)]
      exact ih

/-! ## The catalog of a document -/

/-- A catalog accounts for all item nodes of some sections. -/
structure Accounts (sections : List Element) (c : Catalog) : Prop where
  /-- Every section lists the ids that are on its nodes and on none before them, each where it
  stands first. -/
  sections_at : ∀ before s after, sections = before ++ s :: after →
    c.sections[before.length]? = some
      ⟨(s.attribute? "name").getD "", newIds (itemNodes before) (s.elementsNamed "item")⟩
  sections_length : c.sections.length = sections.length
  /-- The sections list every id that is on a node once. -/
  listed_nodup : c.listedIds.Nodup
  listed_order : c.listedIds = firstIds (itemNodes sections)
  mem_listed : ∀ id, id ∈ c.listedIds ↔ ∃ n ∈ itemNodes sections, ∃ written,
    n.attribute? "id" = some written ∧ Text.trim written = id ∧ id ≠ ""
  /-- No two items have one id, and they stand in the order of the listed ids. -/
  items_nodup : (c.items.map Item.id).Nodup
  items_order : c.items = c.listedIds.filterMap c.item?
  item?_iff : ∀ id item, c.item? id = some item ↔ item ∈ c.items ∧ item.id = id
  /-- An id is registered when the first node that has it is valid, with the definition there. -/
  registered : ∀ id item, c.item? id = some item ↔
    ∃ n, firstNode? (itemNodes sections) id = some n ∧ Item.ofElement n = .ok item
  rejected : ∀ id n fault, firstNode? (itemNodes sections) id = some n → Item.Invalid n fault →
    c.item? id = none ∧ c.faultFor? id = some fault
  /-- The faults are those of the nodes that register no item, one each and in their order, and
  after them those of the items that collide. -/
  faults_order : ∃ rejections collisions, c.faults = rejections ++ collisions ∧
    Accounted (itemNodes sections) c.items rejections ∧
    List.Forall₂ (fun item fault => ∃ base ∈ c.items, NamedAsInstance base item ∧
        fault = ⟨some item.id, .instanceCollision base.id⟩)
      (c.items.filter fun item => Collides c.items item) collisions
  items_length : c.items.length ≤ (itemNodes sections).length
  faults_length : c.faults.length = (itemNodes sections).length - c.items.length +
    (c.items.filter fun item => Collides c.items item).length

theorem accounted_ofRoot (root : Element) : ∃ rejections,
    Accounted (itemNodes (root.elementsNamed "section")) (ofRoot root).items rejections ∧
      (ofRoot root).faults = rejections ++
        (ofRoot root).items.filterMap (collision? (ofRoot root).items) :=
  ⟨_, (took_gather Intake.took_start (root.elementsNamed "section")).accounted, rfl⟩

/-- A registered drop-down is declared by the first node with its id. -/
theorem declaresSelect_of_ofDocument {document : String} {c : Catalog}
    (hc : ofDocument document = .ok c) {item : Item} (hitem : c.item? id = some item)
    {options : List SelectOption} (hkind : item.kind = .select options) :
    ∃ root node, parse document = .ok root ∧
      firstNode? (itemNodes (root.elementsNamed "section")) id = some node ∧
      Item.DeclaresSelect node options item.defaultValue := by
  unfold ofDocument at hc
  split at hc
  · rename_i root hroot
    obtain rfl := Except.ok.inj hc
    obtain ⟨rejections, haccounted, -⟩ := accounted_ofRoot root
    rw [item?, haccounted.find?_items] at hitem
    obtain ⟨node, hnode, hitem⟩ := Option.bind_eq_some_iff.mp hitem
    exact ⟨root, node, hroot, hnode, Item.declaresSelect_of_ok (toOption_eq_some.mp hitem) hkind⟩
  · cases hc

theorem listedIds_ofRoot (root : Element) :
    (ofRoot root).listedIds = firstIds (itemNodes (root.elementsNamed "section")) := by
  have hseen := (gather_sound Intake.start_sound (root.elementsNamed "section")).2
  have htook := took_gather Intake.took_start (root.elementsNamed "section")
  exact hseen.symm.trans htook.seen

end Catalog

end SettingsForm
