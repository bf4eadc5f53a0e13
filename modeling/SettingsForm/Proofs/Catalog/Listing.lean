import SettingsForm.Catalog
import Mathlib.Data.List.Nodup

/-!
# What a catalog lists

Every id that the sections of a catalog list stands there once, and is either registered or has a
fault (`Catalog.Sound`). `ofRoot_sound` proves this of the catalog of any document: what
`Intake.Step` says of taking in one node is carried through the nodes of a section and through the
sections.
-/

namespace SettingsForm

open Markup

namespace Catalog

/-- The ids that the sections list, in document order. -/
def listedIds (c : Catalog) : List String := c.sections.flatMap CatalogSection.itemIds

/-- The sections list every id once, the items among them in the same order, and every other listed
id has a fault. Two items that share control ids are reported. -/
structure Sound (c : Catalog) : Prop where
  listed_nodup : c.listedIds.Nodup
  items_sublist : (c.items.map Item.id).Sublist c.listedIds
  faulty : ∀ id ∈ c.listedIds, c.item? id = none → ∃ fault, c.faultFor? id = some fault
  reported : ∀ item ∈ c.items, ∀ base ∈ c.items, base.isMultiple → isInstanceIdOf base.id item.id →
    ∃ first, ⟨some item.id, .instanceCollision first⟩ ∈ c.faults

/-! ## Taking in nodes -/

namespace Intake

variable {t u : Intake}

/-- What taking in a node can do. -/
inductive Step (t : Intake) : Intake → Prop where
  | fault (fault : ItemFault) : Step t { t with faults := t.faults ++ [fault] }
  | keep {item : Item} (hnew : item.id ∉ t.seen) :
      Step t { t with
        seen := t.seen ++ [item.id]
        listed := t.listed ++ [item.id]
        items := t.items ++ [item] }
  | reject {fault : ItemFault} {id : String} (hid : fault.itemId = some id) (hnew : id ∉ t.seen) :
      Step t { t with
        seen := t.seen ++ [id]
        listed := t.listed ++ [id]
        faults := t.faults ++ [fault] }

theorem list_of_mem {id : String} (hid : id ∈ t.seen) : t.list id = t :=
  if_pos (List.contains_iff_mem.mpr hid)

theorem list_of_not_mem {id : String} (hid : id ∉ t.seen) :
    t.list id = { t with seen := t.seen ++ [id], listed := t.listed ++ [id] } :=
  if_neg fun h => hid (List.contains_iff_mem.mp h)

theorem node_step (t : Intake) (node : Element) : t.Step (t.node node) := by
  unfold Intake.node
  split
  · rename_i item _
    by_cases hseen : item.id ∈ t.seen
    · rw [if_pos (List.contains_iff_mem.mpr hseen)]
      exact .fault _
    · rw [if_neg fun h => hseen (List.contains_iff_mem.mp h), list_of_not_mem hseen]
      exact .keep hseen
  · rename_i fault _
    split
    · rename_i id hid
      by_cases hseen : id ∈ t.seen
      · rw [list_of_mem hseen]
        exact .fault fault
      · rw [list_of_not_mem hseen]
        exact .reject hid hseen
    · exact .fault fault

/-- Every id met stands once, the items' ids among them in the same order, and every other id met
has a fault. -/
structure Sound (t : Intake) : Prop where
  seen_nodup : t.seen.Nodup
  items_sublist : (t.items.map Item.id).Sublist t.seen
  faulty : ∀ id ∈ t.seen, id ∉ t.items.map Item.id → ∃ fault ∈ t.faults, fault.itemId = some id

theorem start_sound : start.Sound := ⟨List.nodup_nil, List.Sublist.refl _, by simp [start]⟩

theorem Step.sound (hstep : t.Step u) (ht : t.Sound) : u.Sound := by
  cases hstep with
  | fault fault =>
    refine ⟨ht.seen_nodup, ht.items_sublist, fun id hid hitem => ?_⟩
    obtain ⟨f, hf, hfid⟩ := ht.faulty id hid hitem
    exact ⟨f, List.mem_append_left _ hf, hfid⟩
  | @keep item hnew =>
    refine ⟨List.concat_eq_append ▸ ht.seen_nodup.concat hnew, ?_, fun id hid hitem => ?_⟩
    · simp only [List.map_append, List.map_cons, List.map_nil]
      exact ht.items_sublist.append (List.Sublist.refl _)
    · simp only [List.map_append, List.map_cons, List.map_nil, List.mem_append,
        List.mem_singleton, not_or] at hid hitem
      rcases hid with hid | rfl
      · exact ht.faulty id hid hitem.1
      · exact absurd rfl hitem.2
  | @reject fault new hfault hnew =>
    refine ⟨List.concat_eq_append ▸ ht.seen_nodup.concat hnew,
      ht.items_sublist.trans (List.sublist_append_left _ _), fun id hid hitem => ?_⟩
    rcases List.mem_append.mp hid with hid | hid
    · obtain ⟨f, hf, hfid⟩ := ht.faulty id hid hitem
      exact ⟨f, List.mem_append_left _ hf, hfid⟩
    · rw [List.mem_singleton.mp hid]
      exact ⟨fault, List.mem_append_right _ (List.mem_singleton_self fault), hfault⟩

/-- A section lists exactly the ids that are met there first. -/
theorem Step.listed (hstep : t.Step u) :
    ∃ new, u.seen = t.seen ++ new ∧ u.listed = t.listed ++ new := by
  cases hstep with
  | fault fault => exact ⟨[], by simp⟩
  | @keep item hnew => exact ⟨[item.id], rfl, rfl⟩
  | @reject fault id hid hnew => exact ⟨[id], rfl, rfl⟩

theorem foldl_node (ns : List Element) (ht : t.Sound) : (ns.foldl node t).Sound ∧
    ∃ new, (ns.foldl node t).seen = t.seen ++ new ∧ (ns.foldl node t).listed = t.listed ++ new := by
  induction ns generalizing t with
  | nil => exact ⟨ht, [], by simp⟩
  | cons n ns ih =>
    obtain ⟨hsound, new, hseen, hlisted⟩ := ih ((t.node_step n).sound ht)
    obtain ⟨first, hfirstSeen, hfirstListed⟩ := (t.node_step n).listed
    refine ⟨hsound, first ++ new, ?_, ?_⟩
    · rw [List.foldl_cons, hseen, hfirstSeen, List.append_assoc]
    · rw [List.foldl_cons, hlisted, hfirstListed, List.append_assoc]

theorem nodes_sound (ns : List Element) (ht : t.Sound) :
    (t.nodes ns).Sound ∧ (t.nodes ns).seen = t.seen ++ (t.nodes ns).listed := by
  have hempty : Sound { t with listed := [] } := ⟨ht.seen_nodup, ht.items_sublist, ht.faulty⟩
  obtain ⟨hsound, new, hseen, hlisted⟩ := foldl_node ns hempty
  refine ⟨hsound, ?_⟩
  unfold nodes
  rw [hseen, hlisted, List.nil_append]

end Intake

/-! ## The catalog of a document -/

theorem gather_sound {t : Intake} (ht : t.Sound) (sections : List Element) :
    (gather t sections).2.Sound ∧ (gather t sections).2.seen =
      t.seen ++ (gather t sections).1.flatMap CatalogSection.itemIds := by
  induction sections generalizing t with
  | nil => exact ⟨ht, by simp [gather]⟩
  | cons s rest ih =>
    obtain ⟨hafter, hseen⟩ := Intake.nodes_sound (s.elementsNamed "item") ht
    obtain ⟨hlast, hlastSeen⟩ := ih hafter
    refine ⟨hlast, ?_⟩
    rw [gather, hlastSeen, hseen, List.append_assoc, List.flatMap_cons]

theorem item?_eq_none {c : Catalog} {id : String} :
    c.item? id = none ↔ id ∉ c.items.map Item.id := by
  simp [item?]

/-- An item that shares an id with an instance of a multiple item is reported with one such item. -/
theorem collision?_of_mem {items : List Item} {item base : Item} (hbase : base ∈ items)
    (hid : (base.isMultiple && isInstanceIdOf base.id item.id) = true) :
    ∃ first ∈ items, (first.isMultiple && isInstanceIdOf first.id item.id) = true ∧
      collision? items item = some ⟨some item.id, .instanceCollision first.id⟩ := by
  cases hfind : items.find? fun base => base.isMultiple && isInstanceIdOf base.id item.id with
  | none => exact absurd hid (List.find?_eq_none.mp hfind base hbase)
  | some first =>
    refine ⟨first, List.mem_of_find?_eq_some hfind, by simpa using List.find?_some hfind, ?_⟩
    rw [collision?, hfind]
    rfl

/-- The catalog of any document lists every id once and accounts for it. -/
theorem ofRoot_sound (root : Element) : (ofRoot root).Sound := by
  obtain ⟨hsound, hseen⟩ := gather_sound Intake.start_sound (root.elementsNamed "section")
  have hlisted : (gather .start (root.elementsNamed "section")).2.seen = (ofRoot root).listedIds :=
    hseen.trans (List.nil_append _)
  constructor
  · exact hlisted ▸ hsound.seen_nodup
  · exact hlisted ▸ hsound.items_sublist
  · intro id hid hitem
    obtain ⟨fault, hfault, hfaultId⟩ := hsound.faulty id (hlisted ▸ hid) (item?_eq_none.mp hitem)
    refine Option.ne_none_iff_exists'.mp fun hnone => ?_
    have := List.find?_eq_none.mp hnone fault (List.mem_append_left _ hfault)
    simp [hfaultId] at this
  · intro item hitem base hbase hmultiple hid
    obtain ⟨first, -, -, hfirst⟩ :=
      collision?_of_mem hbase (Bool.and_eq_true_iff.mpr ⟨hmultiple, hid⟩)
    exact ⟨first.id, List.mem_append_right _ (List.mem_filterMap.mpr ⟨item, hitem, hfirst⟩)⟩

theorem empty_sound : empty.Sound :=
  ⟨List.nodup_nil, List.Sublist.refl _, by simp [empty, listedIds], by simp [empty]⟩

theorem sound_of_ofDocument {document : String} {c : Catalog} (hc : ofDocument document = .ok c) :
    c.Sound := by
  unfold ofDocument at hc
  split at hc
  · rw [← Except.ok.inj hc]
    exact ofRoot_sound _
  · cases hc

/-! ## Registered ids -/

variable {c : Catalog}

theorem Sound.items_nodup (hc : c.Sound) : (c.items.map Item.id).Nodup :=
  hc.listed_nodup.sublist hc.items_sublist

theorem item?_some {id : String} {item : Item} (hitem : c.item? id = some item) :
    item ∈ c.items ∧ item.id = id :=
  ⟨List.mem_of_find?_eq_some hitem, by simpa using List.find?_some hitem⟩

theorem Sound.item?_of_mem (hc : c.Sound) {item : Item} (hitem : item ∈ c.items) :
    c.item? item.id = some item := by
  obtain ⟨found, hfound⟩ : ∃ found, c.item? item.id = some found :=
    Option.ne_none_iff_exists'.mp fun h => item?_eq_none.mp h (List.mem_map_of_mem hitem)
  obtain ⟨hmem, hid⟩ := item?_some hfound
  rw [hfound, List.inj_on_of_nodup_map hc.items_nodup hmem hitem hid]

theorem filter_mem_eq_of_sublist {l m : List String} (hlm : l.Sublist m) (hm : m.Nodup) :
    m.filter (· ∈ l) = l := by
  induction hlm with
  | slnil => rfl
  | @cons l m a hlm ih =>
    obtain ⟨ha, hm⟩ := List.nodup_cons.mp hm
    rw [List.filter_cons_of_neg (by simpa using fun h => ha (hlm.subset h)), ih hm]
  | @cons_cons l m a hlm ih =>
    obtain ⟨ha, hm⟩ := List.nodup_cons.mp hm
    rw [List.filter_cons_of_pos (by simp)]
    congr 1
    rw [← ih hm]
    refine List.filter_congr fun x hx => ?_
    have hxa : x ≠ a := fun h => ha (h ▸ hx)
    simp [hxa, ih hm]

/-- The items are those of the listed ids that are registered. -/
theorem Sound.filterMap_item? (hc : c.Sound) : c.listedIds.filterMap c.item? = c.items := by
  have hregistered : c.listedIds.filterMap c.item? =
      (c.listedIds.filter (· ∈ c.items.map Item.id)).filterMap c.item? := by
    rw [List.filterMap_filter]
    refine List.filterMap_congr fun id _ => ?_
    by_cases hid : id ∈ c.items.map Item.id
    · simp [hid]
    · simp [hid, item?_eq_none.mpr hid]
  rw [hregistered, filter_mem_eq_of_sublist hc.items_sublist hc.listed_nodup, List.filterMap_map]
  refine (List.filterMap_congr fun item hitem => ?_).trans (List.filterMap_some)
  exact hc.item?_of_mem hitem

end Catalog

end SettingsForm
