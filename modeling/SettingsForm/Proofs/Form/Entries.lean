import SettingsForm.Proofs.Form.GroupRun
import SettingsForm.Proofs.Form.Resize

/-!
# Groups as lists of ids and values

What a user sees of a group is the list of its ids and values. Each operation of the group is one of
that list, as long as no two ids in it are the same (`refines_entries`): an id that is not in the
list is refused, and any other splits it in one way.
-/

namespace SettingsForm.Group

variable {g h : Group} {n : Nat}

/-- The ids of the inputs with their values, in order. -/
def entries (g : Group) : List (String × String) :=
  g.instances.map fun i => (i.input.id, i.input.value)

theorem map_fst_entries (g : Group) : g.entries.map Prod.fst = g.ids := List.map_map

theorem length_entries (g : Group) : g.entries.length = g.instances.length := List.length_map ..

/-- A split of the list is one of the instances. -/
theorem exists_split {before after : List (String × String)} {id value : String}
    (hg : g.entries = before ++ (id, value) :: after) :
    ∃ pre i post, g.instances = pre ++ i :: post ∧ i.input.id = id ∧ i.input.value = value ∧
      pre.map (fun i => (i.input.id, i.input.value)) = before ∧
      post.map (fun i => (i.input.id, i.input.value)) = after := by
  obtain ⟨pre, rest, hinstances, hpre, hrest⟩ := List.map_eq_append_iff.mp hg
  obtain ⟨i, post, rfl, hi, hpost⟩ := List.map_eq_cons_iff.mp hrest
  obtain ⟨hid, hvalue⟩ := Prod.mk.inj hi
  exact ⟨pre, i, post, hinstances, hid, hvalue, hpre, hpost⟩

theorem position?_eq_none {id : String} : g.position? id = none ↔ id ∉ g.ids := by
  simp [position?, ids, List.findIdx?_eq_none_iff]

/-! ## Refusals -/

theorem addAfter_eq_error {id : String} :
    g.addAfter id = .error (.unknownControl id) ↔ id ∉ g.ids := by
  rw [← position?_eq_none, addAfter]
  cases g.position? id <;> simp

theorem remove_eq_error {id : String} :
    g.remove id = .error (.unknownControl id) ↔ id ∉ g.ids := by
  rw [← position?_eq_none, Group.remove]
  cases g.position? id with
  | none => simp
  | some place =>
    simp only [reduceCtorEq, iff_false]
    split <;> simp

/-! ## Intact groups -/

theorem Intact.ids_nodup (hg : g.Intact n) : g.ids.Nodup := hg.built.ids_nodup hg.suffixes.nodup

/-- Every call keeps a group intact, also one that is to leave no instances. -/
theorem Intact.perform_any (hg : g.Intact n) (call : Call)
    (hn : n + g.created call ≤ UInt32.size) : (g.perform call).Intact (n + g.created call) := by
  by_cases hcall : call.IsAdmissible
  · exact hg.perform hcall hn
  · obtain rfl : call = .resize 0 := by
      cases call with
      | resize target => exact congrArg Call.resize (Nat.lt_one_iff.mp (Nat.not_le.mp hcall))
      | _ => exact absurd trivial hcall
    obtain ⟨first, rest, hinstances⟩ := List.exists_cons_of_ne_nil hg.instances_ne_nil
    have hperform : g.perform (.resize 0) = { g with instances := [first.withValue ""] } := by
      rw [Group.perform, resize_zero hg.ids_nodup hinstances]
    have hfirst : first ∈ g.instances := hinstances ▸ List.mem_cons_self
    rw [hperform]
    refine ⟨List.cons_ne_nil _ _, fun i hi => ?_, ?_⟩
    · obtain rfl := List.mem_singleton.mp hi
      exact withValue_built (hg.built first hfirst) ""
    · have hkept : ({ g with instances := [first] } : Group).SuffixesBelow n :=
        hg.suffixes.of_sublist (hinstances ▸ List.singleton_sublist.mpr List.mem_cons_self)
      exact (hkept.of_map_eq (h := { g with instances := [first.withValue ""] }) rfl).mono
        (Nat.le_add_right _ _)

/-- A group stays intact up to the last suffix. -/
theorem Intact.run_within (hg : g.Intact n) (calls : List Call)
    (hn : n + g.createdIn calls ≤ UInt32.size) :
    (g.run calls).Intact (n + g.createdIn calls) := by
  induction calls generalizing g n with
  | nil => exact hg
  | cons call rest ih =>
    rw [createdIn, ← Nat.add_assoc] at hn ⊢
    exact ih (hg.perform_any call (by omega)) hn

theorem Intact.run_any (hg : g.Intact n) (calls : List Call)
    (hn : n + g.createdIn calls < UInt32.size) :
    (g.run calls).Intact (n + g.createdIn calls) := hg.run_within calls (Nat.le_of_lt hn)

/-- The id of the next instance is none of those in use. -/
theorem Intact.nextInstance_not_mem (hg : g.Intact n) (hn : n < UInt32.size) :
    g.nextInstance.input.id ∉ g.ids := by
  intro hmem
  obtain ⟨i, hi, hid⟩ := List.mem_map.mp hmem
  have hsuffix : i.suffix = g.nextSuffix := by
    refine instanceId_injective g.baseId ?_
    rw [← show i.input.id = instanceId g.baseId i.suffix from
      congrArg (fun i => i.input.id) (hg.built i hi), hid]
    rfl
  have hlt := (hg.suffixes.nextSuffix hn).1 i hi
  rw [hsuffix] at hlt
  exact Nat.lt_irrefl _ hlt

/-! ## Operations on the list -/

section Split

variable {before after : List (String × String)} {id value : String} (hids : g.ids.Nodup)
  (hg : g.entries = before ++ (id, value) :: after)

include hids hg

theorem entries_addAfter : ∃ h, g.addAfter id = .ok (g.nextInstance.input.id, h) ∧
    h.entries = before ++ (id, value) :: (g.nextInstance.input.id, "") :: after := by
  obtain ⟨pre, i, post, hinstances, rfl, rfl, rfl, rfl⟩ := exists_split hg
  refine ⟨_, addAfter_of_split hids hinstances, ?_⟩
  rw [entries, List.map_append, List.map_cons, List.map_cons]
  rfl

theorem entries_remove : ∃ h, g.remove id = .ok h ∧
    h.entries = if before = [] ∧ after = [] then [(id, "")] else before ++ after := by
  obtain ⟨pre, i, post, hinstances, rfl, rfl, rfl, rfl⟩ := exists_split hg
  simp only [List.map_eq_nil_iff]
  by_cases honly : pre = [] ∧ post = []
  · obtain ⟨rfl, rfl⟩ := honly
    exact ⟨_, remove_only hinstances, rfl⟩
  · have hmore : 1 < g.instances.length := by
      have hpos : 0 < pre.length + post.length := by
        rcases not_and_or.mp honly with hpre | hpost
        · exact Nat.add_pos_left (List.length_pos_iff.mpr hpre) _
        · exact Nat.add_pos_right _ (List.length_pos_iff.mpr hpost)
      rw [hinstances, List.length_append, List.length_cons]
      omega
    refine ⟨_, remove_of_split hids hinstances hmore, ?_⟩
    rw [if_neg honly, entries, List.map_append]

end Split

/-- A group that is brought to no values has one, which is empty. -/
theorem values_setValues_nil (g : Group) : (g.setValues []).1.values = [""] := by
  obtain ⟨sized, hset, hlength, -⟩ := g.setValues_eq []
  obtain ⟨i, rfl⟩ := List.length_eq_one_iff.mp hlength
  rw [hset]
  rfl

/-- Bringing a group to some values keeps as many of the first ids as it had and needs. -/
theorem ids_setValues (hids : g.ids.Nodup) (values : List String) :
    let kept := min g.instances.length (max values.length 1)
    (g.setValues values).1.ids.take kept = g.ids.take kept := by
  obtain ⟨sized, hresize, -, htake⟩ := resize_take hids (Nat.le_max_right values.length 1)
  have hsized : (g.setValues values).1.ids = sized.map fun i => i.input.id := by
    rw [setValues, hresize]
    exact map_assign (fun _ _ => rfl) sized values
  have hids : (sized.map fun i => i.input.id).take g.instances.length =
      g.ids.take (max values.length 1) := by
    rw [← List.map_take, htake, List.map_take]
    rfl
  intro kept
  calc (g.setValues values).1.ids.take kept
      = ((sized.map fun i => i.input.id).take g.instances.length).take (max values.length 1) := by
        rw [hsized, List.take_take, Nat.min_comm]
    _ = g.ids.take (max values.length 1) := by rw [hids, List.take_take, Nat.min_self]
    _ = g.ids.take kept := by
        rw [List.take_eq_take_iff, show g.ids.length = g.instances.length from List.length_map ..]
        omega

end Group

/-- The group of an item after every run that creates fewer instances, those it was rendered with
included, than there are suffixes, seen as the list of its ids and values. No id stands there twice.
An instance is added after an id, or removed, exactly when the id is in the list, and otherwise the
group stays as it is. A new instance has an id that was not in the list and an empty value, and comes
right after the id; a removed one is taken out, but for the last, whose value is cleared; everything
else in the list stays. Bringing the group to some values always succeeds: it has these values then,
one empty value in the place of none, and as many of the first ids as it had and needs are kept. -/
theorem Group.refines_entries (item : Item) (hitem : item.isMultiple = true)
    (value : Option FieldValue) (ctx : RenderContext) :
    ∃ rendered, (item.render value ctx).body = .group rendered ∧ ∀ calls : List Group.Call,
      rendered.instances.length + rendered.createdIn calls < UInt32.size →
      let g := rendered.run calls
      let ids := g.entries.map Prod.fst
      ids.Nodup ∧
      (∀ id, (g.addAfter id = .error (.unknownControl id) ∧ g.perform (.addAfter id) = g ↔
          id ∉ ids) ∧
        (g.remove id = .error (.unknownControl id) ∧ g.perform (.remove id) = g ↔ id ∉ ids)) ∧
      (∀ before id v after, g.entries = before ++ (id, v) :: after →
        (∃ new h, g.addAfter id = .ok (new, h) ∧ new ∉ ids ∧
          h.entries = before ++ (id, v) :: (new, "") :: after) ∧
        ∃ h, g.remove id = .ok h ∧
          h.entries = if before = [] ∧ after = [] then [(id, "")] else before ++ after) ∧
      ∀ values, ∃ h, g.setValues values = (h, .ok ()) ∧
        h.values = (if values = [] then [""] else values) ∧
        let kept := min g.entries.length (max values.length 1)
        (h.entries.map Prod.fst).take kept = ids.take kept := by
  obtain ⟨field, hbody⟩ : ∃ field, item.body value ctx.writable =
      .group (item.renderedGroup field value ctx.writable) := by
    rcases item.body_cases value ctx.writable with ⟨field, -, -, hbody⟩ |
      ⟨_, -, hmultiple, -⟩ | ⟨_, -, hmultiple, -⟩
    · exact ⟨field, hbody⟩
    all_goals cases hitem.symm.trans hmultiple
  refine ⟨_, hbody, fun calls hcreated => ?_⟩
  intro g ids
  have hg : g.Intact _ := (Item.intact_of_body hbody (by omega)).run_any calls hcreated
  have hids : g.ids.Nodup := hg.ids_nodup
  have hsame : ids = g.ids := g.map_fst_entries
  clear_value g
  rw [hsame]
  refine ⟨hids, fun id => ⟨?_, ?_⟩, fun before id v after hsplit => ⟨?_, ?_⟩, fun values => ?_⟩
  · rw [← addAfter_eq_error]
    exact and_iff_left_of_imp fun hrefused => by simp only [perform, hrefused]
  · rw [← remove_eq_error]
    exact and_iff_left_of_imp fun hrefused => by simp only [perform, hrefused]
  · obtain ⟨h, hadd, hentries⟩ := entries_addAfter hids hsplit
    exact ⟨_, h, hadd, hg.nextInstance_not_mem hcreated, hentries⟩
  · exact entries_remove hids hsplit
  · refine ⟨_, g.setValues_ok values, ?_, ?_⟩
    · split
      · rename_i hnil
        rw [hnil, values_setValues_nil]
      · rename_i hvalues
        exact g.values_setValues hvalues
    · rw [map_fst_entries, length_entries]
      exact ids_setValues hids values

/-- A group that could not be brought to no instances has one with an empty value; an instance is
added after it, and it is kept when it is removed. -/
theorem Group.refines_entries_after_overrun :
    let item : Item := ⟨"dir", "Folder", "", none, none, false, .text ⟨true, false, ""⟩⟩
    let calls : List Group.Call := [.addAfter "dir0", .remove "dir0", .resize 0]
    ∃ rendered, (item.render (some (.sequence ["a", "b"])) ⟨true, true⟩).body = .group rendered ∧
      rendered.instances.length + rendered.createdIn calls < UInt32.size ∧
      (rendered.run calls).entries = [("dir2", "")] ∧
      (∃ new h, (rendered.run calls).addAfter "dir2" = .ok (new, h) ∧ new ≠ "dir2" ∧
        h.entries = [("dir2", ""), (new, "")]) ∧
      ∃ h, (rendered.run calls).remove "dir2" = .ok h ∧ h.entries = [("dir2", "")] := by
  intro item calls
  let g := item.renderedGroup ⟨true, false, ""⟩ (some (.sequence ["a", "b"])) true
  obtain ⟨hcreated, hentries⟩ : g.instances.length + g.createdIn calls < UInt32.size ∧
      (g.run calls).entries = [("dir2", "")] := by
    decide +kernel
  obtain ⟨h, hbody, hrun⟩ :=
    Group.refines_entries item rfl (some (.sequence ["a", "b"])) ⟨true, true⟩
  obtain rfl : g = h := BlockBody.group.inj hbody
  obtain ⟨-, -, hsplit, -⟩ := hrun calls hcreated
  obtain ⟨⟨new, added, hadd, hnew, hadded⟩, cleared, hremove, hcleared⟩ :=
    hsplit [] "dir2" "" [] hentries
  refine ⟨g, hbody, hcreated, hentries, ⟨new, added, hadd, ?_, hadded⟩, cleared, hremove, hcleared⟩
  rw [hentries] at hnew
  simpa using hnew

end SettingsForm
