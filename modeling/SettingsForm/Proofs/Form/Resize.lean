import SettingsForm.Proofs.Form.Group
import Mathlib.Data.List.Induction

/-!
# Which instances are kept

The operations of a group look up instances by their ids. Where no two instances share one, the
place that is found is that of the instance itself (`position?_of_split`): an instance is added right
after it (`addAfter_of_split`), it is removed alone (`remove_of_split`), and what resizing removes are
the last instances (`shrink_eq_take`, `resize_take`). A group that is to have no instances at all is
left with the first one, cleared (`resize_zero`).
-/

namespace SettingsForm.Group

variable {g : Group}

/-- The ids of the inputs in order. -/
def ids (g : Group) : List String := g.instances.map fun i => i.input.id

/-! ## One instance -/

theorem insertIdx_after (before after : List Instance) (i new : Instance) :
    (before ++ i :: after).insertIdx (before.length + 1) new = before ++ i :: new :: after := by
  induction before with
  | nil => rfl
  | cons j before ih => exact congrArg (List.cons j) ih

section Split

variable (hids : g.ids.Nodup) {before after : List Instance} {i : Instance}
  (hg : g.instances = before ++ i :: after)

include hids hg

theorem ne_of_mem_before {j : Instance} (hj : j ∈ before) : j.input.id ≠ i.input.id := by
  rw [ids, hg, List.map_append, List.map_cons] at hids
  obtain ⟨-, -, hdisjoint⟩ := List.nodup_append.mp hids
  exact hdisjoint _ (List.mem_map_of_mem hj) _ List.mem_cons_self

theorem position?_of_split : g.position? i.input.id = some before.length := by
  have hbefore : before.findIdx? (fun j => j.input.id = i.input.id) = none :=
    List.findIdx?_eq_none_iff.mpr fun j hj => by simpa using ne_of_mem_before hids hg hj
  rw [position?, hg, List.findIdx?_append, hbefore, List.findIdx?_cons]
  simp

theorem addAfter_of_split : g.addAfter i.input.id = .ok (g.nextInstance.input.id,
    { g with instances := before ++ i :: g.nextInstance :: after }) := by
  simp only [addAfter, position?_of_split hids hg, insertAt]
  rw [hg, insertIdx_after]

/-- An instance is removed, unless it is the only one. -/
theorem remove_of_split (hmore : 1 < g.instances.length) :
    g.remove i.input.id = .ok { g with instances := before ++ after } := by
  simp only [remove, position?_of_split hids hg, if_pos hmore]
  rw [hg, List.eraseIdx_append_of_length_le (Nat.le_refl _), Nat.sub_self, List.eraseIdx_cons_zero]

end Split

theorem remove_only {i : Instance} (hg : g.instances = [i]) :
    g.remove i.input.id = .ok { g with instances := [i.withValue ""] } := by
  have hposition : g.position? i.input.id = some 0 :=
    position?_of_split (by simp [ids, hg]) (show g.instances = [] ++ [i] from hg)
  simp [remove, hposition, hg]

/-! ## Resizing -/

/-- Removing the last instance again and again keeps the first ones. -/
theorem shrink_eq_take {n : Nat} (hids : g.ids.Nodup) (hn : n < g.instances.length) :
    g.shrink n = ({ g with instances := g.instances.take (g.instances.length - n) }, .ok ()) := by
  induction n generalizing g with
  | zero => rw [Nat.sub_zero, List.take_length]; rfl
  | succ n ih =>
    obtain ⟨init, last, hg⟩ : ∃ init last, g.instances = init ++ [last] :=
      (List.eq_nil_or_concat' _).resolve_left (List.ne_nil_of_length_pos (by omega))
    have hlength : g.instances.length = init.length + 1 := by simp [hg]
    have hremove : g.remove last.input.id = .ok { g with instances := init } := by
      rw [remove_of_split hids hg (by omega), List.append_nil]
    have hinit : (init.map fun i => i.input.id).Nodup := by
      rw [ids, hg, List.map_append] at hids
      exact hids.sublist (List.sublist_append_left _ _)
    have hrest := ih (g := { g with instances := init }) hinit (by simp only; omega)
    rw [shrink, show g.instances.getLast? = some last by rw [hg, List.getLast?_concat]]
    simp only [hremove, hrest]
    rw [hg, List.length_append, List.length_singleton, Nat.add_sub_add_right,
      List.take_append_of_le_length (Nat.sub_le _ _)]

/-- Removing as many instances as there are clears the first one and removes all others. -/
theorem shrink_length {first : Instance} {rest : List Instance} (hids : g.ids.Nodup)
    (hg : g.instances = first :: rest) :
    g.shrink (rest.length + 1) = ({ g with instances := [first.withValue ""] }, .ok ()) := by
  induction rest using List.reverseRecOn generalizing g with
  | nil =>
    rw [List.length_nil, shrink, show g.instances.getLast? = some first by rw [hg]; rfl]
    simp only [remove_only hg]
    rfl
  | append_singleton rest last ih =>
    have hconcat : g.instances = (first :: rest) ++ last :: [] := hg
    have hremove : g.remove last.input.id = .ok { g with instances := first :: rest } := by
      rw [remove_of_split hids hconcat (by simp [hconcat]), List.append_nil]
    have hkept : ((first :: rest).map fun i => i.input.id).Nodup := by
      rw [ids, hconcat, List.map_append] at hids
      exact hids.sublist (List.sublist_append_left _ _)
    rw [List.length_append, List.length_singleton, shrink,
      show g.instances.getLast? = some last by rw [hconcat, List.getLast?_concat]]
    simp only [hremove]
    exact ih (g := { g with instances := first :: rest }) hkept rfl

/-- A group with one instance that is cleared already cannot be brought to none. -/
theorem resizeWithin_zero {i : Instance} (attempts : Nat) (hg : g.instances = [i])
    (hi : i.withValue "" = i) :
    resizeWithin 0 attempts g = (g, .error (.reconcileOverrun g.baseId 0 1)) := by
  induction attempts with
  | zero => simp [resizeWithin, hg]
  | succ attempts ih =>
    have honce : g.resizeOnce 0 = (g, .ok ()) := by
      have hcleared : g.shrink 1 = ({ g with instances := [i.withValue ""] }, .ok ()) :=
        shrink_length (by simp [ids, hg]) hg
      have hsame : ({ g with instances := [i.withValue ""] } : Group) = g := by rw [hi, ← hg]
      rw [hsame] at hcleared
      rw [resizeOnce, if_neg (Nat.not_lt_zero _), hg]
      exact hcleared
    rw [resizeWithin, if_neg (by simp [hg]), honce]
    exact ih

/-- Bringing a group to no instances clears the first one, removes all others and fails, however
often it is tried. -/
theorem resizeWithin_zero_of_cons {first : Instance} {rest : List Instance} (attempts : Nat)
    (hids : g.ids.Nodup) (hg : g.instances = first :: rest) : resizeWithin 0 (attempts + 1) g =
      ({ g with instances := [first.withValue ""] }, .error (.reconcileOverrun g.baseId 0 1)) := by
  have honce : g.resizeOnce 0 = ({ g with instances := [first.withValue ""] }, .ok ()) := by
    have hcleared := shrink_length hids hg
    simpa [resizeOnce, hg] using hcleared
  rw [resizeWithin, if_neg (by simp [hg]), honce]
  exact resizeWithin_zero _ rfl rfl

theorem resize_zero {first : Instance} {rest : List Instance} (hids : g.ids.Nodup)
    (hg : g.instances = first :: rest) : g.resize 0 =
      ({ g with instances := [first.withValue ""] }, .error (.reconcileOverrun g.baseId 0 1)) :=
  resizeWithin_zero_of_cons 9 hids hg

/-- Bringing a group to fewer instances, but at least one, keeps the first ones. -/
theorem resizeWithin_eq_take {target : Nat} (attempts : Nat) (hids : g.ids.Nodup)
    (htarget : 1 ≤ target) (hlt : target < g.instances.length) :
    resizeWithin target (attempts + 1) g =
      ({ g with instances := g.instances.take target }, .ok ()) := by
  have honce : g.resizeOnce target =
      ({ g with instances := g.instances.take target }, .ok ()) := by
    rw [resizeOnce, if_neg (by omega), shrink_eq_take hids (by omega),
      Nat.sub_sub_self (Nat.le_of_lt hlt)]
  refine resizeWithin_of_resizeOnce attempts (Nat.ne_of_gt hlt) honce ?_
  rw [List.length_take, Nat.min_eq_left (Nat.le_of_lt hlt)]

/-- Resizing keeps the first instances, as far as it keeps any. -/
theorem resize_take {target : Nat} (hids : g.ids.Nodup) (htarget : 1 ≤ target) : ∃ sized,
    g.resize target = ({ g with instances := sized }, .ok ()) ∧ sized.length = target ∧
      sized.take g.instances.length = g.instances.take target := by
  rcases Nat.lt_or_ge target g.instances.length with hlt | hle
  · have hlength : (g.instances.take target).length = target := by
      rw [List.length_take, Nat.min_eq_left (Nat.le_of_lt hlt)]
    refine ⟨_, resizeWithin_eq_take 9 hids htarget hlt, hlength, ?_⟩
    rw [List.take_take, Nat.min_eq_right (Nat.le_of_lt hlt)]
  · obtain ⟨added, hadded, hlength, -⟩ := g.grow_eq (target - g.instances.length)
    refine ⟨g.instances ++ added, ?_, ?_, ?_⟩
    · rw [resize_of_le hle, hadded]
    · rw [List.length_append, hlength, Nat.add_sub_cancel' hle]
    · rw [List.take_left, List.take_of_length_le hle]

end SettingsForm.Group
