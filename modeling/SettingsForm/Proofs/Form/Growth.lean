import SettingsForm.Proofs.Form.Resize
import Mathlib.Order.Nat

/-!
# Which sizes a group can be brought to

A group grows by instances with consecutive suffixes, from the least number above all suffixes on
(`grow_eq_build`), and shrinks by its last instances. So it can be brought to every number of
instances but none, and the first attempt settles it: with more attempts nothing else comes out
(`resizeWithin_succ`). `resize_reaches` says what is there afterwards.
-/

namespace SettingsForm

namespace Group

variable {g : Group} {n : Nat}

/-! ## Suffixes of new instances -/

theorem suffixBound_le_size (g : Group) : g.suffixBound ≤ UInt32.size :=
  suffixBound_le.mpr fun i _ => i.suffix.toNat_lt_size

theorem suffixBound_concat (g : Group) (i : Instance) :
    ({ g with instances := g.instances ++ [i] } : Group).suffixBound =
      max g.suffixBound (i.suffix.toNat + 1) := by
  refine eq_of_forall_ge_iff fun m => ?_
  rw [suffixBound_le, Nat.max_le, suffixBound_le, Nat.succ_le_iff]
  simp only [List.mem_append, List.mem_singleton, or_imp, forall_and, forall_eq]

/-- An instance that is added at the end raises the least number above all suffixes by one. -/
theorem suffixBound_insertAt_length (hg : g.suffixBound < UInt32.size) :
    (g.insertAt g.instances.length).suffixBound = g.suffixBound + 1 := by
  have hsuffix : g.nextInstance.suffix.toNat = g.suffixBound := toNat_nextSuffix hg
  rw [insertAt_length, suffixBound_concat, hsuffix]
  omega

/-- New instances, with consecutive suffixes from a number on. -/
def buildFrom (g : Group) (start n : Nat) : List Instance :=
  (List.range' start n).map fun k => g.template.build g.baseId (.ofNat k) ""

/-- A group grows by instances with consecutive suffixes, above all that it had. -/
theorem grow_eq_build (hn : g.suffixBound + n ≤ UInt32.size) :
    g.grow n = { g with instances := g.instances ++ g.buildFrom g.suffixBound n } := by
  induction n generalizing g with
  | zero => simp [grow, buildFrom]
  | succ n ih =>
    have hlt : g.suffixBound < UInt32.size := by omega
    have hsuffix : g.nextInstance.suffix.toNat = g.suffixBound := toNat_nextSuffix hlt
    have hnext : g.nextInstance = g.template.build g.baseId (.ofNat g.suffixBound) "" := by
      rw [← hsuffix, UInt32.ofNat_toNat]
      rfl
    have hbound := suffixBound_insertAt_length hlt
    rw [grow, ih (by rw [hbound]; omega), hbound, insertAt_length]
    simp [buildFrom, List.range'_succ, ← hnext]

@[simp] theorem length_buildFrom (g : Group) (start n : Nat) : (g.buildFrom start n).length = n := by
  simp [buildFrom]

/-- A new instance is empty, and its suffix is above all that the group had. -/
theorem mem_buildFrom {i : Instance} (hn : g.suffixBound + n ≤ UInt32.size)
    (hi : i ∈ g.buildFrom g.suffixBound n) :
    i = g.template.build g.baseId i.suffix "" ∧ ∀ j ∈ g.instances, j.suffix < i.suffix := by
  obtain ⟨k, hk, rfl⟩ := List.mem_map.mp hi
  refine ⟨rfl, fun j hj => ?_⟩
  obtain ⟨hle, hlt⟩ := List.mem_range'_1.mp hk
  have hj := suffixBound_le.mp (Nat.le_refl _) j hj
  show j.suffix < UInt32.ofNat k
  rw [UInt32.lt_iff_toNat_lt, UInt32.toNat_ofNat_of_lt' (by omega)]
  omega

/-- The suffixes of new instances increase. -/
theorem pairwise_buildFrom {start : Nat} (hn : start + n ≤ UInt32.size) :
    ((g.buildFrom start n).map Instance.suffix).Pairwise (· < ·) := by
  rw [buildFrom, List.map_map, List.pairwise_map]
  refine (List.pairwise_lt_range' ..).imp_of_mem fun {a b} ha hb hab => ?_
  have ha := (List.mem_range'_1.mp ha).2
  have hb := (List.mem_range'_1.mp hb).2
  show UInt32.ofNat a < UInt32.ofNat b
  rw [UInt32.lt_iff_toNat_lt, UInt32.toNat_ofNat_of_lt' (by omega),
    UInt32.toNat_ofNat_of_lt' (by omega)]
  exact hab

/-! ## Attempts -/

/-- The first attempt decides: with more of them the same comes out. -/
theorem resizeWithin_succ (hids : g.ids.Nodup) (target attempts : Nat) :
    resizeWithin target (attempts + 1) g = g.resize target := by
  rcases Nat.lt_or_ge target g.instances.length with hlt | hle
  · rcases Nat.eq_zero_or_pos target with rfl | hpos
    · obtain ⟨first, rest, hg⟩ := List.exists_cons_of_length_pos hlt
      rw [resize_zero hids hg, resizeWithin_zero_of_cons attempts hids hg]
    · rw [resizeWithin_eq_take attempts hids hpos hlt]
      exact (resizeWithin_eq_take 9 hids hpos hlt).symm
  · rw [resizeWithin_of_le attempts hle, resize_of_le hle]

theorem resize_eq_build {target : Nat} (hids : g.ids.Nodup)
    (htarget : 1 ≤ target ∨ g.instances = [])
    (hroom : g.suffixBound + (target - g.instances.length) ≤ UInt32.size) :
    let added := g.buildFrom g.suffixBound (target - g.instances.length)
    g.resize target = ({ g with instances := g.instances.take target ++ added }, .ok ()) := by
  intro added
  rcases Nat.lt_or_ge target g.instances.length with hlt | hle
  · have hpos : 1 ≤ target := htarget.resolve_right (List.ne_nil_of_length_pos (by omega))
    have hshrunk : g.resize target = _ := resizeWithin_eq_take 9 hids hpos hlt
    have hnone : added = [] := by
      rw [← List.length_eq_zero_iff, length_buildFrom]
      exact Nat.sub_eq_zero_of_le (Nat.le_of_lt hlt)
    rw [hshrunk, hnone, List.append_nil]
  · rw [resize_of_le hle, grow_eq_build hroom, List.take_of_length_le hle]

end Group

/-- A group in which no id stands twice can be brought to any number of instances but none, as long
as there are suffixes for the new ones; a group without instances can also stay so. The first
instances are kept, as many as there were and are to be. The new ones follow, empty and under
increasing suffixes above all that the group had. A group with instances cannot be brought to none:
the first one is left, cleared, and the failure says that there is one. How often it may be tried
makes no difference. -/
theorem Group.resize_reaches (g : Group) (hids : g.ids.Nodup) (target : Nat)
    (hroom : g.suffixBound + (target - g.instances.length) ≤ UInt32.size) :
    (1 ≤ target ∨ g.instances = [] → ∃ added,
      g.resize target = ({ g with instances := g.instances.take target ++ added }, .ok ()) ∧
      (g.instances.take target ++ added).length = target ∧
      (∀ i ∈ added, i.input.value = "" ∧ i = g.template.build g.baseId i.suffix "" ∧
        ∀ j ∈ g.instances, j.suffix < i.suffix) ∧
      (added.map Instance.suffix).Pairwise (· < ·)) ∧
    (target = 0 → ∀ first rest, g.instances = first :: rest →
      g.resize target = ({ g with instances := [first.withValue ""] },
        .error (.reconcileOverrun g.baseId 0 1))) ∧
    ∀ attempts, 1 ≤ attempts → Group.resizeWithin target attempts g = g.resize target := by
  refine ⟨fun htarget => ?_, fun hzero first rest hg => ?_, fun attempts hattempts => ?_⟩
  · refine ⟨_, resize_eq_build hids htarget hroom, ?_, fun i hi => ?_, pairwise_buildFrom hroom⟩
    · rw [List.length_append, List.length_take, length_buildFrom]
      omega
    · obtain ⟨hbuilt, habove⟩ := mem_buildFrom hroom hi
      exact ⟨by rw [hbuilt]; rfl, hbuilt, habove⟩
  · subst hzero
    exact resize_zero hids hg
  · obtain ⟨more, rfl⟩ := Nat.exists_eq_add_of_le' hattempts
    exact resizeWithin_succ hids target more

/-- The last two suffixes that there are go to new instances. Asked for none, the group is left with
its first instance, which is cleared. -/
theorem Group.resize_reaches_last_suffixes :
    let template : InstanceTemplate := ⟨"Folder", "", none, false, false⟩
    let first := template.build "dir" 4294967293 "a"
    let g : Group := ⟨"dir", [first, template.build "dir" 7 "b"], "", false, template⟩
    g.ids.Nodup ∧ g.suffixBound + (4 - g.instances.length) = UInt32.size ∧
      (g.resize 4).1.values = ["a", "b", "", ""] ∧
      (∃ added, g.resize 4 = ({ g with instances := g.instances ++ added }, .ok ()) ∧
        ∀ i ∈ added, 4294967293 < i.suffix) ∧
      g.resize 0 = ({ g with instances := [first.withValue ""] },
        .error (.reconcileOverrun "dir" 0 1)) := by
  intro template first g
  obtain ⟨hids, hroom, hvalues⟩ : g.ids.Nodup ∧
      g.suffixBound + (4 - g.instances.length) = UInt32.size ∧
      (g.resize 4).1.values = ["a", "b", "", ""] := by
    decide +kernel
  obtain ⟨added, hresize, -, hadded, -⟩ :=
    (Group.resize_reaches g hids 4 (Nat.le_of_eq hroom)).1 (.inl (by decide))
  have hcleared := (Group.resize_reaches g hids 0 (by decide +kernel)).2.1 rfl
  exact ⟨hids, hroom, hvalues,
    ⟨added, hresize, fun i hi => (hadded i hi).2.2 first List.mem_cons_self⟩, hcleared _ _ rfl⟩

end SettingsForm
