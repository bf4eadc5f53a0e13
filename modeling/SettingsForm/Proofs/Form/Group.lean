import SettingsForm.Form.Group
import Mathlib.Data.List.Forall2
import Mathlib.Data.List.Nodup

/-!
# Changes of a group

`Group.Step` lists what one operation can do to a group. Each of these changes leaves everything
but the instances (`Step.eq_with_instances`), keeps at least one instance (`Step.instances_ne_nil`)
and keeps every instance as the group's template builds it (`Step.built`). `setValues_eq` says that
bringing a group to some values never fails. As long as fewer than `UInt32.size` instances have been
created, suffixes do not wrap and stay distinct (`Step.suffixesBelow`).
-/

namespace SettingsForm

namespace Group

variable {g h : Group} {n : Nat}

/-! ## Instances as the template builds them -/

/-- Every instance is what the group's template builds under the instance's suffix. -/
def Built (g : Group) : Prop :=
  ∀ i ∈ g.instances, i = g.template.build g.baseId i.suffix i.input.value

theorem nextInstance_built (g : Group) : g.nextInstance =
    g.template.build g.baseId g.nextInstance.suffix g.nextInstance.input.value := rfl

theorem withValue_built {t : InstanceTemplate} {baseId : String} {i : Instance}
    (hi : i = t.build baseId i.suffix i.input.value) (value : String) : i.withValue value =
      t.build baseId (i.withValue value).suffix (i.withValue value).input.value := by
  rw [hi]
  rfl

theorem mem_modify {l : List Instance} {place : Nat} {value : String} {j : Instance}
    (hj : j ∈ l.modify place (·.withValue value)) : ∃ i ∈ l, j = i ∨ j = i.withValue value := by
  obtain ⟨k, hk, rfl⟩ := List.mem_iff_getElem.mp hj
  rw [List.length_modify] at hk
  refine ⟨l[k], List.getElem_mem hk, ?_⟩
  rw [List.getElem_modify]
  split
  · exact .inr rfl
  · exact .inl rfl

theorem map_suffix_modify (l : List Instance) (place : Nat) (value : String) :
    (l.modify place (·.withValue value)).map Instance.suffix = l.map Instance.suffix := by
  refine List.ext_getElem (by simp) fun k hk hk' => ?_
  rw [List.getElem_map, List.getElem_map, List.getElem_modify]
  split <;> rfl

/-! ## Giving values -/

@[simp] theorem length_assign (l : List Instance) (values : List String) :
    (assign l values).length = l.length := by
  induction l generalizing values with
  | nil => rfl
  | cons i l ih => cases values <;> simp [assign, ih]

/-- Giving values changes nothing but values. -/
theorem map_assign {α : Type} {f : Instance → α} (hf : ∀ i value, f (i.withValue value) = f i)
    (l : List Instance) (values : List String) : (assign l values).map f = l.map f := by
  induction l generalizing values with
  | nil => rfl
  | cons i l ih => cases values <;> simp [assign, ih, hf]

@[simp] theorem map_suffix_assign (l : List Instance) (values : List String) :
    (assign l values).map Instance.suffix = l.map Instance.suffix :=
  map_assign (fun _ _ => rfl) l values

theorem mem_assign {l : List Instance} {values : List String} {j : Instance}
    (hj : j ∈ assign l values) : ∃ i ∈ l, ∃ value, j = i.withValue value := by
  induction l generalizing values with
  | nil => simp [assign] at hj
  | cons i l ih =>
    cases values with
    | nil =>
      rcases List.mem_cons.mp hj with rfl | hj
      · exact ⟨i, List.mem_cons_self, "", rfl⟩
      · obtain ⟨k, hk, value, rfl⟩ := ih hj
        exact ⟨k, List.mem_cons_of_mem _ hk, value, rfl⟩
    | cons v values =>
      rcases List.mem_cons.mp hj with rfl | hj
      · exact ⟨i, List.mem_cons_self, v, rfl⟩
      · obtain ⟨k, hk, value, rfl⟩ := ih hj
        exact ⟨k, List.mem_cons_of_mem _ hk, value, rfl⟩

theorem map_value_assign {l : List Instance} {values : List String}
    (hl : values.length = l.length) : (assign l values).map (fun i => i.input.value) = values := by
  induction l generalizing values with
  | nil =>
    rw [List.eq_nil_of_length_eq_zero hl]
    rfl
  | cons i l ih =>
    cases values with
    | nil => simp at hl
    | cons v values =>
      have := ih (Nat.succ.inj hl)
      simp [assign, Instance.withValue, this]

/-! ## Resizing -/

theorem insertAt_length (g : Group) : g.insertAt g.instances.length =
    { g with instances := g.instances ++ [g.nextInstance] } := by
  rw [insertAt, List.insertIdx_length_self]

theorem grow_eq (g : Group) (n : Nat) : ∃ added, g.grow n =
      { g with instances := g.instances ++ added } ∧ added.length = n ∧
      ∀ i ∈ added, i = g.template.build g.baseId i.suffix i.input.value := by
  induction n generalizing g with
  | zero => exact ⟨[], by simp [grow], rfl, by simp⟩
  | succ n ih =>
    obtain ⟨added, hadded, hlength, hbuilt⟩ := ih (g.insertAt g.instances.length)
    rw [insertAt_length] at hadded hbuilt
    refine ⟨g.nextInstance :: added, ?_, by simp [hlength], ?_⟩
    · rw [grow, insertAt_length, hadded]
      simp
    · intro i hi
      rcases List.mem_cons.mp hi with rfl | hi
      · exact g.nextInstance_built
      · exact hbuilt i hi

theorem position?_of_mem {i : Instance} (hi : i ∈ g.instances) :
    ∃ place, g.position? i.input.id = some place ∧ place < g.instances.length := by
  cases hp : g.position? i.input.id with
  | none =>
    have := List.findIdx?_eq_none_iff.mp hp i hi
    simp at this
  | some place =>
    obtain ⟨hlt, -⟩ := List.findIdx?_eq_some_iff_getElem.mp hp
    exact ⟨place, rfl, hlt⟩

/-- Instances are removed down to one by their ids. -/
theorem shrink_eq (hn : n < g.instances.length) : ∃ kept, g.shrink n =
      ({ g with instances := kept }, .ok ()) ∧ kept.length + n = g.instances.length ∧
      kept.Sublist g.instances := by
  induction n generalizing g with
  | zero => exact ⟨g.instances, rfl, rfl, List.Sublist.refl _⟩
  | succ n ih =>
    obtain ⟨last, hlast⟩ : ∃ last, g.instances.getLast? = some last := by
      rw [List.getLast?_eq_getElem?, List.getElem?_eq_getElem (by omega)]
      exact ⟨_, rfl⟩
    obtain ⟨place, hplace, hlt⟩ := position?_of_mem (List.mem_of_getLast? hlast)
    have hremove : g.remove last.input.id =
        .ok { g with instances := g.instances.eraseIdx place } := by
      rw [remove, hplace]
      exact if_pos (by omega)
    have hlength := List.length_eraseIdx_of_lt hlt
    obtain ⟨kept, hkept, hkeptLength, hsub⟩ :=
      ih (g := { g with instances := g.instances.eraseIdx place }) (by simp only [hlength]; omega)
    refine ⟨kept, ?_, ?_, hsub.trans (List.eraseIdx_sublist _ _)⟩
    · rw [shrink, hlast]
      simp only [hremove, hkept]
    · simp only [hlength] at hkeptLength
      omega

theorem resizeWithin_of_length {target : Nat} (attempts : Nat)
    (hg : g.instances.length = target) : resizeWithin target attempts g = (g, .ok ()) := by
  cases attempts <;> simp [resizeWithin, hg]

/-- An attempt that brings the group to its number of instances is the last one. -/
theorem resizeWithin_of_resizeOnce {target : Nat} (attempts : Nat)
    (hg : g.instances.length ≠ target) (honce : g.resizeOnce target = (h, .ok ()))
    (hh : h.instances.length = target) :
    resizeWithin target (attempts + 1) g = (h, .ok ()) := by
  rw [resizeWithin, if_neg hg, honce]
  exact resizeWithin_of_length _ hh

theorem resizeWithin_of_le {target : Nat} (attempts : Nat) (hg : g.instances.length ≤ target) :
    resizeWithin target (attempts + 1) g = (g.grow (target - g.instances.length), .ok ()) := by
  rcases Nat.lt_or_eq_of_le hg with hlt | heq
  · obtain ⟨added, hadded, hlength, -⟩ := g.grow_eq (target - g.instances.length)
    have honce : g.resizeOnce target = (g.grow (target - g.instances.length), .ok ()) :=
      if_pos hlt
    refine resizeWithin_of_resizeOnce attempts (Nat.ne_of_lt hlt) honce ?_
    rw [hadded, List.length_append, hlength]
    omega
  · rw [← heq, Nat.sub_self]
    exact resizeWithin_of_length _ rfl

theorem resize_of_le {target : Nat} (hg : g.instances.length ≤ target) :
    g.resize target = (g.grow (target - g.instances.length), .ok ()) := resizeWithin_of_le 9 hg

theorem resize_of_lt {target : Nat} (htarget : 1 ≤ target) (hg : target < g.instances.length) :
    ∃ kept, g.resize target = ({ g with instances := kept }, .ok ()) ∧ kept.length = target ∧
      kept.Sublist g.instances := by
  obtain ⟨kept, hkept, hlength, hsub⟩ :=
    shrink_eq (g := g) (n := g.instances.length - target) (by omega)
  have honce : g.resizeOnce target = ({ g with instances := kept }, .ok ()) := by
    rw [resizeOnce, if_neg (by omega), hkept]
  have hkeptTarget : kept.length = target := by omega
  have hresize : g.resize target = _ :=
    resizeWithin_of_resizeOnce 9 (Nat.ne_of_gt hg) honce hkeptTarget
  exact ⟨kept, hresize, hkeptTarget, hsub⟩

/-- What resizing leaves: instances were added at the end, or only removed. -/
inductive Sized (g : Group) (target : Nat) : List Instance → Prop where
  | grown (hle : g.instances.length ≤ target) :
      Sized g target (g.grow (target - g.instances.length)).instances
  | shrunk {kept : List Instance} (hlt : target < g.instances.length)
      (hsub : kept.Sublist g.instances) : Sized g target kept

/-- Resizing to at least one instance succeeds. -/
theorem resize_eq (g : Group) {target : Nat} (htarget : 1 ≤ target) : ∃ sized,
    g.resize target = ({ g with instances := sized }, .ok ()) ∧ sized.length = target ∧
      g.Sized target sized := by
  rcases Nat.lt_or_ge target g.instances.length with hlt | hle
  · obtain ⟨kept, hkept, hlength, hsub⟩ := resize_of_lt htarget hlt
    exact ⟨kept, hkept, hlength, .shrunk hlt hsub⟩
  · obtain ⟨added, hadded, hlength, -⟩ := g.grow_eq (target - g.instances.length)
    refine ⟨_, ?_, ?_, .grown hle⟩
    · rw [resize_of_le hle]
      simp only [hadded]
    · rw [hadded, List.length_append, hlength]
      omega

/-- Bringing a group to some values succeeds. -/
theorem setValues_eq (g : Group) (values : List String) : ∃ sized, g.setValues values =
      ({ g with instances := assign sized values }, .ok ()) ∧
      sized.length = max values.length 1 ∧ g.Sized (max values.length 1) sized := by
  obtain ⟨sized, hresize, hlength, hsized⟩ := g.resize_eq (Nat.le_max_right values.length 1)
  refine ⟨sized, ?_, hlength, hsized⟩
  rw [setValues, hresize]

theorem setValues_ok (g : Group) (values : List String) :
    g.setValues values = ((g.setValues values).1, .ok ()) := by
  obtain ⟨sized, hset, -⟩ := g.setValues_eq values
  rw [hset]

/-- The group has the values to which it was brought. -/
theorem values_setValues (g : Group) {values : List String} (hvalues : values ≠ []) :
    (g.setValues values).1.values = values := by
  obtain ⟨sized, hset, hlength, -⟩ := g.setValues_eq values
  have hpos := List.length_pos_iff.mpr hvalues
  rw [hset]
  exact map_value_assign (by omega)

/-! ## The changes -/

/-- What one operation can do to a group. -/
inductive Step (g : Group) : Group → Prop where
  | enter (place : Nat) (value : String) :
      Step g { g with instances := g.instances.modify place (·.withValue value) }
  | add {place : Nat} (hplace : place ≤ g.instances.length) : Step g (g.insertAt place)
  | remove {place : Nat} (hplace : place < g.instances.length) (hmore : 1 < g.instances.length) :
      Step g { g with instances := g.instances.eraseIdx place }
  | set (values : List String) : Step g (g.setValues values).1

theorem step_of_addAfter {after id : String} (hadd : g.addAfter after = .ok (id, h)) :
    g.Step h := by
  unfold addAfter at hadd
  split at hadd
  · cases hadd
  · rename_i place hplace
    simp only [Except.ok.injEq, Prod.mk.injEq] at hadd
    obtain ⟨-, rfl⟩ := hadd
    obtain ⟨hlt, -⟩ := List.findIdx?_eq_some_iff_getElem.mp hplace
    exact .add hlt

theorem step_of_remove {id : String} (hremove : g.remove id = .ok h) : g.Step h := by
  unfold Group.remove at hremove
  split at hremove
  · cases hremove
  · rename_i place hplace
    split at hremove
    · rename_i hmore
      obtain rfl := Except.ok.inj hremove
      obtain ⟨hlt, -⟩ := List.findIdx?_eq_some_iff_getElem.mp hplace
      exact .remove hlt hmore
    · obtain rfl := Except.ok.inj hremove
      exact .enter place ""

theorem Step.eq_with_instances (hstep : g.Step h) : h = { g with instances := h.instances } := by
  cases hstep with
  | enter place value => rfl
  | add hplace => rfl
  | remove hplace hmore => rfl
  | set values =>
    obtain ⟨sized, hset, -⟩ := g.setValues_eq values
    rw [hset]

theorem baseId_setValues (g : Group) (values : List String) :
    (g.setValues values).1.baseId = g.baseId := by
  rw [(Step.set (g := g) values).eq_with_instances]

theorem Sized.built {target : Nat} {sized : List Instance} (hsized : g.Sized target sized)
    (hg : g.Built) : ∀ i ∈ sized, i = g.template.build g.baseId i.suffix i.input.value := by
  cases hsized with
  | shrunk hlt hsub => exact fun i hi => hg i (hsub.subset hi)
  | grown hle =>
    obtain ⟨added, hadded, -, hbuilt⟩ := g.grow_eq (target - g.instances.length)
    rw [hadded]
    intro i hi
    rcases List.mem_append.mp hi with hi | hi
    · exact hg i hi
    · exact hbuilt i hi

theorem Step.built (hstep : g.Step h) (hg : g.Built) : h.Built := by
  cases hstep with
  | enter place value =>
    intro j hj
    obtain ⟨i, hi, rfl | rfl⟩ := mem_modify hj
    · exact hg j hi
    · exact withValue_built (hg i hi) value
  | add hplace =>
    intro i hi
    rcases (List.mem_insertIdx hplace).mp hi with rfl | hi
    · exact g.nextInstance_built
    · exact hg i hi
  | remove hplace hmore => exact fun i hi => hg i ((List.eraseIdx_sublist _ _).subset hi)
  | set values =>
    obtain ⟨sized, hset, -, hsized⟩ := g.setValues_eq values
    rw [hset]
    intro j hj
    obtain ⟨i, hi, value, rfl⟩ := mem_assign hj
    exact withValue_built (hsized.built hg i hi) value

theorem Step.instances_ne_nil (hstep : g.Step h) (hg : g.instances ≠ []) : h.instances ≠ [] := by
  have hpos := List.length_pos_iff.mpr hg
  refine List.length_pos_iff.mp ?_
  cases hstep with
  | enter place value => simpa using hpos
  | add hplace => simp [insertAt, List.length_insertIdx_of_le_length hplace]
  | remove hplace hmore =>
    simp only [List.length_eraseIdx_of_lt hplace]
    omega
  | set values =>
    obtain ⟨sized, hset, hlength, -⟩ := g.setValues_eq values
    rw [hset]
    simp only [length_assign, hlength]
    omega

/-! ## Suffixes -/

instance : Std.LawfulOrderMax UInt32 where
  max_eq_or a b := by
    show (if a ≤ b then b else a) = a ∨ (if a ≤ b then b else a) = b
    split
    · exact .inr rfl
    · exact .inl rfl
  max_le_iff a b c := by
    show (if a ≤ b then b else a) ≤ c ↔ _
    simp only [UInt32.le_iff_toNat_le] at *
    split <;> omega

/-- The suffixes are distinct and below a number, that of the instances created so far. -/
structure SuffixesBelow (n : Nat) (g : Group) : Prop where
  nodup : (g.instances.map Instance.suffix).Nodup
  lt : ∀ i ∈ g.instances, i.suffix.toNat < n

theorem SuffixesBelow.mono {m : Nat} (hg : g.SuffixesBelow n) (hnm : n ≤ m) : g.SuffixesBelow m :=
  ⟨hg.nodup, fun i hi => Nat.lt_of_lt_of_le (hg.lt i hi) hnm⟩

theorem SuffixesBelow.of_map_eq (hg : g.SuffixesBelow n)
    (hmap : h.instances.map Instance.suffix = g.instances.map Instance.suffix) :
    h.SuffixesBelow n := by
  refine ⟨hmap ▸ hg.nodup, fun i hi => ?_⟩
  have hmem : i.suffix ∈ g.instances.map Instance.suffix := hmap ▸ List.mem_map_of_mem hi
  obtain ⟨j, hj, hji⟩ := List.mem_map.mp hmem
  exact hji ▸ hg.lt j hj

theorem SuffixesBelow.of_sublist (hg : g.SuffixesBelow n)
    (hsub : h.instances.Sublist g.instances) : h.SuffixesBelow n :=
  ⟨hg.nodup.sublist (hsub.map _), fun i hi => hg.lt i (hsub.subset hi)⟩

/-- The least number above all suffixes of a group. -/
def suffixBound (g : Group) : Nat := g.instances.foldr (fun i m => max (i.suffix.toNat + 1) m) 0

theorem suffixBound_le : g.suffixBound ≤ n ↔ ∀ i ∈ g.instances, i.suffix.toNat < n := by
  unfold suffixBound
  induction g.instances with
  | nil => simp
  | cons i l ih => rw [List.foldr_cons, Nat.max_le, ih, List.forall_mem_cons, Nat.succ_le_iff]

theorem toNat_suffix_succ {i : Instance} (hi : i.suffix.toNat < n) (hn : n < UInt32.size) :
    (i.suffix + 1).toNat = i.suffix.toNat + 1 := by
  rw [UInt32.toNat_add, show (1 : UInt32).toNat = 1 from rfl]
  rw [UInt32.size] at hn
  omega

/-- The next suffix is the least number above all suffixes, as long as that is a suffix. -/
theorem toNat_nextSuffix (hg : g.suffixBound < UInt32.size) :
    g.nextSuffix.toNat = g.suffixBound := by
  have hlt : ∀ i ∈ g.instances, i.suffix.toNat < g.suffixBound :=
    suffixBound_le.mp (Nat.le_refl _)
  unfold Group.nextSuffix
  cases hmax : (g.instances.map fun i => i.suffix + 1).max? with
  | none =>
    have hnil : g.instances = [] := by simpa using List.max?_eq_none_iff.mp hmax
    simp [suffixBound, hnil]
  | some m =>
    obtain ⟨hmem, hle⟩ := List.max?_eq_some_iff.mp hmax
    rw [Option.getD_some]
    apply Nat.le_antisymm
    · obtain ⟨i, hi, rfl⟩ := List.mem_map.mp hmem
      rw [toNat_suffix_succ (hlt i hi) hg]
      exact hlt i hi
    · refine suffixBound_le.mpr fun i hi => ?_
      have hm := UInt32.le_iff_toNat_le.mp (hle _ (List.mem_map_of_mem hi))
      rw [toNat_suffix_succ (hlt i hi) hg] at hm
      omega

/-- The next suffix is above every suffix in use, and no further than one above their bound. -/
theorem SuffixesBelow.nextSuffix (hg : g.SuffixesBelow n) (hn : n < UInt32.size) :
    (∀ i ∈ g.instances, i.suffix.toNat < g.nextSuffix.toNat) ∧ g.nextSuffix.toNat ≤ n := by
  have hbound : g.suffixBound ≤ n := suffixBound_le.mpr hg.lt
  rw [toNat_nextSuffix (by omega)]
  exact ⟨suffixBound_le.mp (Nat.le_refl _), hbound⟩

theorem SuffixesBelow.insertAt (hg : g.SuffixesBelow n) (hn : n < UInt32.size) {place : Nat}
    (hplace : place ≤ g.instances.length) : (g.insertAt place).SuffixesBelow (n + 1) := by
  obtain ⟨habove, hle⟩ := hg.nextSuffix hn
  constructor
  · have hperm := (List.perm_insertIdx g.nextInstance g.instances hplace).map Instance.suffix
    refine hperm.nodup_iff.mpr (List.nodup_cons.mpr ⟨?_, hg.nodup⟩)
    intro hmem
    obtain ⟨i, hi, heq⟩ := List.mem_map.mp hmem
    have hlt := habove i hi
    rw [heq] at hlt
    exact Nat.lt_irrefl _ hlt
  · intro i hi
    rcases (List.mem_insertIdx hplace).mp hi with rfl | hi
    · exact Nat.lt_succ_of_le hle
    · exact Nat.lt_succ_of_lt (hg.lt i hi)

theorem SuffixesBelow.grow (hg : g.SuffixesBelow n) (m : Nat) (hn : n + m ≤ UInt32.size) :
    (g.grow m).SuffixesBelow (n + m) := by
  induction m generalizing g n with
  | zero => exact hg
  | succ m ih =>
    have hnext := hg.insertAt (by omega) (Nat.le_refl _)
    have hgrown := ih hnext (by omega)
    rwa [show n + 1 + m = n + (m + 1) by omega] at hgrown

/-- Resizing keeps suffixes distinct, and raises their bound by the number of new instances. -/
theorem Sized.suffixesBelow {target : Nat} {sized : List Instance} (hsized : g.Sized target sized)
    (hg : g.SuffixesBelow n) (hn : n + (target - g.instances.length) ≤ UInt32.size) :
    ({ g with instances := sized } : Group).SuffixesBelow
      (n + (target - g.instances.length)) := by
  cases hsized with
  | shrunk hlt hsub =>
    exact (hg.of_sublist (h := { g with instances := sized }) hsub).mono (Nat.le_add_right _ _)
  | grown hle => exact (hg.grow _ hn).of_map_eq rfl

/-- A change keeps suffixes distinct, and raises their bound by the number of new instances. -/
theorem Step.suffixesBelow (hstep : g.Step h) (hg : g.SuffixesBelow n)
    (hn : n + (h.instances.length - g.instances.length) ≤ UInt32.size) :
    h.SuffixesBelow (n + (h.instances.length - g.instances.length)) := by
  cases hstep with
  | enter place value =>
    exact (hg.of_map_eq (map_suffix_modify g.instances place value)).mono (Nat.le_add_right _ _)
  | @add place hplace =>
    have hlength : (g.insertAt place).instances.length = g.instances.length + 1 :=
      List.length_insertIdx_of_le_length hplace _
    rw [hlength] at hn ⊢
    rw [Nat.add_sub_cancel_left] at hn ⊢
    exact hg.insertAt (by omega) hplace
  | remove hplace hmore =>
    exact (hg.of_sublist (List.eraseIdx_sublist _ _)).mono (Nat.le_add_right _ _)
  | set values =>
    obtain ⟨sized, hset, hlength, hsized⟩ := g.setValues_eq values
    rw [hset] at hn ⊢
    simp only [length_assign, hlength] at hn ⊢
    exact (hsized.suffixesBelow hg hn).of_map_eq (map_suffix_assign sized values)

end Group

end SettingsForm
