import SettingsForm.Proofs.Form.Entries
import SettingsForm.Proofs.Form.Growth

/-!
# Suffixes in checked arithmetic

A suffix is a word, and one more than the greatest word is the smallest one again. Here the
operations of a group are given once more in checked arithmetic, where the successor of the greatest
word is no word and the whole operation has no result. Adding instances has a result exactly as long
as there are suffixes for them (`grow?_eq`, `resize?_eq`, `setValues?_eq`), and then it is that of
the operation itself. A run that creates no more instances than there are suffixes therefore never
leaves their range (`suffixes_in_range`).
-/

namespace SettingsForm

namespace Group

variable {g : Group} {n target : Nat}

/-! ## Checked operations -/

/-- The successor of every suffix in use is in range. -/
def SuccessorsFit (g : Group) : Prop := ∀ i ∈ g.instances, i.suffix.toNat + 1 < UInt32.size

instance (g : Group) : Decidable g.SuccessorsFit := by unfold SuccessorsFit; infer_instance

/-- Puts the next instance in a place; its suffix is found among the successors of all suffixes. -/
def insertAt? (g : Group) (place : Nat) : Option Group :=
  if g.SuccessorsFit then some (g.insertAt place) else none

/-- Adds an empty instance after the one with an id. -/
def addAfter? (g : Group) (id : String) : Option (Except FormError (String × Group)) :=
  match g.position? id with
  | none => some (.error (.unknownControl id))
  | some place => (g.insertAt? (place + 1)).map fun h => .ok (g.nextInstance.input.id, h)

/-- Adds empty instances at the end. -/
def grow? (g : Group) : Nat → Option Group
  | 0 => some g
  | n + 1 => (g.insertAt? g.instances.length).bind fun h => h.grow? n

/-- One attempt at bringing the group to a number of instances. -/
def resizeOnce? (g : Group) (target : Nat) : Option (Group × Except FormError Unit) :=
  if g.instances.length < target then
    (g.grow? (target - g.instances.length)).map fun h => (h, .ok ())
  else some (g.shrink (g.instances.length - target))

/-- Brings the group to a number of instances in at most `attempts` attempts. -/
def resizeWithin? (target : Nat) : Nat → Group → Option (Group × Except FormError Unit)
  | 0, g => some (resizeWithin target 0 g)
  | attempts + 1, g =>
    if g.instances.length = target then some (g, .ok ())
    else
      (g.resizeOnce? target).bind fun
        | (next, .ok ()) => resizeWithin? target attempts next
        | (next, .error e) => some (next, .error e)

/-- Brings the group to a number of instances. -/
def resize? (g : Group) (target : Nat) : Option (Group × Except FormError Unit) :=
  resizeWithin? target resizeAttempts g

/-- Brings the group to some values. -/
def setValues? (g : Group) (values : List String) : Option (Group × Except FormError Unit) :=
  (g.resize? (max values.length 1)).map fun
    | (sized, .ok ()) => ({ sized with instances := assign sized.instances values }, .ok ())
    | (sized, .error e) => (sized, .error e)

/-- The group after a call. -/
def perform? (g : Group) : Call → Option Group
  | .addAfter id =>
    (g.addAfter? id).map fun
      | .ok (_, h) => h
      | .error _ => g
  | .setValues values => (g.setValues? values).map Prod.fst
  | .resize target => (g.resize? target).map Prod.fst
  | .remove id => some (g.perform (.remove id))
  | .setValue id value => some (g.perform (.setValue id value))

/-- The group after some calls. -/
def run? (g : Group) (calls : List Call) : Option Group := calls.foldlM perform? g

/-! ## When they have a result -/

theorem successorsFit_iff : g.SuccessorsFit ↔ g.suffixBound < UInt32.size := by
  have hpos : 0 < UInt32.size := by decide
  rw [← Nat.le_sub_one_iff_lt hpos, suffixBound_le]
  refine forall₂_congr fun i _ => ?_
  omega

theorem insertAt?_eq (place : Nat) : g.insertAt? place =
    if g.suffixBound < UInt32.size then some (g.insertAt place) else none := by
  simp only [insertAt?, successorsFit_iff]

/-- Instances are added exactly as long as there are suffixes for them. -/
theorem grow?_eq (n : Nat) : g.grow? n =
    if g.suffixBound + n ≤ UInt32.size then some (g.grow n) else none := by
  induction n generalizing g with
  | zero => rw [Nat.add_zero, if_pos g.suffixBound_le_size]; rfl
  | succ n ih =>
    rw [grow?, insertAt?_eq]
    by_cases hlt : g.suffixBound < UInt32.size
    · have hbound : (g.insertAt g.instances.length).suffixBound + n =
          g.suffixBound + (n + 1) := by
        rw [suffixBound_insertAt_length hlt]
        omega
      rw [if_pos hlt, Option.bind_some, ih, hbound]
      rfl
    · rw [if_neg hlt, if_neg (by omega)]
      rfl

theorem addAfter?_eq_some (id : String)
    (hroom : g.suffixBound + g.created (.addAfter id) ≤ UInt32.size) :
    g.addAfter? id = some (g.addAfter id) := by
  unfold addAfter? addAfter
  cases hplace : g.position? id with
  | none => rfl
  | some place =>
    have hcreated : g.created (.addAfter id) = 1 := by simp [created, hplace]
    have hlt : g.suffixBound < UInt32.size := by omega
    simp only [insertAt?_eq, if_pos hlt, Option.map_some]

theorem length_remove {id : String} {h : Group} (hremove : g.remove id = .ok h) :
    g.instances.length ≤ h.instances.length + 1 := by
  unfold Group.remove at hremove
  split at hremove
  · cases hremove
  · split at hremove
    · obtain rfl := Except.ok.inj hremove
      simp only [List.length_eraseIdx]
      split <;> omega
    · obtain rfl := Except.ok.inj hremove
      simp

theorem length_shrink (g : Group) (n : Nat) :
    g.instances.length ≤ (g.shrink n).1.instances.length + n := by
  induction n generalizing g with
  | zero => exact Nat.le_refl _
  | succ n ih =>
    unfold shrink
    split
    · exact Nat.le_add_right _ _
    · split
      · rename_i smaller hremove
        have hone := length_remove hremove
        have hrest := ih smaller
        omega
      · exact Nat.le_add_right _ _

/-- An attempt leaves no instances to add. -/
theorem length_resizeOnce (g : Group) (target : Nat) :
    target ≤ (g.resizeOnce target).1.instances.length := by
  unfold resizeOnce
  split
  · obtain ⟨added, hadded, hlength, -⟩ := g.grow_eq (target - g.instances.length)
    simp only [hadded, List.length_append, hlength]
    omega
  · have hlength := g.length_shrink (g.instances.length - target)
    omega

theorem resizeOnce?_eq (target : Nat) : g.resizeOnce? target =
    if g.suffixBound + (target - g.instances.length) ≤ UInt32.size then
      some (g.resizeOnce target) else none := by
  unfold resizeOnce? resizeOnce
  split
  · rw [grow?_eq]
    split <;> rfl
  · rename_i hle
    rw [Nat.sub_eq_zero_of_le (Nat.not_lt.mp hle), Nat.add_zero, if_pos g.suffixBound_le_size]

theorem resizeWithin?_eq_some (attempts : Nat)
    (hroom : g.suffixBound + (target - g.instances.length) ≤ UInt32.size) :
    resizeWithin? target attempts g = some (resizeWithin target attempts g) := by
  induction attempts generalizing g with
  | zero => rfl
  | succ attempts ih =>
    unfold resizeWithin? resizeWithin
    split
    · rfl
    · rw [resizeOnce?_eq, if_pos hroom, Option.bind_some]
      have hlength := g.length_resizeOnce target
      generalize g.resizeOnce target = outcome at hlength
      rcases outcome with ⟨next, ⟨⟩ | ⟨⟩⟩
      · rfl
      · refine ih ?_
        rw [Nat.sub_eq_zero_of_le hlength, Nat.add_zero]
        exact next.suffixBound_le_size

/-- A group is resized exactly when there are suffixes for its new instances. -/
theorem resize?_eq (target : Nat) : g.resize? target =
    if g.suffixBound + (target - g.instances.length) ≤ UInt32.size then
      some (g.resize target) else none := by
  split
  · rename_i hroom
    exact resizeWithin?_eq_some resizeAttempts hroom
  · rename_i hroom
    have hne : g.instances.length ≠ target := by
      rintro rfl
      rw [Nat.sub_self] at hroom
      exact hroom g.suffixBound_le_size
    rw [resize?, resizeAttempts, resizeWithin?, if_neg hne, resizeOnce?_eq, if_neg hroom]
    rfl

theorem setValues?_eq (values : List String) : g.setValues? values =
    if g.suffixBound + (max values.length 1 - g.instances.length) ≤ UInt32.size then
      some (g.setValues values) else none := by
  rw [setValues?, resize?_eq, setValues]
  split
  · rcases g.resize (max values.length 1) with ⟨sized, ⟨⟩ | ⟨⟩⟩ <;> rfl
  · rfl

/-- A call for which there are suffixes has the same result in checked arithmetic. -/
theorem perform?_eq_some (call : Call) (hroom : g.suffixBound + g.created call ≤ UInt32.size) :
    g.perform? call = some (g.perform call) := by
  cases call with
  | addAfter id =>
    rw [perform?, addAfter?_eq_some id hroom, perform]
    rcases g.addAfter id with _ | ⟨_, h⟩ <;> rfl
  | setValues values => rw [perform?, setValues?_eq, if_pos (by exact hroom)]; rfl
  | resize target => rw [perform?, resize?_eq, if_pos (by exact hroom)]; rfl
  | remove id => rfl
  | setValue id value => rfl

/-! ## Runs -/

theorem Intact.suffixBound_le (hg : g.Intact n) : g.suffixBound ≤ n :=
  Group.suffixBound_le.mpr hg.suffixes.lt

theorem Intact.run?_eq_some (hg : g.Intact n) (calls : List Call)
    (hn : n + g.createdIn calls ≤ UInt32.size) : g.run? calls = some (g.run calls) := by
  induction calls generalizing g n with
  | nil => rfl
  | cons call rest ih =>
    rw [createdIn, ← Nat.add_assoc] at hn
    have hbound := hg.suffixBound_le
    rw [run?, List.foldlM_cons, perform?_eq_some call (by omega)]
    exact ih (hg.perform_any call (by omega)) hn

theorem createdIn_append (g : Group) (before after : List Call) :
    g.createdIn (before ++ after) = g.createdIn before + (g.run before).createdIn after := by
  induction before generalizing g with
  | nil => exact (Nat.zero_add _).symm
  | cons call rest ih =>
    rw [List.cons_append, createdIn, ih, createdIn, Nat.add_assoc]
    rfl

end Group

/-- The group of an item after every run that creates no more instances, those it was rendered with
included, than there are suffixes. Rendering numbers the instances by their places. In checked
arithmetic the run has the same result, so that the successor of a suffix was never out of range when
an instance was added. After each call the suffixes are distinct, and smaller than the number of
instances that were created. -/
theorem Group.suffixes_in_range (item : Item) (hitem : item.isMultiple = true)
    (value : Option FieldValue) (ctx : RenderContext) :
    ∃ rendered, (item.render value ctx).body = .group rendered ∧ ∀ calls : List Group.Call,
      let created := rendered.instances.length + rendered.createdIn calls
      created ≤ UInt32.size →
      (rendered.instances.map fun i => i.suffix.toNat) = List.range rendered.instances.length ∧
      rendered.run? calls = some (rendered.run calls) ∧
      ∀ before, before <+: calls →
        ((rendered.run before).instances.map Instance.suffix).Nodup ∧
        ∀ i ∈ (rendered.run before).instances, i.suffix.toNat ≤ created - 1 := by
  obtain ⟨field, hbody⟩ := item.exists_renderedGroup value ctx.writable hitem
  refine ⟨_, hbody, fun calls => ?_⟩
  intro created hcreated
  have hrendered := Item.intact_of_body hbody (by omega)
  refine ⟨?_, hrendered.run?_eq_some calls hcreated, fun before hbefore => ?_⟩
  · rw [item.length_renderedGroup]
    refine item.toNat_suffix_renderedGroup field value ctx.writable ?_
    rw [← item.length_renderedGroup field value ctx.writable]
    omega
  · obtain ⟨after, rfl⟩ := hbefore
    have hbefore := (item.renderedGroup field value ctx.writable).createdIn_append before after
    have hintact := hrendered.run_within before (by omega)
    refine ⟨hintact.suffixes.nodup, fun i hi => ?_⟩
    have hlt := hintact.suffixes.lt i hi
    omega

/-- Suffixes become free again when their instances are removed, so the group ends with smaller ones
than it had on the way. -/
theorem Group.suffixes_in_range_lowered :
    let item : Item := ⟨"dir", "Folder", "", none, none, false, .text ⟨true, false, ""⟩⟩
    let before : List Group.Call :=
      [.addAfter "dir0", .remove "dir2", .setValues ["x"], .resize 4, .addAfter "dir1"]
    let after : List Group.Call := [.resize 0, .addAfter "dir0", .addAfter "dir9"]
    ∃ rendered, (item.render (some (.sequence ["a", "b"])) ⟨true, true⟩).body = .group rendered ∧
      rendered.instances.length + rendered.createdIn (before ++ after) = 8 ∧
      rendered.run? (before ++ after) = some (rendered.run (before ++ after)) ∧
      (rendered.run before).ids = ["dir0", "dir1", "dir4", "dir2", "dir3"] ∧
      (∀ i ∈ (rendered.run before).instances, i.suffix.toNat ≤ 7) ∧
      (rendered.run (before ++ after)).ids = ["dir0", "dir1"] := by
  intro item before after
  let g := item.renderedGroup ⟨true, false, ""⟩ (some (.sequence ["a", "b"])) true
  obtain ⟨hcreated, hbefore, hafter⟩ : g.instances.length + g.createdIn (before ++ after) = 8 ∧
      (g.run before).ids = ["dir0", "dir1", "dir4", "dir2", "dir3"] ∧
      (g.run (before ++ after)).ids = ["dir0", "dir1"] := by
    decide +kernel
  obtain ⟨h, hbody, hrun⟩ :=
    Group.suffixes_in_range item rfl (some (.sequence ["a", "b"])) ⟨true, true⟩
  obtain rfl : g = h := BlockBody.group.inj hbody
  obtain ⟨-, hchecked, hsuffixes⟩ := hrun (before ++ after) (by rw [hcreated]; decide)
  obtain ⟨-, hle⟩ := hsuffixes before (List.prefix_append before after)
  rw [hcreated] at hle
  exact ⟨g, hbody, hcreated, hchecked, hbefore, hle, hafter⟩

end SettingsForm
