import SettingsForm.Proofs.Form.ControlIds

/-!
# Runs of a group

A run of a group is any sequence of its operations, refused ones included, and of edits of its
values. `Group.Intact` is what an operation keeps: there is an instance, every instance is what the
template builds under its suffix, and the suffixes are distinct, being below the number of instances
created so far (`Intact.perform`). A rendered group is intact, so it stays so along every run
(`run_intact`).
-/

namespace SettingsForm

namespace Group

variable {g h : Group} {n : Nat}

/-- A call of one of a group's operations, or an edit of the value of one of its instances. -/
inductive Call where
  | addAfter (id : String)
  | remove (id : String)
  | setValues (values : List String)
  | resize (target : Nat)
  | setValue (id value : String)
  deriving Repr, DecidableEq

/-- A group cannot be brought to no instances at all. -/
def Call.IsAdmissible : Call → Prop
  | .resize target => 1 ≤ target
  | _ => True

instance : DecidablePred Call.IsAdmissible := fun call => by
  cases call <;> unfold Call.IsAdmissible <;> infer_instance

/-- The group after a call; one that is refused leaves it as it is. -/
def perform (g : Group) : Call → Group
  | .addAfter id =>
    match g.addAfter id with
    | .ok (_, h) => h
    | .error _ => g
  | .remove id =>
    match g.remove id with
    | .ok h => h
    | .error _ => g
  | .setValues values => (g.setValues values).1
  | .resize target => (g.resize target).1
  | .setValue id value => (g.setValue? id value).getD g

/-- The group after some calls. -/
def run (g : Group) (calls : List Call) : Group := calls.foldl perform g

/-- The number of instances that a call creates. -/
def created (g : Group) : Call → Nat
  | .addAfter id => if (g.position? id).isSome then 1 else 0
  | .setValues values => max values.length 1 - g.instances.length
  | .resize target => target - g.instances.length
  | _ => 0

/-- The number of instances that some calls create. -/
def createdIn (g : Group) : List Call → Nat
  | [] => 0
  | call :: rest => g.created call + (g.perform call).createdIn rest

/-! ## What a call can do -/

/-- A call changes nothing, makes one of the changes of a group, or resizes it. -/
theorem perform_cases (g : Group) {call : Call} (hcall : call.IsAdmissible) :
    g.perform call = g ∨
    (g.Step (g.perform call) ∧
      (g.perform call).instances.length - g.instances.length = g.created call) ∨
    ∃ target sized, call = .resize target ∧ g.perform call = { g with instances := sized } ∧
      sized.length = target ∧ g.Sized target sized := by
  cases call with
  | addAfter id =>
    cases hadd : g.addAfter id with
    | error e => exact .inl (by simp only [perform, hadd])
    | ok added =>
      refine .inr (.inl ?_)
      have hstep := step_of_addAfter hadd
      simp only [perform, hadd]
      refine ⟨hstep, ?_⟩
      unfold addAfter at hadd
      split at hadd
      · cases hadd
      · rename_i place hplace
        obtain rfl := Except.ok.inj hadd
        obtain ⟨hlt, -⟩ := List.findIdx?_eq_some_iff_getElem.mp hplace
        simp [created, hplace, insertAt, List.length_insertIdx_of_le_length (Nat.succ_le_of_lt hlt)]
  | remove id =>
    cases hremove : g.remove id with
    | error e => exact .inl (by simp only [perform, hremove])
    | ok smaller =>
      refine .inr (.inl ?_)
      have hstep := step_of_remove hremove
      simp only [perform, hremove]
      refine ⟨hstep, ?_⟩
      unfold Group.remove at hremove
      split at hremove
      · cases hremove
      · split at hremove
        · obtain rfl := Except.ok.inj hremove
          exact Nat.sub_eq_zero_of_le (List.length_eraseIdx_le _ _)
        · obtain rfl := Except.ok.inj hremove
          simp [created]
  | setValues values =>
    obtain ⟨sized, hset, hlength, -⟩ := g.setValues_eq values
    refine .inr (.inl ⟨.set values, ?_⟩)
    simp only [perform, created, hset, length_assign, hlength]
  | resize target =>
    obtain ⟨sized, hresize, hlength, hsized⟩ := g.resize_eq hcall
    exact .inr (.inr ⟨target, sized, rfl, by simp only [perform, hresize], hlength, hsized⟩)
  | setValue id value =>
    cases hset : g.setValue? id value with
    | none => exact .inl (by simp only [perform, hset, Option.getD_none])
    | some h =>
      refine .inr (.inl ?_)
      simp only [perform, hset, Option.getD_some]
      refine ⟨step_of_setValue? hset, ?_⟩
      obtain ⟨l, hl, rfl⟩ := Option.map_eq_some_iff.mp hset
      obtain ⟨pre, i, j, post, hg, -, -, rfl⟩ := exists_of_replaceFirst?_eq_some hl
      simp [created, hg]

/-! ## Intact groups -/

/-- There is an instance, each one is what the template builds, and their suffixes are distinct and
below a number. -/
structure Intact (n : Nat) (g : Group) : Prop where
  instances_ne_nil : g.instances ≠ []
  built : g.Built
  suffixes : g.SuffixesBelow n

theorem Intact.perform (hg : g.Intact n) {call : Call} (hcall : call.IsAdmissible)
    (hn : n + g.created call ≤ UInt32.size) : (g.perform call).Intact (n + g.created call) := by
  rcases g.perform_cases hcall with hsame | ⟨hstep, hcreated⟩ |
    ⟨target, sized, rfl, hresized, hlength, hsized⟩
  · rw [hsame]
    exact ⟨hg.instances_ne_nil, hg.built, hg.suffixes.mono (Nat.le_add_right _ _)⟩
  · rw [← hcreated] at hn ⊢
    exact ⟨hstep.instances_ne_nil hg.instances_ne_nil, hstep.built hg.built,
      hstep.suffixesBelow hg.suffixes hn⟩
  · rw [hresized]
    refine ⟨?_, hsized.built hg.built, hsized.suffixesBelow hg.suffixes hn⟩
    exact List.ne_nil_of_length_pos (hlength ▸ hcall)

/-- A call changes nothing of a group but its instances. -/
theorem perform_eq_with_instances (g : Group) {call : Call} (hcall : call.IsAdmissible) :
    g.perform call = { g with instances := (g.perform call).instances } := by
  rcases g.perform_cases hcall with hsame | ⟨hstep, -⟩ | ⟨_, _, -, hresized, -⟩
  · rw [hsame]
  · exact hstep.eq_with_instances
  · rw [hresized]

theorem Intact.run (hg : g.Intact n) {calls : List Call} (hcalls : ∀ call ∈ calls, call.IsAdmissible)
    (hn : n + g.createdIn calls < UInt32.size) :
    (g.run calls).Intact (n + g.createdIn calls) ∧
      g.run calls = { g with instances := (g.run calls).instances } := by
  induction calls generalizing g n with
  | nil => exact ⟨hg, rfl⟩
  | cons call rest ih =>
    obtain ⟨hcall, hrest⟩ := List.forall_mem_cons.mp hcalls
    rw [createdIn, ← Nat.add_assoc] at hn ⊢
    obtain ⟨hintact, hother⟩ := ih (hg.perform hcall (by omega)) hrest hn
    refine ⟨hintact, ?_⟩
    show (g.perform call).run rest = _
    have hfirst := g.perform_eq_with_instances hcall
    calc (g.perform call).run rest
        = { g.perform call with instances := ((g.perform call).run rest).instances } := hother
      _ = { g with instances := ((g.perform call).run rest).instances } := by rw [hfirst]

end Group

/-- The group that an item is rendered with is intact. -/
theorem Item.intact_of_body {item : Item} {value : Option FieldValue} {writable : Bool} {g : Group}
    (hbody : item.body value writable = .group g) (hcount : g.instances.length ≤ UInt32.size) :
    g.Intact g.instances.length := by
  have hregular := item.body_regular value writable
  have hsuffixes := item.body_suffixesBelow value writable (by rw [hbody]; exact hcount)
  rw [hbody] at hregular hsuffixes
  obtain ⟨-, hbuilt, hne⟩ := hregular
  exact ⟨hne, hbuilt, hsuffixes⟩

/-- The group of an item stays intact along every run that creates fewer instances, those it was
rendered with included, than there are suffixes. It has an instance, no two instances share a suffix
or an id, and each of them is what the template builds from its suffix and its value: labelled and
sized as the item says, disabled when the server accepts no changes, with a way to remove itself from
its own group, and one to browse for its own value when the item offers that. -/
theorem Group.run_intact (item : Item) (hitem : item.isMultiple = true) (value : Option FieldValue)
    (ctx : RenderContext) :
    ∃ field g, item.kind = .text field ∧ (item.render value ctx).body = .group g ∧
      ∀ calls : List Group.Call, (∀ call ∈ calls, call.IsAdmissible) →
        g.instances.length + g.createdIn calls < UInt32.size →
        let h := g.run calls
        h.instances ≠ [] ∧ (h.instances.map Instance.suffix).Nodup ∧
        (h.instances.map fun i => i.input.id).Nodup ∧
        h.baseId = item.id ∧ h.template = g.template ∧
        ∀ i ∈ h.instances, i = h.template.build h.baseId i.suffix i.input.value ∧
          i.input = {
            id := instanceId item.id i.suffix
            label := item.name
            description := item.description
            value := i.input.value
            size := item.size
            disabled := !ctx.writable
            affordances := .remove item.id i.input.id ::
              if field.browse then [.browse i.input.id] else [] } := by
  obtain ⟨field, hkind, hbody⟩ : ∃ field, item.kind = .text field ∧
      item.body value ctx.writable = .group (item.renderedGroup field value ctx.writable) := by
    rcases item.body_cases value ctx.writable with ⟨field, hkind, -, hbody⟩ |
      ⟨_, -, hmultiple, -⟩ | ⟨_, -, hmultiple, -⟩
    · exact ⟨field, hkind, hbody⟩
    · rw [hitem] at hmultiple
      cases hmultiple
    · rw [hitem] at hmultiple
      cases hmultiple
  refine ⟨field, item.renderedGroup field value ctx.writable, hkind, hbody, ?_⟩
  intro calls hcalls hcreated h
  have hrendered := Item.intact_of_body hbody (by omega)
  obtain ⟨⟨hne, hbuilt, hsuffixes⟩, hother⟩ := hrendered.run hcalls hcreated
  have hbase : h.baseId = item.id := congrArg Group.baseId hother
  have htemplate : h.template = item.template field ctx.writable := congrArg Group.template hother
  refine ⟨hne, hsuffixes.nodup, hbuilt.ids_nodup hsuffixes.nodup, hbase, htemplate, ?_⟩
  intro i hi
  have hi := hbuilt i hi
  refine ⟨hi, ?_⟩
  rw [hbase, htemplate] at hi
  have hid : i.input.id = instanceId item.id i.suffix := congrArg (fun i => i.input.id) hi
  rw [hid]
  exact congrArg Instance.input hi

/-- The greatest suffix is used again after its instance was removed. -/
theorem Group.run_intact_reused_suffix :
    let item : Item := ⟨"dir", "Folder", "", none, none, false, .text ⟨true, true, ""⟩⟩
    let calls : List Group.Call := [.addAfter "dir0", .remove "dir2", .addAfter "dir1",
      .setValue "dir2" "x", .resize 4, .addAfter "dir9"]
    ∃ g, (item.render (some (.sequence ["a", "b"])) ⟨true, true⟩).body = .group g ∧
      (∀ call ∈ calls, call.IsAdmissible) ∧
      g.instances.length + g.createdIn calls < UInt32.size ∧
      (g.run calls).values = ["a", "b", "x", ""] ∧
      ((g.run calls).instances.map fun i => i.input.id).Nodup := by
  intro item calls
  let g := item.renderedGroup ⟨true, true, ""⟩ (some (.sequence ["a", "b"])) true
  obtain ⟨hcalls, hcreated, hvalues⟩ : (∀ call ∈ calls, call.IsAdmissible) ∧
      g.instances.length + g.createdIn calls < UInt32.size ∧
      (g.run calls).values = ["a", "b", "x", ""] := by decide +kernel
  obtain ⟨field, h, -, hbody, hrun⟩ :=
    Group.run_intact item rfl (some (.sequence ["a", "b"])) ⟨true, true⟩
  obtain rfl : g = h := BlockBody.group.inj hbody
  obtain ⟨-, -, hids, -⟩ := hrun calls hcalls hcreated
  exact ⟨g, hbody, hcalls, hcreated, hvalues, hids⟩

end SettingsForm
