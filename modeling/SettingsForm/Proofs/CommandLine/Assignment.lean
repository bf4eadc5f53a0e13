import SettingsForm.CommandLine.Run
import SettingsForm.Proofs.Session.Assigning
import SettingsForm.Proofs.Session.Fields

/-!
# Assigning settings

Assignments are applied one after the other to the form that was loaded, and nothing is sent before
all of them succeeded. One of them succeeds exactly when the form can be written, its key is that of
an item, and its value one that the item can have (`assign_eq_ok`, `assign_eq_error`). So either the
whole form is sent once, with the last value assigned to each key in the place of the loaded one, or
nothing is sent (`set_all_or_nothing`).
-/

namespace SettingsForm

/-! ## Values that an item can have -/

/-- The item of the key is registered, and can have the value. -/
def Catalog.accepts (c : Catalog) (key value : String) : Bool :=
  match c.item? key with
  | none => false
  | some item =>
    match item.kind with
    | .text _ => true
    | .select options => options.any fun o => o.value = value

theorem Catalog.accepts_eq_true {c : Catalog} {key value : String}
    (haccepts : c.accepts key value = true) : ∃ item, c.item? key = some item ∧
      ∀ options, item.kind = .select options → (options.any fun o => o.value = value) = true := by
  unfold accepts at haccepts
  split at haccepts
  · cases haccepts
  · rename_i item hitem
    refine ⟨item, hitem, fun options hkind => ?_⟩
    rw [hkind] at haccepts
    exact haccepts

namespace CommandLine

/-! ## One assignment -/

variable {s : Session} {f : Form} {key value : String}

theorem assign_eq_ok (hs : s.Sound) (hf : s.Loaded f) (hwritable : f.isWritable = true)
    (haccepts : s.catalog.accepts key value = true) :
    assign s key value = .ok (s.assigned f key value) := by
  obtain ⟨item, hitem, hoptions⟩ := Catalog.accepts_eq_true haccepts
  obtain ⟨b, hb, hshape⟩ := hs.exists_block hf.form hitem
  unfold assign
  simp only [hitem]
  rcases Item.sameShape_cases hshape with ⟨field, instances, -, hmultiple, -, hbody⟩ |
    ⟨field, entered, hkind, hmultiple, -, hbody⟩ | ⟨options, selected, hkind, hmultiple, -, hbody⟩
  · rw [if_pos hmultiple, Session.setItemValues_eq_assigned hs hf hwritable hb hbody]
  · rw [if_neg (by simp [hmultiple]), hkind]
    simp only
    rw [Session.setValue_eq_assigned hs hf hwritable hb hbody]
  · rw [if_neg (by simp [hmultiple]), hkind]
    simp only
    rw [Session.select_eq_assigned hs hf hwritable hb hbody (hoptions options hkind)]

theorem assign_eq_error (hs : s.Sound) (hf : s.Loaded f)
    (hrefused : (f.isWritable && s.catalog.accepts key value) = false) :
    ∃ fault, assign s key value = .error fault := by
  unfold assign
  cases hitem : s.catalog.item? key with
  | none => exact ⟨_, rfl⟩
  | some item =>
    obtain ⟨b, hb, hshape⟩ := hs.exists_block hf.form hitem
    simp only
    cases hwritable : f.isWritable with
    | false =>
      have hedit := hf.edit_of_not_writable (α := Unit) hwritable .edit
      generalize houtcome : (if item.isMultiple then _ else _ : Outcome Unit) = outcome
      have hresult : outcome.result = .error .notWritable := by
        rw [← houtcome]
        split
        · exact hedit _
        · split <;> exact hedit _
      rw [hresult]
      exact ⟨_, rfl⟩
    | true =>
      rw [hwritable, Bool.true_and, Catalog.accepts, hitem] at hrefused
      rcases Item.sameShape_cases hshape with ⟨field, instances, hkind, -⟩ |
        ⟨field, entered, hkind, -⟩ | ⟨options, selected, hkind, hmultiple, -, hbody⟩
      · simp [hkind] at hrefused
      · simp [hkind] at hrefused
      · simp only [hkind] at hrefused
        rw [if_neg (by simp [hmultiple]), hkind]
        simp only
        rw [Session.select_eq_unknownOption hf hwritable hb hbody hrefused]
        exact ⟨_, rfl⟩

/-! ## Assigned fields -/

/-- The value that is assigned to a key last. -/
def lastValue? (assignments : List (String × String)) (key : String) : Option String :=
  (assignments.reverse.find? fun a => a.1 = key).map Prod.snd

theorem lastValue?_cons (a : String × String) (rest : List (String × String)) (key : String) :
    lastValue? (a :: rest) key =
      (lastValue? rest key).or (if a.1 = key then some a.2 else none) := by
  unfold lastValue?
  rw [List.reverse_cons, List.find?_append, Option.map_or]
  by_cases hkey : a.1 = key <;> simp [hkey]

theorem mem_of_lastValue? {assignments : List (String × String)}
    (hvalue : lastValue? assignments key = some value) : (key, value) ∈ assignments := by
  obtain ⟨a, ha, rfl⟩ := Option.map_eq_some_iff.mp hvalue
  obtain rfl : a.1 = key := by simpa using List.find?_some ha
  exact List.mem_reverse.mp (List.mem_of_find?_eq_some ha)

/-- The field with the values last assigned to its item, or as it is when none were. -/
def assignedField (c : Catalog) (assignments : List (String × String))
    (field : String × List String) : String × List String :=
  match lastValue? assignments field.1, c.item? field.1 with
  | some value, some item => (field.1, item.assignedValues value)
  | _, _ => field

@[simp] theorem assignedField_fst (c : Catalog) (assignments : List (String × String))
    (field : String × List String) : (assignedField c assignments field).1 = field.1 := by
  unfold assignedField
  split <;> rfl

theorem assignedField_nil (c : Catalog) (field : String × List String) :
    assignedField c [] field = field := rfl

/-- Assigning the first value and then the others is assigning all. -/
theorem assignedField_assignedField (c : Catalog) (a : String × String)
    (rest : List (String × String)) (field : String × List String) :
    assignedField c rest (assignedField c [a] field) = assignedField c (a :: rest) field := by
  rw [assignedField, assignedField_fst]
  unfold assignedField
  rw [lastValue?_cons a rest, lastValue?_cons a []]
  cases c.item? field.1 with
  | none => simp
  | some item => cases lastValue? rest field.1 <;> simp [lastValue?]

theorem assignedField_singleton {c : Catalog} {item : Item} {field : String × List String}
    (hitem : c.item? field.1 = some item) : assignedField c [(key, value)] field =
      if field.1 = key then (field.1, item.assignedValues value) else field := by
  unfold assignedField
  rw [hitem, lastValue?_cons]
  by_cases hkey : key = field.1
  · simp [lastValue?, hkey]
  · simp [lastValue?, hkey, Ne.symm hkey]

/-- Assigning a value replaces the values of the field that has the key. -/
theorem updateRequest_assign (hs : s.Sound) (hf : s.form = some f) (key value : String) :
    (f.mapBlocks (Block.assign key value)).updateRequest =
      ⟨f.updateRequest.fields.map (assignedField s.catalog [(key, value)])⟩ := by
  unfold Form.updateRequest
  rw [Form.blocks_mapBlocks, List.filterMap_map, List.map_filterMap]
  congr 1
  refine List.filterMap_congr fun b hb => ?_
  obtain ⟨r, hr, hrb⟩ := hs.exists_rendered hf hb
  rcases Form.renderId?_cases hr with ⟨item, hitem, rfl⟩ | ⟨-, fault, rfl⟩
  · have hregular := hs.regular f hf b hb
    obtain ⟨field, hfield, hsends⟩ := Item.field?_of_sameShape hrb hregular
    have hid : field.1 = b.itemId := hsends.1.trans hrb.itemId.symm
    rw [Function.comp_apply, Item.field?_assign hrb hregular, hfield, Option.map_some,
      Option.map_some, assignedField_singleton (hid ▸ hitem)]
  · have hbody := BlockBody.SameShape.eq_fault hrb.body
    have hassigned : (b.assign key value).body = b.body := by
      unfold Block.assign
      split
      · simp only [hbody, BlockBody.assign]
      · rfl
    rw [Function.comp_apply, Block.field?, Block.field?, hassigned, hbody]
    rfl

/-- A key to which a value was assigned has this value, whatever the kind of its item. -/
theorem get?_assigned {c : Catalog} {assignments : List (String × String)}
    {fields : List (String × List String)} {item : Item} (hitem : c.item? key = some item)
    (hkey : key ∈ fields.map Prod.fst) (hvalue : lastValue? assignments key = some value) :
    UpdateRequest.get? ⟨fields.map (assignedField c assignments)⟩ key = some value := by
  obtain ⟨field, hfield⟩ : ∃ field, fields.find? (fun field => field.1 = key) = some field := by
    obtain ⟨field, hmem, rfl⟩ := List.mem_map.mp hkey
    exact Option.isSome_iff_exists.mp (List.find?_isSome.mpr ⟨field, hmem, by simp⟩)
  have hfst : field.1 = key := by simpa using List.find?_some hfield
  simp only [UpdateRequest.get?, List.find?_map, Function.comp_def, assignedField_fst, hfield,
    Option.map_some]
  rw [assignedField, hfst, hvalue, hitem, item.intercalate_assignedValues]

/-! ## All assignments -/

variable {assignments : List (String × String)}

theorem assignAll_eq_ok (hs : s.Sound) (hf : s.Loaded f) (hwritable : f.isWritable = true)
    (haccepts : (assignments.all fun a => s.catalog.accepts a.1 a.2) = true) :
    ∃ t g, assignAll s assignments = .ok t ∧ t.Loaded g ∧ g.isWritable = true ∧
      g.updateRequest = ⟨f.updateRequest.fields.map (assignedField s.catalog assignments)⟩ := by
  induction assignments generalizing s f with
  | nil =>
    refine ⟨s, f, rfl, hf, hwritable, ?_⟩
    rw [List.map_congr_left fun field _ => assignedField_nil s.catalog field, List.map_id']
  | cons a rest ih =>
    obtain ⟨hfirst, hrest⟩ := Bool.and_eq_true_iff.mp haccepts
    have hnext : (s.assigned f a.1 a.2).Loaded (f.mapBlocks (Block.assign a.1 a.2)) :=
      ⟨rfl, .inr rfl⟩
    obtain ⟨t, g, hall, hg, hgwritable, hfields⟩ := ih (hs.assigned hf.form) hnext hwritable hrest
    refine ⟨t, g, ?_, hg, hgwritable, ?_⟩
    · rw [assignAll, assign_eq_ok hs hf hwritable hfirst]
      exact hall
    · rw [hfields, updateRequest_assign hs hf.form, List.map_map]
      exact congrArg UpdateRequest.mk (List.map_congr_left fun field _ =>
        assignedField_assignedField s.catalog a rest field)

theorem assignAll_eq_error (hs : s.Sound) (hf : s.Loaded f) (hne : assignments ≠ [])
    (hrefused : (f.isWritable && assignments.all fun a => s.catalog.accepts a.1 a.2) = false) :
    ∃ fault, assignAll s assignments = .error fault := by
  induction assignments generalizing s f with
  | nil => exact absurd rfl hne
  | cons a rest ih =>
    cases hfirst : f.isWritable && s.catalog.accepts a.1 a.2 with
    | false =>
      obtain ⟨fault, hfault⟩ := assign_eq_error hs hf hfirst
      exact ⟨fault, by rw [assignAll, hfault]⟩
    | true =>
      -- the first is assigned, so one of the others is refused
      obtain ⟨hwritable, haccepts⟩ := Bool.and_eq_true_iff.mp hfirst
      have hrest : (rest.all fun a => s.catalog.accepts a.1 a.2) = false := by
        rwa [List.all_cons, ← Bool.and_assoc, hfirst, Bool.true_and] at hrefused
      have hnext : (s.assigned f a.1 a.2).Loaded (f.mapBlocks (Block.assign a.1 a.2)) :=
        ⟨rfl, .inr rfl⟩
      obtain ⟨fault, hfault⟩ := ih (hs.assigned hf.form) hnext (by rintro rfl; cases hrest)
        (Bool.and_eq_false_iff.mpr (.inr hrest))
      refine ⟨fault, ?_⟩
      rw [assignAll, assign_eq_ok hs hf hwritable haccepts]
      exact hfault

/-! ## The command -/

theorem save_of_writable (hf : s.Loaded f) (hwritable : f.isWritable = true) (service : Service) :
    (s.save service).sent = [.update f.updateRequest.encode] ∧
      (s.save service).session.form = some f := by
  rw [Session.save_eq hf hwritable]
  split
  · exact ⟨rfl, hf.form⟩
  · exact ⟨rfl, hf.form⟩

theorem assignAndSave_of_ok {t : Session} (hall : assignAll s assignments = .ok t)
    (service : Service) (source : String) :
    (assignAndSave s service source assignments).sent = (t.save service).sent ∧
      (assignAndSave s service source assignments).session = (t.save service).session := by
  unfold assignAndSave
  rw [hall]
  simp only
  split
  · exact ⟨rfl, rfl⟩
  · exact ⟨rfl, rfl⟩

theorem run_set {w : Surroundings} {settings : Settings} (hne : assignments ≠ []) {opened : Opened}
    (hopened : openSession w settings = .ok opened)
    (hload : (opened.session.load (opened.source.service w.network) w.now).result = .ok ()) :
    let service := opened.source.service w.network
    let loaded := opened.session.load service w.now
    let ending := run w ⟨settings, .set assignments⟩
    let assigned := assignAndSave loaded.session service opened.source.name assignments
    ending.sent = loaded.sent ++ assigned.sent ∧ ending.session = some assigned.session ∧
      (ending.fault = none ↔ assigned.result = .ok ()) := by
  intro service loaded ending assigned
  have hending : ending = { carryOut w opened.source service loaded.session (.set assignments) with
      sent := loaded.sent ++
        (carryOut w opened.source service loaded.session (.set assignments)).sent } := by
    simp only [ending, run]
    rw [if_neg (by simpa using hne)]
    simp only [hopened, hload]
    rfl
  rw [hending]
  refine ⟨rfl, rfl, ?_⟩
  unfold carryOut
  cases hresult : assigned.result with
  | ok _ => simp only [assigned, hresult]
  | error fault => simp [assigned, hresult]

/-- Setting settings is all or nothing. When the form can be written, every key is that of an item,
and every value one that its item can have, one update is sent: the fields of the loaded form in
their order, each with the values last assigned to its key, or with those loaded when there are none;
as one text, what is sent under a key is the last value. Otherwise the command fails and sends no
update. -/
theorem set_all_or_nothing (w : Surroundings) (settings : Settings)
    (assignments : List (String × String)) (hne : assignments ≠ []) (opened : Opened)
    (hopened : openSession w settings = .ok opened)
    (hload : (opened.session.load (opened.source.service w.network) w.now).result = .ok ()) :
    let loaded := (opened.session.load (opened.source.service w.network) w.now).session
    let ending := run w ⟨settings, .set assignments⟩
    ∃ f, loaded.form = some f ∧
      if f.isWritable && assignments.all fun a => loaded.catalog.accepts a.1 a.2 then
        let request : UpdateRequest :=
          ⟨f.updateRequest.fields.map (assignedField loaded.catalog assignments)⟩
        ending.sent = [.schema, .status, .values, .update request.encode] ∧
          ending.session.bind Session.updateRequest? = some request ∧
          ∀ key value, lastValue? assignments key = some value → request.get? key = some value
      else ending.sent = [.schema, .status, .values] ∧ ending.fault ≠ none := by
  intro loaded ending
  obtain ⟨hsound, shown, hloaded⟩ := opened.session.load_sound hload
  obtain ⟨hsent, hsession, hfault⟩ := run_set hne hopened hload
  obtain ⟨_, _, _, -, -, hx⟩ := Session.load_eq_of_ok hload
  rw [congrArg Exchange.sent hx] at hsent
  refine ⟨_, hloaded.form, ?_⟩
  generalize loaded.rendered shown = f at hloaded
  split
  · rename_i haccepted
    obtain ⟨hwritable, haccepts⟩ := Bool.and_eq_true_iff.mp haccepted
    obtain ⟨t, g, hall, hg, hgwritable, hfields⟩ :=
      assignAll_eq_ok hsound hloaded hwritable haccepts
    obtain ⟨hsaved, hform⟩ := save_of_writable hg hgwritable (opened.source.service w.network)
    obtain ⟨hassignedSent, hassignedSession⟩ :=
      assignAndSave_of_ok hall (opened.source.service w.network) opened.source.name
    refine ⟨?_, ?_, fun key value hvalue => ?_⟩
    · rw [hsent, hassignedSent, hsaved, hfields]
      rfl
    · rw [hsession, hassignedSession, Option.bind_some, Session.updateRequest?, hform,
        Option.map_some, hfields]
    · have haccepted := List.all_eq_true.mp haccepts _ (mem_of_lastValue? hvalue)
      obtain ⟨item, hitem, -⟩ := Catalog.accepts_eq_true haccepted
      have hkey : key ∈ f.updateRequest.fields.map Prod.fst := by
        rw [Session.keys_of_sends (hsound.sends hloaded.form)]
        obtain ⟨hmem, rfl⟩ := Catalog.item?_some hitem
        exact List.mem_map_of_mem hmem
      exact get?_assigned hitem hkey hvalue
  · rename_i hrefused
    obtain ⟨fault, hall⟩ := assignAll_eq_error hsound hloaded hne (by simpa using hrefused)
    have hassigned : assignAndSave loaded (opened.source.service w.network) opened.source.name
        assignments = ⟨loaded, .error fault, []⟩ := by
      rw [assignAndSave, hall]
    rw [hassigned] at hsent hfault
    exact ⟨hsent, fun hnone => absurd (hfault.mp hnone) (by simp)⟩

/-- The input of an item is set although it has the id of an instance, twice, and so is the group. -/
theorem set_all_or_nothing_collision :
    let schema := "<c><section><item id='dir'><type>text</type><multiple>1</multiple></item>" ++
      "<item id='dir0'><type>text</type></item></section></c>"
    let status := "<s><writable_config>1</writable_config></s>"
    let values := "<c><m><dir>a</dir></m></c>"
    let w : Surroundings := {
      lookUp := fun _ => none
      fileText := fun path =>
        if path = "x/config.xml" then .ok schema
        else if path = "x/stats.xml" then .ok status
        else if path = "x/values.xml" then .ok values
        else .error .missing
      writeFault? := fun _ => none
      network := fun _ => none
      now := default
      keys := [] }
    (run w ⟨⟨none, none, none, none, some "x"⟩,
      .set [("dir0", "x"), ("dir", "b,,c"), ("dir0", "y")]⟩).sent =
      [.schema, .status, .values, .update "dir=b,,c&dir0=y"] := by
  intro schema status values w
  let settings : Settings := ⟨none, none, none, none, some "x"⟩
  let assignments := [("dir0", "x"), ("dir", "b,,c"), ("dir0", "y")]
  let opened : Opened := ⟨.start ⟨some ⟨none, none⟩, .empty⟩ .other,
    .directory "x" ⟨some schema, some status, some values, some FixedReplies.updateAccepted⟩⟩
  have hopened : openSession w settings = .ok opened := rfl
  obtain ⟨hload, hform⟩ :
      (opened.session.load (opened.source.service w.network) w.now).result = .ok () ∧
      ((opened.session.load (opened.source.service w.network) w.now).session.form.map fun f =>
        (f.isWritable && assignments.all fun a => (opened.session.load
          (opened.source.service w.network) w.now).session.catalog.accepts a.1 a.2,
        UpdateRequest.encode ⟨f.updateRequest.fields.map (assignedField (opened.session.load
          (opened.source.service w.network) w.now).session.catalog assignments)⟩)) =
        some (true, "dir=b,,c&dir0=y") := by
    decide +kernel
  obtain ⟨f, hf, hending⟩ := set_all_or_nothing w settings assignments (List.cons_ne_nil _ _) opened
    hopened hload
  rw [hf, Option.map_some, Option.some_inj, Prod.mk.injEq] at hform
  rw [if_pos hform.1] at hending
  obtain ⟨hsent, -⟩ := hending
  rwa [hform.2] at hsent

end CommandLine

end SettingsForm
