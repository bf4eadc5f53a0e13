import SettingsForm.Proofs.Catalog.Accounting
import SettingsForm.Proofs.Form.DropDown
import SettingsForm.Proofs.Session.Cancel
import SettingsForm.Proofs.Session.ReadOnly
import SettingsForm.Proofs.Session.Unedited
import SettingsForm.Proofs.Session.Values

/-!
# What is selected

A drop-down is rendered with a value from the server, which need not be one of its options, and from
then on selections and cancels write its value. Whatever a run did, the value is that of the last
selection of this item that succeeded since the last load or cancel, and so that of an option, or it
is the loaded one (`selected_last`), which the server's values and the default determine
(`Item.loadedValues`).
-/

namespace SettingsForm

theorem BlockBody.Renumbered.sameSelect {x y : BlockBody} (hxy : Renumbered x y) :
    SameSelect x y := by
  cases hxy <;> rfl

namespace Session

variable {s : Session} {e : Event} {x : Exchange} {f g : Form} {id value : String}
  {history : List (Event × Exchange)}

/-! ## One selection -/

section Select

variable (hf : s.Loaded f) (hwritable : f.isWritable = true)

include hf hwritable

theorem select_of_option {c : Select} (hc : f.select? id = some c)
    (hoption : ∃ o ∈ c.options, o.value = value) : s.select id value =
      ⟨{ s with
        form := some (f.updateBody id fun _ => .select { c with selected := value })
        phase := .editing }, .ok ()⟩ := by
  obtain ⟨b, hb, hbody⟩ := Form.select?_eq_some.mp hc
  have hany : (c.options.any fun o => o.value = value) = true := by simpa using hoption
  exact edit_of_ok hf hwritable (by simp only [hb, Option.map_some, hbody, hany, if_true]) .edit

/-- Without such an option a selection is refused and changes nothing. -/
theorem select_of_no_option
    (hoption : ∀ c, f.select? id = some c → ∀ o ∈ c.options, o.value ≠ value) :
    ∃ error, s.select id value = ⟨s, .error error⟩ := by
  cases hc : f.select? id with
  | some c =>
    obtain ⟨b, hb, hbody⟩ := Form.select?_eq_some.mp hc
    have hany : (c.options.any fun o => o.value = value) = false := by simpa using hoption c hc
    refine ⟨.unknownOption id value, edit_of_error hf hwritable ?_ .edit⟩
    simp only [hb, Option.map_some, hbody, hany, Bool.false_eq_true, if_false]
  | none =>
    refine ⟨.unknownItem id, edit_of_error hf hwritable ?_ .edit⟩
    split
    · rename_i control hbody
      obtain ⟨b, hb, hcontrol⟩ := Option.map_eq_some_iff.mp hbody
      rw [Form.select?_eq_some.mpr ⟨b, hb, hcontrol⟩] at hc
      cases hc
    · rfl

theorem select_ok_iff : (s.select id value).result = .ok () ↔
    ∃ c, f.select? id = some c ∧ ∃ o ∈ c.options, o.value = value := by
  by_cases hoption : ∃ c, f.select? id = some c ∧ ∃ o ∈ c.options, o.value = value
  · obtain ⟨c, hc, hvalue⟩ := hoption
    simp only [select_of_option hf hwritable hc hvalue, true_iff]
    exact ⟨c, hc, hvalue⟩
  · have hnone : ∀ c, f.select? id = some c → ∀ o ∈ c.options, o.value ≠ value :=
      fun c hc o ho hvalue => hoption ⟨c, hc, o, ho, hvalue⟩
    obtain ⟨error, hselect⟩ := select_of_no_option hf hwritable hnone
    simp only [hselect, reduceCtorEq, hoption]

theorem select_session_of_not_ok (hnot : (s.select id value).result ≠ .ok ()) :
    (s.select id value).session = s := by
  have hnone : ∀ c, f.select? id = some c → ∀ o ∈ c.options, o.value ≠ value :=
    fun c hc o ho hvalue => hnot ((select_ok_iff hf hwritable).mpr ⟨c, hc, o, ho, hvalue⟩)
  obtain ⟨error, hselect⟩ := select_of_no_option hf hwritable hnone
  rw [hselect]

end Select

/-- What selecting a value does to a body, a selection does to the form of a session. -/
theorem select_related {R : BlockBody → BlockBody → Prop} (hR : ∀ body, R body body)
    (hselect : ∀ c : Select, R (.select c) (.select { c with selected := value }))
    (hf : s.form = some f) (hg : (s.select id value).session.form = some g) : f.Related R g := by
  refine edit_related hR (fun f => ?_) hf hg
  split
  · rename_i control hbody
    obtain ⟨b, hb, hcontrol⟩ := Option.map_eq_some_iff.mp hbody
    split
    · exact Form.updateBody_related hR hb (hcontrol ▸ hselect control)
    · exact .refl hR f
  · exact .refl hR f

theorem exchange_eq_ok {o : Outcome Unit} : o.exchange.result = .ok () ↔ o.result = .ok () := by
  unfold Outcome.exchange
  cases o.result <;> simp [Except.map]

/-! ## Edits that select nothing -/

theorem editGroup_sameSelect {α : Type} {operation : Operation}
    {change : Group → Group × Except FormError α} (hf : s.form = some f)
    (hg : (s.editGroup operation id change).session.form = some g) :
    f.Related BlockBody.SameSelect g := by
  refine edit_related .refl (fun f => ?_) hf hg
  cases hgroup : f.group? id with
  | none => exact .refl .refl f
  | some group =>
    obtain ⟨b, hb, hbody⟩ := group?_eq_some hgroup
    exact Form.updateBody_related .refl hb (by rw [hbody]; rfl)

/-- An edit other than a selection keeps all drop-downs. -/
theorem perform_sameSelect (he : e.isEdit = true) (hselect : ∀ id value, e ≠ .select id value)
    (hf : s.form = some f) (hg : (s.perform e).session.form = some g) :
    f.Related BlockBody.SameSelect g := by
  cases e with
  | load | toggleAdvanced | save | cancel | fileChange => cases he
  | select id value => exact absurd rfl (hselect id value)
  | setValue controlId value => exact setValue_related .refl (fun _ _ h => h.sameSelect) hf hg
  | addInstance itemId after => exact editGroup_sameSelect hf hg
  | removeInstance itemId instanceId => exact editGroup_sameSelect hf hg
  | setItemValues itemId values => exact editGroup_sameSelect hf hg

/-! ## The last selection -/

/-- What a step of a run says of the value of an item's drop-down: a load or a cancel that it is the
loaded one, a selection that it is the selected one. Other steps, and those that failed, say
nothing. -/
def choice? (itemId : String) (step : Event × Exchange) : Option (Option String) :=
  if step.2.result.isOk then
    match step.1 with
    | .load .. => some none
    | .cancel => some none
    | .select id value => if id = itemId then some (some value) else none
    | _ => none
  else none

theorem choice?_select (hx : x.result.isOk = true) (itemId : String) :
    choice? itemId (.select id value, x) = if id = itemId then some (some value) else none :=
  if_pos hx

theorem choice?_of_isEdit (he : e.isEdit = true) (hselect : ∀ id value, e ≠ .select id value)
    (itemId : String) : choice? itemId (e, x) = none := by
  unfold choice?
  cases e with
  | load | toggleAdvanced | save | cancel | fileChange => cases he
  | select id value => exact absurd rfl (hselect id value)
  | _ => exact ite_self _

/-- The value that was selected last for an item since the last load or cancel. -/
def lastChosen? (history : List (Event × Exchange)) (itemId : String) : Option String :=
  (history.reverse.findSome? (choice? itemId)).join

theorem lastChosen?_concat (history : List (Event × Exchange)) (step : Event × Exchange)
    (itemId : String) : lastChosen? (history ++ [step]) itemId =
      (choice? itemId step).getD (lastChosen? history itemId) := by
  rw [lastChosen?, List.reverse_concat, List.findSome?_cons]
  cases choice? itemId step <;> rfl

/-- The drop-down that an item was loaded with. -/
def loadedSelect? (s : Session) (id : String) : Option Select :=
  (s.catalog.item? id).bind fun item => (item.body (s.values.lookup id) s.status.writable).select?

theorem select?_rendered (hcatalog : s.catalog.Sound) (shown : Bool) (id : String) :
    (s.rendered shown).select? id = s.loadedSelect? id :=
  Form.select?_render hcatalog s.values s.status s.platform shown id

/-- Every drop-down of the form is the loaded one with the value that was selected last, which is that
of one of its options. -/
structure Chosen (s : Session) (history : List (Event × Exchange)) : Prop where
  selected : ∀ f, s.form = some f → ∀ id, f.select? id = (s.loadedSelect? id).map fun c =>
    { c with selected := (lastChosen? history id).getD c.selected }
  option : s.form.isSome → ∀ id value, lastChosen? history id = some value →
    ∃ c, s.loadedSelect? id = some c ∧ ∃ o ∈ c.options, o.value = value

/-- A form with the loaded drop-downs, after a step that leaves nothing selected. -/
theorem chosen_of_loaded (hchoice : ∀ id, choice? id (e, x) = some none)
    (hform : ∀ f, x.session.form = some f → ∀ id, f.select? id = x.session.loadedSelect? id) :
    x.session.Chosen (history ++ [(e, x)]) := by
  refine ⟨fun f hf id => ?_, fun _ id value hvalue => ?_⟩
  · rw [lastChosen?_concat, hchoice, Option.getD_some, hform f hf]
    exact Option.map_id'.symm
  · rw [lastChosen?_concat, hchoice] at hvalue
    cases hvalue

/-- A step that says nothing of any drop-down and changes none. -/
theorem Chosen.concat (hs : s.Chosen history) (hchoice : ∀ id, choice? id (e, x) = none)
    (hloaded : ∀ id, x.session.loadedSelect? id = s.loadedSelect? id)
    (hform : ∀ g, x.session.form = some g →
      ∃ f, s.form = some f ∧ ∀ id, g.select? id = f.select? id) :
    x.session.Chosen (history ++ [(e, x)]) := by
  have hlast : ∀ id, lastChosen? (history ++ [(e, x)]) id = lastChosen? history id := fun id => by
    rw [lastChosen?_concat, hchoice, Option.getD_none]
  refine ⟨fun g hg id => ?_, fun hsome id value hvalue => ?_⟩
  · obtain ⟨f, hf, hsame⟩ := hform g hg
    rw [hsame, hlast, hloaded, hs.selected f hf]
  · obtain ⟨g, hg⟩ := Option.isSome_iff_exists.mp hsome
    obtain ⟨f, hf, -⟩ := hform g hg
    rw [hlast] at hvalue
    rw [hloaded]
    exact hs.option (by simp [hf]) id value hvalue

theorem Chosen.kept (hs : s.Chosen history) (hchoice : ∀ id, choice? id (e, x) = none)
    (hloaded : ∀ id, x.session.loadedSelect? id = s.loadedSelect? id)
    (hform : x.session.form = s.form) : x.session.Chosen (history ++ [(e, x)]) :=
  hs.concat hchoice hloaded fun g hg => ⟨g, hform ▸ hg, fun _ => rfl⟩

/-- A selection that succeeds writes the drop-down of its item. -/
theorem Chosen.select (hs : s.Chosen history) (hsound : s.Sound) (hf : s.Loaded f)
    (hwritable : f.isWritable = true) {c : Select} (hc : f.select? id = some c)
    (hoption : ∃ o ∈ c.options, o.value = value) :
    (s.perform (.select id value)).session.Chosen
      (history ++ [(.select id value, s.perform (.select id value))]) := by
  obtain ⟨b, hb, hbody⟩ := Form.select?_eq_some.mp hc
  have hsession : s.perform (.select id value) = _ :=
    congrArg Outcome.exchange (select_of_option hf hwritable hc hoption)
  obtain ⟨c₀, hc₀, rfl⟩ : ∃ c₀, s.loadedSelect? id = some c₀ ∧
      { c₀ with selected := (lastChosen? history id).getD c₀.selected } = c := by
    rw [hs.selected f hf.form] at hc
    exact Option.map_eq_some_iff.mp hc
  have hlast : ∀ other, lastChosen? (history ++ [(.select id value, s.perform (.select id value))])
      other = if other = id then some value else lastChosen? history other := by
    intro other
    rw [lastChosen?_concat, choice?_select (by rw [hsession]; rfl)]
    by_cases hother : other = id
    · rw [if_pos hother, if_pos hother.symm, Option.getD_some]
    · rw [if_neg hother, if_neg (Ne.symm hother), Option.getD_none]
  have hloaded : ∀ other,
      (s.perform (.select id value)).session.loadedSelect? other = s.loadedSelect? other := by
    intro other
    rw [hsession]
    rfl
  refine ⟨fun g hg other => ?_, fun _ other selected hselected => ?_⟩
  · rw [hsession] at hg
    obtain rfl := Option.some.inj hg
    rw [Form.select?_updateBody (hsound.itemIds_nodup hf.form) hb, hlast, hloaded]
    by_cases hother : other = id
    · rw [if_pos hother, if_pos hother, hother, hc₀]
      rfl
    · rw [if_neg hother, if_neg hother]
      exact hs.selected f hf.form other
  · rw [hlast] at hselected
    rw [hloaded]
    by_cases hother : other = id
    · rw [if_pos hother] at hselected
      rw [hother, ← Option.some.inj hselected]
      exact ⟨c₀, hc₀, hoption⟩
    · rw [if_neg hother] at hselected
      exact hs.option (by simp [hf.form]) other selected hselected

theorem Chosen.next (hs : s.Chosen history) (hsound : s.Sound) (e : Event) :
    (s.perform e).session.Chosen (history ++ [(e, s.perform e)]) := by
  have hstep := s.perform_step e
  have hnext := hstep.sound hsound
  revert hnext
  generalize hx : s.perform e = x at hstep
  intro hnext
  cases hstep with
  | schemaFailed | statusFailed | valuesFailed => exact ⟨nofun, nofun⟩
  | loaded hschema =>
    refine chosen_of_loaded (fun _ => rfl) fun f hf id => ?_
    obtain rfl := Option.some.inj hf
    exact select?_rendered hnext.catalog _ id
  | refused => exact hs.kept (fun _ => rfl) (fun _ => rfl) rfl
  | @edited _ f g hedit hf hwritable hfg =>
    by_cases hselect : ∃ id value, e = .select id value
    · obtain ⟨id, value, rfl⟩ := hselect
      have hok : (s.perform (.select id value)).result = .ok () := by rw [hx]
      obtain ⟨c, hc, hoption⟩ := (select_ok_iff hf hwritable).mp (exchange_eq_ok.mp hok)
      exact hx ▸ hs.select hsound hf hwritable hc hoption
    · refine hs.concat (fun id => ?_) (fun _ => rfl) fun h hh => ⟨f, hf.form, ?_⟩
      · exact choice?_of_isEdit hedit (by simpa using hselect) id
      · have hg : (s.perform e).session.form = some h := by rw [hx]; exact hh
        exact (perform_sameSelect hedit (by simpa using hselect) hf.form hg).select?
  | @toggled f now preferences hf hset =>
    refine hs.concat (fun _ => rfl) (fun _ => rfl) fun g hg => ⟨f, hf.form, fun id => ?_⟩
    obtain rfl := Option.some.inj hg
    exact f.select?_setAdvancedVisible _ id
  | saved | saveRejected => exact hs.kept (fun _ => rfl) (fun _ => rfl) rfl
  | cancelled hf =>
    refine chosen_of_loaded (fun _ => rfl) fun g hg id => ?_
    obtain rfl := Option.some.inj hg
    have hsame := (hsound.restored_renumbered hf.form).imp fun _ _ hxy => hxy.sameSelect
    rw [hsame.select?, select?_rendered hsound.catalog]
    rfl
  | fileChanged => exact hs.kept (fun _ => rfl) (fun _ => rfl) rfl

/-! ## The documents of the last load -/

/-- A session with a form has the schema and the values that its last load read. -/
def Read (s : Session) (history : List (Event × Exchange)) : Prop :=
  s.form.isSome → ∃ service now x, lastLoad? history = some (.load service now, x) ∧
    receive service .schema .schema Catalog.ofDocument = .ok s.catalog ∧
    receive service .values .values Snapshot.ofDocument = .ok s.values

theorem Read.kept (hs : s.Read history) (he : e.isLoad = false)
    (hform : x.session.form.isSome → s.form.isSome) (hcatalog : x.session.catalog = s.catalog)
    (hvalues : x.session.values = s.values) : x.session.Read (history ++ [(e, x)]) := by
  intro hsome
  rw [lastLoad?_concat_of_not_load he, hcatalog, hvalues]
  exact hs (hform hsome)

theorem Step.read (hstep : s.Step e x) (hs : s.Read history) :
    x.session.Read (history ++ [(e, x)]) := by
  cases hstep with
  | schemaFailed | statusFailed | valuesFailed => exact nofun
  | loaded hschema hstatus hvalues =>
    exact fun _ => ⟨_, _, _, lastLoad?_concat_of_load rfl, hschema, hvalues⟩
  | refused he => exact hs.kept he id rfl rfl
  | edited hedit hf =>
    exact hs.kept (Event.isLoad_of_isEdit hedit) (fun _ => by simp [hf.form]) rfl rfl
  | toggled hf => exact hs.kept rfl (fun _ => by simp [hf.form]) rfl rfl
  | saved | saveRejected => exact hs.kept rfl id rfl rfl
  | cancelled hf => exact hs.kept rfl (fun _ => by simp [hf.form]) rfl rfl
  | fileChanged => exact hs.kept rfl id rfl rfl

theorem run_chosen (preferences : PreferenceStore) (platform : Platform) (events : List Event) :
    ((start preferences platform).run events).Chosen
        ((start preferences platform).trace events) ∧
      ((start preferences platform).run events).Read
        ((start preferences platform).trace events) := by
  have hstart : (start preferences platform).Sound ∧ (start preferences platform).Chosen [] ∧
      (start preferences platform).Read [] :=
    ⟨start_sound preferences platform, ⟨nofun, nofun⟩, nofun⟩
  refine (run_history_induction (P := fun s history => s.Sound ∧ s.Chosen history ∧ s.Read history)
    (fun s history e hs => ?_) hstart events).2
  obtain ⟨hsound, hchosen, hread⟩ := hs
  have hstep := s.perform_step e
  exact ⟨hstep.sound hsound, hchosen.next hsound e, hstep.read hread⟩

theorem loadedSelect?_of_item {item : Item} {options : List SelectOption}
    (hitem : s.catalog.item? id = some item) (hkind : item.kind = .select options) :
    s.loadedSelect? id =
      some (item.renderedSelect (s.values.lookup id) s.status.writable options) := by
  rw [loadedSelect?, hitem, Option.bind_some, Item.body, hkind]
  rfl

/-- A drop-down is that of a registered item, with its options. -/
theorem exists_item_of_loadedSelect? {c : Select} (hc : s.loadedSelect? id = some c) :
    ∃ item, s.catalog.item? id = some item ∧ item.kind = .select c.options := by
  obtain ⟨item, hitem, hbody⟩ := Option.bind_eq_some_iff.mp hc
  refine ⟨item, hitem, ?_⟩
  rcases item.body_cases (s.values.lookup id) s.status.writable with ⟨field, -, -, h⟩ |
    ⟨field, -, -, h⟩ | ⟨options, hkind, -, h⟩
  · rw [h] at hbody
    cases hbody
  · rw [h] at hbody
    cases hbody
  · rw [h] at hbody
    obtain rfl := Option.some.inj hbody
    exact hkind

section Consequences

variable (hf : s.form = some f)

include hf

theorem Chosen.select?_eq (hs : s.Chosen history) {c : Select} (hc : s.loadedSelect? id = some c) :
    f.select? id = some { c with selected := (lastChosen? history id).getD c.selected } := by
  rw [hs.selected f hf, hc, Option.map_some]

theorem Chosen.option_or_loaded (hs : s.Chosen history) {c : Select}
    (hc : s.loadedSelect? id = some c) :
    (∃ o ∈ c.options, o.value = (lastChosen? history id).getD c.selected) ∨
      (lastChosen? history id).getD c.selected = c.selected := by
  cases hlast : lastChosen? history id with
  | none => exact .inr rfl
  | some value =>
    obtain ⟨_, hsame, hoption⟩ := hs.option (by simp [hf]) id value hlast
    obtain rfl := Option.some.inj (hc.symm.trans hsame)
    exact .inl hoption

/-- Saving sends what is selected in a drop-down. -/
theorem Sound.find?_field_of_select? (hs : s.Sound) {c : Select} (hc : f.select? id = some c) :
    f.updateRequest.fields.find? (fun field => field.1 = id) = some (id, [c.selected]) := by
  obtain ⟨b, hb, hbody⟩ := Form.select?_eq_some.mp hc
  obtain ⟨hmem, rfl⟩ := Form.block?_some hb
  have hregular := hs.regular f hf b hmem
  rw [hbody] at hregular
  refine Form.find?_field (hs.itemIds_nodup hf) (hs.regular f hf) hmem ?_
  rw [Block.field?, hbody]
  exact congrArg (fun key => some (key, [c.selected])) hregular

/-- Which options there are to select is a matter of the catalog. -/
theorem Chosen.exists_option_iff (hs : s.Chosen history) :
    (∃ c, f.select? id = some c ∧ ∃ o ∈ c.options, o.value = value) ↔
      ∃ item options, s.catalog.item? id = some item ∧ item.kind = .select options ∧
        ∃ o ∈ options, o.value = value := by
  constructor
  · rintro ⟨c, hc, hoption⟩
    rw [hs.selected f hf] at hc
    obtain ⟨c₀, hc₀, rfl⟩ := Option.map_eq_some_iff.mp hc
    obtain ⟨item, hitem, hkind⟩ := exists_item_of_loadedSelect? hc₀
    exact ⟨item, _, hitem, hkind, hoption⟩
  · rintro ⟨item, options, hitem, hkind, hoption⟩
    exact ⟨_, hs.select?_eq hf (loadedSelect?_of_item hitem hkind), hoption⟩

end Consequences

end Session

end SettingsForm
