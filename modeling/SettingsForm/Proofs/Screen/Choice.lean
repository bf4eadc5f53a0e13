import SettingsForm.Proofs.Screen.Cells
import SettingsForm.Proofs.Session.Assigning
import SettingsForm.Proofs.Session.ReadOnly
import Mathlib.Data.List.Induction

/-!
# Drop-downs

A drop-down on the screen holds the entries that it was drawn with and the one that is shown, and a
pick selects the value of the picked entry in the form. A value that is no option has an entry of its
own, which selects nothing when it is picked. So what is shown is what saving would send, until an
option was picked and that entry after it (`shown_selected_iff`, `picks_followed`).
-/

namespace SettingsForm

/-- The block of an item to which a value is assigned. -/
theorem Form.block?_assign {f : Form} {itemId : String} {b : Block}
    (hb : f.block? itemId = some b) (value : String) :
    (f.mapBlocks (Block.assign itemId value)).block? itemId = some (b.assign itemId value) := by
  rw [block?_mapBlocks fun c => (c.assign_related itemId value).itemId, hb, Option.map_some]

namespace Screen

/-! ## Picks -/

namespace Choice

/-- The entry that is shown after some picks; picks of entries that are not there do not count. -/
def shownAfter (c : Choice) (picks : List Nat) : Nat :=
  ((picks.filter fun i => i < c.entries.length).getLast?).getD c.shown

/-- The value that is selected after some picks: that of the last pick that selects one. -/
def selectedAfter (c : Choice) (selected : String) (picks : List Nat) : String :=
  ((picks.filterMap fun i => (c.pick? i).bind Prod.snd).getLast?).getD selected

variable {c : Choice} {selected : String} {picks : List Nat} {entry : Nat}

theorem shownAfter_concat : c.shownAfter (picks ++ [entry]) =
    if entry < c.entries.length then entry else c.shownAfter picks := by
  unfold shownAfter
  by_cases hentry : entry < c.entries.length
  · simp [hentry]
  · simp [hentry]

theorem selectedAfter_concat : c.selectedAfter selected (picks ++ [entry]) =
    ((c.pick? entry).bind Prod.snd).getD (c.selectedAfter selected picks) := by
  unfold selectedAfter
  cases hpick : (c.pick? entry).bind Prod.snd with
  | none => simp [hpick]
  | some value => simp [hpick]

theorem pick?_eq (c : Choice) (entry : Nat) : c.pick? entry =
    c.entries[entry]?.map fun e => ({ c with shown := entry },
      if c.unmatched = some e.value then none else some e.value) := rfl

/-- A drop-down is drawn with the options alone, or with an entry for the selected value, which is no
option, before them; it shows the selected value. -/
theorem ofSelect_cases (itemId : String) (s : Select) :
    (∃ i, s.selectedIndex? = some i ∧ (s.options[i]?.map SelectOption.value) = some s.selected ∧
      ofSelect itemId s = ⟨itemId, s.options, i, none, !s.disabled⟩) ∨
    (s.selectedIndex? = none ∧ (∀ o ∈ s.options, o.value ≠ s.selected) ∧
      ofSelect itemId s = ⟨itemId, ⟨s.selected, unmatchedLabel s.selected⟩ :: s.options, 0,
        some s.selected, !s.disabled⟩) := by
  unfold ofSelect
  cases hindex : s.selectedIndex? with
  | some i =>
    obtain ⟨hi, hvalue, -⟩ := List.findIdx?_eq_some_iff_getElem.mp hindex
    refine .inl ⟨i, rfl, ?_, rfl⟩
    rw [List.getElem?_eq_getElem hi, Option.map_some]
    exact congrArg some (by simpa using hvalue)
  | none =>
    refine .inr ⟨rfl, fun o ho => ?_, rfl⟩
    simpa using List.findIdx?_eq_none_iff.mp hindex o ho

/-- What a pick of a drawn drop-down selects is an option. -/
theorem option_of_pick? {itemId : String} {s : Select} {entry : Nat} {value : String}
    (hvalue : ((ofSelect itemId s).pick? entry).bind Prod.snd = some value) :
    (s.options.any fun o => o.value = value) = true := by
  rw [pick?_eq, Option.bind_map] at hvalue
  obtain ⟨e, he, hselects⟩ := Option.bind_eq_some_iff.mp hvalue
  have hmem : e ∈ (ofSelect itemId s).entries := List.mem_of_getElem? he
  rw [Function.comp_apply] at hselects
  refine List.any_eq_true.mpr ⟨e, ?_, by grind⟩
  rcases ofSelect_cases itemId s with ⟨i, -, -, hdrawn⟩ | ⟨-, -, hdrawn⟩
  · rwa [hdrawn] at hmem
  · rw [hdrawn] at hmem hselects
    rcases List.mem_cons.mp hmem with rfl | hmem
    · simp at hselects
    · exact hmem

/-- Where all values can be selected, the entry that is shown has the value that is selected. -/
theorem shownValue_of_matched (hunmatched : c.unmatched = none)
    (hshown : c.shownValue? = some selected) (picks : List Nat) :
    c.entries[c.shownAfter picks]?.map SelectOption.value =
      some (c.selectedAfter selected picks) := by
  induction picks using List.reverseRecOn with
  | nil => exact hshown
  | append_singleton picks i ih =>
    rw [shownAfter_concat, selectedAfter_concat, pick?_eq, hunmatched]
    by_cases hi : i < c.entries.length
    · simp [hi]
    · simp [hi, ih]

/-- Where the first entry selects nothing, its value is selected until another entry was picked, and
not any more from then on; another entry that is shown has the value that is selected. -/
theorem shownValue_of_unmatched {e : SelectOption} {options : List SelectOption}
    (hentries : c.entries = e :: options) (hunmatched : c.unmatched = some e.value)
    (hshown : c.shown = 0) (hnone : ∀ o ∈ options, o.value ≠ e.value) (picks : List Nat) :
    let shown := c.shownAfter picks
    let value := c.selectedAfter e.value picks
    (value = e.value ↔ ¬∃ i ∈ picks, 0 < i ∧ i < c.entries.length) ∧
    (value = e.value → shown = 0) ∧
    (shown ≠ 0 → c.entries[shown]?.map SelectOption.value = some value) := by
  induction picks using List.reverseRecOn with
  | nil => simp [shownAfter, selectedAfter, hshown]
  | append_singleton picks i ih =>
    simp only [shownAfter_concat, selectedAfter_concat, pick?_eq, hunmatched, Option.some.injEq]
    obtain ⟨hvalue, hfirst, hother⟩ := ih
    rcases Nat.eq_zero_or_pos i with rfl | hpos
    · -- the entry that selects nothing
      simp [hentries] at hvalue ⊢
      exact hvalue
    · by_cases hi : i < c.entries.length
      · -- an option
        have hoption : c.entries[i].value ≠ e.value := by
          obtain ⟨k, rfl⟩ : ∃ k, i = k + 1 := ⟨i - 1, by omega⟩
          simp only [hentries, List.getElem_cons_succ]
          exact hnone _ (List.getElem_mem _)
        simp only [hi, if_true, List.getElem?_eq_getElem, Option.map_some, Option.bind_some,
          if_neg (Ne.symm hoption), Option.getD_some, hoption, false_iff, not_not]
        exact ⟨⟨i, by simp, hpos, hi⟩, False.elim, fun _ => trivial⟩
      · -- no entry at all
        simp only [hi, if_false, List.getElem?_eq_none (Nat.le_of_not_lt hi), Option.map_none,
          Option.bind_none, Option.getD_none]
        refine ⟨hvalue.trans (not_congr ?_), hfirst, hother⟩
        simp [hi]

/-- What is shown after some picks is what is selected then, unless an option was picked and the
entry of the value that is no option after it. -/
theorem shown_selected_iff (itemId : String) (s : Select) (picks : List Nat) :
    let drawn := ofSelect itemId s
    ({ drawn with shown := drawn.shownAfter picks } : Choice).shownValue? =
        some (drawn.selectedAfter s.selected picks) ↔
      ¬(s.selectedIndex? = none ∧ drawn.shownAfter picks = 0 ∧
        ∃ i ∈ picks, 0 < i ∧ i < drawn.entries.length) := by
  intro drawn
  show drawn.entries[drawn.shownAfter picks]?.map SelectOption.value = _ ↔ _
  rcases ofSelect_cases itemId s with ⟨k, hindex, hselected, hdrawn⟩ | ⟨hindex, hnone, hdrawn⟩
  · have hsame := shownValue_of_matched (c := drawn) (by rw [show drawn = _ from hdrawn])
      (show drawn.shownValue? = some s.selected by rw [show drawn = _ from hdrawn]; exact hselected)
      picks
    simp [hindex, hsame]
  · obtain ⟨hvalue, hfirst, hother⟩ := shownValue_of_unmatched (c := drawn)
      (by rw [show drawn = _ from hdrawn]) (by rw [show drawn = _ from hdrawn])
      (by rw [show drawn = _ from hdrawn]) hnone picks
    simp only at hvalue hfirst hother
    by_cases hshown : drawn.shownAfter picks = 0
    · -- the first entry is shown
      have hentry : drawn.entries[0]?.map SelectOption.value = some s.selected := by
        rw [show drawn = _ from hdrawn]
        rfl
      rw [hshown, hentry, Option.some.injEq, eq_comm, hvalue]
      simp [hindex]
    · simp [hother hshown, hshown]

end Choice

/-! ## Picks on the screen -/

/-- The drop-down that comes after `n` others in a writable form, and the control that it was drawn
for: every entry that can be selected is an option. -/
structure Shows (s : Screen) (itemId : String) (n : Nat) (c : Choice) (control : Select) : Prop where
  sound : s.session.Sound
  form : ∃ f b, s.session.form = some f ∧ f.isWritable = true ∧ f.block? itemId = some b ∧
    b.body = .select control
  top : ∃ d rest body, s.layers = .dialog d :: rest ∧ d.content = .form body
  cell : ∃ place, s.cellAt? Cell.choice? n = some (place, c)
  itemId : c.itemId = itemId
  enabled : c.enabled = true
  options : ∀ entry value, (c.pick? entry).bind Prod.snd = some value →
    (control.options.any fun o => o.value = value) = true

section Picks

variable {s : Screen} {itemId : String} {n : Nat} {c : Choice} {control : Select}

/-- The entry that is shown changes nothing else. -/
theorem Shows.modifyCell (hs : s.Shows itemId n c control) {place : Nat}
    (hplace : s.cellAt? Cell.choice? n = some (place, c)) (shown : Nat) :
    (s.modifyCell place fun _ => .choice { c with shown }).Shows itemId n { c with shown }
      control := by
  obtain ⟨d, rest, body, hlayers, hbody⟩ := hs.top
  have hcell := cellAt?_modifyCell hlayers hbody hplace
    (show Cell.choice? (.choice { c with shown }) = some { c with shown } from rfl)
  have htop : ∃ d rest body, (s.modifyCell place fun _ => .choice { c with shown }).layers =
      .dialog d :: rest ∧ d.content = .form body :=
    ⟨d.modifyCell place fun _ => .choice { c with shown }, rest,
      Widget.modifyCell place (fun _ => .choice { c with shown }) body,
      by simp only [Screen.modifyCell, hlayers]; rfl, by simp only [Dialog.modifyCell, hbody]⟩
  -- what an entry selects does not depend on the one that is shown
  refine ⟨?_, ?_, htop, ⟨place, hcell⟩, hs.itemId, hs.enabled, hs.options⟩
  · simpa only [Screen.modifyCell, hlayers] using hs.sound
  · simpa only [Screen.modifyCell, hlayers] using hs.form

/-- An option that is selected leaves the screen as it was. -/
theorem Shows.select (hs : s.Shows itemId n c control) {value : String}
    (hoption : (control.options.any fun o => o.value = value) = true) :
    (s.report (s.session.select itemId value) id).Shows itemId n c
      { control with selected := value } := by
  obtain ⟨f, b, hf, hwritable, hb, hbody⟩ := hs.form
  rw [Session.select_eq_assigned hs.sound ⟨hf, hs.sound.phase.mp (by simp [hf])⟩ hwritable hb hbody
    hoption]
  have hrelated : f.Related BlockBody.Step (f.mapBlocks (Block.assign itemId value)) :=
    Form.mapBlocks_related fun b _ => b.assign_related itemId value
  refine ⟨hs.sound.assigned hf, ⟨_, _, rfl, hrelated.isWritable.trans hwritable,
    Form.block?_assign hb value, ?_⟩, hs.top, hs.cell, hs.itemId, hs.enabled, hs.options⟩
  simp [Block.assign, (Form.block?_some hb).2, hbody, BlockBody.assign]

/-- A pick shows the entry and selects its value, where there are such. -/
theorem Shows.choose (hs : s.Shows itemId n c control) (entry : Nat) :
    (s.choose n entry).1.Shows itemId n
      (if entry < c.entries.length then { c with shown := entry } else c)
      { control with selected := ((c.pick? entry).bind Prod.snd).getD control.selected } := by
  obtain ⟨place, hplace⟩ := hs.cell
  have hchoose : s.choose n entry = s.showEntry place c entry := by
    rw [Screen.choose, hplace]
    exact if_pos hs.enabled
  obtain rfl := hs.itemId
  rw [hchoose, showEntry]
  by_cases hentry : entry < c.entries.length
  · obtain ⟨value, hpick⟩ : ∃ value, c.pick? entry = some ({ c with shown := entry }, value) :=
      ⟨_, by rw [Choice.pick?_eq, List.getElem?_eq_getElem hentry]; rfl⟩
    rw [if_pos hentry, hpick]
    cases value with
    | none => exact hs.modifyCell hplace entry
    | some value =>
      exact (hs.modifyCell hplace entry).select (hs.options entry value (by rw [hpick]; rfl))
  · have hpick : c.pick? entry = none := by
      rw [Choice.pick?_eq, List.getElem?_eq_none (Nat.le_of_not_lt hentry)]
      rfl
    rw [if_neg hentry, hpick]
    exact hs

/-- The screen after some picks of the same drop-down. -/
def picked (s : Screen) (n : Nat) (picks : List Nat) : Screen :=
  picks.foldl (fun s entry => (s.choose n entry).1) s

theorem Shows.picked (hs : s.Shows itemId n c control) (picks : List Nat) :
    (s.picked n picks).Shows itemId n { c with shown := c.shownAfter picks }
      { control with selected := c.selectedAfter control.selected picks } := by
  induction picks using List.reverseRecOn with
  | nil => exact hs
  | append_singleton picks entry ih =>
    have hstep := ih.choose entry
    simp only [Screen.picked, List.foldl_concat, Choice.shownAfter_concat,
      Choice.selectedAfter_concat] at hstep ⊢
    convert hstep using 1
    · split <;> rfl
    · rfl

/-- A drop-down of a drawn form shows its control. -/
theorem Drawn.shows {f : Form} {b : Block} (hs : s.Drawn f) (hsound : s.session.Sound)
    (hwritable : f.isWritable = true) (hb : b ∈ f.blocks) (hvisible : b.hidden = false)
    (hbody : b.body = .select control) :
    ∃ n, s.Shows b.itemId n (.ofSelect b.itemId control) control := by
  obtain ⟨hf, d, rest, hlayers, hd⟩ := hs
  obtain ⟨n, place, hplace⟩ := exists_placesOf Cell.choice? (l := .dialog d)
    (hd.cells ▸ choice_mem_ofForm hb hvisible hbody s.status) rfl
  have henabled : control.disabled = false := by
    have hdisabled := hsound.disabled hf hb
    rwa [hbody, ← hsound.isWritable hf, hwritable] at hdisabled
  have htop : ∃ d rest body, s.layers = .dialog d :: rest ∧ d.content = .form body := by
    cases hd with
    | buttons => exact ⟨_, rest, _, hlayers, rfl⟩
    | content => exact ⟨_, rest, _, hlayers, rfl⟩
  have hcell : s.cellAt? Cell.choice? n = some (place, .ofSelect b.itemId control) := by
    rw [cellAt?, hlayers]
    exact hplace
  refine ⟨n, hsound, ⟨f, b, hf, hwritable, Form.block?_of_mem (hsound.itemIds_nodup hf) hb, hbody⟩,
    htop, ⟨place, hcell⟩, ?_, ?_, fun entry value hvalue => Choice.option_of_pick? hvalue⟩
  · unfold Choice.ofSelect
    split <;> rfl
  · unfold Choice.ofSelect
    split <;> simp [henabled]

end Picks

/-- A drop-down of a writable form is drawn with the options of its control in their order, after an
entry of its own for a selected value that is no option, and it shows the selected value. After any
picks it shows the entry of the last one, and the form holds the value of the last one that selects
one, which saving would send. The two agree, unless the selected value was no option when the
drop-down was drawn, an option was picked since, and the first entry is shown again. -/
theorem picks_followed {s : Screen} {f : Form} {b : Block} {control : Select} (hs : s.Drawn f)
    (hsound : s.session.Sound) (hwritable : f.isWritable = true) (hb : b ∈ f.blocks)
    (hvisible : b.hidden = false) (hbody : b.body = .select control) :
    let drawn := Choice.ofSelect b.itemId control
    drawn.shownValue? = some control.selected ∧
    drawn.entries = (if control.selectedIndex? = none then
        [⟨control.selected, Choice.unmatchedLabel control.selected⟩] else []) ++ control.options ∧
    ∃ n, (∃ place, s.cellAt? Cell.choice? n = some (place, drawn)) ∧ ∀ picks,
      let shown := drawn.shownAfter picks
      let selected := drawn.selectedAfter control.selected picks
      (∃ place, (s.picked n picks).cellAt? Cell.choice? n = some (place, { drawn with shown })) ∧
      (∃ g c, (s.picked n picks).session.form = some g ∧ g.block? b.itemId = some c ∧
        c.body = .select { control with selected } ∧
        g.updateRequest.get? b.itemId = some selected) ∧
      (({ drawn with shown } : Choice).shownValue? = some selected ↔
        ¬(control.selectedIndex? = none ∧ shown = 0 ∧
          ∃ i ∈ picks, 0 < i ∧ i < drawn.entries.length)) := by
  intro drawn
  obtain ⟨n, hshows⟩ := hs.shows hsound hwritable hb hvisible hbody
  refine ⟨?_, ?_, n, hshows.cell, fun picks => ⟨(hshows.picked picks).cell, ?_,
    Choice.shown_selected_iff b.itemId control picks⟩⟩
  · exact (Choice.shown_selected_iff b.itemId control []).mpr (by simp)
  · rcases Choice.ofSelect_cases b.itemId control with ⟨i, hindex, -, hdrawn⟩ |
      ⟨hindex, -, hdrawn⟩
    · simp [drawn, hdrawn, hindex]
    · simp [drawn, hdrawn, hindex]
  · have hafter := hshows.picked picks
    obtain ⟨g, c, hg, -, hc, hselect⟩ := hafter.form
    obtain ⟨hmem, hid⟩ := Form.block?_some hc
    have hfield := Form.find?_field (hafter.sound.itemIds_nodup hg) (hafter.sound.regular g hg) hmem
      (show c.field? = some (control.id, [drawn.selectedAfter control.selected picks]) by
        rw [Block.field?, hselect])
    refine ⟨g, c, hg, hc, hselect, ?_⟩
    rw [UpdateRequest.get?, ← hid, hfield]
    exact congrArg some String.intercalate_singleton

/-- A server with a drop-down whose value is none of its options. -/
def unmatchedServer : Service := FixedReplies.service {
  schema := some <|
    "<config><section><item id='mode'><type>select</type><option value='1'>One</option>" ++
      "<option value='2'>Two</option></item></section></config>"
  status := some "<status><writable_config>1</writable_config></status>"
  values := some "<config><general><mode>7</mode></general></config>"
  update := some FixedReplies.updateAccepted }

/-- The value that is no option is sent until an option is picked. -/
theorem picks_followed_unmatched :
    let session := (Session.start .inMemory .other).run [.load unmatchedServer default]
    ∃ s n, ofSession? session none = some s ∧
      (∃ place c, (s.picked n [0, 2]).cellAt? Cell.choice? n = some (place, c) ∧
        c.shownValue? = some "2") ∧
      ∃ f, (s.picked n [0, 2]).session.form = some f ∧ f.updateRequest.get? "mode" = some "2" := by
  intro session
  let control : Select := ⟨"mode", "", "", [⟨"1", "One"⟩, ⟨"2", "Two"⟩], "7", false⟩
  have hform : session.form.map (fun f => (f.isWritable, f.blocks)) =
      some (true, [⟨"mode", false, false, .select control⟩]) := by
    decide +kernel
  have hsound : session.Sound := Session.run_sound .inMemory .other _
  clear_value session
  obtain ⟨f, hf, hblocks⟩ := Option.map_eq_some_iff.mp hform
  obtain ⟨hwritable, hblocks⟩ := Prod.mk.inj hblocks
  obtain ⟨s, hs⟩ : ∃ s, ofSession? session none = some s :=
    Option.isSome_iff_exists.mp (by rw [ofSession?, hf]; rfl)
  obtain ⟨g, hdrawn, -⟩ := drawn_of_ofSession? hs
  have hsession : s.session = session := by
    obtain ⟨-, -, rfl⟩ := Option.map_eq_some_iff.mp hs
    rfl
  obtain rfl : f = g := Option.some.inj (hf.symm.trans (hsession ▸ hdrawn.1))
  obtain ⟨-, -, n, -, hpicks⟩ := picks_followed (b := ⟨"mode", false, false, .select control⟩)
    hdrawn (hsession ▸ hsound) hwritable (by simp [hblocks]) rfl rfl
  obtain ⟨⟨place, hcell⟩, ⟨h, c, hh, -, -, hsent⟩, -⟩ := hpicks [0, 2]
  exact ⟨s, n, hs, ⟨place, _, hcell, by decide⟩, h, hh, hsent⟩

/-- After an option was picked, the entry of the value that is no option shows a value that is not
sent any more. -/
theorem picks_unmatched_again :
    let session := (Session.start .inMemory .other).run [.load unmatchedServer default]
    ∃ s, ofSession? session none = some s ∧
      (((s.picked 0 [1, 0]).cellAt? Cell.choice? 0).bind fun c => c.2.shownValue?) = some "7" ∧
      (s.picked 0 [1, 0]).session.updateRequest?.bind (fun r => r.get? "mode") = some "1" := by
  intro session
  have hpicked : (ofSession? session none).map (fun s =>
      (((s.picked 0 [1, 0]).cellAt? Cell.choice? 0).bind fun c => c.2.shownValue?,
        (s.picked 0 [1, 0]).session.updateRequest?.bind fun r => r.get? "mode")) =
      some (some "7", some "1") := by
    decide +kernel
  obtain ⟨s, hs, hboth⟩ := Option.map_eq_some_iff.mp hpicked
  exact ⟨s, hs, Prod.mk.inj hboth⟩

end Screen

end SettingsForm
