import SettingsForm.Proofs.Preferences.File
import Mathlib.Data.List.Induction

/-!
# Flags over time

A run of calls sets flags, and each call may find that the file cannot be written. Only a call that
succeeds changes the preferences, and only under its own key (`call_of_writable`,
`call_of_not_writable`); and what the file holds is always what is held in memory (`Backed`). So a
flag is decided by the last call that set it (`flags_over_time`).
-/

namespace SettingsForm

/-- The instant is earlier than another. -/
def Instant.Before (a b : Instant) : Prop :=
  a.second < b.second ∨ a.second = b.second ∧ a.nano < b.nano

instance (a b : Instant) : Decidable (a.Before b) := inferInstanceAs (Decidable (_ ∨ _))

theorem Instant.notAfter_iff (a b : Instant) : a.notAfter b = true ↔ ¬ b.Before a := by
  simp [notAfter, Before]
  omega

/-- What a preference says at some time: nothing from the time on at which it lapses. -/
def Preference.at? (p : Preference) (t : Instant) : Option Bool :=
  if t.Before p.expires then some (p.value = "1") else none

/-- A call that sets a flag, and what keeps the file from being written then. -/
structure FlagCall where
  key : String
  value : Bool
  now : Instant
  writeFault : Option FileFault

namespace FlagCall

/-- When the flag lapses that a call sets. -/
def lapses (c : FlagCall) : Instant := c.now.addDays 30

/-- What a call says at some time. -/
def at? (c : FlagCall) (t : Instant) : Option Bool :=
  if t.Before c.lapses then some c.value else none

/-- The entry that a call makes. -/
def preference (c : FlagCall) : Preference := ⟨if c.value then "1" else "0", c.lapses⟩

theorem preference_at? (c : FlagCall) (t : Instant) : c.preference.at? t = c.at? t := by
  unfold Preference.at? at? preference
  cases c.value <;> rfl

end FlagCall

namespace PreferenceTable

variable {key other : String} {p : Preference} {t : PreferenceTable}
  {entries : List (String × Preference)}

theorem find?_putEntry_self (key : String) (p : Preference) (entries : List (String × Preference)) :
    (putEntry key p entries).find? (fun e => e.1 = key) = some (key, p) := by
  induction entries with
  | nil => simp [putEntry]
  | cons e entries ih =>
    unfold putEntry
    split_ifs with heq hlt
    · simp
    · simp
    · rw [List.find?_cons_of_neg (by simpa using Ne.symm heq), ih]

theorem find?_putEntry_of_ne (hother : other ≠ key) :
    (putEntry key p entries).find? (fun e => e.1 = other) =
      entries.find? (fun e => e.1 = other) := by
  have hnew (rest : List (String × Preference)) : ((key, p) :: rest).find? (fun e => e.1 = other) =
      rest.find? (fun e => e.1 = other) :=
    List.find?_cons_of_neg (by simpa using Ne.symm hother)
  induction entries with
  | nil => exact hnew []
  | cons e entries ih =>
    unfold putEntry
    split_ifs with heq hlt
    · rw [hnew, List.find?_cons_of_neg (by simpa [← heq] using Ne.symm hother)]
    · exact hnew _
    · rw [List.find?_cons, List.find?_cons, ih]

@[simp] theorem get?_put_self (key : String) (p : Preference) (t : PreferenceTable) :
    (put key p t).get? key = some p := by
  rw [get?, put, find?_putEntry_self]
  rfl

theorem get?_put_of_ne (hother : other ≠ key) : (put key p t).get? other = t.get? other := by
  rw [get?, put, find?_putEntry_of_ne hother]
  rfl

end PreferenceTable

namespace PreferenceStore

variable {s : PreferenceStore} {c : FlagCall}

theorem flag?_eq (s : PreferenceStore) (key : String) (t : Instant) :
    s.flag? key t = (s.table.get? key).bind fun p => p.at? t := by
  unfold flag?
  cases s.table.get? key with
  | none => rfl
  | some p =>
    simp only [Option.bind_some, Preference.at?]
    by_cases hbefore : t.Before p.expires
    · have hkept : p.expires.notAfter t = false := by
        rw [← Bool.not_eq_true, Instant.notAfter_iff]
        exact not_not_intro hbefore
      rw [hkept, if_pos hbefore]
      rfl
    · rw [(Instant.notAfter_iff _ _).mpr hbefore, if_neg hbefore]
      rfl

/-- The preferences when something else keeps their file from being written, or nothing. -/
def withWriteFault (s : PreferenceStore) (fault : Option FileFault) : PreferenceStore :=
  { s with file := s.file.map fun file => { file with writeFault := fault } }

/-- Makes a call. -/
def call (s : PreferenceStore) (c : FlagCall) : PreferenceStore × Except PreferenceFault Unit :=
  (s.withWriteFault c.writeFault).change c.key c.value c.now

/-- The preferences after some calls. -/
def run (s : PreferenceStore) (calls : List FlagCall) : PreferenceStore :=
  calls.foldl (fun s c => (s.call c).1) s

/-- Some calls with their results. -/
def trace (s : PreferenceStore) : List FlagCall → List (FlagCall × Except PreferenceFault Unit)
  | [] => []
  | c :: calls => (c, (s.call c).2) :: (s.call c).1.trace calls

theorem run_concat (s : PreferenceStore) (calls : List FlagCall) (c : FlagCall) :
    s.run (calls ++ [c]) = ((s.run calls).call c).1 :=
  List.foldl_concat _ _ _ _

theorem trace_concat (s : PreferenceStore) (calls : List FlagCall) (c : FlagCall) :
    s.trace (calls ++ [c]) = s.trace calls ++ [(c, ((s.run calls).call c).2)] := by
  induction calls generalizing s with
  | nil => rfl
  | cons d calls ih => rw [List.cons_append, trace, ih]; rfl

/-- A call that finds its file writable, or has none, makes its entry and writes the file. -/
theorem call_of_writable (hc : s.file = none ∨ c.writeFault = none) :
    s.call c = (⟨s.file.map fun _ => ⟨some (s.table.put c.key c.preference).write, none⟩,
      s.table.put c.key c.preference⟩, .ok ()) := by
  obtain ⟨file, table⟩ := s
  cases file with
  | none => rfl
  | some file =>
    have hfault : c.writeFault = none := hc.resolve_left (by simp)
    simp only [call, withWriteFault, change, save, hfault]
    rfl

/-- A call that cannot write the file changes nothing else. -/
theorem call_of_not_writable (hc : ¬ (s.file = none ∨ c.writeFault = none)) : ∃ fault,
    c.writeFault = some fault ∧
    s.call c = (s.withWriteFault c.writeFault, .error (.access fault)) := by
  obtain ⟨hfile, hfault⟩ := not_or.mp hc
  obtain ⟨file, hfile⟩ := Option.ne_none_iff_exists'.mp hfile
  obtain ⟨fault, hfault⟩ := Option.ne_none_iff_exists'.mp hfault
  have hresult : (s.call c).2 = .error (.access fault) := by
    obtain ⟨_, table⟩ := s
    obtain rfl := hfile
    simp only [call, withWriteFault, change, save, hfault, Option.map_some]
    split <;> rfl
  have hchange : (s.withWriteFault c.writeFault).change c.key c.value c.now =
      ((s.call c).1, .error (.access fault)) := Prod.ext rfl hresult
  exact ⟨fault, hfault, Prod.ext (change_error hchange) hresult⟩

theorem call_ok_iff (s : PreferenceStore) (c : FlagCall) :
    (s.call c).2 = .ok () ↔ s.file = none ∨ c.writeFault = none := by
  by_cases hc : s.file = none ∨ c.writeFault = none
  · simp [call_of_writable hc, hc]
  · obtain ⟨fault, -, hcall⟩ := call_of_not_writable hc
    simp [hcall, hc]

theorem isSome_file_call (s : PreferenceStore) (c : FlagCall) :
    (s.call c).1.file.isSome = s.file.isSome := by
  by_cases hc : s.file = none ∨ c.writeFault = none
  · rw [call_of_writable hc, Option.isSome_map]
  · obtain ⟨fault, -, hcall⟩ := call_of_not_writable hc
    rw [hcall, withWriteFault, Option.isSome_map]

theorem table_call_of_ok (hc : (s.call c).2 = .ok ()) :
    (s.call c).1.table = s.table.put c.key c.preference := by
  rw [call_of_writable ((call_ok_iff s c).mp hc)]

theorem table_call_of_error (hc : (s.call c).2 ≠ .ok ()) : (s.call c).1.table = s.table := by
  obtain ⟨fault, -, hcall⟩ := call_of_not_writable fun h => hc ((call_ok_iff s c).mpr h)
  rw [hcall]
  rfl

/-- A call that fails changes no flag. -/
theorem flag?_call_of_error (hc : (s.call c).2 ≠ .ok ()) (key : String) (t : Instant) :
    (s.call c).1.flag? key t = s.flag? key t := by
  rw [flag?_eq, flag?_eq, table_call_of_error hc]

/-- A call changes no flag but its own. -/
theorem flag?_call_of_ne {key : String} (hkey : key ≠ c.key) (t : Instant) :
    (s.call c).1.flag? key t = s.flag? key t := by
  by_cases hc : (s.call c).2 = .ok ()
  · rw [flag?_eq, flag?_eq, table_call_of_ok hc, PreferenceTable.get?_put_of_ne hkey]
  · exact flag?_call_of_error hc key t

/-- A call that succeeds decides its flag. -/
theorem flag?_call_self (hc : (s.call c).2 = .ok ()) (t : Instant) :
    (s.call c).1.flag? c.key t = c.at? t := by
  rw [flag?_eq, table_call_of_ok hc, PreferenceTable.get?_put_self, Option.bind_some,
    FlagCall.preference_at?]

/-! ## Memory and file -/

/-- What the file of some preferences holds is the preferences. -/
structure Backed (s : PreferenceStore) : Prop where
  representable : s.table.Representable
  load_file : ∀ file, s.file = some file → load file = .ok s

theorem load_eq_ok {file : PreferenceFile} (hs : load file = .ok s) : s.file = some file ∧
    ((file.content = none ∧ s.table = .empty) ∨
      ∃ text, file.content = some text ∧ PreferenceTable.read text = .ok s.table) := by
  unfold load at hs
  split at hs
  · rename_i hcontent
    cases hs
    exact ⟨rfl, .inl ⟨hcontent, rfl⟩⟩
  · rename_i text hcontent
    split at hs
    · rename_i table hread
      cases hs
      exact ⟨rfl, .inr ⟨text, hcontent, hread⟩⟩
    · cases hs

theorem backed_of_load {file : PreferenceFile} (hs : load file = .ok s) : s.Backed := by
  obtain ⟨hfile, hcontent⟩ := load_eq_ok hs
  refine ⟨?_, fun other hother => ?_⟩
  · rcases hcontent with ⟨-, hempty⟩ | ⟨text, -, hread⟩
    · rw [hempty]
      exact PreferenceTable.representable_empty
    · exact PreferenceTable.representable_of_read hread
  · obtain rfl := Option.some.inj (hother.symm.trans hfile)
    exact hs

theorem backed_of_start (hs : s = inMemory ∨ ∃ file, load file = .ok s) : s.Backed := by
  rcases hs with rfl | ⟨file, hload⟩
  · exact ⟨PreferenceTable.representable_empty, nofun⟩
  · exact backed_of_load hload

theorem Backed.withWriteFault (hs : s.Backed) (fault : Option FileFault) :
    (s.withWriteFault fault).Backed := by
  refine ⟨hs.representable, fun file hfile => ?_⟩
  obtain ⟨before, hbefore, rfl⟩ := Option.map_eq_some_iff.mp hfile
  have hload := hs.load_file before hbefore
  obtain ⟨-, ⟨hcontent, htable⟩ | ⟨text, hcontent, hread⟩⟩ := load_eq_ok hload
  · simp [load, hcontent, PreferenceStore.withWriteFault, hbefore, htable]
  · simp [load, hcontent, PreferenceStore.withWriteFault, hbefore, hread]

/-- What a call that succeeds has written is what is held in memory. -/
theorem backed_of_ok (hs : s.table.Representable) (hc : c.lapses.Representable)
    (hok : (s.call c).2 = .ok ()) : (s.call c).1.Backed := by
  have htable : (s.table.put c.key c.preference).Representable :=
    PreferenceTable.representable_put hs hc
  rw [call_of_writable ((call_ok_iff s c).mp hok)]
  refine ⟨htable, fun file hfile => ?_⟩
  obtain ⟨before, hbefore, rfl⟩ := Option.map_eq_some_iff.mp hfile
  simp [load, PreferenceTable.read_write htable, hbefore]

theorem Backed.call (hs : s.Backed) (hc : c.lapses.Representable) : (s.call c).1.Backed := by
  by_cases hwritable : s.file = none ∨ c.writeFault = none
  · exact backed_of_ok hs.representable hc ((call_ok_iff s c).mpr hwritable)
  · obtain ⟨fault, -, hcall⟩ := call_of_not_writable hwritable
    rw [hcall]
    exact hs.withWriteFault _

theorem Backed.run (hs : s.Backed) {calls : List FlagCall}
    (hcalls : ∀ c ∈ calls, c.lapses.Representable) : (s.run calls).Backed := by
  induction calls generalizing s with
  | nil => exact hs
  | cons c calls ih =>
    exact ih (hs.call (hcalls c List.mem_cons_self)) fun d hd => hcalls d (List.mem_cons_of_mem _ hd)

/-! ## One change -/

section Change

variable {changed : PreferenceStore} {value : Bool} {now time : Instant}

/-- What keeps the preferences from being written. -/
def writeFault? (s : PreferenceStore) : Option FileFault := s.file.bind fun file => file.writeFault

/-- A change is a call that finds the file as it is. -/
theorem change_eq_call (s : PreferenceStore) (key : String) (value : Bool) (now : Instant) :
    s.change key value now = s.call ⟨key, value, now, s.writeFault?⟩ := by
  have hsame : s.withWriteFault s.writeFault? = s := by
    obtain ⟨file, table⟩ := s
    cases file <;> rfl
  rw [call, hsame]

/-- A change that succeeds makes its entry. -/
theorem table_of_change {key : String} (hchange : s.change key value now = (changed, .ok ())) :
    changed.table = s.table.put key (FlagCall.mk key value now s.writeFault?).preference := by
  rw [change_eq_call] at hchange
  have hok := congrArg Prod.snd hchange
  rw [← table_call_of_ok hok, hchange]

/-- A flag that was set is there until thirty days have passed. -/
theorem flag?_of_change {key : String} (hchange : s.change key value now = (changed, .ok ()))
    (htime : time.Before (now.addDays 30)) : changed.flag? key time = some value := by
  rw [change_eq_call] at hchange
  have hflag := flag?_call_self (congrArg Prod.snd hchange) time
  rw [hchange] at hflag
  rw [hflag]
  exact if_pos htime

/-- What a change that succeeds has written is what is held in memory. -/
theorem backed_of_change {key : String} (hs : s.table.Representable)
    (hnow : (now.addDays 30).Representable) (hchange : s.change key value now = (changed, .ok ())) :
    changed.Backed := by
  rw [change_eq_call] at hchange
  have hbacked : (s.call ⟨key, value, now, s.writeFault?⟩).1.Backed :=
    backed_of_ok hs hnow (congrArg Prod.snd hchange)
  rwa [hchange] at hbacked

/-- Preferences whose file cannot be written stay as they are. -/
theorem change_of_fault {key : String} {fault : FileFault} (hfault : s.writeFault? = some fault) :
    s.change key value now = (s, .error (.access fault)) := by
  have hcall : ¬ (s.file = none ∨ s.writeFault? = none) := by
    rintro (hfile | hnone)
    · rw [writeFault?, hfile] at hfault
      cases hfault
    · rw [hnone] at hfault
      cases hfault
  obtain ⟨found, hfound, heq⟩ := call_of_not_writable (c := ⟨key, value, now, s.writeFault?⟩) hcall
  obtain rfl : found = fault := Option.some.inj (hfound.symm.trans hfault)
  rw [← change_eq_call] at heq
  rw [heq, change_error heq]

theorem change_of_no_fault (hfault : s.writeFault? = none) (key : String) (value : Bool)
    (now : Instant) : ∃ changed, s.change key value now = (changed, .ok ()) := by
  rw [change_eq_call]
  exact ⟨_, Prod.ext rfl ((call_ok_iff _ _).mpr (.inr hfault))⟩

end Change

/-! ## The call that decides a flag -/

/-- The last call of a history that set a flag. -/
def lastSet? (key : String) (history : List (FlagCall × Except PreferenceFault Unit)) :
    Option FlagCall :=
  (history.reverse.find? fun step => step.1.key = key && step.2.isOk).map (·.1)

theorem lastSet?_concat (key : String) (history : List (FlagCall × Except PreferenceFault Unit))
    (c : FlagCall) (result : Except PreferenceFault Unit) :
    lastSet? key (history ++ [(c, result)]) =
      if c.key = key ∧ result = .ok () then some c else lastSet? key history := by
  rw [lastSet?, List.reverse_concat]
  by_cases hc : c.key = key ∧ result = .ok ()
  · rw [List.find?_cons_of_pos (by simp [hc.1, hc.2, Except.isOk, Except.toBool]), if_pos hc]
    rfl
  · rw [List.find?_cons_of_neg ?_, if_neg hc]
    · rfl
    · cases result with
      | error fault => simp [Except.isOk, Except.toBool]
      | ok => simpa [Except.isOk, Except.toBool] using hc

/-- What a history and the preferences before it say about a flag at some time. -/
def decided? (s : PreferenceStore) (key : String)
    (history : List (FlagCall × Except PreferenceFault Unit)) (t : Instant) : Option Bool :=
  match lastSet? key history with
  | some c => c.at? t
  | none => (s.table.get? key).bind fun p => p.at? t

theorem flag?_run (s : PreferenceStore) (calls : List FlagCall) (key : String) (t : Instant) :
    (s.run calls).flag? key t = s.decided? key (s.trace calls) t := by
  induction calls using List.reverseRecOn with
  | nil => exact flag?_eq s key t
  | append_singleton calls c ih =>
    rw [run_concat, trace_concat, decided?, lastSet?_concat]
    split_ifs with hc
    · obtain ⟨rfl, hok⟩ := hc
      exact flag?_call_self hok t
    · rw [← decided?, ← ih]
      by_cases hkey : key = c.key
      · exact flag?_call_of_error (fun hok => hc ⟨hkey.symm, hok⟩) key t
      · exact flag?_call_of_ne hkey t

theorem isSome_file_run (s : PreferenceStore) (calls : List FlagCall) :
    (s.run calls).file.isSome = s.file.isSome := by
  induction calls generalizing s with
  | nil => rfl
  | cons c calls ih => exact (ih _).trans (isSome_file_call s c)

/-- Preferences that start in memory or from a file are decided, flag by flag, by the last call that
succeeded in setting the flag: its value holds until thirty days after it was set, and nothing from
then on. A flag that no call set is decided by what was loaded. A call succeeds unless it cannot
write the file; one that fails changes no flag, and none changes a flag other than its own. The file
stays with the preferences, and what it holds answers every question as they do. -/
theorem flags_over_time {s : PreferenceStore} (hs : s = inMemory ∨ ∃ file, load file = .ok s)
    (calls : List FlagCall) (hcalls : ∀ c ∈ calls, (c.now.addDays 30).Representable) :
    let after := s.run calls
    (∀ key t, after.flag? key t =
      match lastSet? key (s.trace calls) with
      | some c => if t.Before (c.now.addDays 30) then some c.value else none
      | none =>
        match s.table.get? key with
        | some p => if t.Before p.expires then some (p.value = "1") else none
        | none => none) ∧
    (∀ c, (after.call c).2 = .ok () ↔ after.file = none ∨ c.writeFault = none) ∧
    (∀ c, (after.call c).2 ≠ .ok () →
      ∀ key t, (after.call c).1.flag? key t = after.flag? key t) ∧
    (∀ c key, key ≠ c.key → ∀ t, (after.call c).1.flag? key t = after.flag? key t) ∧
    after.file.isSome = s.file.isSome ∧
    ∀ file, after.file = some file → ∃ reloaded, load file = .ok reloaded ∧
      ∀ key t, reloaded.flag? key t = after.flag? key t := by
  intro after
  have hbacked : s.Backed := backed_of_start hs
  refine ⟨fun key t => ?_, call_ok_iff after, fun c => flag?_call_of_error,
    fun c key hkey t => flag?_call_of_ne hkey t, isSome_file_run s calls, fun file hfile => ?_⟩
  · rw [flag?_run, decided?]
    cases lastSet? key (s.trace calls) with
    | some c => rfl
    | none => cases s.table.get? key <;> rfl
  · exact ⟨after, (hbacked.run hcalls).load_file file hfile, fun _ _ => rfl⟩

/-- A flag that was loaded, and one that was set, and then set again when the file could not be
written. -/
theorem flags_over_time_failed_write :
    let file : PreferenceFile :=
      ⟨some "[a]\nvalue = \"1\"\nexpires = \"2024-03-01T00:00:00Z\"\n", none⟩
    let calls : List FlagCall := [⟨"b c", true, ⟨1709164800, 0⟩, none⟩,
      ⟨"b c", false, ⟨1709164801, 0⟩, some .denied⟩]
    ∃ s, load file = .ok s ∧
      let after := s.run calls
      after.flag? "a" ⟨1709251199, 0⟩ = some true ∧ after.flag? "a" ⟨1709251200, 0⟩ = none ∧
      after.flag? "b c" ⟨1711756799, 0⟩ = some true ∧ after.flag? "b c" ⟨1711756800, 0⟩ = none ∧
      ∀ file, after.file = some file → ∃ reloaded, load file = .ok reloaded ∧
        ∀ key t, reloaded.flag? key t = after.flag? key t := by
  intro file calls
  have hload : load file =
      .ok ⟨some file, .put "a" ⟨"1", ⟨1709251200, 0⟩⟩ .empty⟩ := by
    decide +kernel
  obtain ⟨hflags, -, -, -, -, hreload⟩ :=
    flags_over_time (.inr ⟨file, hload⟩) calls (by decide +kernel)
  refine ⟨_, hload, ?_, ?_, ?_, ?_, hreload⟩
  all_goals
    rw [hflags]
    decide +kernel

end PreferenceStore

end SettingsForm
