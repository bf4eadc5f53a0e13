import SettingsForm.Calendar.Timestamp
import SettingsForm.Proofs.Calendar.Date
import Mathlib.Data.List.TakeWhile

/-!
# Timestamps and instants

The written form of an instant is read field by field: each field takes its own digits and leaves the
rest (`year_write`, `field_padded`, `fraction_write`), and the instant that they name is the one
written (`read?_write`). This holds for the instants that have a date (`Instant.Representable`), and
no others are read (`representable_of_read?`).
-/

namespace SettingsForm

/-- The instant has a date, and it lies in a leap second only where there can be one. -/
def Instant.Representable (t : Instant) : Prop :=
  Date.inRange (Date.ofDays (t.second / secondsPerDay)).year = true ∧
    (t.nano < nanosPerSecond ∨ t.nano < 2 * nanosPerSecond ∧ t.second % 60 = 59)

instance (t : Instant) : Decidable t.Representable := inferInstanceAs (Decidable (_ ∧ _))

namespace Timestamp

/-! ## Numbers -/

theorem toList_padded (width n : Nat) : (padded width n).toList =
    List.replicate (width - (Nat.toDigits 10 n).length) '0' ++ Nat.toDigits 10 n := by
  rw [padded, String.toList_append, String.toList_ofList, Nat.toString_eq_ofList_toDigits,
    String.toList_ofList, String.length_ofList]

theorem isDigit_of_mem_padded {width n : Nat} {d : Char} (hd : d ∈ (padded width n).toList) :
    d.isDigit = true := by
  rw [toList_padded] at hd
  rcases List.mem_append.mp hd with hd | hd
  · rw [List.eq_of_mem_replicate hd]
    decide
  · exact Nat.isDigit_of_mem_toDigits (by decide) (by decide) hd

theorem digitsValue_eq (ds : List Char) : digitsValue ds = Nat.ofDigitChars 10 ds 0 := by
  rw [digitsValue, Nat.ofDigitChars_eq_foldl]
  simp only [Nat.mul_comm]

theorem digitsValue_padded (width n : Nat) : digitsValue (padded width n).toList = n := by
  rw [digitsValue_eq, toList_padded, Nat.ofDigitChars_append, Nat.ofDigitChars_replicate_zero,
    Nat.mul_zero, Nat.ofDigitChars_ten_toDigits]

theorem length_padded {width n : Nat} (hwidth : 0 < width) (hn : n < 10 ^ width) :
    (padded width n).toList.length = width := by
  have hle : (Nat.toDigits 10 n).length ≤ width :=
    (Nat.length_toDigits_le_iff (by decide) hwidth).mpr hn
  rw [toList_padded, List.length_append, List.length_replicate]
  omega

theorem exists_cons_padded (width n : Nat) : ∃ d ds, (padded width n).toList = d :: ds := by
  rw [← List.ne_nil_iff_exists_cons, toList_padded]
  exact List.append_ne_nil_of_right_ne_nil _ Nat.toDigits_ne_nil

theorem ne_of_isDigit {d c : Char} (hd : d.isDigit = true) (hc : c.isDigit = false) : d ≠ c := by
  rintro rfl
  rw [hd] at hc
  cases hc

theorem isBlank_of_isDigit {d : Char} (hd : d.isDigit = true) : Text.isBlank d = false := by
  have hrange : 48 ≤ d.toNat ∧ d.toNat ≤ 57 := by
    simpa [Char.isDigit, UInt32.le_iff_toNat_le] using hd
  unfold Text.isBlank
  simp
  omega

/-! ## Readers -/

variable {α β : Type} {cs rest : List Char}

theorem bind_of_some {r : Reader α} {a : α} (hr : r cs = some (a, rest)) (k : α → Reader β) :
    (r >>= k) cs = k a rest := by
  show (r cs).bind (fun (a, rest) => k a rest) = k a rest
  rw [hr]
  rfl

theorem pure_apply (a : α) : (pure a : Reader α) cs = some (a, cs) := rfl

theorem get_bind (k : List Char → Reader β) : (get >>= k) cs = k cs cs := rfl

theorem set_bind (k : Unit → Reader β) : ((set rest : Reader PUnit) >>= k) cs = k () rest := rfl

/-- A number is read to its end when as many digits follow as may, or something else. -/
theorem number_append {limit : Nat} {ds : List Char} (hds : ∀ d ∈ ds, d.isDigit = true)
    (hne : ds ≠ []) (hlength : ds.length ≤ limit)
    (hrest : ds.length = limit ∨ ∀ c ∈ rest.head?, c.isDigit = false) :
    number limit (ds ++ rest) = some (digitsValue ds, rest) := by
  have hafter : (rest.take (limit - ds.length)).takeWhile Char.isDigit = [] := by
    rcases hrest with hfull | hrest
    · rw [hfull, Nat.sub_self, List.take_zero, List.takeWhile_nil]
    · cases rest with
      | nil => rw [List.take_nil, List.takeWhile_nil]
      | cons c rest =>
        have hc : c.isDigit = false := hrest c rfl
        cases limit - ds.length with
        | zero => rfl
        | succ k => rw [List.take_succ_cons, List.takeWhile_cons_of_neg (by simp [hc])]
  have htaken : ((ds ++ rest).take limit).takeWhile Char.isDigit = ds := by
    rw [List.take_append, List.take_of_length_le hlength, List.takeWhile_append_of_pos hds, hafter,
      List.append_nil]
  unfold number
  simp [htaken, hne]

theorem skipBlank_cons {c : Char} (hc : Text.isBlank c = false) :
    skipBlank (c :: cs) = some ((), c :: cs) := by
  show some ((), (c :: cs).dropWhile Text.isBlank) = _
  rw [List.dropWhile_cons_of_neg (by simp [hc])]

theorem skipBlank_padded (width n : Nat) : skipBlank ((padded width n).toList ++ rest) =
    some ((), (padded width n).toList ++ rest) := by
  obtain ⟨d, ds, hd⟩ := exists_cons_padded width n
  have hdigit : d.isDigit = true := isDigit_of_mem_padded (hd ▸ List.mem_cons_self)
  rw [hd]
  exact skipBlank_cons (isBlank_of_isDigit hdigit)

/-- A written number is read to its end when it has as many digits as may follow, or something else
comes after it. -/
theorem number_padded_append {limit width n : Nat} (hlimit : (padded width n).toList.length ≤ limit)
    (hrest : (padded width n).toList.length = limit ∨ ∀ c ∈ rest.head?, c.isDigit = false) :
    number limit ((padded width n).toList ++ rest) = some (n, rest) := by
  obtain ⟨d, ds, hd⟩ := exists_cons_padded width n
  have hne : (padded width n).toList ≠ [] := by simp [hd]
  rw [number_append (fun d hd => isDigit_of_mem_padded hd) hne hlimit hrest, digitsValue_padded]

theorem number_padded {width n : Nat} (hwidth : 0 < width) (hn : n < 10 ^ width) :
    number width ((padded width n).toList ++ rest) = some (n, rest) := by
  have hlength := length_padded hwidth hn
  exact number_padded_append (Nat.le_of_eq hlength) (.inl hlength)

/-- A field of two digits is read. -/
theorem field_padded {low high n : Nat} (hlow : low ≤ n) (hhigh : n ≤ high) (hn : n < 100) :
    field low high ((padded 2 n).toList ++ rest) = some (n, rest) := by
  unfold field
  rw [bind_of_some (skipBlank_padded 2 n), bind_of_some (number_padded (by decide) hn),
    if_pos ⟨hlow, hhigh⟩]
  rfl

theorem separator_cons {c : Char} (hc : Text.isBlank c = false) :
    separator c (c :: rest) = some ((), rest) := by
  unfold separator
  rw [bind_of_some (skipBlank_cons hc)]
  simp [literal]

/-- Without a sign a year has four digits. -/
theorem year_of_isDigit {d : Char} (hd : d.isDigit = true) :
    year (d :: cs) = (number 4 >>= fun n => pure (Int.ofNat n)) (d :: cs) := by
  unfold year
  rw [bind_of_some (skipBlank_cons (isBlank_of_isDigit hd)), get_bind]
  simp [ne_of_isDigit hd (c := '-') (by decide), ne_of_isDigit hd (c := '+') (by decide)]

theorem year_minus {n : Nat} (hn : number cs.length cs = some (n, rest)) :
    year ('-' :: cs) = some (-(n : Int), rest) := by
  unfold year
  rw [bind_of_some (skipBlank_cons (by decide)), get_bind]
  simp only [set_bind, bind_of_some hn]
  rfl

theorem year_plus {n : Nat} (hn : number cs.length cs = some (n, rest)) :
    year ('+' :: cs) = some ((n : Int), rest) := by
  unfold year
  rw [bind_of_some (skipBlank_cons (by decide)), get_bind]
  simp only [set_bind, bind_of_some hn]
  rfl

/-- A year is read, with its sign if it has one. -/
theorem year_write (y : Int) (hrest : ∀ c ∈ rest.head?, c.isDigit = false) :
    year ((writeYear y).toList ++ rest) = some (y, rest) := by
  have hsigned : number ((padded 4 y.natAbs).toList ++ rest).length
      ((padded 4 y.natAbs).toList ++ rest) = some (y.natAbs, rest) :=
    number_padded_append (by simp) (.inr hrest)
  unfold writeYear
  by_cases hplain : 0 ≤ y ∧ y ≤ 9999
  · have hnumber : number 4 ((padded 4 y.toNat).toList ++ rest) = some (y.toNat, rest) :=
      number_padded (by decide) (by omega)
    obtain ⟨d, ds, hd⟩ := exists_cons_padded 4 y.toNat
    rw [if_pos hplain]
    rw [hd] at hnumber ⊢
    rw [List.cons_append, year_of_isDigit (isDigit_of_mem_padded (hd ▸ List.mem_cons_self)),
      ← List.cons_append, bind_of_some hnumber]
    show some (((y.toNat : Nat) : Int), rest) = _
    rw [Int.toNat_of_nonneg hplain.1]
  · rw [if_neg hplain, String.toList_append, List.append_assoc]
    by_cases hneg : y < 0
    · rw [if_pos hneg, show "-".toList = ['-'] from rfl, List.singleton_append,
        year_minus hsigned, Int.ofNat_natAbs_of_nonpos (Int.le_of_lt hneg), Int.neg_neg]
    · rw [if_neg hneg, show "+".toList = ['+'] from rfl, List.singleton_append,
        year_plus hsigned, Int.natAbs_of_nonneg (Int.not_lt.mp hneg)]

/-- The digits of a fraction count from the point on. -/
theorem fraction_digits {width n : Nat} (hwidth : 0 < width ∧ width ≤ 9) (hn : n < 10 ^ width) :
    fraction ('.' :: ((padded width n).toList ++ 'Z' :: rest)) =
      some (n * 10 ^ (9 - width), 'Z' :: rest) := by
  have hlength := length_padded hwidth.1 hn
  have htaken : ((padded width n).toList ++ 'Z' :: rest).takeWhile Char.isDigit =
      (padded width n).toList := by
    rw [List.takeWhile_append_of_pos fun d hd => isDigit_of_mem_padded hd]
    simp
  have hvalue : digitsValue ((padded width n).toList ++ List.replicate (9 - width) '0') =
      n * 10 ^ (9 - width) := by
    rw [digitsValue_eq, Nat.ofDigitChars_append, Nat.ofDigitChars_replicate_zero, ← digitsValue_eq,
      digitsValue_padded, Nat.mul_comm]
  have hne : ¬ (padded width n).toList.isEmpty = true := by
    rw [List.isEmpty_iff_length_eq_zero]
    omega
  unfold fraction
  rw [get_bind]
  simp only [htaken, if_neg hne, set_bind]
  have hkept : (padded width n).toList.take 9 = (padded width n).toList :=
    List.take_of_length_le (by rw [hlength]; exact hwidth.2)
  rw [hkept, hlength, hvalue, List.drop_left' hlength]
  exact pure_apply _

/-- A fraction is read, whichever of its digits were written. -/
theorem fraction_write {nano : Nat} (hnano : nano < nanosPerSecond) :
    fraction ((writeFraction nano).toList ++ ['Z']) = some (nano, ['Z']) := by
  unfold nanosPerSecond at hnano
  unfold writeFraction
  have hpoint (width n : Nat) : ("." ++ padded width n).toList ++ ['Z'] =
      '.' :: ((padded width n).toList ++ ['Z']) := by
    rw [String.toList_append, List.append_assoc, show ".".toList = ['.'] from rfl,
      List.singleton_append]
  by_cases hzero : nano = 0
  · rw [if_pos hzero, hzero]
    exact pure_apply 0
  · rw [if_neg hzero]
    split
    · have hwhole : nano / 1000000 * 10 ^ (9 - 3) = nano := by norm_num; omega
      rw [hpoint, fraction_digits (by decide) (by omega), hwhole]
    · split
      · have hwhole : nano / 1000 * 10 ^ (9 - 6) = nano := by norm_num; omega
        rw [hpoint, fraction_digits (by decide) (by omega), hwhole]
      · have hwhole : nano * 10 ^ (9 - 9) = nano := by norm_num
        rw [hpoint, fraction_digits (by decide) (by omega), hwhole]

theorem dateSeparator_cons : dateSeparator ('T' :: rest) = some ((), rest) := rfl

theorem offset_utc : offset ['Z'] = some (0, []) := by decide

/-! ## Timestamps -/

/-- A text of fields in range is read as the instant that they name. -/
theorem instant_fields {date : Date} {hour minute second nano leap : Nat} {utc : Int}
    (hdate : date.isValid = true) (hhour : hour ≤ 23) (hminute : minute ≤ 59) (hsecond : second ≤ 60)
    (hnano : nano < nanosPerSecond) (hleap : leap = if second = 60 then 1 else 0)
    (hutc : utc = date.toDays * secondsPerDay +
      Int.ofNat (hour * 3600 + minute * 60 + (second - leap)))
    (hrange : Date.inRange (Date.ofDays (utc / secondsPerDay)).year = true) :
    instant (writeYear date.year ++ "-" ++ padded 2 date.month ++ "-" ++ padded 2 date.day ++ "T" ++
      padded 2 hour ++ ":" ++ padded 2 minute ++ ":" ++ padded 2 second ++ writeFraction nano ++
      "Z").toList = some (⟨utc, nano + leap * nanosPerSecond⟩, []) := by
  have hday31 := Date.day_le_of_isValid hdate
  have hbounds := hdate
  simp only [Date.isValid, Bool.and_eq_true, decide_eq_true_eq] at hbounds
  obtain ⟨⟨⟨⟨-, hmonth⟩, hmonth12⟩, hday⟩, -⟩ := hbounds
  simp only [String.toList_append, List.append_assoc, show "-".toList = ['-'] from rfl,
    show ":".toList = [':'] from rfl, show "T".toList = ['T'] from rfl,
    show "Z".toList = ['Z'] from rfl, List.cons_append, List.nil_append]
  unfold instant
  rw [bind_of_some (year_write _ (by simp)), bind_of_some (separator_cons (by decide)),
    bind_of_some (field_padded hmonth hmonth12 (by omega)),
    bind_of_some (separator_cons (by decide)),
    bind_of_some (field_padded hday hday31 (by omega)), bind_of_some dateSeparator_cons,
    bind_of_some (field_padded (Nat.zero_le _) hhour (by omega)),
    bind_of_some (separator_cons (by decide)),
    bind_of_some (field_padded (Nat.zero_le _) hminute (by omega)),
    bind_of_some (separator_cons (by decide)),
    bind_of_some (field_padded (Nat.zero_le _) hsecond (by omega)),
    bind_of_some (fraction_write hnano), bind_of_some (skipBlank_cons (by decide)),
    bind_of_some offset_utc]
  have hnil : skipBlank [] = some ((), []) := rfl
  rw [bind_of_some hnil]
  simp only [Int.sub_zero, ← hleap, ← hutc, hdate, hrange]
  rfl

/-- A leap second is written as the sixtieth of its minute. -/
theorem leap_cases (nano clock leap : Nat)
    (hnano : nano < nanosPerSecond ∨ nano < 2 * nanosPerSecond ∧ clock % 60 = 59)
    (hleap : leap = if nanosPerSecond ≤ nano then 1 else 0) :
    clock % 60 + leap ≤ 60 ∧ nano - leap * nanosPerSecond < nanosPerSecond ∧
      leap = (if clock % 60 + leap = 60 then 1 else 0) ∧
      nano - leap * nanosPerSecond + leap * nanosPerSecond = nano := by
  split at hleap
  · obtain rfl := hleap
    obtain ⟨hlt, hclock⟩ : nano < 2 * nanosPerSecond ∧ clock % 60 = 59 := by omega
    rw [if_pos (by omega)]
    omega
  · obtain rfl := hleap
    rw [if_neg (by omega)]
    omega

/-- A written instant is read back. -/
theorem instant_write {t : Instant} (ht : t.Representable) :
    instant (write t).toList = some (t, []) := by
  obtain ⟨hrange, hnano⟩ := ht
  obtain ⟨clock, hclock⟩ : ∃ clock : Nat, t.second % secondsPerDay = clock :=
    Int.eq_ofNat_of_zero_le (Int.emod_nonneg _ (by decide))
  have hlt : clock < 86400 := by
    unfold secondsPerDay at hclock
    omega
  have hsixty : t.second % 60 = clock % 60 := by
    unfold secondsPerDay at hclock
    omega
  obtain ⟨hsecond, hfraction, hleap, hback⟩ :=
    leap_cases t.nano clock _ (by omega) rfl
  generalize hdef : (if nanosPerSecond ≤ t.nano then 1 else 0) = leap at *
  -- the fields name the second that they were taken from
  have hutc : t.second = (Date.ofDays (t.second / secondsPerDay)).toDays * secondsPerDay +
      Int.ofNat (clock / 3600 * 3600 + clock / 60 % 60 * 60 + (clock % 60 + leap - leap)) := by
    have hparts : clock / 3600 * 3600 + clock / 60 % 60 * 60 + (clock % 60 + leap - leap) =
        clock := by omega
    rw [hparts, Int.ofNat_eq_natCast, ← hclock, Date.toDays_ofDays]
    exact (Int.ediv_mul_add_emod _ _).symm
  have hread := instant_fields (Date.isValid_ofDays hrange) (by omega) (by omega) hsecond hfraction
    hleap hutc hrange
  rw [hback] at hread
  unfold write
  simp only [hclock, Int.toNat_natCast, hdef]
  exact hread

/-- The written form of an instant is a timestamp of that instant. -/
theorem read?_write {t : Instant} (ht : t.Representable) : read? (write t) = some t := by
  unfold read?
  rw [instant_write ht]

/-! ## What is read can be written -/

theorem exists_of_bind {r : Reader α} {k : α → Reader β} {out : β × List Char}
    (hout : (r >>= k) cs = some out) : ∃ a mid, r cs = some (a, mid) ∧ k a mid = some out := by
  obtain ⟨⟨a, mid⟩, ha, hk⟩ := Option.bind_eq_some_iff.mp (show (r cs).bind _ = _ from hout)
  exact ⟨a, mid, ha, hk⟩

theorem digitsValue_lt {ds : List Char} (hds : ∀ d ∈ ds, d.isDigit = true) :
    digitsValue ds < 10 ^ ds.length := by
  rw [digitsValue_eq]
  induction ds with
  | nil => decide
  | cons d ds ih =>
    have hlt := ih fun c hc => hds c (List.mem_cons_of_mem _ hc)
    have hdigit : d.toNat - '0'.toNat ≤ 9 := by
      have hd := hds d List.mem_cons_self
      simp only [Char.isDigit, ge_iff_le, UInt32.le_iff_toNat_le, Bool.and_eq_true,
        decide_eq_true_eq] at hd
      exact Nat.sub_le_of_le_add hd.2
    rw [Nat.ofDigitChars_cons, Nat.ofDigitChars_eq_ofDigitChars_zero, Nat.mul_zero, Nat.zero_add,
      List.length_cons, Nat.pow_succ]
    have hmul := Nat.mul_le_mul_left (10 ^ ds.length) hdigit
    omega

theorem lt_of_fraction {n : Nat} (hn : fraction cs = some (n, rest)) : n < nanosPerSecond := by
  unfold fraction at hn
  rw [get_bind] at hn
  split at hn
  · rename_i digits
    simp only at hn
    have hdigits : ∀ d ∈ (digits.takeWhile Char.isDigit).take 9, d.isDigit = true := fun d hd =>
      List.mem_takeWhile_imp (List.mem_of_mem_take hd)
    have hlength := List.length_take_le 9 (digits.takeWhile Char.isDigit)
    generalize (digits.takeWhile Char.isDigit).take 9 = kept at hn hdigits hlength
    split at hn
    · cases hn
    · rw [set_bind] at hn
      obtain ⟨rfl, -⟩ := Prod.mk.inj (Option.some.inj hn)
      have hpadded : ∀ d ∈ kept ++ List.replicate (9 - kept.length) '0', d.isDigit = true := by
        intro d hd
        rcases List.mem_append.mp hd with hd | hd
        · exact hdigits d hd
        · rw [List.eq_of_mem_replicate hd]
          decide
      have hlt := digitsValue_lt hpadded
      rwa [List.length_append, List.length_replicate, Nat.add_sub_cancel' hlength] at hlt
  · cases hn
    decide

theorem offset_mod {off : Int} (hoff : offset cs = some (off, rest)) : off % 60 = 0 := by
  unfold offset at hoff
  rw [get_bind] at hoff
  split at hoff
  · cases hoff
    rfl
  · split at hoff
    · cases hoff
      rfl
    · cases hoff
      rfl
    · split at hoff
      · rw [set_bind] at hoff
        obtain ⟨hours, cs, -, hoff⟩ := exists_of_bind hoff
        obtain ⟨-, cs, -, hoff⟩ := exists_of_bind hoff
        obtain ⟨minutes, cs, -, hoff⟩ := exists_of_bind hoff
        split at hoff
        · simp only at hoff
          obtain ⟨rfl, -⟩ := Prod.mk.inj (Option.some.inj hoff)
          rw [Int.ofNat_eq_natCast]
          split <;> omega
        · cases hoff
      · cases hoff
    · cases hoff

theorem representable_of_instant {t : Instant} (ht : instant cs = some (t, rest)) :
    t.Representable := by
  unfold instant at ht
  obtain ⟨y, cs, -, ht⟩ := exists_of_bind ht
  obtain ⟨-, cs, -, ht⟩ := exists_of_bind ht
  obtain ⟨month, cs, -, ht⟩ := exists_of_bind ht
  obtain ⟨-, cs, -, ht⟩ := exists_of_bind ht
  obtain ⟨day, cs, -, ht⟩ := exists_of_bind ht
  obtain ⟨-, cs, -, ht⟩ := exists_of_bind ht
  obtain ⟨hour, cs, -, ht⟩ := exists_of_bind ht
  obtain ⟨-, cs, -, ht⟩ := exists_of_bind ht
  obtain ⟨minute, cs, -, ht⟩ := exists_of_bind ht
  obtain ⟨-, cs, -, ht⟩ := exists_of_bind ht
  obtain ⟨second, cs, -, ht⟩ := exists_of_bind ht
  obtain ⟨nano, cs, hnano, ht⟩ := exists_of_bind ht
  obtain ⟨-, cs, -, ht⟩ := exists_of_bind ht
  obtain ⟨off, cs, hoff, ht⟩ := exists_of_bind ht
  obtain ⟨-, cs, -, ht⟩ := exists_of_bind ht
  have hlt := lt_of_fraction hnano
  have hsixty := offset_mod hoff
  simp only at ht
  generalize hleap : (if second = 60 then 1 else 0) = leap at ht
  split at ht
  · rename_i hchecked
    obtain ⟨rfl, -⟩ := Prod.mk.inj (Option.some.inj ht)
    simp only [Bool.and_eq_true] at hchecked
    refine ⟨hchecked.2, ?_⟩
    -- an offset is whole minutes, so a leap second stays the last of its minute
    unfold nanosPerSecond at hlt ⊢
    unfold secondsPerDay
    split at hleap
    · right
      simp only [Int.ofNat_eq_natCast]
      omega
    · left
      simp only
      omega
  · cases ht

/-- Only instants that can be written are read. -/
theorem representable_of_read? {s : String} {t : Instant} (ht : read? s = some t) :
    t.Representable := by
  unfold read? at ht
  split at ht
  · rename_i found hfound
    cases ht
    exact representable_of_instant hfound
  · cases ht

end Timestamp

end SettingsForm
