import SettingsForm.Preferences
import Mathlib.Data.List.Basic

/-!
# Preferences that cannot be written

A flag is set before the preferences are written, so that a failed write has to be undone. The entry
that comes back is found under its key, and lands where it was because entries ascend
(`put_put_of_get?`); an entry that was new is taken out again (`erase_put_of_get?`). So a change that
fails leaves the preferences as they were (`change_error`).
-/

namespace SettingsForm

namespace PreferenceTable

variable {key : String} {p : Preference} {t : PreferenceTable}
  {entries : List (String × Preference)}

theorem putEntry_putEntry {e : String × Preference}
    (hentries : entries.Pairwise fun a b => a.1 < b.1)
    (he : entries.find? (fun e => e.1 = key) = some e) :
    putEntry key e.2 (putEntry key p entries) = entries := by
  induction entries with
  | nil => cases he
  | cons d rest ih =>
    obtain ⟨hd, hrest⟩ := List.pairwise_cons.mp hentries
    by_cases hkey : key = d.1
    · obtain rfl : d = e := by
        rw [List.find?_cons_of_pos (by simpa using hkey.symm)] at he
        exact Option.some.inj he
      simp [putEntry, hkey]
    · rw [List.find?_cons_of_neg (by simpa using Ne.symm hkey)] at he
      -- the entry found stands behind `d`, so the key is above that of `d`
      have hlt : ¬ key < d.1 := by
        have hfound : e.1 = key := by simpa using List.find?_some he
        exact String.lt_asymm (hfound ▸ hd e (List.mem_of_find?_eq_some he))
      simp [putEntry, hkey, hlt, ih hrest he]

theorem filter_putEntry (hkey : entries.find? (fun e => e.1 = key) = none) :
    (putEntry key p entries).filter (fun e => e.1 ≠ key) = entries := by
  have hall : ∀ e ∈ entries, e.1 ≠ key := by simpa using List.find?_eq_none.mp hkey
  have hkept : entries.filter (fun e => e.1 ≠ key) = entries :=
    List.filter_eq_self.mpr fun e he => decide_eq_true (hall e he)
  clear hkey
  induction entries with
  | nil => simp [putEntry]
  | cons d rest ih =>
    have hd := hall d List.mem_cons_self
    have hrest := fun e he => hall e (List.mem_cons_of_mem _ he)
    unfold putEntry
    rw [if_neg (Ne.symm hd)]
    split
    · rw [List.filter_cons_of_neg (by simp), hkept]
    · rw [List.filter_cons_of_pos (by simpa using hd), ih hrest]
      exact List.filter_eq_self.mpr fun e he => decide_eq_true (hrest e he)

/-- Putting back what a key had undoes putting something else there. -/
theorem put_put_of_get? {previous : Preference} (hget : t.get? key = some previous) :
    put key previous (put key p t) = t := by
  obtain ⟨e, he, rfl⟩ := Option.map_eq_some_iff.mp hget
  obtain ⟨entries, hentries⟩ := t
  simp only [put, putEntry_putEntry hentries he]

/-- Taking out a key that was not there undoes putting something there. -/
theorem erase_put_of_get? (hget : t.get? key = none) : erase key (put key p t) = t := by
  obtain ⟨entries, hentries⟩ := t
  simp only [erase, put, filter_putEntry (Option.map_eq_none_iff.mp hget)]

end PreferenceTable

namespace PreferenceStore

variable {s changed : PreferenceStore} {key : String} {value : Bool} {now : Instant}

/-- A change that fails leaves the preferences as they were. -/
theorem change_error {fault : PreferenceFault}
    (hchange : s.change key value now = (changed, .error fault)) : changed = s := by
  unfold change at hchange
  generalize Preference.mk (if value then "1" else "0") (now.addDays daysKept) = p at hchange
  simp only at hchange
  split at hchange
  · cases hchange
  · split at hchange
    · rename_i previous hget
      obtain ⟨rfl, -⟩ := Prod.mk.inj hchange
      rw [PreferenceTable.put_put_of_get? hget]
    · rename_i hget
      obtain ⟨rfl, -⟩ := Prod.mk.inj hchange
      rw [PreferenceTable.erase_put_of_get? hget]

end PreferenceStore

end SettingsForm
