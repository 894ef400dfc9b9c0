import PagedRows.CommandLine
import PagedRows.Proofs.Outcomes

/-!
# Window sizes on the command line

Numbers on the command line are read digit by digit and refused as soon as they pass
their limit.  So whatever the arguments are, a window size that is set fits 64 bits with
sign.
-/

namespace PagedRows.CommandLine

private theorem appendDigits_le {limit value result : Nat} {beyond : NumberFlaw}
    {digits : List Char} (within : value ≤ limit) (read : appendDigits limit beyond value digits = .ok result) :
    result ≤ limit := by
  induction digits generalizing value with
  | nil =>
      cases read
      exact within
  | cons digit digits induction =>
      rw [appendDigits] at read
      split at read
      · cases read
      simp only at read
      split at read
      · cases read
      next notBeyond => exact induction (Nat.le_of_not_lt notBeyond) read

private theorem readDigits_le {limit result : Nat} {beyond : NumberFlaw} {digits : List Char}
    (read : readDigits limit beyond digits = .ok result) : result ≤ limit := by
  cases digits with
  | nil => cases read
  | cons digit digits => exact appendDigits_le (Nat.zero_le _) read

private theorem readInt64_range {text : List Char} {value : Int}
    (read : readInt64 text = .ok value) :
    -2 ^ 63 ≤ value ∧ value < 2 ^ 63 := by
  rw [readInt64.eq_def] at read
  simp only at read
  split at read
  · cases read
  · obtain ⟨value, whole, rfl⟩ := exists_of_map_eq_ok read
    obtain ⟨magnitude, digits, same⟩ := exists_of_bind_eq_ok whole
    cases same
    have most := readDigits_le digits
    omega
  · obtain ⟨magnitude, digits, rfl⟩ := exists_of_map_eq_ok read
    have most := readDigits_le digits
    simp only [Int.ofNat_eq_natCast]
    omega
  · obtain ⟨magnitude, digits, rfl⟩ := exists_of_map_eq_ok read
    have most := readDigits_le digits
    simp only [Int.ofNat_eq_natCast]
    omega

/-- The window size, if it is set, fits 64 bits with sign. -/
def Settings.InRange (settings : Settings) : Prop :=
  ∀ size, settings.windowSize? = some size → -2 ^ 63 ≤ size ∧ size < 2 ^ 63

namespace Settings.InRange

variable {settings after : Settings} {taken later : Taken}

theorem assign {value : List Char} {parameter : Parameter} (range : settings.InRange)
    (done : settings.assign value parameter = .ok after) : after.InRange := by
  cases parameter with
  | input =>
      rw [Settings.assign] at done
      split at done
      · cases done
      · cases done
        exact range
  | name =>
      obtain ⟨-, -, done⟩ := exists_of_bind_eq_ok done
      cases done
      exact range
  | windowSize =>
      obtain ⟨-, -, done⟩ := exists_of_bind_eq_ok done
      obtain ⟨size, read, done⟩ := exists_of_bind_eq_ok done
      cases done
      intro held same
      cases same
      exact readInt64_range (mapError_eq_ok_iff.mp read)
  | pageSize | start | count =>
      obtain ⟨-, -, done⟩ := exists_of_bind_eq_ok done
      obtain ⟨number, -, done⟩ := exists_of_bind_eq_ok done
      cases done
      exact range

theorem settle (range : taken.settings.InRange) (done : taken.settle = .ok after) :
    after.InRange := by
  rw [Taken.settle] at done
  split at done
  · cases done
    exact range
  · cases done
  · exact range.assign done

theorem begin {parameter : Parameter} {value? : Option (List Char)}
    (range : taken.settings.InRange) (done : taken.begin parameter value? = .ok later) :
    later.settings.InRange := by
  obtain ⟨settled, first, done⟩ := exists_of_bind_eq_ok done
  have kept := range.settle first
  cases value? with
  | none =>
      cases done
      exact kept
  | some value =>
      obtain ⟨assigned, second, done⟩ := exists_of_bind_eq_ok done
      cases done
      exact kept.assign second

theorem takeWord {takesInput : Bool} {word : List Char} (range : taken.settings.InRange)
    (done : taken.takeWord takesInput word = .ok later) : later.settings.InRange := by
  rw [Taken.takeWord] at done
  split at done
  · obtain ⟨settled, first, done⟩ := exists_of_bind_eq_ok done
    cases done
    exact range.settle first
  · cases done

theorem takeValue {takesInput : Bool} {word : List Char} (range : taken.settings.InRange)
    (done : taken.takeValue takesInput word = .ok later) : later.settings.InRange := by
  rw [Taken.takeValue] at done
  split at done
  · cases done
    exact range
  · exact range.takeWord done

end Settings.InRange

/-- Settings that are read from arguments are in range if those before them are. -/
theorem readSettings_inRange {options : List Parameter} {takesInput ended : Bool}
    {taken : Taken} {arguments : List (List Char)} {settings : Settings}
    (range : taken.settings.InRange)
    (read : readSettings options takesInput ended taken arguments = .ok (some settings)) :
    settings.InRange := by
  induction arguments generalizing taken ended with
  | nil =>
      obtain ⟨settled, done, same⟩ := exists_of_map_eq_ok read
      cases same
      exact range.settle done
  | cons argument rest induction =>
      have noHelp {first : Except Complaint Settings}
          (asked : (first.map fun _ => (none : Option Settings)) = .ok (some settings)) :
          False := by
        obtain ⟨settled, -, same⟩ := exists_of_map_eq_ok asked
        cases same
      rw [readSettings] at read
      split at read
      · obtain ⟨later, done, read⟩ := exists_of_bind_eq_ok read
        exact induction (range.takeWord done) read
      split at read
      · exact induction range read
      · split at read
        · obtain ⟨later, done, read⟩ := exists_of_bind_eq_ok read
          exact induction (range.begin done) read
        · split at read
          · split at read
            · cases read
            · exact (noHelp read).elim
          · cases read
      · split at read
        · obtain ⟨later, done, read⟩ := exists_of_bind_eq_ok read
          exact induction (range.takeValue done) read
        · split at read
          · exact (noHelp read).elim
          · cases read
      · obtain ⟨later, done, read⟩ := exists_of_bind_eq_ok read
        exact induction (range.takeValue done) read

end PagedRows.CommandLine
