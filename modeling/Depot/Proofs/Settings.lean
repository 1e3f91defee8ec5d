import Depot.Proofs.CommandLine
import Depot.Proofs.Schedule

/-!
# Settings of downloads

The ranges of the retries and of the first interval are written down where a command line is read,
where a settings file is checked, with the defaults, and where a schedule is made. They agree, so
that the schedule of a download is made of just the numbers that were chosen for it: those of the
command line, or else those of the file, or else the defaults. No schedule is refused, and none has
its numbers replaced.

The numbers of a file are checked once, after its last line. Lines that are replaced by later ones
do not count.

## Main definitions

* `Settings.InRange` : settings that pass the check.
* `Chosen` : the number that applies, of up to three.
* `FetchSettings.Usable`, `FetchSettings.Chosen` : settings of a download that make a schedule of
  their own numbers, and those that hold the numbers that apply.

## Main results

* `Settings.inRange_of_parse?` : the settings of every file are in range.
* `Settings.chosen_fetchSettings` : the settings of a download hold what applies, and are usable.
-/

namespace Depot

/-! ### Ranges -/

namespace Settings

/-- Every number is in its range, if it is set. -/
structure InRange (s : Settings) : Prop where
  connectTimeoutSecs : ∀ n ∈ s.connectTimeoutSecs, 1 ≤ n ∧ n ≤ 3600
  readTimeoutSecs : ∀ n ∈ s.readTimeoutSecs, 1 ≤ n ∧ n ≤ 3600
  retryInitialIntervalMs : ∀ n ∈ s.retryInitialIntervalMs, 1 ≤ n ∧ n ≤ 10000
  maxRetries : ∀ n ∈ s.maxRetries, 1 ≤ n ∧ n ≤ 100

variable {s : Settings}

theorem checkRange_eq_none_iff {key : String} {least greatest : Nat} {value : Option Nat} :
    checkRange key least greatest value = Option.none ↔ ∀ n ∈ value, least ≤ n ∧ n ≤ greatest := by
  cases value with
  | none => simp [checkRange]
  | some n => simp [checkRange]

/-- The check finds a number exactly if one is out of its range. -/
theorem outOfRange?_eq_none_iff : s.outOfRange? = Option.none ↔ s.InRange := by
  simp only [outOfRange?, Option.or_eq_none_iff, checkRange_eq_none_iff]
  exact ⟨fun ⟨hconnect, hread, hinterval, hretries⟩ => ⟨hconnect, hread, hinterval, hretries⟩,
    fun ⟨hconnect, hread, hinterval, hretries⟩ => ⟨hconnect, hread, hinterval, hretries⟩⟩

theorem inRange_none : none.InRange :=
  outOfRange?_eq_none_iff.1 rfl

/-- **The settings of every text are in range,** whichever of its lines they come from. -/
theorem inRange_of_parse? {text : String} (h : parse? text = .ok s) : s.InRange := by
  obtain ⟨s', -, h⟩ := bind_eq_ok_iff.1 h
  split at h
  · cases h
  · next hrange =>
    cases h
    exact outOfRange?_eq_none_iff.1 hrange

end Settings

/-! ### Choices -/

/-- The number that applies: that of the command line, or else that of the file, or else the
default. -/
inductive Chosen (line file : Option Nat) (default : Nat) : Nat → Prop
  | line {n : Nat} (h : line = some n) : Chosen line file default n
  | file {n : Nat} (hline : line = none) (h : file = some n) : Chosen line file default n
  | default (hline : line = none) (hfile : file = none) : Chosen line file default default

theorem chosen_getD (line file : Option Nat) (default : Nat) :
    Chosen line file default ((line.or file).getD default) := by
  cases line with
  | some n => exact .line rfl
  | none =>
    cases file with
    | some n => exact .file rfl rfl
    | none => exact .default rfl rfl

/-- A number that applies is in the range that all three have. -/
theorem Chosen.bounds {line file : Option Nat} {default least greatest n : Nat}
    (h : Chosen line file default n) (hline : ∀ n ∈ line, least ≤ n ∧ n ≤ greatest)
    (hfile : ∀ n ∈ file, least ≤ n ∧ n ≤ greatest)
    (hdefault : least ≤ default ∧ default ≤ greatest) : least ≤ n ∧ n ≤ greatest := by
  cases h with
  | line h => exact hline n h
  | file _ h => exact hfile n h
  | default => exact hdefault

/-! ### Schedules -/

/-- The retries and the first interval are in the ranges of schedules, and there is a schedule that
has just these. -/
structure FetchSettings.Usable (settings : FetchSettings) : Prop where
  maxRetries : 1 ≤ settings.maxRetries ∧ settings.maxRetries ≤ 100
  initialInterval : milliseconds 1 ≤ settings.initialInterval ∧
    settings.initialInterval ≤ seconds 10
  schedule : ∃ s, Schedule.make? settings.initialInterval settings.maxRetries = .ok s ∧
    s.initial = settings.initialInterval ∧ s.maxRetries = settings.maxRetries

theorem FetchSettings.usable_of_bounds {settings : FetchSettings}
    (hretries : 1 ≤ settings.maxRetries ∧ settings.maxRetries ≤ 100)
    (hinterval : milliseconds 1 ≤ settings.initialInterval ∧
      settings.initialInterval ≤ seconds 10) : settings.Usable := by
  obtain ⟨s, hs⟩ := Schedule.exists_make? hinterval.2 settings.maxRetries
  obtain ⟨hinitial, hcount⟩ := Schedule.make?_eq_ok hs
  have hne : settings.initialInterval ≠ 0 := by
    have := hinterval.1
    simp only [milliseconds] at this
    omega
  refine ⟨hretries, hinterval, s, hs, by rw [hinitial, if_neg hne], ?_⟩
  rw [hcount, Nat.min_eq_left hretries.2, Nat.max_eq_right hretries.1]

/-- The settings of a download hold the numbers that apply, and make a schedule of just these. -/
structure FetchSettings.Chosen (settings : FetchSettings) (transfer : TransferOptions)
    (file : Settings) : Prop where
  maxRetries : Depot.Chosen transfer.maxRetries file.maxRetries 5 settings.maxRetries
  initialInterval : ∃ ms,
    Depot.Chosen transfer.retryIntervalMs file.retryInitialIntervalMs 200 ms ∧
      settings.initialInterval = milliseconds ms
  usable : settings.Usable

/-- **The settings of a download hold what applies, and are usable,** if those of the file and those
of the command line are in range. -/
theorem Settings.chosen_fetchSettings {file : Settings} {transfer : TransferOptions}
    (hfile : file.InRange) (htransfer : transfer.InRange) (tempDir : Path) :
    (file.fetchSettings transfer tempDir).Chosen transfer file := by
  have hretries := chosen_getD transfer.maxRetries file.maxRetries defaultMaxRetries
  have hms := chosen_getD transfer.retryIntervalMs file.retryInitialIntervalMs defaultIntervalMs
  have hbounds := hms.bounds htransfer.retryIntervalMs hfile.retryInitialIntervalMs (by decide)
  refine ⟨hretries, ⟨_, hms, rfl⟩, FetchSettings.usable_of_bounds ?_ ⟨?_, ?_⟩⟩
  · exact hretries.bounds htransfer.maxRetries hfile.maxRetries (by decide)
  · exact Nat.mul_le_mul_right _ hbounds.1
  · exact (Nat.mul_le_mul_right _ hbounds.2).trans (by decide)

end Depot
