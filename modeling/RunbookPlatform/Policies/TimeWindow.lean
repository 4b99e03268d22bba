import Mathlib.Tactic
import Mathlib.Data.Nat.Count
import Mathlib.Data.String.Basic
import RunbookPlatform.System

/-!
# Time windows

The validation of a time window reads its two times as clock times; the evaluation compares
their texts with the text of the local time. The two agree on a time that is written with two
digits for the hour and two for the minute, and on few others.

## Main definitions

- `clockText` — a minute of the day, as `strftime("%H:%M")` writes it
- `textMinute` — where a text stands among the texts of the minutes
- `readClock` — a time of a window, as a minute of the day

## Main results

- `window_as_clock_iff` — a valid window is evaluated as the one between its clock times
  exactly when its texts stand at their own minutes, or neither way any minute is left
- `clockTexts_of_twoDigits` — times of two digits and two digits do
-/

namespace RunbookPlatform

-- ════════════════════════════════════════════════════════════════════════
-- Texts of minutes
-- ════════════════════════════════════════════════════════════════════════

/-- The digit of a number below ten. -/
def digitChar (d : ℕ) : Char := Char.ofNat (48 + d)

/-- A minute of the day, as `strftime("%H:%M")` writes it. -/
def clockText (minute : ℕ) : String :=
  String.ofList [digitChar (minute / 600), digitChar (minute / 60 % 10), ':',
    digitChar (minute % 60 / 10), digitChar (minute % 10)]

/-- The minutes of a day. -/
def dayMinutes : ℕ := 1440

theorem digitChar_lt {i j : ℕ} (hi : i < 10) (hj : j < 10) :
    digitChar i < digitChar j ↔ i < j := by
  have h : ∀ i j : Fin 10, digitChar i < digitChar j ↔ i < j := by decide
  exact h ⟨i, hi⟩ ⟨j, hj⟩

theorem digitChar_inj {i j : ℕ} (hi : i < 10) (hj : j < 10) :
    digitChar i = digitChar j ↔ i = j := by
  have h : ∀ i j : Fin 10, digitChar i = digitChar j ↔ (i : ℕ) = j := by decide
  exact h ⟨i, hi⟩ ⟨j, hj⟩

/-- A later minute has a later text. -/
theorem clockText_lt {m n : ℕ} (hmn : m < n) (hn : n < dayMinutes) :
    clockText m < clockText n := by
  unfold dayMinutes at hn
  rw [String.lt_iff, clockText, clockText, String.toList_ofList, String.toList_ofList]
  simp only [List.cons_lt_cons_iff, true_and, List.not_lt_nil, and_false, or_false]
  rw [digitChar_lt (by omega) (by omega), digitChar_lt (by omega) (by omega),
    digitChar_lt (by omega) (by omega), digitChar_lt (by omega) (by omega),
    digitChar_inj (by omega) (by omega), digitChar_inj (by omega) (by omega),
    digitChar_inj (by omega) (by omega)]
  have hcolon : ¬(':' : Char) < ':' := by decide
  simp only [hcolon, false_or]
  omega

/-- Where a text stands among the texts of the minutes: how many of them come before it. -/
def textMinute (text : String) : ℕ := Nat.count (fun minute => clockText minute < text) dayMinutes

theorem textMinute_le (text : String) : textMinute text ≤ dayMinutes := Nat.count_le _

/-- A predicate that holds up to some number holds below its count. -/
theorem lt_count_iff {p : ℕ → Prop} [DecidablePred p] {N m : ℕ} (hm : m < N)
    (hdown : ∀ i j, i < j → j < N → p j → p i) : m < Nat.count p N ↔ p m := by
  constructor
  · intro hlt
    by_contra hnot
    obtain ⟨rest, rfl⟩ := Nat.exists_eq_add_of_le hm.le
    have hnone : Nat.count (fun k => p (m + k)) rest = 0 := by
      rw [Nat.count_iff_forall_not]
      intro k hk hp
      rcases Nat.eq_zero_or_pos k with rfl | hpos
      · exact hnot hp
      · exact hnot (hdown m (m + k) (by omega) (by omega) hp)
    rw [Nat.count_add, hnone] at hlt
    exact absurd (Nat.count_le (n := m) p) (by omega)
  · intro hp
    have hall : Nat.count p (m + 1) = m + 1 := by
      rw [Nat.count_iff_forall]
      intro i hi
      rcases Nat.lt_succ_iff_lt_or_eq.1 hi with hlt | rfl
      · exact hdown i m hlt hm hp
      · exact hp
    have hmono : Nat.count p (m + 1) ≤ Nat.count p N := Nat.count_monotone p hm
    omega

theorem clockText_lt_iff {text : String} {m : ℕ} (hm : m < dayMinutes) :
    clockText m < text ↔ m < textMinute text :=
  (lt_count_iff hm fun _ _ hij hj h => (clockText_lt hij hj).trans h).symm

theorem le_clockText_iff {text : String} {m : ℕ} (hm : m < dayMinutes) :
    text ≤ clockText m ↔ textMinute text ≤ m := by
  rw [← not_lt, clockText_lt_iff hm, not_lt]

/-- The text of a minute stands at that minute. -/
theorem textMinute_clockText {m : ℕ} (hm : m < dayMinutes) : textMinute (clockText m) = m := by
  apply le_antisymm
  · exact (le_clockText_iff hm).1 le_rfl
  · by_contra hlt
    rw [not_le] at hlt
    have hself := (le_clockText_iff (hlt.trans hm)).2 le_rfl
    exact absurd (clockText_lt hlt hm) (not_lt.2 hself)

/-- Two intervals hold the same minutes of the day exactly when they have the same bounds, or
both are empty. -/
theorem same_interval_iff {a b s e N : ℕ} (hs : s < N) (he : e < N) (hb : b ≤ N) :
    (∀ m < N, (a ≤ m ∧ m < b ↔ s ≤ m ∧ m < e)) ↔ a = s ∧ b = e ∨ b ≤ a ∧ e ≤ s := by
  constructor
  · intro h
    rcases Nat.lt_or_ge a b with hlt | hge
    · have hfirst := (h a (by omega)).1 ⟨le_rfl, hlt⟩
      have hlast := (h (b - 1) (by omega)).1 ⟨by omega, by omega⟩
      have hstart := (h s hs).2 ⟨le_rfl, by omega⟩
      have hend : ¬b < e := fun hlate =>
        absurd ((h b (by omega)).2 ⟨by omega, hlate⟩).2 (lt_irrefl b)
      omega
    · refine Or.inr ⟨hge, ?_⟩
      by_contra hopen
      have hstart := (h s hs).2 ⟨le_rfl, by omega⟩
      omega
  · intro h m hm
    omega

-- ════════════════════════════════════════════════════════════════════════
-- Reading a time
-- ════════════════════════════════════════════════════════════════════════

/-- A time of a window, as a minute of the day: the reading of the validation. -/
def readClock (text : String) : Option ℕ :=
  match splitOnChar ':' text with
  | [hours, minutes] =>
    match parseInt hours, parseInt minutes with
    | some h, some m =>
      if 0 ≤ h ∧ h ≤ 23 ∧ 0 ≤ m ∧ m ≤ 59 then some (60 * h + m).toNat else none
    | _, _ => none
  | _ => none

theorem readClock_lt {text : String} {m : ℕ} (h : readClock text = some m) : m < dayMinutes := by
  unfold readClock at h
  split at h
  · split at h
    · split_ifs at h with hrange
      cases h
      unfold dayMinutes
      omega
    · cases h
  · cases h

theorem pyInt_text (text : String) :
    pyInt (.str text) = (parseInt text).elim (.error (.uncaught "ValueError")) .ok := by
  cases h : parseInt text <;> simp [pyInt, h]

/-- The validation of a time accepts the texts that are read as a clock time. -/
theorem validateTimeField_str (name text : String) :
    (validateTimeField name (.str text)).toOption = (readClock text).map fun _ => text := by
  simp only [validateTimeField, readClock, pyInt_text]
  rcases splitOnChar ':' text with _ | ⟨hours, _ | ⟨minutes, _ | _⟩⟩
  · rfl
  · rfl
  · dsimp only
    generalize parseInt hours = hour
    generalize parseInt minutes = minute
    cases hour with
    | none => rfl
    | some h =>
      cases minute with
      | none => rfl
      | some m =>
        simp only [Option.elim_some]
        split_ifs <;> rfl
  · rfl

theorem validateTimeField_ok {name text : String} {value : Json}
    (h : validateTimeField name value = .ok text) :
    value = .str text ∧ ∃ m, readClock text = some m := by
  cases value with
  | str given =>
    have hread := validateTimeField_str name given
    rw [h] at hread
    obtain ⟨m, hm, rfl⟩ := Option.map_eq_some_iff.1 hread.symm
    exact ⟨rfl, m, hm⟩
  | _ => cases h

-- ════════════════════════════════════════════════════════════════════════
-- Valid windows
-- ════════════════════════════════════════════════════════════════════════

/-- A field of a window, as the evaluation takes it. -/
def windowText (params : Json) (key : String) : String := ((params.getD key .null).str?).getD ""

/-- The weekdays of a window. -/
def windowDays (params : Json) : List Json := ((params.getD "days_of_week" .null).items?).getD []

/-- What the validation of a window makes sure of: its times are read as the minutes `s` and
`e`, and it lists a weekday. -/
structure ValidWindow (params : Json) (s e : ℕ) : Prop where
  startRead : readClock (windowText params "start_time") = some s
  endRead : readClock (windowText params "end_time") = some e
  someDay : ∃ day ∈ validDays, Json.str day ∈ windowDays params

theorem windowText_of_str {params : Json} {key text : String}
    (h : params.getD key .null = .str text) : windowText params key = text := by
  rw [windowText, h]
  rfl

theorem validWindow_of_valid {env : Env} {params : Json} {u : Unit}
    (h : validateTimeWindowCondition env params = .ok u) : ∃ s e, ValidWindow params s e := by
  simp only [validateTimeWindowCondition, except_bind_ok, check_ok] at h
  obtain ⟨-, -, -, -, -, -, -, hdays, -, -, -, hlisted, startTime, hstart, endTime, hend, -⟩ := h
  obtain ⟨hstart, s, hs⟩ := validateTimeField_ok hstart
  obtain ⟨hend, e, he⟩ := validateTimeField_ok hend
  refine ⟨s, e, ?_, ?_, ?_⟩
  · rwa [windowText_of_str hstart]
  · rwa [windowText_of_str hend]
  · obtain ⟨listed, hmem⟩ := List.exists_mem_of_ne_nil _ hdays
    have hvalid := List.filter_eq_nil_iff.1 hlisted listed hmem
    simp only [Bool.not_eq_true, Bool.not_eq_false', List.contains_iff_mem, List.mem_map] at hvalid
    obtain ⟨day, hday, rfl⟩ := hvalid
    exact ⟨day, hday, hmem⟩

/-- The weekday is listed, and the minute lies between the clock times of the window. -/
def inClockWindow (params : Json) (day : String) (minute : ℕ) : Bool :=
  (windowDays params).contains (.str day) &&
    (readClock (windowText params "start_time")).any (· ≤ minute) &&
    (readClock (windowText params "end_time")).any (minute < ·)

/-- The window is evaluated, at every local weekday and minute, as the one between its clock
times. -/
def EvaluatedAsClock (params : Json) : Prop :=
  ∀ (env : Env) (evaluatedAt : Time) (day : String) (minute : ℕ),
    day ∈ validDays → minute < dayMinutes →
    env.localTime (windowText params "timezone") evaluatedAt = .ok (day, clockText minute) →
    evaluateTimeWindowCondition env params evaluatedAt =
      .ok (if params.getD "match_when" (.str "inside") = .str "inside" then
        inClockWindow params day minute else !inClockWindow params day minute)

/-- The two texts stand at their own minutes among the texts of the minutes; or neither they
nor the clock times leave any minute between them. -/
def ClockTexts (params : Json) : Prop :=
  ∃ s e, readClock (windowText params "start_time") = some s ∧
    readClock (windowText params "end_time") = some e ∧
    (textMinute (windowText params "start_time") = s ∧
        textMinute (windowText params "end_time") = e ∨
      textMinute (windowText params "end_time") ≤ textMinute (windowText params "start_time") ∧
        e ≤ s)

/-- The evaluation, where the local time is known. -/
theorem evaluateTimeWindowCondition_of_local {env : Env} {params : Json} {evaluatedAt : Time}
    {day clock : String}
    (h : env.localTime (windowText params "timezone") evaluatedAt = .ok (day, clock)) :
    evaluateTimeWindowCondition env params evaluatedAt =
      let inWindow := (windowDays params).contains (.str day) &&
        windowText params "start_time" ≤ clock && clock < windowText params "end_time"
      .ok (if params.getD "match_when" (.str "inside") = .str "inside" then inWindow
        else !inWindow) := by
  simp only [windowText] at h
  simp only [evaluateTimeWindowCondition, h, windowText, windowDays]
  rfl

/-- The environment where it is the minute of the weekday everywhere. -/
def Env.at (env : Env) (day : String) (minute : ℕ) : Env :=
  { env with localTime := fun _ _ => .ok (day, clockText minute) }

/-- The two windows at a listed weekday, in minutes. -/
theorem inWindow_iff {params : Json} {s e minute : ℕ} {day : String}
    (hvalid : ValidWindow params s e) (hday : Json.str day ∈ windowDays params)
    (hminute : minute < dayMinutes) :
    ((windowDays params).contains (.str day) &&
        windowText params "start_time" ≤ clockText minute &&
        clockText minute < windowText params "end_time") = inClockWindow params day minute ↔
      (textMinute (windowText params "start_time") ≤ minute ∧
          minute < textMinute (windowText params "end_time") ↔ s ≤ minute ∧ minute < e) := by
  rw [inClockWindow, hvalid.startRead, hvalid.endRead, List.contains_iff_mem.2 hday,
    Bool.eq_iff_iff]
  simp [le_clockText_iff hminute, clockText_lt_iff hminute]

/-- A valid window is evaluated as the one between its clock times exactly when its texts stand
at their own minutes, or neither way any minute is left. -/
theorem window_as_clock_iff {env : Env} {params : Json} {u : Unit}
    (h : validateTimeWindowCondition env params = .ok u) :
    EvaluatedAsClock params ↔ ClockTexts params := by
  obtain ⟨s, e, hvalid⟩ := validWindow_of_valid h
  have hintervals := same_interval_iff
    (a := textMinute (windowText params "start_time")) (readClock_lt hvalid.startRead)
    (readClock_lt hvalid.endRead) (textMinute_le (windowText params "end_time"))
  constructor
  · intro hclock
    refine ⟨s, e, hvalid.startRead, hvalid.endRead, hintervals.1 fun minute hminute => ?_⟩
    obtain ⟨day, hday, hlisted⟩ := hvalid.someDay
    rw [← inWindow_iff hvalid hlisted hminute]
    -- any local time is one of some time zone
    have heval := hclock (env.at day minute) 0 day minute hday hminute rfl
    rw [evaluateTimeWindowCondition_of_local rfl, Except.ok.injEq] at heval
    split_ifs at heval
    · exact heval
    · exact Bool.not_inj heval
  · rintro ⟨s', e', hs', he', hminutes⟩ env evaluatedAt day minute - hminute hlocal
    cases hvalid.startRead.symm.trans hs'
    cases hvalid.endRead.symm.trans he'
    rw [evaluateTimeWindowCondition_of_local hlocal, Except.ok.injEq]
    by_cases hlisted : Json.str day ∈ windowDays params
    · rw [(inWindow_iff hvalid hlisted hminute).2 (hintervals.2 hminutes minute hminute)]
    · simp [inClockWindow, hlisted]

/-- The window of an office, with times of two digits and two digits. -/
def officeHours : Json :=
  .obj [("timezone", .str "Europe/Paris"), ("days_of_week", .arr [.str "mon", .str "fri"]),
    ("start_time", .str "09:00"), ("end_time", .str "17:30"), ("match_when", .str "inside")]

theorem window_as_clock_officeHours : EvaluatedAsClock officeHours ↔ ClockTexts officeHours :=
  @window_as_clock_iff Env.sample officeHours () (by decide)

/-- A window that ends at half past nine, with one digit for the hour. -/
def shortHours : Json :=
  .obj [("timezone", .str "Europe/Paris"), ("days_of_week", .arr [.str "mon"]),
    ("start_time", .str "09:00"), ("end_time", .str "9:30"), ("match_when", .str "inside")]

/-- The window is valid, and at ten o'clock on a Monday it is still open. -/
theorem short_hours_stay_open :
    validateTimeWindowCondition Env.sample shortHours = .ok () ∧
      ¬EvaluatedAsClock shortHours ∧
      evaluateTimeWindowCondition (Env.sample.at "mon" 600) shortHours 0 = .ok true ∧
      inClockWindow shortHours "mon" 600 = false := by
  have hopen : evaluateTimeWindowCondition (Env.sample.at "mon" 600) shortHours 0 = .ok true := by
    decide
  have hclosed : inClockWindow shortHours "mon" 600 = false := by decide
  refine ⟨by decide, fun hclock => ?_, hopen, hclosed⟩
  have heval := hclock (Env.sample.at "mon" 600) 0 "mon" 600 (by decide) (by decide) rfl
  rw [hopen, if_pos (by decide), hclosed] at heval
  cases heval

/-- Two digits are read as their number. -/
theorem parseInt_twoDigits {i j : ℕ} (hi : i < 10) (hj : j < 10) :
    parseInt (String.ofList [digitChar i, digitChar j]) = some ((10 * i + j : ℕ) : ℤ) := by
  have h : ∀ i j : Fin 10, parseInt (String.ofList [digitChar i, digitChar j]) =
      some ((10 * i + j : ℕ) : ℤ) := by
    decide
  exact h ⟨i, hi⟩ ⟨j, hj⟩

theorem digitChar_ne_colon {i : ℕ} (hi : i < 10) : digitChar i ≠ ':' := by
  have h : ∀ i : Fin 10, digitChar i ≠ ':' := by decide
  exact h ⟨i, hi⟩

/-- The text of a minute is read as that minute. -/
theorem readClock_clockText {m : ℕ} (hm : m < dayMinutes) : readClock (clockText m) = some m := by
  unfold dayMinutes at hm
  have hsplit : splitOnChar ':' (clockText m) =
      [String.ofList [digitChar (m / 600), digitChar (m / 60 % 10)],
        String.ofList [digitChar (m % 60 / 10), digitChar (m % 10)]] := by
    simp [splitOnChar, clockText, List.splitOn, List.splitOnP_cons_eq_if_modifyHead,
      digitChar_ne_colon (show m / 600 < 10 by omega),
      digitChar_ne_colon (show m / 60 % 10 < 10 by omega),
      digitChar_ne_colon (show m % 60 / 10 < 10 by omega),
      digitChar_ne_colon (show m % 10 < 10 by omega)]
  rw [readClock, hsplit]
  simp only [parseInt_twoDigits (show m / 600 < 10 by omega) (show m / 60 % 10 < 10 by omega),
    parseInt_twoDigits (show m % 60 / 10 < 10 by omega) (show m % 10 < 10 by omega)]
  rw [if_pos (by omega), Option.some.injEq]
  omega

/-- Times of two digits and two digits stand at their own minutes. -/
theorem clockTexts_of_twoDigits {params : Json} {s e : ℕ} (hs : s < dayMinutes)
    (he : e < dayMinutes) (hstart : windowText params "start_time" = clockText s)
    (hend : windowText params "end_time" = clockText e) : ClockTexts params := by
  refine ⟨s, e, ?_, ?_, .inl ⟨?_, ?_⟩⟩
  · rw [hstart, readClock_clockText hs]
  · rw [hend, readClock_clockText he]
  · rw [hstart, textMinute_clockText hs]
  · rw [hend, textMinute_clockText he]

end RunbookPlatform
