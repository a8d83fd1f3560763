/-
# Points in time in the order of their ISO texts

Two readings of one clock are compared field by field, from the year down. The
day number, the microseconds and the text `isoformat()` gives are all in this
order; the fraction point, which is left out at a full second, is larger than
the sign of an offset.
-/

import ByodsServer.Python.TextOrder

namespace Python

namespace DateTime

/-- The fields, from the year down to the microsecond. -/
def fields (dt : DateTime) : List ℕ :=
  [dt.year, dt.month, dt.day, dt.hour, dt.minute, dt.second, dt.microsecond]

/-- The number of days of a month, in a leap year or not. -/
def daysInMonth (leap : Bool) : ℕ → ℕ
  | 2 => if leap then 29 else 28
  | 4 | 6 | 9 | 11 => 30
  | _ => 31

theorem daysInMonth_le (leap : Bool) (month : ℕ) : daysInMonth leap month ≤ 31 := by
  unfold daysInMonth
  split
  · split_ifs <;> decide
  all_goals decide

/-- The fields `datetime(...)` accepts. -/
structure Valid (dt : DateTime) : Prop where
  year : 1 ≤ dt.year ∧ dt.year ≤ 9999
  month : 1 ≤ dt.month ∧ dt.month ≤ 12
  day : 1 ≤ dt.day ∧ dt.day ≤ daysInMonth (isLeap dt.year) dt.month
  hour : dt.hour < 24
  minute : dt.minute < 60
  second : dt.second < 60
  microsecond : dt.microsecond < 1000000

instance (dt : DateTime) : Decidable dt.Valid :=
  decidable_of_iff
    ((1 ≤ dt.year ∧ dt.year ≤ 9999) ∧ (1 ≤ dt.month ∧ dt.month ≤ 12) ∧
      (1 ≤ dt.day ∧ dt.day ≤ daysInMonth (isLeap dt.year) dt.month) ∧ dt.hour < 24 ∧
        dt.minute < 60 ∧ dt.second < 60 ∧ dt.microsecond < 1000000)
    ⟨fun ⟨year, month, day, hour, minute, second, microsecond⟩ =>
        ⟨year, month, day, hour, minute, second, microsecond⟩,
      fun h => ⟨h.year, h.month, h.day, h.hour, h.minute, h.second, h.microsecond⟩⟩

/-- The microseconds of the wall clock reading, taken as UTC. -/
def wallClock (dt : DateTime) : Int := epochMicroseconds { dt with utcOffset := none }

theorem wallClock_eq (dt : DateTime) :
    dt.wallClock = ((dt.toordinal - 719163) * 86400 + dt.hour * 3600 + dt.minute * 60 +
      dt.second) * 1000000 + dt.microsecond := by
  simp [wallClock, epochMicroseconds, toordinal]

/-! ## The calendar -/

/-- The days before the first of January. -/
def daysBeforeYear (year : ℕ) : ℕ :=
  365 * (year - 1) + (year - 1) / 4 - (year - 1) / 100 + (year - 1) / 400

/-- The days of a year before a month. -/
def daysBefore (leap : Bool) (month : ℕ) : ℕ :=
  daysBeforeMonth month + if month > 2 ∧ leap then 1 else 0

theorem toordinal_eq (dt : DateTime) :
    dt.toordinal =
      (daysBeforeYear dt.year + daysBefore (isLeap dt.year) dt.month + dt.day : ℕ) := by
  simp only [toordinal, daysBeforeYear, daysBefore]
  split_ifs <;> omega

/-- A year has 365 days and one more in a leap year. -/
theorem daysBeforeYear_succ {year : ℕ} (hpos : 1 ≤ year) :
    daysBeforeYear (year + 1) =
      daysBeforeYear year + 365 + (if isLeap year then 1 else 0) := by
  obtain ⟨past, rfl⟩ := Nat.exists_eq_add_of_le' hpos
  have hle : past / 100 ≤ past := Nat.div_le_self past 100
  have hcentury : (past + 1) % 100 = 0 → (past + 1) % 4 = 0 := by omega
  have hfourth : (past + 1) % 400 = 0 → (past + 1) % 100 = 0 := by omega
  simp only [daysBeforeYear, isLeap, Bool.and_eq_true, Bool.or_eq_true, decide_eq_true_eq,
    Nat.add_sub_cancel, Nat.succ_div, Nat.dvd_iff_mod_eq_zero]
  -- From here on only the three divisibilities matter, and each implies the one before.
  generalize past / 4 = quarters
  generalize past / 100 = centuries at hle ⊢
  generalize past / 400 = fourths
  by_cases hfour : (past + 1) % 4 = 0
  · by_cases hhundred : (past + 1) % 100 = 0
    · by_cases hfourHundred : (past + 1) % 400 = 0
      · simp only [hfour, hhundred, hfourHundred, if_true, or_true, and_self]
        omega
      · simp only [hfour, hhundred, hfourHundred, if_true, if_false, ne_eq, not_true_eq_false,
          or_false, and_false]
        omega
    · simp only [hfour, hhundred, mt hfourth hhundred, if_true, if_false, ne_eq,
        not_false_eq_true, true_or, and_self]
      omega
  · simp only [hfour, mt hcentury hfour, mt hfourth (mt hcentury hfour), if_false, false_and]
    omega

theorem daysBeforeYear_mono {year later : ℕ} (hpos : 1 ≤ year) (h : year ≤ later) :
    daysBeforeYear year ≤ daysBeforeYear later := by
  induction h with
  | refl => exact Nat.le_refl _
  | step hle ih =>
      rw [Nat.succ_eq_add_one, daysBeforeYear_succ (Nat.le_trans hpos hle)]
      omega

/-- The months follow each other. -/
theorem daysBefore_succ (leap : Bool) {month : ℕ} (hpos : 1 ≤ month) (h : month < 12) :
    daysBefore leap (month + 1) = daysBefore leap month + daysInMonth leap month := by
  have hall : ∀ month < 12, 1 ≤ month →
      daysBefore leap (month + 1) = daysBefore leap month + daysInMonth leap month := by
    cases leap <;> decide
  exact hall month h hpos

theorem daysBefore_mono (leap : Bool) {month later : ℕ} (hpos : 1 ≤ month) (h : month ≤ later)
    (hlater : later ≤ 12) : daysBefore leap month ≤ daysBefore leap later := by
  induction h with
  | refl => exact Nat.le_refl _
  | step hle ih =>
      rw [daysBefore_succ leap (Nat.le_trans hpos hle) hlater]
      exact Nat.le_trans (ih (Nat.le_of_succ_le hlater)) (Nat.le_add_right _ _)

/-- December is the last month. -/
theorem daysBefore_twelve (leap : Bool) :
    daysBefore leap 12 + daysInMonth leap 12 = 365 + (if leap then 1 else 0) := by
  cases leap <;> rfl

/-- A month ends before a later month of the year begins. -/
theorem daysBefore_add_le (leap : Bool) {month later : ℕ} (hpos : 1 ≤ month) (h : month < later)
    (hlater : later ≤ 12) :
    daysBefore leap month + daysInMonth leap month ≤ daysBefore leap later := by
  rw [← daysBefore_succ leap hpos (Nat.lt_of_lt_of_le h hlater)]
  exact daysBefore_mono leap (Nat.le_add_left 1 month) h hlater

/-- A month ends before its year does. -/
theorem daysBefore_add_le_year (leap : Bool) {month : ℕ} (hpos : 1 ≤ month) (h : month ≤ 12) :
    daysBefore leap month + daysInMonth leap month ≤ 365 + (if leap then 1 else 0) := by
  rw [← daysBefore_twelve leap]
  rcases Nat.lt_or_eq_of_le h with hlt | rfl
  · exact Nat.le_trans (daysBefore_add_le leap hpos hlt (Nat.le_refl _)) (Nat.le_add_right _ _)
  · exact Nat.le_refl _

theorem toordinal_lt_of_year_lt {a b : DateTime} (ha : a.Valid) (hb : b.Valid)
    (h : a.year < b.year) : a.toordinal < b.toordinal := by
  have hyears := daysBeforeYear_mono (Nat.le_add_left 1 a.year) (Nat.succ_le_of_lt h)
  rw [daysBeforeYear_succ ha.year.1] at hyears
  have hmonth := daysBefore_add_le_year (isLeap a.year) ha.month.1 ha.month.2
  have hday := ha.day.2
  have hfirst := hb.day.1
  rw [toordinal_eq, toordinal_eq]
  omega

theorem toordinal_lt_of_month_lt {a b : DateTime} (ha : a.Valid) (hb : b.Valid)
    (hyear : a.year = b.year) (h : a.month < b.month) : a.toordinal < b.toordinal := by
  have hmonths := daysBefore_add_le (isLeap a.year) ha.month.1 h hb.month.2
  have hday := ha.day.2
  have hfirst := hb.day.1
  rw [toordinal_eq, toordinal_eq, ← hyear]
  omega

theorem toordinal_lt_of_day_lt {a b : DateTime} (hyear : a.year = b.year)
    (hmonth : a.month = b.month) (h : a.day < b.day) : a.toordinal < b.toordinal := by
  rw [toordinal_eq, toordinal_eq, hyear, hmonth]
  omega

theorem toordinal_congr {a b : DateTime} (hyear : a.year = b.year) (hmonth : a.month = b.month)
    (hday : a.day = b.day) : a.toordinal = b.toordinal := by
  rw [toordinal_eq, toordinal_eq, hyear, hmonth, hday]

/-! ## The order of the fields -/

/-- One reading is before another when it is at the first field that differs. -/
def Before (a b : DateTime) : Prop := FirstDifference (· < ·) a.fields b.fields

/-- The seven fields where two readings may differ first. -/
theorem before_iff (a b : DateTime) :
    a.Before b ↔
      a.year < b.year ∨ a.year = b.year ∧
        (a.month < b.month ∨ a.month = b.month ∧
          (a.day < b.day ∨ a.day = b.day ∧
            (a.hour < b.hour ∨ a.hour = b.hour ∧
              (a.minute < b.minute ∨ a.minute = b.minute ∧
                (a.second < b.second ∨ a.second = b.second ∧
                  a.microsecond < b.microsecond))))) := by
  simp only [Before, fields, FirstDifference.cons_iff, FirstDifference.not_nil, or_false,
    and_false]

/-- A day has 86400 seconds. -/
theorem wallClock_lt_of_toordinal_lt {a b : DateTime} (ha : a.Valid)
    (h : a.toordinal < b.toordinal) : a.wallClock < b.wallClock := by
  have hhour := ha.hour
  have hminute := ha.minute
  have hsecond := ha.second
  have hmicrosecond := ha.microsecond
  rw [wallClock_eq, wallClock_eq]
  omega

theorem Before.wallClock_lt {a b : DateTime} (ha : a.Valid) (hb : b.Valid) (h : a.Before b) :
    a.wallClock < b.wallClock := by
  rcases (before_iff a b).mp h with hyear | ⟨hyear, hmonth | ⟨hmonth, hday | ⟨hday, htime⟩⟩⟩
  · exact wallClock_lt_of_toordinal_lt ha (toordinal_lt_of_year_lt ha hb hyear)
  · exact wallClock_lt_of_toordinal_lt ha (toordinal_lt_of_month_lt ha hb hyear hmonth)
  · exact wallClock_lt_of_toordinal_lt ha (toordinal_lt_of_day_lt hyear hmonth hday)
  · have hordinal := toordinal_congr hyear hmonth hday
    have hminute := ha.minute
    have hsecond := ha.second
    have hmicrosecond := ha.microsecond
    rw [wallClock_eq, wallClock_eq, hordinal]
    omega

theorem before_trichotomy (a b : DateTime) : a.Before b ∨ a.fields = b.fields ∨ b.Before a :=
  FirstDifference.trichotomy rfl

theorem wallClock_congr {a b : DateTime} (h : a.fields = b.fields) :
    a.wallClock = b.wallClock := by
  simp only [fields, List.cons.injEq] at h
  obtain ⟨hyear, hmonth, hday, hhour, hminute, hsecond, hmicrosecond, -⟩ := h
  rw [wallClock_eq, wallClock_eq, toordinal_congr hyear hmonth hday, hhour, hminute, hsecond,
    hmicrosecond]

/-- The readings of a clock are in the order of their microseconds. -/
theorem before_iff_wallClock_lt {a b : DateTime} (ha : a.Valid) (hb : b.Valid) :
    a.Before b ↔ a.wallClock < b.wallClock := by
  constructor
  · exact fun h => h.wallClock_lt ha hb
  · intro h
    rcases before_trichotomy a b with hbefore | hsame | hafter
    · exact hbefore
    · exact absurd (wallClock_congr hsame) (Int.ne_of_lt h)
    · exact absurd (hafter.wallClock_lt hb ha) (Int.lt_asymm h)

/-! ## The order of the texts -/

/-- The text of a reading, without an offset. -/
def readingText (dt : DateTime) : String := isoformat { dt with utcOffset := none }

theorem isoformat_eq (dt : DateTime) :
    dt.isoformat = dt.readingText ++ dt.utcOffset.elim "" offsetText := by
  simp [isoformat, readingText, String.append_assoc]

/-- The fraction part of a text, which is empty at a full second. -/
def fractionText (dt : DateTime) : String :=
  if dt.microsecond = 0 then "" else "." ++ zeroPad 6 dt.microsecond

theorem toList_readingText (dt : DateTime) :
    dt.readingText.toList =
      (zeroPad 4 dt.year).toList ++ '-' :: ((zeroPad 2 dt.month).toList ++
        '-' :: ((zeroPad 2 dt.day).toList ++ 'T' :: ((zeroPad 2 dt.hour).toList ++
          ':' :: ((zeroPad 2 dt.minute).toList ++ ':' :: ((zeroPad 2 dt.second).toList ++
            dt.fractionText.toList))))) := by
  simp [readingText, isoformat, fractionText]

theorem readingText_congr {a b : DateTime} (h : a.fields = b.fields) :
    a.readingText = b.readingText := by
  simp only [fields, List.cons.injEq] at h
  obtain ⟨hyear, hmonth, hday, hhour, hminute, hsecond, hmicrosecond, -⟩ := h
  simp only [readingText, isoformat, hyear, hmonth, hday, hhour, hminute, hsecond, hmicrosecond]

/-- What stands behind a reading: the sign of an offset comes first. -/
def StartsWithSign (text : List Char) : Prop := ∃ rest, text = '+' :: rest ∨ text = '-' :: rest

/-- Both signs come before the fraction point. -/
theorem firstDifference_fractionText {a b : DateTime} (hb : b.Valid)
    (h : a.microsecond < b.microsecond) {behind : List Char} (hsign : StartsWithSign behind)
    (other : List Char) :
    FirstDifference AsciiLt (a.fractionText.toList ++ behind) (b.fractionText.toList ++ other) := by
  have hfraction (dt : DateTime) (hne : dt.microsecond ≠ 0) :
      dt.fractionText.toList = '.' :: (zeroPad 6 dt.microsecond).toList := by
    simp [fractionText, hne]
  have hmicrosecond : b.microsecond < 10 ^ 6 := hb.microsecond
  rw [hfraction b (Nat.ne_zero_of_lt h)]
  by_cases hzero : a.microsecond = 0
  · have hnone : a.fractionText = "" := if_pos hzero
    rw [hnone]
    obtain ⟨rest, rfl | rfl⟩ := hsign
    · exact .here (by decide)
    · exact .here (by decide)
  · rw [hfraction a hzero]
    exact .later ((firstDifference_zeroPad h hmicrosecond).append behind other)

/-- Readings in order have texts in order, whatever the offsets behind them are. -/
theorem Before.firstDifference {a b : DateTime} (hb : b.Valid) (h : a.Before b)
    {behind : List Char} (hsign : StartsWithSign behind) (other : List Char) :
    FirstDifference AsciiLt (a.readingText.toList ++ behind)
      (b.readingText.toList ++ other) := by
  have hyear : b.year < 10 ^ 4 := Nat.lt_succ_of_le hb.year.2
  have hmonth : b.month < 10 ^ 2 := Nat.lt_of_le_of_lt hb.month.2 (by decide)
  have hday : b.day < 10 ^ 2 :=
    Nat.lt_of_le_of_lt (Nat.le_trans hb.day.2 (daysInMonth_le _ _)) (by decide)
  have hhour : b.hour < 10 ^ 2 := Nat.lt_trans hb.hour (by decide)
  have hminute : b.minute < 10 ^ 2 := Nat.lt_trans hb.minute (by decide)
  have hsecond : b.second < 10 ^ 2 := Nat.lt_trans hb.second (by decide)
  rw [toList_readingText, toList_readingText]
  simp only [List.append_assoc, List.cons_append]
  rw [before_iff] at h
  apply firstDifference_field hyear
  apply h.imp_right
  refine And.imp_right fun h => .later (firstDifference_field hmonth (h.imp_right ?_))
  refine And.imp_right fun h => .later (firstDifference_field hday (h.imp_right ?_))
  refine And.imp_right fun h => .later (firstDifference_field hhour (h.imp_right ?_))
  refine And.imp_right fun h => .later (firstDifference_field hminute (h.imp_right ?_))
  refine And.imp_right fun h => .later (firstDifference_field hsecond (h.imp_right ?_))
  exact And.imp_right fun h => firstDifference_fractionText hb h hsign other

end DateTime

/-! ## Points in time -/

/-- A value of `datetime.now(UTC)`. -/
structure UtcDateTime extends DateTime where
  valid : toDateTime.Valid
  utc : utcOffset = some 0

namespace UtcDateTime

/-- The point in time, in microseconds. -/
def instant (t : UtcDateTime) : Int := t.epochMicroseconds

theorem instant_eq (t : UtcDateTime) : t.instant = t.wallClock := by
  rw [instant, DateTime.wallClock_eq, DateTime.epochMicroseconds, t.utc]
  simp

theorem isoformat_eq (t : UtcDateTime) : t.isoformat = t.readingText ++ "+00:00" := by
  rw [DateTime.isoformat_eq, t.utc]
  rfl

theorem toList_isoformat (t : UtcDateTime) :
    t.isoformat.toList = t.readingText.toList ++ "+00:00".toList := by
  rw [isoformat_eq, String.toList_append]

/-- An earlier point in time has an earlier text, and so it stays whatever is put
behind the texts. -/
theorem firstDifference_isoformat {a b : UtcDateTime} (h : a.instant < b.instant) :
    FirstDifference AsciiLt a.isoformat.toList b.isoformat.toList := by
  rw [instant_eq, instant_eq] at h
  rw [toList_isoformat, toList_isoformat]
  exact ((DateTime.before_iff_wallClock_lt a.valid b.valid).mpr h).firstDifference b.valid
    ⟨_, Or.inl rfl⟩ _

end UtcDateTime

/-- An aware `datetime`: a wall clock reading, and its UTC offset in microseconds,
which is less than a day. -/
structure AwareDateTime where
  reading : DateTime
  offset : Int
  valid : reading.Valid
  offset_lt : offset.natAbs < 86400 * 1000000

namespace AwareDateTime

/-- The point in time, in microseconds. -/
def instant (t : AwareDateTime) : Int := t.reading.wallClock - t.offset

/-- The sign of an offset. -/
def signText (offset : Int) : String := if offset < 0 then "-" else "+"

/-- The seconds of an offset, which are left out when they are zero. -/
def offsetSeconds (seconds microseconds : ℕ) : String :=
  if seconds % 60 = 0 ∧ microseconds = 0 then ""
  else ":" ++ zeroPad 2 (seconds % 60) ++
    if microseconds = 0 then "" else "." ++ zeroPad 6 microseconds

/-- The offset part of the text, such as `+02:00`, `-03:30:15` or `+00:00:00.000001`. -/
def offsetText (offset : Int) : String :=
  let seconds := offset.natAbs / 1000000
  signText offset ++ zeroPad 2 (seconds / 3600) ++ ":" ++ zeroPad 2 (seconds / 60 % 60) ++
    offsetSeconds seconds (offset.natAbs % 1000000)

/-- `datetime.isoformat()`. -/
def isoformat (t : AwareDateTime) : String := t.reading.readingText ++ offsetText t.offset

theorem startsWithSign_offsetText (offset : Int) :
    DateTime.StartsWithSign (offsetText offset).toList := by
  unfold offsetText signText
  split_ifs
  · exact ⟨_, Or.inr (by simp; rfl)⟩
  · exact ⟨_, Or.inl (by simp; rfl)⟩

theorem toList_offsetText (offset : Int) :
    (offsetText offset).toList =
      (signText offset).toList ++ ((zeroPad 2 (offset.natAbs / 1000000 / 3600)).toList ++
        ':' :: ((zeroPad 2 (offset.natAbs / 1000000 / 60 % 60)).toList ++
          (offsetSeconds (offset.natAbs / 1000000) (offset.natAbs % 1000000)).toList)) := by
  simp [offsetText]

/-- An offset under a minute shows in the seconds of its text. -/
theorem offsetSeconds_ne_nil {offset : Int} (hne : offset ≠ 0)
    (hhours : offset.natAbs / 1000000 / 3600 = 0)
    (hminutes : offset.natAbs / 1000000 / 60 % 60 = 0) :
    (offsetSeconds (offset.natAbs / 1000000) (offset.natAbs % 1000000)).toList ≠ [] := by
  have hshown : ¬ (offset.natAbs / 1000000 % 60 = 0 ∧ offset.natAbs % 1000000 = 0) := by omega
  rw [offsetSeconds, if_neg hshown]
  simp

/-- An offset other than zero has a text after `+00:00`: by its sign, by an hour or
a minute that is not zero, or by the seconds behind. -/
theorem lt_offsetText {offset : Int} (hne : offset ≠ 0)
    (hlt : offset.natAbs < 86400 * 1000000) :
    "+00:00".toList < (offsetText offset).toList := by
  rw [toList_offsetText]
  by_cases hnegative : offset < 0
  · rw [signText, if_pos hnegative]
    exact List.Lex.rel (by decide)
  · rw [signText, if_neg hnegative]
    apply List.Lex.cons
    show (zeroPad 2 0).toList ++ ':' :: ((zeroPad 2 0).toList ++ []) < _
    have hhour : offset.natAbs / 1000000 / 3600 < 10 ^ 2 := by omega
    have hminute : offset.natAbs / 1000000 / 60 % 60 < 10 ^ 2 := by omega
    rcases Nat.eq_zero_or_pos (offset.natAbs / 1000000 / 3600) with hzero | hpos
    · rw [hzero]
      apply List.append_left_lt
      apply List.Lex.cons
      rcases Nat.eq_zero_or_pos (offset.natAbs / 1000000 / 60 % 60) with hminutes | hpos
      · rw [hminutes]
        apply List.append_left_lt
        obtain ⟨c, rest, hseconds⟩ :=
          List.exists_cons_of_ne_nil (offsetSeconds_ne_nil hne hzero hminutes)
        rw [hseconds]
        exact List.Lex.nil
      · apply FirstDifference.lt
        apply FirstDifference.mono _ (firstDifference_field hminute (Or.inl hpos))
        exact fun _ _ h => h.1
    · apply FirstDifference.lt
      apply FirstDifference.mono _ (firstDifference_field hhour (Or.inl hpos))
      exact fun _ _ h => h.1

/-- The text of a UTC time is at or after that of an aware one when its wall clock
reading is later, or when the two are the same time in UTC. -/
theorem isoformat_le_iff (since : AwareDateTime) (t : UtcDateTime) :
    since.isoformat ≤ t.isoformat ↔
      since.reading.wallClock < t.instant ∨
        since.reading.wallClock = t.instant ∧ since.offset = 0 := by
  have hsince : since.isoformat.toList =
      since.reading.readingText.toList ++ (offsetText since.offset).toList :=
    String.toList_append ..
  rw [UtcDateTime.instant_eq]
  rcases DateTime.before_trichotomy since.reading t.toDateTime with hbefore | hsame | hafter
  · have hclock := hbefore.wallClock_lt since.valid t.valid
    have htext : since.isoformat < t.isoformat := by
      apply FirstDifference.lt_string
      rw [hsince, t.toList_isoformat]
      exact hbefore.firstDifference t.valid (startsWithSign_offsetText _) _
    exact iff_of_true (String.not_lt.mp (String.lt_asymm htext)) (Or.inl hclock)
  · have hclock := DateTime.wallClock_congr hsame
    have hreading := DateTime.readingText_congr hsame
    by_cases hzero : since.offset = 0
    · have htext : since.isoformat = t.isoformat := by
        rw [isoformat, t.isoformat_eq, hzero, hreading]
        rfl
      exact iff_of_true (htext ▸ String.le_refl _) (Or.inr ⟨hclock, hzero⟩)
    · have htext : t.isoformat < since.isoformat := by
        rw [String.lt_iff, hsince, t.toList_isoformat, hreading]
        exact List.append_left_lt (lt_offsetText hzero since.offset_lt)
      apply iff_of_false (String.not_le.mpr htext)
      rintro (hlt | ⟨-, hoffset⟩)
      · exact Int.ne_of_lt hlt hclock
      · exact hzero hoffset
  · have hclock := hafter.wallClock_lt t.valid since.valid
    have htext : t.isoformat < since.isoformat := by
      apply FirstDifference.lt_string
      rw [hsince, t.toList_isoformat]
      exact hafter.firstDifference since.valid ⟨_, Or.inl rfl⟩ _
    apply iff_of_false (String.not_le.mpr htext)
    rintro (hlt | ⟨heq, -⟩)
    · exact Int.lt_asymm hlt hclock
    · exact Int.ne_of_gt hclock heq

/-- At or after the time, though not past its wall clock reading in UTC, or past the
reading and still before the time. Without an offset the two are the same. -/
def BetweenReadings (since : AwareDateTime) (instant : Int) : Prop :=
  (since.offset ≠ 0 ∧ since.instant ≤ instant ∧ instant ≤ since.reading.wallClock) ∨
    (since.reading.wallClock < instant ∧ instant < since.instant)

instance (since : AwareDateTime) (instant : Int) : Decidable (since.BetweenReadings instant) :=
  inferInstanceAs (Decidable (_ ∨ _))

/-- Texts tell which time is later except between the time and its reading. -/
theorem isoformat_le_iff_instant_le_iff (since : AwareDateTime) (t : UtcDateTime) :
    (since.isoformat ≤ t.isoformat ↔ since.instant ≤ t.instant) ↔
      ¬ since.BetweenReadings t.instant := by
  rw [isoformat_le_iff, BetweenReadings, instant]
  omega

/-- East of Greenwich the texts let no time through that is too early. -/
theorem instant_le_of_isoformat_le {since : AwareDateTime} (heast : 0 ≤ since.offset)
    {t : UtcDateTime} (h : since.isoformat ≤ t.isoformat) : since.instant ≤ t.instant := by
  rw [isoformat_le_iff] at h
  rw [instant]
  omega

/-- West of it they let every time through that is late enough. -/
theorem isoformat_le_of_instant_le {since : AwareDateTime} (hwest : since.offset < 0)
    {t : UtcDateTime} (h : since.instant ≤ t.instant) : since.isoformat ≤ t.isoformat := by
  rw [isoformat_le_iff]
  rw [instant] at h
  omega

end AwareDateTime

end Python
