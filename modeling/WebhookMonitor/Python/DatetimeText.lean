import Mathlib.Algebra.Order.Group.Nat
import Mathlib.Data.List.GetD
import Mathlib.Tactic.Ring
import WebhookMonitor.Python.Datetime

/-!
# Reading a written date back

`datetime.fromisoformat(dt.isoformat())` is `dt` for a `dt` in UTC.

The calendar half is `ordToYmd_spec`: the date of an ordinal is a valid date with
that ordinal.  The text half goes through the parser piece by piece, each number
by `parseDigits_padded_of_lt`.
-/

namespace Python

/-! ## The calendar -/

/-- A date of the calendar. -/
structure Ymd.Valid (date : Ymd) : Prop where
  month_pos : 1 ≤ date.month
  month_le : date.month ≤ 12
  day_pos : 1 ≤ date.day
  day_le : date.day ≤ daysInMonth date.year date.month

theorem daysInMonth_congr {year year' : ℕ} (leap : isLeap year = isLeap year') (month : ℕ) :
    daysInMonth year month = daysInMonth year' month := by
  rw [daysInMonth, daysInMonth, leap]

theorem daysBeforeMonth_congr {year year' : ℕ} (leap : isLeap year = isLeap year') (month : ℕ) :
    daysBeforeMonth year month = daysBeforeMonth year' month := by
  rw [daysBeforeMonth, daysBeforeMonth, leap]

/-- The month and day within a year depend on whether it is a leap year. -/
theorem monthDay_congr {year year' : ℕ} (leap : isLeap year = isLeap year') (n : ℕ) :
    (monthDay year n).month = (monthDay year' n).month ∧
      (monthDay year n).day = (monthDay year' n).day := by
  rw [monthDay, monthDay, daysBeforeMonth_congr leap, daysBeforeMonth_congr leap]
  split_ifs
  · exact ⟨rfl, rfl⟩
  · exact ⟨rfl, rfl⟩

/-- The `n`-th day of a year, counted from zero. -/
def IsDayOf (year n : ℕ) (month day : ℕ) : Prop :=
  1 ≤ month ∧ month ≤ 12 ∧ 1 ≤ day ∧ day ≤ daysInMonth year month ∧
    daysBeforeMonth year month + day = n + 1

instance (year n month day : ℕ) : Decidable (IsDayOf year n month day) := by
  unfold IsDayOf
  infer_instance

theorem isDayOf_monthDay {year n : ℕ} (lt : n < 365) :
    IsDayOf year n (monthDay year n).month (monthDay year n).day := by
  have common : ∀ n < 365, IsDayOf 1 n (monthDay 1 n).month (monthDay 1 n).day := by
    decide +kernel
  have leap : ∀ n < 365, IsDayOf 4 n (monthDay 4 n).month (monthDay 4 n).day := by
    decide +kernel
  have transfer : ∀ year', isLeap year = isLeap year' →
      IsDayOf year' n (monthDay year' n).month (monthDay year' n).day →
      IsDayOf year n (monthDay year n).month (monthDay year n).day := by
    intro year' same day
    obtain ⟨month_eq, day_eq⟩ := monthDay_congr same n
    unfold IsDayOf
    rw [month_eq, day_eq, daysInMonth_congr same, daysBeforeMonth_congr same]
    exact day
  cases hleap : isLeap year with
  | true => exact transfer 4 hleap (leap n lt)
  | false => exact transfer 1 hleap (common n lt)

theorem monthDay_year (year n : ℕ) : (monthDay year n).year = year := by
  rw [monthDay]
  split_ifs
  · rfl
  · rfl

/-- Days before a year, by cycles of 400, 100, 4 and 1 years. -/
theorem daysBeforeYear_cycles (n400 : ℕ) {n100 n4 n1 : ℕ} (h100 : n100 < 4) (h4 : n4 < 25)
    (h1 : n1 < 4) :
    daysBeforeYear (n400 * 400 + n100 * 100 + n4 * 4 + n1 + 1) =
      n400 * 146097 + n100 * 36524 + n4 * 1461 + n1 * 365 := by
  simp only [daysBeforeYear, Nat.add_sub_cancel]
  omega

/-- The date of an ordinal is a date of the years 1 to 9999, and has that ordinal. -/
theorem ordToYmd_spec {ordinal : ℕ} (pos : 1 ≤ ordinal) (le : ordinal ≤ maxOrdinal) :
    (ordToYmd ordinal).Valid ∧
      1 ≤ (ordToYmd ordinal).year ∧ (ordToYmd ordinal).year ≤ 9999 ∧
      ymdToOrd (ordToYmd ordinal).year (ordToYmd ordinal).month (ordToYmd ordinal).day =
        ordinal := by
  have hmax : maxOrdinal = 3652059 := rfl
  simp only [ordToYmd]
  generalize h400 : (ordinal - 1) / 146097 = n400
  generalize hr400 : (ordinal - 1) % 146097 = r400
  generalize h100 : r400 / 36524 = n100
  generalize hr100 : r400 % 36524 = r100
  generalize h4 : r100 / 1461 = n4
  generalize hr4 : r100 % 1461 = r4
  generalize h1 : r4 / 365 = n1
  generalize hr : r4 % 365 = r
  split_ifs with hlast
  · -- the last day of a cycle of 4 or 400 years
    have hdecember : ∀ q100 q4, q100 < 4 → q4 < 25 → (q4 < 24 ∨ q100 = 3) →
        n400 * 400 + n100 * 100 + n4 * 4 + n1 = n400 * 400 + q100 * 100 + q4 * 4 + 4 →
        n400 * 146097 + q100 * 36524 + q4 * 1461 + 1461 = ordinal →
        (Ymd.mk (n400 * 400 + n100 * 100 + n4 * 4 + n1 + 1 - 1) 12 31).Valid ∧
          1 ≤ n400 * 400 + n100 * 100 + n4 * 4 + n1 + 1 - 1 ∧
          n400 * 400 + n100 * 100 + n4 * 4 + n1 + 1 - 1 ≤ 9999 ∧
          ymdToOrd (n400 * 400 + n100 * 100 + n4 * 4 + n1 + 1 - 1) 12 31 = ordinal := by
      intro q100 q4 hq100 hq4 hcentury hyear hordinal
      have leap : isLeap (n400 * 400 + q100 * 100 + q4 * 4 + 4) = true := by
        simp only [isLeap, Bool.and_eq_true, Bool.or_eq_true, decide_eq_true_eq]
        omega
      have before : daysBeforeMonth (n400 * 400 + q100 * 100 + q4 * 4 + 4) 12 = 335 := by
        rw [daysBeforeMonth, leap]
        rfl
      rw [Nat.add_sub_cancel, hyear]
      refine ⟨⟨Nat.le_of_ble_eq_true rfl, Nat.le_of_ble_eq_true rfl,
        Nat.le_of_ble_eq_true rfl, le_rfl⟩, by omega, by omega, ?_⟩
      have := daysBeforeYear_cycles n400 hq100 hq4 (show 3 < 4 by decide)
      rw [ymdToOrd, before, this]
      omega
    rcases hlast with hn1 | hn100
    · exact hdecember n100 n4 (by omega) (by omega) (by omega) (by omega) (by omega)
    · exact hdecember 3 24 (by omega) (by omega) (by omega) (by omega) (by omega)
  · -- any other day: the quotients are years within their cycles
    have hn100 : n100 < 4 := by omega
    have hn4 : n4 < 25 := by omega
    have hn1 : n1 < 4 := by omega
    have total : ordinal = n400 * 146097 + n100 * 36524 + n4 * 1461 + n1 * 365 + (r + 1) := by
      omega
    generalize hyear : n400 * 400 + n100 * 100 + n4 * 4 + n1 + 1 = year
    have within : r < 365 := by omega
    obtain ⟨month_pos, month_le, day_pos, day_le, ordinal_eq⟩ :=
      @isDayOf_monthDay year r within
    have years := daysBeforeYear_cycles n400 hn100 hn4 hn1
    rw [hyear] at years
    rw [monthDay_year]
    refine ⟨⟨month_pos, month_le, day_pos, ?_⟩, by omega, by omega, ?_⟩
    · rw [monthDay_year]
      exact day_le
    · rw [ymdToOrd, years, Nat.add_assoc, ordinal_eq, total]

/-! ## Numbers of a fixed width -/

/-- The bytes of ASCII text. -/
def asciiBytes (s : Str) : Bytes := s.map fun c => UInt8.ofNat c.val

@[simp] theorem asciiBytes_append (s t : Str) :
    asciiBytes (s ++ t) = asciiBytes s ++ asciiBytes t := List.map_append

@[simp] theorem length_padded (width n : ℕ) : (padded width n).length = width := by
  induction width generalizing n with
  | zero => rfl
  | succ width ih => rw [padded, List.length_append, ih, List.length_singleton]

@[simp] theorem length_asciiBytes (s : Str) : (asciiBytes s).length = s.length := List.length_map _

/-- A decimal digit. -/
theorem mem_padded {width n : ℕ} {c : CodePoint} (mem : c ∈ padded width n) :
    0x30 ≤ c.val ∧ c.val ≤ 0x39 := by
  induction width generalizing n with
  | zero => cases mem
  | succ width ih =>
      rw [padded] at mem
      rcases List.mem_append.mp mem with mem | mem
      · exact ih mem
      · obtain rfl := List.mem_singleton.mp mem
        simp only [codePoint, Fin.ofNat]
        omega

theorem isAscii_padded (width n : ℕ) : isAscii (padded width n) = true := by
  rw [isAscii_iff]
  intro c mem
  have := mem_padded mem
  omega

theorem mem_asciiBytes_padded {width n : ℕ} {b : UInt8} (mem : b ∈ asciiBytes (padded width n)) :
    0x30 ≤ b.toNat ∧ b.toNat ≤ 0x39 := by
  obtain ⟨c, hc, rfl⟩ := List.mem_map.mp mem
  have := mem_padded hc
  rw [UInt8.toNat_ofNat']
  omega

theorem peek_padded {width : ℕ} (pos : 0 < width) (n : ℕ) (rest : Bytes) :
    0x30 ≤ peek (asciiBytes (padded width n) ++ rest) ∧
      peek (asciiBytes (padded width n) ++ rest) ≤ 0x39 := by
  cases h : asciiBytes (padded width n) with
  | nil =>
      have length := congrArg List.length h
      rw [length_asciiBytes, length_padded, List.length_nil] at length
      omega
  | cons b bs =>
      rw [List.cons_append, peek, List.headD_cons]
      exact mem_asciiBytes_padded (h ▸ List.mem_cons_self)

/-- Reading digits in two goes. -/
theorem parseDigits_add (j k n : ℕ) (p : Bytes) :
    parseDigits (j + k) n p = (parseDigits j n p).bind fun r => parseDigits k r.1 r.2 := by
  induction j generalizing n p with
  | zero => rw [Nat.zero_add, parseDigits, Option.bind_some]
  | succ j ih =>
      rw [Nat.succ_add]
      cases p with
      | nil => rfl
      | cons b p =>
          rw [parseDigits, parseDigits]
          cases digitByte b with
          | none => rfl
          | some d => exact ih _ _

/-- A number reads back from its digits. -/
theorem parseDigits_padded (width acc n : ℕ) (rest : Bytes) :
    parseDigits width acc (asciiBytes (padded width n) ++ rest) =
      some (acc * 10 ^ width + n % 10 ^ width, rest) := by
  induction width generalizing n rest with
  | zero => simp [padded, asciiBytes, parseDigits, Nat.mod_one]
  | succ width ih =>
      have last : digitByte (UInt8.ofNat (codePoint (0x30 + n % 10)).val) = some (n % 10) := by
        have value : (UInt8.ofNat (codePoint (0x30 + n % 10)).val).toNat = 0x30 + n % 10 := by
          rw [UInt8.toNat_ofNat']
          simp only [codePoint, Fin.ofNat]
          omega
        rw [digitByte, value, if_pos (by omega), Nat.add_sub_cancel_left]
      have split : n % 10 ^ (width + 1) = n % 10 + 10 * (n / 10 % 10 ^ width) := by
        rw [Nat.pow_succ', Nat.mod_mul]
      rw [padded, asciiBytes_append, List.append_assoc, parseDigits_add, ih, Option.bind_some]
      change parseDigits 1 _ (_ :: rest) = _
      rw [parseDigits, last]
      simp only [parseDigits, Option.some.injEq, Prod.mk.injEq, and_true]
      rw [split, Nat.pow_succ]
      ring

/-- A number of no more digits than are read. -/
theorem parseDigits_padded_of_lt {width n : ℕ} (lt : n < 10 ^ width) (rest : Bytes) :
    parseDigits width 0 (asciiBytes (padded width n) ++ rest) = some (n, rest) := by
  rw [parseDigits_padded, Nat.zero_mul, Nat.zero_add, Nat.mod_eq_of_lt lt]

/-! ## The pieces of the text -/

/-- Nothing is replaced in text without surrogates. -/
theorem sanitize_of_isAscii {s : Str} (ascii : isAscii s = true) : sanitize s = s := by
  have plain : ∀ i, isSurrogate (s.getD i (codePoint 0)) = false := by
    intro i
    by_cases hi : i < s.length
    · rw [List.getD_eq_getElem _ _ hi]
      exact isScalar_iff.mp (isScalar_of_isAscii ascii) _ (List.getElem_mem hi)
    · rw [List.getD_eq_default _ _ (Nat.le_of_not_lt hi)]
      decide
  unfold sanitize
  simp only [plain, Bool.false_eq_true, and_false, if_false]

/-- The wall clock's date, its clock and its fraction, in bytes. -/
def dateBytes (date : Ymd) : Bytes :=
  asciiBytes (padded 4 date.year) ++ 0x2D :: (asciiBytes (padded 2 date.month) ++
    0x2D :: asciiBytes (padded 2 date.day))

def clockBytes (hour minute second micro : ℕ) : Bytes :=
  asciiBytes (padded 2 hour) ++ 0x3A :: (asciiBytes (padded 2 minute) ++
    0x3A :: (asciiBytes (padded 2 second) ++
      if micro ≠ 0 then 0x2E :: asciiBytes (padded 6 micro) else []))

/-- `+00:00`. -/
def utcBytes : Bytes := [0x2B, 0x30, 0x30, 0x3A, 0x30, 0x30]

theorem length_dateBytes (date : Ymd) : (dateBytes date).length = 10 := by
  simp [dateBytes]

/-- No month is longer. -/
theorem Ymd.Valid.day_le_longest {date : Ymd} (valid : date.Valid) : date.day ≤ 31 := by
  refine valid.day_le.trans ?_
  unfold daysInMonth
  split_ifs <;> omega

/-- The date reads back. -/
theorem parseDate_dateBytes {date : Ymd} (valid : date.Valid) (year_pos : 1 ≤ date.year)
    (year_le : date.year ≤ 9999) (rest : Bytes) :
    parseDate (dateBytes date ++ rest) 10 = some (ymdToOrd date.year date.month date.day) := by
  have month_le := valid.month_le
  have day_le := valid.day_le_longest
  have month : date.month < 10 ^ 2 := by omega
  have day : date.day < 10 ^ 2 := by omega
  have digit := peek_padded Nat.two_pos date.month
    (0x2D :: (asciiBytes (padded 2 date.day) ++ rest))
  have notWeek : ¬ peek (asciiBytes (padded 2 date.month) ++
      0x2D :: (asciiBytes (padded 2 date.day) ++ rest)) = 0x57 := by omega
  have dash : ∀ p : Bytes, peek (0x2D :: p) = 0x2D := fun _ => rfl
  have consumed : (dateBytes date ++ rest).length - rest.length = 10 := by
    rw [List.length_append, length_dateBytes, Nat.add_sub_cancel]
  have text : dateBytes date ++ rest = asciiBytes (padded 4 date.year) ++
      0x2D :: (asciiBytes (padded 2 date.month) ++
        0x2D :: (asciiBytes (padded 2 date.day) ++ rest)) := by
    simp [dateBytes]
  unfold parseDate
  rw [text, parseDigits_padded_of_lt (by omega)]
  simp only [Option.bind_eq_bind, Option.bind_some, dash, notWeek, if_true, if_false,
    List.drop_succ_cons, List.drop_zero, parseDigits_padded_of_lt month,
    parseDigits_padded_of_lt day, ← text, consumed]
  rw [if_pos ⟨trivial, year_pos, valid.month_pos, month_le, valid.day_pos, valid.day_le⟩]

/-- A component with a colon after it. -/
theorem parseComponents_colon {todo i v left : ℕ} {colons : Bool} {t : TimeParts} {rest : Bytes}
    (two : v < 100) (colons_or_first : i = 0 ∨ colons = true) (more : 3 < left) :
    parseComponents (todo + 1) i colons t (asciiBytes (padded 2 v) ++ 0x3A :: rest) left =
      parseComponents todo (i + 1) true (t.set i v) rest (left - 3) := by
  have colon : peek (0x3A :: rest) = 0x3A := rfl
  rw [parseComponents, parseDigits_padded_of_lt two]
  simp only [Option.bind_eq_bind, Option.bind_some, colon]
  rw [if_neg (Nat.not_le.mpr more)]
  by_cases first : i = 0
  · simp only [first, if_true, decide_true, and_self]
    rfl
  · obtain rfl := colons_or_first.resolve_left first
    simp only [first, if_false, and_self, if_true]
    rfl

/-- The clock reads back; what follows it counts as left over. -/
theorem parseTime_clockBytes {hour minute second micro : ℕ} (hour_lt : hour < 24)
    (minute_lt : minute < 60) (second_lt : second < 60) (micro_lt : micro < 1000000) :
    parseTime (clockBytes hour minute second micro ++ utcBytes)
        (clockBytes hour minute second micro).length =
      some ⟨hour, minute, second, micro, true⟩ := by
  rw [parseTime]
  -- `isoformat` leaves the fraction out when it is zero
  by_cases whole : micro = 0
  · have text : clockBytes hour minute second micro ++ utcBytes = asciiBytes (padded 2 hour) ++
        0x3A :: (asciiBytes (padded 2 minute) ++ 0x3A :: (asciiBytes (padded 2 second) ++
          utcBytes)) := by
      simp [clockBytes, whole]
    have length : (clockBytes hour minute second micro).length = 8 := by
      simp [clockBytes, whole]
    rw [text, length, parseComponents_colon (by omega) (.inl rfl) (by decide),
      parseComponents_colon (by omega) (.inr rfl) (by decide), parseComponents,
      parseDigits_padded_of_lt (by omega)]
    subst whole
    rfl
  · have text : clockBytes hour minute second micro ++ utcBytes = asciiBytes (padded 2 hour) ++
        0x3A :: (asciiBytes (padded 2 minute) ++ 0x3A :: (asciiBytes (padded 2 second) ++
          0x2E :: (asciiBytes (padded 6 micro) ++ utcBytes))) := by
      simp [clockBytes, whole]
    have length : (clockBytes hour minute second micro).length = 15 := by
      simp [clockBytes, whole]
    rw [text, length, parseComponents_colon (by omega) (.inl rfl) (by decide),
      parseComponents_colon (by omega) (.inr rfl) (by decide), parseComponents,
      parseDigits_padded_of_lt (by omega)]
    change parseFraction ⟨hour, minute, second, 0, false⟩
      (asciiBytes (padded 6 micro) ++ utcBytes) 6 = _
    rw [parseFraction]
    change (parseDigits 6 0 _ >>= _) = _
    rw [parseDigits_padded_of_lt micro_lt]
    change some (TimeParts.mk hour minute second (micro * 10 ^ 0) true) = _
    rw [Nat.pow_zero, Nat.mul_one]

theorem startsZone_of_mem_clockBytes {hour minute second micro : ℕ} {b : UInt8}
    (mem : b ∈ clockBytes hour minute second micro) : startsZone b = false := by
  have digits : ∀ {width n : ℕ}, b ∈ asciiBytes (padded width n) → startsZone b = false := by
    intro width n mem
    have := mem_asciiBytes_padded mem
    simp only [startsZone, Bool.or_eq_false_iff, decide_eq_false_iff_not]
    omega
  simp only [clockBytes, List.mem_append, List.mem_cons] at mem
  rcases mem with mem | rfl | mem | rfl | mem | mem
  · exact digits mem
  · rfl
  · exact digits mem
  · rfl
  · exact digits mem
  · split_ifs at mem
    · rcases List.mem_cons.mp mem with rfl | mem
      · rfl
      · exact digits mem
    · cases mem

/-- The time of day and the zone read back. -/
theorem parseTimeZone_clockBytes {hour minute second micro : ℕ} (hour_lt : hour < 24)
    (minute_lt : minute < 60) (second_lt : second < 60) (micro_lt : micro < 1000000) :
    parseTimeZone (clockBytes hour minute second micro ++ utcBytes) =
      some ((hour * 3600 + minute * 60 + second) * 1000000 + micro, some Offset.utc) := by
  have clock : (clockBytes hour minute second micro ++ utcBytes).takeWhile
      (fun b => !startsZone b) = clockBytes hour minute second micro := by
    rw [List.takeWhile_append_of_pos fun b mem => by rw [startsZone_of_mem_clockBytes mem]; rfl]
    exact List.append_nil _
  have zone : parseTime [0x30, 0x30, 0x3A, 0x30, 0x30] 5 = some ⟨0, 0, 0, 0, false⟩ := rfl
  unfold parseTimeZone
  dsimp only
  rw [clock, parseTime_clockBytes hour_lt minute_lt second_lt micro_lt]
  simp only [Option.bind_eq_bind, Option.bind_some, List.drop_left]
  have sign : ¬ (0x2B : UInt8).toNat = 0x5A := by decide
  simp only [utcBytes, List.length_cons, List.length_nil, Nat.zero_add, Nat.reduceAdd, zone, sign,
    if_false, Option.bind_some]
  simp [hour_lt, minute_lt, second_lt, Offset.utc]

/-! ## The whole text -/

theorem isoformat_utc (wall : Wall) :
    (AwareDatetime.utc wall).isoformat = formatWall wall ++ Str.lit "+00:00" := by
  have zero : formatOffset 0 = Str.lit "+00:00" := by decide
  rw [AwareDatetime.isoformat, ← zero]
  rfl

theorem isAscii_isoformat_utc (wall : Wall) :
    isAscii (AwareDatetime.utc wall).isoformat = true := by
  have fraction : ∀ n, isAscii (if n ≠ 0 then Str.lit "." ++ padded 6 n else []) = true := by
    intro n
    split_ifs
    · rw [isAscii_append, isAscii_padded]
      rfl
    · rfl
  rw [isoformat_utc, formatWall]
  simp only [isAscii_append, isAscii_padded, fraction]
  rfl

/-- The bytes of a reading. -/
theorem asciiBytes_isoformat_utc (wall : Wall) :
    asciiBytes (AwareDatetime.utc wall).isoformat =
      dateBytes (ordToYmd (wall.val / 86400000000 + 1)) ++ 0x54 ::
        (clockBytes (wall.val % 86400000000 / 3600000000)
          (wall.val % 86400000000 / 60000000 % 60) (wall.val % 86400000000 / 1000000 % 60)
          (wall.val % 86400000000 % 1000000) ++ utcBytes) := by
  have fraction : ∀ n, asciiBytes (if n ≠ 0 then Str.lit "." ++ padded 6 n else []) =
      if n ≠ 0 then 0x2E :: asciiBytes (padded 6 n) else [] := by
    intro n
    split_ifs
    · rfl
    · rfl
  have dash : asciiBytes (Str.lit "-") = [0x2D] := rfl
  have colon : asciiBytes (Str.lit ":") = [0x3A] := rfl
  have t : asciiBytes (Str.lit "T") = [0x54] := rfl
  have zone : asciiBytes (Str.lit "+00:00") = utcBytes := rfl
  rw [isoformat_utc, formatWall]
  simp only [asciiBytes_append, fraction, dash, colon, t, zone, dateBytes, clockBytes,
    List.append_assoc, List.cons_append, List.nil_append]

/-- The date of a text of this form ends at the tenth byte. -/
theorem findSeparator_dateBytes (date : Ymd) {rest : Bytes} (long : 0 < rest.length) :
    findSeparator (dateBytes date ++ rest) = some 10 := by
  have length : (dateBytes date ++ rest).length = 10 + rest.length := by
    rw [List.length_append, length_dateBytes]
  have year : (asciiBytes (padded 4 date.year)).length = 4 := by
    rw [length_asciiBytes, length_padded]
  have text : dateBytes date ++ rest = asciiBytes (padded 4 date.year) ++
      0x2D :: (asciiBytes (padded 2 date.month) ++
        0x2D :: (asciiBytes (padded 2 date.day) ++ rest)) := by
    simp [dateBytes]
  have dash : peek ((dateBytes date ++ rest).drop 4) = 0x2D := by
    rw [text, List.drop_left' year]
    rfl
  have month : peek ((dateBytes date ++ rest).drop 5) ≠ 0x57 := by
    have digit := peek_padded Nat.two_pos date.month
      (0x2D :: (asciiBytes (padded 2 date.day) ++ rest))
    have drop : (dateBytes date ++ rest).drop 5 = asciiBytes (padded 2 date.month) ++
        0x2D :: (asciiBytes (padded 2 date.day) ++ rest) := by
      rw [text, show 5 = 4 + 1 from rfl, ← List.drop_drop, List.drop_left' year]
      rfl
    rw [drop]
    omega
  unfold findSeparator
  dsimp only
  rw [if_neg (by omega), if_pos dash, if_neg month]

/-- How the parser puts its parts together. -/
theorem fromisoformat_of_parts {s : Str} {p : Bytes} {sep ordinal micros : ℕ}
    {zone : Option Offset} {wall : Wall} (long : ¬ s.length < 7)
    (bytes : encodeUtf8 (sanitize s) = some p) (separator : findSeparator p = some sep)
    (date : parseDate p sep = some ordinal) (more : sep < p.length)
    (time : parseTimeZone (p.drop (sep + sequenceLength (peek (p.drop sep)))) =
      some (micros, zone))
    (pos : 1 ≤ ordinal) (total : (ordinal - 1) * 86400000000 + micros = wall.val) :
    fromisoformat s = some ⟨wall, zone⟩ := by
  have within : 1 ≤ ordinal ∧ (ordinal - 1) * 86400000000 + micros < 3652059 * 86400000000 :=
    ⟨pos, total ▸ wall.isLt⟩
  have reading : (⟨(ordinal - 1) * 86400000000 + micros, within.2⟩ : Wall) = wall := Fin.ext total
  unfold fromisoformat
  simp only [if_neg long, bytes, separator, date, if_pos more, time, Option.bind_eq_bind,
    Option.bind_some]
  rw [dif_pos within, reading]

/-- A reading of a UTC clock reads back. -/
theorem fromisoformat_isoformat_utc (wall : Wall) :
    fromisoformat (AwareDatetime.utc wall).isoformat = some ⟨wall, some Offset.utc⟩ := by
  have ascii := isAscii_isoformat_utc wall
  have hwall := wall.isLt
  obtain ⟨valid, year_pos, year_le, ordinal⟩ :=
    @ordToYmd_spec (wall.val / 86400000000 + 1) (by omega) (by unfold maxOrdinal; omega)
  have bytes := asciiBytes_isoformat_utc wall
  have zone := @parseTimeZone_clockBytes (wall.val % 86400000000 / 3600000000)
    (wall.val % 86400000000 / 60000000 % 60) (wall.val % 86400000000 / 1000000 % 60)
    (wall.val % 86400000000 % 1000000) (by omega) (by omega) (by omega) (by omega)
  generalize clockBytes (wall.val % 86400000000 / 3600000000)
    (wall.val % 86400000000 / 60000000 % 60) (wall.val % 86400000000 / 1000000 % 60)
    (wall.val % 86400000000 % 1000000) ++ utcBytes = rest at bytes zone
  generalize ordToYmd (wall.val / 86400000000 + 1) = date at *
  have long : 11 ≤ (AwareDatetime.utc wall).isoformat.length := by
    rw [← length_asciiBytes, bytes, List.length_append, length_dateBytes, List.length_cons]
    omega
  have separator : (dateBytes date ++ 0x54 :: rest).drop 10 = 0x54 :: rest :=
    List.drop_left' (length_dateBytes _)
  have time : (dateBytes date ++ 0x54 :: rest).drop
      (10 + sequenceLength (peek ((dateBytes date ++ 0x54 :: rest).drop 10))) = rest := by
    rw [separator, ← List.drop_drop, separator]
    rfl
  refine fromisoformat_of_parts (by omega) ?_
    (findSeparator_dateBytes date (List.length_pos_of_ne_nil (List.cons_ne_nil _ _)))
    (parseDate_dateBytes valid year_pos year_le (0x54 :: rest)) ?_ (time ▸ zone) ?_ ?_
  · rw [sanitize_of_isAscii ascii, encodeUtf8_of_isAscii ascii, ← bytes]
    rfl
  · rw [List.length_append, length_dateBytes, List.length_cons]
    omega
  · omega
  · omega

end Python
