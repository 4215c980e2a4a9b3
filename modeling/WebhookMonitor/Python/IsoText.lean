import WebhookMonitor.Python.DatetimeText

/-!
# ISO timestamps

The timestamps of ISO 8601 that have an offset, by their grammar: a date, `T`, a time of
day, and `Z` or an offset.  A date is a calendar or a week date, a time of day may leave
out its minutes and seconds, and an offset its minutes.  Ordinal dates, dates without a
day of the month, and fractions of hours or minutes are left out, as the language
documents, and so are the hour 24 and the second 60, which no `datetime` has.  The
grammar says what a text denotes, and nothing about how it is read.

* `IsoDate`, `IsoClock`, `IsoOffset`, `IsoZone` — the parts;
* `IsoTimestamp` — the whole, with the `datetime` it denotes;
* `fromisoformat_of_offset` — `datetime.fromisoformat` reads it so when its zone is an
  offset;
* `IsoTimestamp.fromisoformat_replace` — and when `Z` has been replaced by `+00:00`;
* `IsoTimestamp.rest_eq_nil` — nothing follows a `Z`.
-/

namespace Python

/-! ## The grammar -/

/-- A character of the extended format, which the basic format leaves out. -/
def extendedMark (extended : Bool) (c : CodePoint) : Str := if extended then [c] else []

/-- The text of a date, and its ordinal. -/
inductive IsoDate : Str → ℕ → Prop where
  | calendar (extended : Bool) {date : Ymd} (valid : date.Valid) (year_pos : 1 ≤ date.year)
      (year_le : date.year ≤ 9999) :
      IsoDate (padded 4 date.year ++ extendedMark extended '-' ++ padded 2 date.month ++
        extendedMark extended '-' ++ padded 2 date.day)
        (ymdToOrd date.year date.month date.day)
  | week (extended : Bool) {year week ordinal : ℕ} (valid : isoToOrd year week 1 = some ordinal) :
      IsoDate (padded 4 year ++ extendedMark extended '-' ++ Str.lit "W" ++ padded 2 week) ordinal
  | weekDay (extended : Bool) {year week day ordinal : ℕ}
      (valid : isoToOrd year week day = some ordinal) :
      IsoDate (padded 4 year ++ extendedMark extended '-' ++ Str.lit "W" ++ padded 2 week ++
        extendedMark extended '-' ++ padded 1 day) ordinal

/-- The text of an hour, or of an hour and a minute, and its microseconds. -/
inductive IsoHours : Str → ℕ → Prop where
  | hour {hour : ℕ} (hour_lt : hour < 24) : IsoHours (padded 2 hour) (hour * 3600000000)
  | minute (extended : Bool) {hour minute : ℕ} (hour_lt : hour < 24) (minute_lt : minute < 60) :
      IsoHours (padded 2 hour ++ extendedMark extended ':' ++ padded 2 minute)
        ((hour * 60 + minute) * 60000000)

/-- The text of a time of day, and its microseconds.  Digits after the sixth of a fraction do
not count. -/
inductive IsoClock : Str → ℕ → Prop where
  | hours {clock : Str} {micros : ℕ} (hours : IsoHours clock micros) : IsoClock clock micros
  | seconds (extended : Bool) {hour minute second : ℕ} (hour_lt : hour < 24)
      (minute_lt : minute < 60) (second_lt : second < 60) :
      IsoClock (padded 2 hour ++ extendedMark extended ':' ++ padded 2 minute ++
        extendedMark extended ':' ++ padded 2 second)
        (((hour * 60 + minute) * 60 + second) * 1000000)
  | fraction (extended : Bool) {hour minute second width n : ℕ} {point : CodePoint}
      (hour_lt : hour < 24) (minute_lt : minute < 60) (second_lt : second < 60)
      (decimal : point = '.' ∨ point = ',') (digits : 0 < width) (n_lt : n < 10 ^ width) :
      IsoClock (padded 2 hour ++ extendedMark extended ':' ++ padded 2 minute ++
        extendedMark extended ':' ++ padded 2 second ++ [point] ++ padded width n)
        (((hour * 60 + minute) * 60 + second) * 1000000 + n * 1000000 / 10 ^ width)

/-- The text of an offset, and its microseconds. -/
inductive IsoOffset : Str → ℤ → Prop where
  | ahead {hours : Str} {micros : ℕ} (iso : IsoHours hours micros) :
      IsoOffset (Str.lit "+" ++ hours) micros
  | behind {hours : Str} {micros : ℕ} (iso : IsoHours hours micros) :
      IsoOffset (Str.lit "-" ++ hours) (-micros)

/-- `Z`, or an offset. -/
inductive IsoZone : Str → ℤ → Prop where
  | utc : IsoZone (Str.lit "Z") 0
  | offset {zone : Str} {micros : ℤ} (offset : IsoOffset zone micros) : IsoZone zone micros

/-- The text of a timestamp, and the `datetime` it denotes. -/
inductive IsoTimestamp : Str → AwareDatetime → Prop where
  | mk {date clock zone : Str} {ordinal micros : ℕ} {t : AwareDatetime}
      (date_iso : IsoDate date ordinal) (clock_iso : IsoClock clock micros)
      (zone_iso : IsoZone zone t.offset.val) (pos : 1 ≤ ordinal)
      (wall : t.wall.val = (ordinal - 1) * 86400000000 + micros) :
      IsoTimestamp (date ++ Str.lit "T" ++ clock ++ zone) t

/-! ## Digits and marks -/

/-- A decimal digit. -/
def IsDigitByte (b : UInt8) : Prop := 0x30 ≤ b.toNat ∧ b.toNat ≤ 0x39

theorem exists_bytes_one (n : ℕ) : ∃ b, asciiBytes (padded 1 n) = [b] ∧ IsDigitByte b := by
  have length : (asciiBytes (padded 1 n)).length = 1 := by simp
  obtain ⟨b, bytes⟩ := List.length_eq_one_iff.mp length
  exact ⟨b, bytes, mem_asciiBytes_padded (bytes ▸ List.mem_singleton_self b)⟩

theorem exists_bytes_two (n : ℕ) :
    ∃ b c, asciiBytes (padded 2 n) = [b, c] ∧ IsDigitByte b ∧ IsDigitByte c := by
  have length : (asciiBytes (padded 2 n)).length = 2 := by simp
  obtain ⟨b, c, bytes⟩ := List.length_eq_two.mp length
  have digits : ∀ x ∈ [b, c], IsDigitByte x := fun x mem => mem_asciiBytes_padded (bytes ▸ mem)
  exact ⟨b, c, bytes, digits b (by simp), digits c (by simp)⟩

theorem exists_bytes_four (n : ℕ) :
    ∃ a b c d, asciiBytes (padded 4 n) = [a, b, c, d] ∧ IsDigitByte a ∧ IsDigitByte b ∧
      IsDigitByte c ∧ IsDigitByte d := by
  have length : (asciiBytes (padded 4 n)).length = 4 := by simp
  obtain ⟨a, rest, bytes⟩ := List.exists_cons_of_length_eq_add_one length
  rw [bytes, List.length_cons] at length
  obtain ⟨b, c, d, rfl⟩ := List.length_eq_three.mp (Nat.succ.inj length)
  have digits : ∀ x ∈ [a, b, c, d], IsDigitByte x := fun x mem =>
    mem_asciiBytes_padded (bytes ▸ mem)
  exact ⟨a, b, c, d, bytes, digits a (by simp), digits b (by simp), digits c (by simp),
    digits d (by simp)⟩

@[simp] theorem asciiBytes_mark (c : CodePoint) :
    asciiBytes (extendedMark true c) = [UInt8.ofNat c.val] := rfl

@[simp] theorem asciiBytes_no_mark (c : CodePoint) : asciiBytes (extendedMark false c) = [] := rfl

/-! ## The date -/

section Separator

variable {a b c d e f g : UInt8} {rest : Bytes}

theorem findSeparator_dash (notWeek : e.toNat ≠ 0x57) (long : rest.length ≠ 1) :
    findSeparator (a :: b :: c :: d :: 0x2D :: e :: rest) = some 10 := by
  simp [findSeparator, peek, notWeek]
  omega

theorem findSeparator_plain (notDash : e.toNat ≠ 0x2D) (notWeek : e.toNat ≠ 0x57)
    (long : rest.length ≠ 2) : findSeparator (a :: b :: c :: d :: e :: rest) = some 8 := by
  simp [findSeparator, peek, notDash, notWeek]
  omega

theorem findSeparator_dashWeek (notDash : g.toNat ≠ 0x2D) :
    findSeparator (a :: b :: c :: d :: 0x2D :: 0x57 :: e :: f :: g :: rest) = some 8 := by
  simp [findSeparator, peek, notDash]

theorem findSeparator_dashWeekDay {h : UInt8} (notDigit : ¬ IsDigitByte h) :
    findSeparator (a :: b :: c :: d :: 0x2D :: 0x57 :: e :: f :: 0x2D :: g :: h :: rest) =
      some 10 := by
  have other : ¬ (0x30 ≤ h.toNat ∧ h.toNat ≤ 0x39) := notDigit
  simp [findSeparator, peek]
  omega

theorem findSeparator_week (notDigit : ¬ IsDigitByte g) :
    findSeparator (a :: b :: c :: d :: 0x57 :: e :: f :: g :: rest) = some 7 := by
  have other : digitByte g = none := if_neg notDigit
  simp [findSeparator, peek, other]

theorem findSeparator_weekDay {h : UInt8} (digit : IsDigitByte g) (notDigit : ¬ IsDigitByte h) :
    findSeparator (a :: b :: c :: d :: 0x57 :: e :: f :: g :: h :: rest) = some 8 := by
  have first : digitByte g = some (g.toNat - 0x30) := if_pos digit
  have other : digitByte h = none := if_neg notDigit
  simp [findSeparator, peek, first, other]

end Separator

theorem not_isDigitByte_t : ¬ IsDigitByte 0x54 := by
  unfold IsDigitByte
  decide

/-- The date ends before its `T`. -/
theorem IsoDate.findSeparator_eq {date : Str} {ordinal : ℕ} (iso : IsoDate date ordinal)
    (rest : Bytes) : findSeparator (asciiBytes date ++ 0x54 :: rest) = some date.length := by
  have dash : UInt8.ofNat (CodePoint.ofChar '-').val = 0x2D := rfl
  have letter : asciiBytes (Str.lit "W") = [0x57] := rfl
  have other : ∀ {b : UInt8}, IsDigitByte b → b.toNat ≠ 0x2D ∧ b.toNat ≠ 0x57 := by
    intro b digit
    unfold IsDigitByte at digit
    omega
  cases iso with
  | @calendar extended date valid year_pos year_le =>
      obtain ⟨a, b, c, d, year, -⟩ := exists_bytes_four date.year
      obtain ⟨e, f, month, digit, -⟩ := exists_bytes_two date.month
      obtain ⟨g, h, day, -⟩ := exists_bytes_two date.day
      cases extended with
      | true =>
          simp only [asciiBytes_append, year, month, day, asciiBytes_mark, dash, List.cons_append,
            List.nil_append]
          rw [findSeparator_dash (other digit).2 (by simp)]
          simp [extendedMark]
      | false =>
          simp only [asciiBytes_append, year, month, day, asciiBytes_no_mark, List.cons_append,
            List.nil_append]
          rw [findSeparator_plain (other digit).1 (other digit).2 (by simp)]
          simp [extendedMark]
  | @week extended year week ordinal valid =>
      obtain ⟨a, b, c, d, year, -⟩ := exists_bytes_four year
      obtain ⟨e, f, week, -⟩ := exists_bytes_two week
      cases extended with
      | true =>
          simp only [asciiBytes_append, year, week, asciiBytes_mark, dash, letter, List.cons_append,
            List.nil_append]
          rw [findSeparator_dashWeek (by decide)]
          simp [extendedMark, Str.lit]
      | false =>
          simp only [asciiBytes_append, year, week, asciiBytes_no_mark, letter, List.cons_append,
            List.nil_append]
          rw [findSeparator_week not_isDigitByte_t]
          simp [extendedMark, Str.lit]
  | @weekDay extended year week day ordinal valid =>
      obtain ⟨a, b, c, d, year, -⟩ := exists_bytes_four year
      obtain ⟨e, f, week, -⟩ := exists_bytes_two week
      obtain ⟨g, day, digit⟩ := exists_bytes_one day
      cases extended with
      | true =>
          simp only [asciiBytes_append, year, week, day, asciiBytes_mark, dash, letter,
            List.cons_append, List.nil_append]
          rw [findSeparator_dashWeekDay not_isDigitByte_t]
          simp [extendedMark, Str.lit]
      | false =>
          simp only [asciiBytes_append, year, week, day, asciiBytes_no_mark, letter,
            List.cons_append, List.nil_append]
          rw [findSeparator_weekDay digit not_isDigitByte_t]
          simp [extendedMark, Str.lit]

theorem parseDate_basic {date : Ymd} (valid : date.Valid) (year_pos : 1 ≤ date.year)
    (year_le : date.year ≤ 9999) (rest : Bytes) :
    parseDate (asciiBytes (padded 4 date.year) ++ (asciiBytes (padded 2 date.month) ++
      (asciiBytes (padded 2 date.day) ++ rest))) 8 =
        some (ymdToOrd date.year date.month date.day) := by
  have month_le := valid.month_le
  have day_le := valid.day_le_longest
  have month : date.month < 10 ^ 2 := by omega
  have day : date.day < 10 ^ 2 := by omega
  have digit := peek_padded Nat.two_pos date.month (asciiBytes (padded 2 date.day) ++ rest)
  have notDash : ¬ peek (asciiBytes (padded 2 date.month) ++
      (asciiBytes (padded 2 date.day) ++ rest)) = 0x2D := by omega
  have notWeek : ¬ peek (asciiBytes (padded 2 date.month) ++
      (asciiBytes (padded 2 date.day) ++ rest)) = 0x57 := by omega
  have consumed : (asciiBytes (padded 4 date.year) ++ (asciiBytes (padded 2 date.month) ++
      (asciiBytes (padded 2 date.day) ++ rest))).length - rest.length = 8 := by
    simp only [List.length_append, length_asciiBytes, length_padded]
    omega
  unfold parseDate
  rw [parseDigits_padded_of_lt (by omega)]
  simp only [Option.bind_eq_bind, Option.bind_some, notDash, notWeek, if_false,
    parseDigits_padded_of_lt month, parseDigits_padded_of_lt day, consumed]
  rw [if_pos ⟨trivial, year_pos, valid.month_pos, month_le, valid.day_pos, valid.day_le⟩]

/-- Only a date of the years 1 to 9999 has a week. -/
theorem isoToOrd_eq_some {year week day ordinal : ℕ}
    (valid : isoToOrd year week day = some ordinal) :
    year ≤ 9999 ∧ week ≤ 53 ∧ day < 8 := by
  rw [isoToOrd] at valid
  split_ifs at valid with within
  omega

/-- A week date with its dashes, or without. -/
theorem parseDate_week {year week ordinal : ℕ} (valid : isoToOrd year week 1 = some ordinal)
    (extended : Bool) (rest : Bytes) :
    parseDate (asciiBytes (padded 4 year) ++ (asciiBytes (extendedMark extended '-') ++
      0x57 :: (asciiBytes (padded 2 week) ++ rest)))
        (7 + (extendedMark extended '-').length) = some ordinal := by
  obtain ⟨year_le, week_le, -⟩ := isoToOrd_eq_some valid
  have week_lt : week < 10 ^ 2 := by omega
  have dashed : ∀ p : Bytes, peek (0x2D :: p) = 0x2D := fun _ => rfl
  have isWeek : ∀ p : Bytes, peek (0x57 :: p) = 0x57 := fun _ => rfl
  have other : ¬ (0x57 : ℕ) = 0x2D := by decide
  have dash : UInt8.ofNat (CodePoint.ofChar '-').val = 0x2D := rfl
  cases extended with
  | true =>
      simp only [asciiBytes_mark, dash, List.cons_append, List.nil_append]
      have consumed : (asciiBytes (padded 4 year) ++ 0x2D :: 0x57 ::
          (asciiBytes (padded 2 week) ++ rest)).length - rest.length = 8 := by
        simp only [List.length_append, List.length_cons, length_asciiBytes, length_padded]
        omega
      unfold parseDate
      rw [parseDigits_padded_of_lt (by omega)]
      simp only [Option.bind_eq_bind, Option.bind_some, dashed, isWeek, if_true,
        List.drop_succ_cons, List.drop_zero, parseDigits_padded_of_lt week_lt, consumed]
      exact valid
  | false =>
      simp only [asciiBytes_no_mark, List.nil_append]
      have consumed : (asciiBytes (padded 4 year) ++ 0x57 ::
          (asciiBytes (padded 2 week) ++ rest)).length - rest.length = 7 := by
        simp only [List.length_append, List.length_cons, length_asciiBytes, length_padded]
        omega
      unfold parseDate
      rw [parseDigits_padded_of_lt (by omega)]
      simp only [Option.bind_eq_bind, Option.bind_some, isWeek, other, if_false, if_true,
        List.drop_succ_cons, List.drop_zero, parseDigits_padded_of_lt week_lt, consumed]
      exact valid

theorem parseDate_weekDay {year week day ordinal : ℕ}
    (valid : isoToOrd year week day = some ordinal) (extended : Bool) (rest : Bytes) :
    parseDate (asciiBytes (padded 4 year) ++ (asciiBytes (extendedMark extended '-') ++
      0x57 :: (asciiBytes (padded 2 week) ++ (asciiBytes (extendedMark extended '-') ++
        (asciiBytes (padded 1 day) ++ rest)))))
          (8 + 2 * (extendedMark extended '-').length) = some ordinal := by
  obtain ⟨year_le, week_le, day_lt⟩ := isoToOrd_eq_some valid
  have week_lt : week < 10 ^ 2 := by omega
  have digit : day < 10 ^ 1 := by omega
  have dashed : ∀ p : Bytes, peek (0x2D :: p) = 0x2D := fun _ => rfl
  have isWeek : ∀ p : Bytes, peek (0x57 :: p) = 0x57 := fun _ => rfl
  have other : ¬ (0x57 : ℕ) = 0x2D := by decide
  have dash : UInt8.ofNat (CodePoint.ofChar '-').val = 0x2D := rfl
  -- the day comes before the end of the date
  cases extended with
  | true =>
      simp only [asciiBytes_mark, dash, List.cons_append, List.nil_append]
      have before : (asciiBytes (padded 4 year) ++ 0x2D :: 0x57 :: (asciiBytes (padded 2 week) ++
          0x2D :: (asciiBytes (padded 1 day) ++ rest))).length -
            (0x2D :: (asciiBytes (padded 1 day) ++ rest)).length < 10 := by
        simp only [List.length_append, List.length_cons, length_asciiBytes, length_padded]
        omega
      unfold parseDate
      rw [parseDigits_padded_of_lt (by omega)]
      simp only [Option.bind_eq_bind, Option.bind_some, dashed, isWeek, if_true,
        List.drop_succ_cons, List.drop_zero, parseDigits_padded_of_lt week_lt, extendedMark,
        List.length_singleton, Nat.reduceMul, Nat.reduceAdd, before,
        parseDigits_padded_of_lt digit]
      exact valid
  | false =>
      simp only [asciiBytes_no_mark, List.nil_append]
      have before : (asciiBytes (padded 4 year) ++ 0x57 :: (asciiBytes (padded 2 week) ++
          (asciiBytes (padded 1 day) ++ rest))).length -
            (asciiBytes (padded 1 day) ++ rest).length < 8 := by
        simp only [List.length_append, List.length_cons, length_asciiBytes, length_padded]
        omega
      unfold parseDate
      rw [parseDigits_padded_of_lt (by omega)]
      simp only [Option.bind_eq_bind, Option.bind_some, isWeek, other, if_false, if_true,
        List.drop_succ_cons, List.drop_zero, parseDigits_padded_of_lt week_lt, extendedMark,
        Bool.false_eq_true, List.length_nil, Nat.mul_zero, Nat.add_zero, before,
        parseDigits_padded_of_lt digit]
      exact valid

/-- And its digits give its ordinal. -/
theorem IsoDate.parseDate_eq {date : Str} {ordinal : ℕ} (iso : IsoDate date ordinal)
    (rest : Bytes) : parseDate (asciiBytes date ++ 0x54 :: rest) date.length = some ordinal := by
  have letter : asciiBytes (Str.lit "W") = [0x57] := rfl
  have one : (Str.lit "W").length = 1 := rfl
  cases iso with
  | @calendar extended date valid year_pos year_le =>
      cases extended with
      | true => exact parseDate_dateBytes valid year_pos year_le (0x54 :: rest)
      | false => exact parseDate_basic valid year_pos year_le (0x54 :: rest)
  | @week extended year week ordinal valid =>
      have read := parseDate_week valid extended (0x54 :: rest)
      simp only [asciiBytes_append, letter, List.append_assoc, List.singleton_append,
        List.length_append, length_padded, one] at read ⊢
      rw [← read]
      congr 1
      omega
  | @weekDay extended year week day ordinal valid =>
      have read := parseDate_weekDay valid extended (0x54 :: rest)
      simp only [asciiBytes_append, letter, List.append_assoc, List.cons_append, List.nil_append,
        List.length_append, length_padded, one] at read ⊢
      rw [← read]
      congr 1
      omega

/-! ## The time of day -/

/-- The last component. -/
theorem parseComponents_last {todo i v : ℕ} {colons : Bool} {t : TimeParts} (two : v < 100)
    (rest : Bytes) :
    parseComponents (todo + 1) i colons t (asciiBytes (padded 2 v) ++ rest) 2 =
      some { t.set i v with excess := peek rest ≠ 0 } := by
  rw [parseComponents, parseDigits_padded_of_lt two]
  rfl

/-- A component with another one right after it. -/
theorem parseComponents_digits {todo i v w left : ℕ} {colons : Bool} {t : TimeParts} (two : v < 100)
    (basic_or_first : i = 0 ∨ colons = false) (more : 3 < left) (rest : Bytes) :
    parseComponents (todo + 1) i colons t
        (asciiBytes (padded 2 v) ++ (asciiBytes (padded 2 w) ++ rest)) left =
      parseComponents todo (i + 1) false (t.set i v) (asciiBytes (padded 2 w) ++ rest)
        (left - 2) := by
  have digit := peek_padded Nat.two_pos w rest
  have notColon : ¬ peek (asciiBytes (padded 2 w) ++ rest) = 0x3A := by omega
  have notPoint : ¬ (peek (asciiBytes (padded 2 w) ++ rest) = 0x2E ∨
      peek (asciiBytes (padded 2 w) ++ rest) = 0x2C) := by omega
  rw [parseComponents, parseDigits_padded_of_lt two]
  simp only [Option.bind_eq_bind, Option.bind_some]
  rw [if_neg (Nat.not_le.mpr more)]
  have colonless : ¬ (if i = 0 then peek (asciiBytes (padded 2 w) ++ rest) = 0x3A
      else colons = true) := by
    by_cases first : i = 0
    · rw [if_pos first]
      exact notColon
    · rw [if_neg first, basic_or_first.resolve_left first]
      exact Bool.false_ne_true
  simp only [colonless, false_and, if_false, notPoint, not_false_eq_true, if_true, decide_false]

/-- A component with a fraction after it. -/
theorem parseComponents_point {todo i v left : ℕ} {colons : Bool} {t : TimeParts} {point : UInt8}
    (two : v < 100) (decimal : point = 0x2E ∨ point = 0x2C) (more : 3 < left) (rest : Bytes) :
    parseComponents (todo + 1) i colons t (asciiBytes (padded 2 v) ++ point :: rest) left =
      parseFraction (t.set i v) rest (left - 3) := by
  have isPoint : peek (point :: rest) = 0x2E ∨ peek (point :: rest) = 0x2C := by
    rcases decimal with rfl | rfl
    · exact .inl rfl
    · exact .inr rfl
  have notColon : ¬ peek (point :: rest) = 0x3A := by omega
  rw [parseComponents, parseDigits_padded_of_lt two]
  simp only [Option.bind_eq_bind, Option.bind_some]
  rw [if_neg (Nat.not_le.mpr more), if_neg fun h => notColon h.2, if_pos isPoint]
  rfl

/-- A number of more digits, cut in two. -/
theorem padded_add (j k n : ℕ) : padded (j + k) n = padded j (n / 10 ^ k) ++ padded k n := by
  induction k generalizing n with
  | zero => simp [padded]
  | succ k ih =>
      rw [← Nat.add_assoc, padded, ih, padded, Nat.pow_succ', ← Nat.div_div_eq_div_mul,
        List.append_assoc]

/-- What may follow a number: nothing, or no digit. -/
def EndsNumber (rest : Bytes) : Prop := rest.head?.all fun b => (digitByte b).isNone

theorem dropWhile_digits {rest : Bytes} (ends : EndsNumber rest) (width n : ℕ) :
    (asciiBytes (padded width n) ++ rest).dropWhile (fun b => (digitByte b).isSome) = rest := by
  have digits : ∀ b ∈ asciiBytes (padded width n), (digitByte b).isSome = true := by
    intro b mem
    rw [digitByte, if_pos (mem_asciiBytes_padded mem)]
    rfl
  rw [List.dropWhile_append_of_pos digits]
  cases rest with
  | nil => rfl
  | cons b rest =>
      have other : digitByte b = none := Option.isNone_iff_eq_none.mp ends
      rw [List.dropWhile_cons_of_neg (by simp [other])]

/-- The first six digits of a fraction count. -/
theorem parseFraction_padded {t : TimeParts} {width n : ℕ} (n_lt : n < 10 ^ width) {rest : Bytes}
    (ends : EndsNumber rest) :
    parseFraction t (asciiBytes (padded width n) ++ rest) width =
      some { t with micro := n * 1000000 / 10 ^ width, excess := peek rest ≠ 0 } := by
  rw [parseFraction]
  rcases Nat.le_total width 6 with few | many
  · have value : 0 * 10 ^ width + n % 10 ^ width = n := by
      rw [Nat.mod_eq_of_lt n_lt]
      omega
    have micro : n * 10 ^ (6 - width) = n * 1000000 / 10 ^ width := by
      have scale : 1000000 = 10 ^ (6 - width) * 10 ^ width := by
        rw [← Nat.pow_add, Nat.sub_add_cancel few]
      rw [scale, ← Nat.mul_assoc, Nat.mul_div_cancel _ (Nat.pow_pos (by decide))]
    have nothing := dropWhile_digits ends 0 0
    rw [Nat.min_eq_left few, parseDigits_padded_of_lt n_lt]
    simp only [Option.bind_eq_bind, Option.bind_some, micro]
    rw [show rest = asciiBytes (padded 0 0) ++ rest from rfl, nothing]
    rfl
  · obtain ⟨more, rfl⟩ := Nat.exists_eq_add_of_le many
    have n_lt' : n / 10 ^ more < 10 ^ 6 := by
      rw [Nat.div_lt_iff_lt_mul (Nat.pow_pos (by decide)), ← Nat.pow_add]
      exact n_lt
    have micro : n / 10 ^ more = n * 1000000 / 10 ^ (6 + more) := by
      rw [Nat.pow_add, Nat.mul_comm n, show (1000000 : ℕ) = 10 ^ 6 from rfl,
        Nat.mul_div_mul_left _ _ (Nat.pow_pos (by decide))]
    rw [Nat.min_eq_right many, padded_add, asciiBytes_append, List.append_assoc,
      parseDigits_padded_of_lt n_lt', micro]
    simp only [Option.bind_eq_bind, Option.bind_some]
    rw [dropWhile_digits ends]
    simp

/-- A component with another one after it, in either format. -/
theorem parseComponents_next {todo i v w left : ℕ} {colons extended : Bool} {t : TimeParts}
    (two : v < 100) (format : i = 0 ∨ colons = extended) (more : 2 ≤ left) (rest : Bytes) :
    parseComponents (todo + 1) i colons t (asciiBytes (padded 2 v) ++
        (asciiBytes (extendedMark extended ':') ++ (asciiBytes (padded 2 w) ++ rest)))
          (2 + (extendedMark extended ':').length + left) =
      parseComponents todo (i + 1) extended (t.set i v) (asciiBytes (padded 2 w) ++ rest) left := by
  have colon : UInt8.ofNat (CodePoint.ofChar ':').val = 0x3A := rfl
  cases extended with
  | true =>
      have after : 2 + (extendedMark true ':').length + left - 3 = left := by
        simp only [extendedMark, if_true, List.length_singleton]
        omega
      rw [asciiBytes_mark, colon, List.singleton_append, parseComponents_colon two format, after]
      simp only [extendedMark, if_true, List.length_singleton]
      omega
  | false =>
      have after : 2 + (extendedMark false ':').length + left - 2 = left := by
        simp only [extendedMark, Bool.false_eq_true, if_false, List.length_nil]
        omega
      rw [asciiBytes_no_mark, List.nil_append, parseComponents_digits two format, after]
      simp only [extendedMark, Bool.false_eq_true, if_false, List.length_nil]
      omega

/-- The parts denote a time of day. -/
structure TimeParts.Denotes (t : TimeParts) (micros : ℕ) : Prop where
  hour_lt : t.hour < 24
  minute_lt : t.minute < 60
  second_lt : t.second < 60
  micro_lt : t.micro < 1000000
  total : (t.hour * 3600 + t.minute * 60 + t.second) * 1000000 + t.micro = micros

/-- A time of day is read up to its end. -/
theorem IsoClock.parseTime_eq {clock : Str} {micros : ℕ} (iso : IsoClock clock micros)
    {rest : Bytes} (ends : EndsNumber rest) :
    ∃ t, parseTime (asciiBytes clock ++ rest) clock.length = some t ∧ t.Denotes micros ∧
      t.excess = decide (peek rest ≠ 0) := by
  have pos : ∀ {n}, 0 < n + 1 := Nat.succ_pos _
  cases iso with
  | hours iso =>
      cases iso with
      | @hour hour hour_lt =>
          refine ⟨⟨hour, 0, 0, 0, peek rest ≠ 0⟩, ?_, ⟨hour_lt, pos, pos, pos, ?_⟩, rfl⟩
          · rw [parseTime, length_padded, parseComponents_last (by omega)]
            rfl
          · dsimp only
            omega
      | @minute extended hour minute hour_lt minute_lt =>
          refine ⟨⟨hour, minute, 0, 0, peek rest ≠ 0⟩, ?_, ⟨hour_lt, minute_lt, pos, pos, ?_⟩, rfl⟩
          · simp only [asciiBytes_append, List.append_assoc, List.length_append, length_padded]
            rw [parseTime, ← Nat.add_assoc,
              parseComponents_next (by omega) (.inl rfl) (Nat.le_refl 2),
              parseComponents_last (by omega)]
            rfl
          · dsimp only
            omega
  | @seconds extended hour minute second hour_lt minute_lt second_lt =>
      refine ⟨⟨hour, minute, second, 0, peek rest ≠ 0⟩, ?_,
        ⟨hour_lt, minute_lt, second_lt, pos, ?_⟩, rfl⟩
      · simp only [asciiBytes_append, List.append_assoc, List.length_append, length_padded]
        rw [parseTime, ← Nat.add_assoc, parseComponents_next (by omega) (.inl rfl) (by omega),
          ← Nat.add_assoc, parseComponents_next (by omega) (.inr rfl) (Nat.le_refl 2),
          parseComponents_last (by omega)]
        rfl
      · dsimp only
        omega
  | @fraction extended hour minute second width n point hour_lt minute_lt second_lt decimal digits
      n_lt =>
      obtain ⟨b, isPoint, decimal⟩ :
          ∃ b, asciiBytes [point] = [b] ∧ (b = 0x2E ∨ b = 0x2C) := by
        rcases decimal with rfl | rfl
        · exact ⟨_, rfl, .inl rfl⟩
        · exact ⟨_, rfl, .inr rfl⟩
      have micro_lt : n * 1000000 / 10 ^ width < 1000000 := by
        rw [Nat.div_lt_iff_lt_mul (Nat.pow_pos (by decide)), Nat.mul_comm n]
        exact Nat.mul_lt_mul_of_pos_left n_lt (by decide)
      refine ⟨⟨hour, minute, second, n * 1000000 / 10 ^ width, peek rest ≠ 0⟩, ?_,
        ⟨hour_lt, minute_lt, second_lt, micro_lt, ?_⟩, rfl⟩
      · have after : 2 + (1 + width) - 3 = width := by omega
        simp only [asciiBytes_append, List.append_assoc, List.length_append, length_padded,
          List.length_singleton]
        rw [parseTime, ← Nat.add_assoc, parseComponents_next (by omega) (.inl rfl) (by omega),
          ← Nat.add_assoc, parseComponents_next (by omega) (.inr rfl) (by omega), isPoint,
          List.singleton_append, parseComponents_point (by omega) decimal (by omega), after,
          parseFraction_padded n_lt ends]
        rfl
      · dsimp only
        omega

/-! ## Characters -/

theorem mem_extendedMark {extended : Bool} {c d : CodePoint} (mem : d ∈ extendedMark extended c) :
    d = c := by
  cases extended with
  | true => exact List.mem_singleton.mp mem
  | false => cases mem

/-- A character of a time of day: a digit, `:`, `.` or `,`. -/
def IsClockChar (c : CodePoint) : Prop :=
  (0x30 ≤ c.val ∧ c.val ≤ 0x39) ∨ c.val = 0x3A ∨ c.val = 0x2E ∨ c.val = 0x2C

theorem IsoHours.isClockChar {hours : Str} {micros : ℕ} (iso : IsoHours hours micros)
    {c : CodePoint} (mem : c ∈ hours) : IsClockChar c := by
  cases iso with
  | hour => exact .inl (mem_padded mem)
  | minute =>
      simp only [List.mem_append] at mem
      rcases mem with (mem | mem) | mem
      · exact .inl (mem_padded mem)
      · rw [mem_extendedMark mem]
        exact .inr (.inl rfl)
      · exact .inl (mem_padded mem)

theorem IsoClock.isClockChar {clock : Str} {micros : ℕ} (iso : IsoClock clock micros)
    {c : CodePoint} (mem : c ∈ clock) : IsClockChar c := by
  have mark : ∀ {extended}, c ∈ extendedMark extended ':' → IsClockChar c := by
    intro extended mem
    rw [mem_extendedMark mem]
    exact .inr (.inl rfl)
  cases iso with
  | hours iso => exact iso.isClockChar mem
  | seconds =>
      simp only [List.mem_append] at mem
      rcases mem with (((mem | mem) | mem) | mem) | mem
      · exact .inl (mem_padded mem)
      · exact mark mem
      · exact .inl (mem_padded mem)
      · exact mark mem
      · exact .inl (mem_padded mem)
  | fraction extended _ _ _ decimal =>
      simp only [List.mem_append, List.mem_singleton] at mem
      rcases mem with (((((mem | mem) | mem) | mem) | mem) | rfl) | mem
      · exact .inl (mem_padded mem)
      · exact mark mem
      · exact .inl (mem_padded mem)
      · exact mark mem
      · exact .inl (mem_padded mem)
      · rcases decimal with rfl | rfl
        · exact .inr (.inr (.inl rfl))
        · exact .inr (.inr (.inr rfl))
      · exact .inl (mem_padded mem)

/-- A character of a date: a digit, `-` or `W`. -/
def IsDateChar (c : CodePoint) : Prop :=
  (0x30 ≤ c.val ∧ c.val ≤ 0x39) ∨ c.val = 0x2D ∨ c.val = 0x57

theorem IsoDate.isDateChar {date : Str} {ordinal : ℕ} (iso : IsoDate date ordinal)
    {c : CodePoint} (mem : c ∈ date) : IsDateChar c := by
  have mark : ∀ {extended}, c ∈ extendedMark extended '-' → IsDateChar c := by
    intro extended mem
    rw [mem_extendedMark mem]
    exact .inr (.inl rfl)
  have letter : c ∈ Str.lit "W" → IsDateChar c := by
    intro mem
    rw [List.mem_singleton.mp mem]
    exact .inr (.inr rfl)
  cases iso with
  | calendar =>
      simp only [List.mem_append] at mem
      rcases mem with (((mem | mem) | mem) | mem) | mem
      · exact .inl (mem_padded mem)
      · exact mark mem
      · exact .inl (mem_padded mem)
      · exact mark mem
      · exact .inl (mem_padded mem)
  | week =>
      simp only [List.mem_append] at mem
      rcases mem with ((mem | mem) | mem) | mem
      · exact .inl (mem_padded mem)
      · exact mark mem
      · exact letter mem
      · exact .inl (mem_padded mem)
  | weekDay =>
      simp only [List.mem_append] at mem
      rcases mem with ((((mem | mem) | mem) | mem) | mem) | mem
      · exact .inl (mem_padded mem)
      · exact mark mem
      · exact letter mem
      · exact .inl (mem_padded mem)
      · exact mark mem
      · exact .inl (mem_padded mem)

/-- A character of a timestamp before its `Z`: ASCII, and no `Z`. -/
def IsPlainChar (c : CodePoint) : Prop := c.val < 0x80 ∧ c.val ≠ 0x5A

theorem IsClockChar.isPlainChar {c : CodePoint} (clock : IsClockChar c) : IsPlainChar c := by
  unfold IsClockChar at clock
  exact ⟨by omega, by omega⟩

theorem IsDateChar.isPlainChar {c : CodePoint} (date : IsDateChar c) : IsPlainChar c := by
  unfold IsDateChar at date
  exact ⟨by omega, by omega⟩

theorem IsoOffset.isPlainChar {zone : Str} {micros : ℤ} (iso : IsoOffset zone micros)
    {c : CodePoint} (mem : c ∈ zone) : IsPlainChar c := by
  cases iso with
  | ahead iso | behind iso =>
      rcases List.mem_append.mp mem with mem | mem
      · rw [List.mem_singleton.mp mem]
        exact ⟨by decide, by decide⟩
      · exact (iso.isClockChar mem).isPlainChar

/-! ## The zone -/

theorem startsZone_of_isClockChar {s : Str} (chars : ∀ c ∈ s, IsClockChar c) {b : UInt8}
    (mem : b ∈ asciiBytes s) : startsZone b = false := by
  obtain ⟨c, hc, rfl⟩ := List.mem_map.mp mem
  have char := chars c hc
  unfold IsClockChar at char
  have value : (UInt8.ofNat c.val).toNat = c.val := by
    rw [UInt8.toNat_ofNat']
    omega
  simp only [startsZone, value, Bool.or_eq_false_iff, decide_eq_false_iff_not]
  omega

/-- Whole minutes. -/
theorem IsoHours.exists_minutes {hours : Str} {micros : ℕ} (iso : IsoHours hours micros) :
    ∃ minutes, micros = minutes * 60000000 := by
  cases iso with
  | @hour hour hour_lt => exact ⟨hour * 60, by omega⟩
  | minute => exact ⟨_, rfl⟩

/-- The parser's offset: zero for less than a second, else with its sign. -/
theorem IsoHours.offset_eq {hours : Str} {micros : ℕ} (iso : IsoHours hours micros) {t : TimeParts}
    (denotes : t.Denotes micros) (negative : Prop) [Decidable negative] :
    (if (t.hour * 3600 + t.minute * 60 + t.second : ℤ) = 0 then (0 : ℤ)
      else if negative then
        -((t.hour * 3600 + t.minute * 60 + t.second : ℤ) * 1000000 + t.micro)
      else (t.hour * 3600 + t.minute * 60 + t.second : ℤ) * 1000000 + t.micro) =
      if negative then -(micros : ℤ) else micros := by
  obtain ⟨minutes, whole⟩ := iso.exists_minutes
  obtain ⟨-, -, -, micro_lt, total⟩ := denotes
  split_ifs <;> omega

/-- A time of day and an offset are read to the end. -/
theorem parseTimeZone_signed {clock hours : Str} {micros ahead : ℕ} {sign : UInt8}
    (clock_iso : IsoClock clock micros) (hours_iso : IsoHours hours ahead)
    (signed : sign = 0x2B ∨ sign = 0x2D) {offset : Offset}
    (same : offset.val = if sign.toNat = 0x2D then -(ahead : ℤ) else ahead) :
    parseTimeZone (asciiBytes clock ++ sign :: asciiBytes hours) = some (micros, some offset) := by
  have starts : startsZone sign = true := by
    rcases signed with rfl | rfl <;> rfl
  have ends : EndsNumber (sign :: asciiBytes hours) := by
    rcases signed with rfl | rfl <;> rfl
  have notZ : ¬ sign.toNat = 0x5A := by
    rcases signed with rfl | rfl <;> decide
  have length : ((asciiBytes clock ++ sign :: asciiBytes hours).takeWhile
      fun b => !startsZone b).length = clock.length := by
    have none_in : ∀ b ∈ asciiBytes clock, (!startsZone b) = true := fun b mem => by
      rw [startsZone_of_isClockChar (fun c => clock_iso.isClockChar) mem]
      rfl
    rw [List.takeWhile_append_of_pos none_in, List.takeWhile_cons_of_neg (by simp [starts]),
      List.append_nil, length_asciiBytes]
  obtain ⟨t, read, denotes, -⟩ := clock_iso.parseTime_eq ends
  obtain ⟨z, zoneRead, zone, complete⟩ := (IsoClock.hours hours_iso).parseTime_eq
    (show EndsNumber [] from rfl)
  have left : (asciiBytes clock ++ sign :: asciiBytes hours).drop clock.length =
      sign :: asciiBytes hours := List.drop_left' (length_asciiBytes clock)
  have finished : z.excess = false := complete
  rw [List.append_nil, ← length_asciiBytes] at zoneRead
  have value := hours_iso.offset_eq zone (sign.toNat = 0x2D)
  unfold parseTimeZone
  dsimp only
  rw [length, read, left]
  simp only [Option.bind_eq_bind, Option.bind_some, notZ, if_false, zoneRead, finished,
    Bool.false_eq_true, value, ← same, offset.property, and_self, dite_true,
    denotes.hour_lt, denotes.minute_lt, denotes.second_lt, if_true, denotes.total]

/-! ## The whole text -/

/-- Text of such characters as bytes. -/
theorem encodeUtf8_sanitize {s : Str} (plain : ∀ c ∈ s, c.val < 0x80) :
    encodeUtf8 (sanitize s) = some (asciiBytes s) := by
  have ascii : isAscii s = true := isAscii_iff.mpr plain
  rw [sanitize_of_isAscii ascii, encodeUtf8_of_isAscii ascii]
  rfl

theorem IsoDate.seven_le {date : Str} {ordinal : ℕ} (iso : IsoDate date ordinal) :
    7 ≤ date.length := by
  have letter : (Str.lit "W").length = 1 := rfl
  cases iso <;> simp only [List.length_append, length_padded, letter] <;> omega

/-- `datetime.fromisoformat` reads a timestamp whose zone is an offset. -/
theorem fromisoformat_of_offset {date clock zone : Str} {ordinal micros : ℕ} {t : AwareDatetime}
    (date_iso : IsoDate date ordinal) (clock_iso : IsoClock clock micros)
    (zone_iso : IsoOffset zone t.offset.val) (pos : 1 ≤ ordinal)
    (wall : t.wall.val = (ordinal - 1) * 86400000000 + micros) :
    fromisoformat (date ++ Str.lit "T" ++ clock ++ zone) = some ⟨t.wall, some t.offset⟩ := by
  have plain : ∀ c ∈ date ++ Str.lit "T" ++ clock ++ zone, c.val < 0x80 := by
    intro c mem
    simp only [List.mem_append] at mem
    rcases mem with ((mem | mem) | mem) | mem
    · exact (date_iso.isDateChar mem).isPlainChar.1
    · rw [List.mem_singleton.mp mem]
      decide
    · exact (clock_iso.isClockChar mem).isPlainChar.1
    · exact (zone_iso.isPlainChar mem).1
  have bytes : asciiBytes (date ++ Str.lit "T" ++ clock ++ zone) =
      asciiBytes date ++ 0x54 :: (asciiBytes clock ++ asciiBytes zone) := by
    rw [asciiBytes_append, asciiBytes_append, asciiBytes_append, List.append_assoc,
      List.append_assoc]
    rfl
  have after : (asciiBytes date ++ 0x54 :: (asciiBytes clock ++ asciiBytes zone)).drop
      date.length = 0x54 :: (asciiBytes clock ++ asciiBytes zone) :=
    List.drop_left' (length_asciiBytes date)
  have left : (asciiBytes date ++ 0x54 :: (asciiBytes clock ++ asciiBytes zone)).drop
      (date.length + sequenceLength (peek
        ((asciiBytes date ++ 0x54 :: (asciiBytes clock ++ asciiBytes zone)).drop date.length))) =
      asciiBytes clock ++ asciiBytes zone := by
    rw [← List.drop_drop, after]
    rfl
  have time : parseTimeZone (asciiBytes clock ++ asciiBytes zone) =
      some (micros, some t.offset) := by
    generalize hvalue : t.offset.val = value at zone_iso
    cases zone_iso with
    | ahead hours_iso =>
        exact parseTimeZone_signed clock_iso hours_iso (.inl rfl) hvalue
    | behind hours_iso =>
        exact parseTimeZone_signed clock_iso hours_iso (.inr rfl) hvalue
  have long := date_iso.seven_le
  refine fromisoformat_of_parts (p := asciiBytes date ++ 0x54 :: (asciiBytes clock ++
    asciiBytes zone)) ?_ ?_ (date_iso.findSeparator_eq _) (date_iso.parseDate_eq _) ?_
    ?_ pos wall.symm
  · simp only [List.length_append]
    omega
  · rw [encodeUtf8_sanitize plain, bytes]
  · rw [List.length_append, length_asciiBytes, List.length_cons]
    omega
  · rw [left, time]

/-- A text without the letter is not changed, and at its end the letter is replaced. -/
theorem replace_last {s new : Str} (absent : CodePoint.ofChar 'Z' ∉ s) :
    replace (s ++ Str.lit "Z") "Z" new = s ++ new := by
  induction s with
  | nil => exact List.append_nil new
  | cons c rest ih =>
      have other : ¬ (Str.lit "Z").isPrefixOf (c :: (rest ++ Str.lit "Z")) = true := by
        intro starts
        have same : CodePoint.ofChar 'Z' = c := by
          simpa [Str.lit, List.isPrefixOf] using starts
        exact absent (same ▸ List.mem_cons_self)
      have unchanged := ih fun mem => absent (List.mem_cons_of_mem c mem)
      unfold replace at unchanged ⊢
      rw [List.cons_append, replaceFrom, if_neg other, unchanged, List.cons_append]

/-- No `Z` stands before the zone. -/
theorem not_mem_before_zone {date clock : Str} {ordinal micros : ℕ}
    (date_iso : IsoDate date ordinal) (clock_iso : IsoClock clock micros) :
    CodePoint.ofChar 'Z' ∉ date ++ Str.lit "T" ++ clock := by
  intro mem
  simp only [List.mem_append] at mem
  rcases mem with (mem | mem) | mem
  · exact (date_iso.isDateChar mem).isPlainChar.2 rfl
  · cases List.mem_singleton.mp mem
  · exact (clock_iso.isClockChar mem).isPlainChar.2 rfl

/-- A `Z` ends the timestamp. -/
theorem IsoTimestamp.rest_eq_nil {s rest : Str} {t : AwareDatetime}
    (iso : IsoTimestamp (s ++ CodePoint.ofChar 'Z' :: rest) t) : rest = [] := by
  generalize written : s ++ CodePoint.ofChar 'Z' :: rest = text at iso
  obtain ⟨date_iso, clock_iso, zone_iso, -, -⟩ := iso
  rename_i date clock zone ordinal micros
  have absent := not_mem_before_zone date_iso clock_iso
  have mem : CodePoint.ofChar 'Z' ∈ s ++ CodePoint.ofChar 'Z' :: rest := by simp
  generalize t.offset.val = value at zone_iso
  cases zone_iso with
  | utc =>
      rcases List.eq_nil_or_concat rest with none_left | ⟨rest', last, rfl⟩
      · exact none_left
      · -- then the letter would stand before the zone
        rw [List.concat_eq_append, ← List.cons_append, ← List.append_assoc] at written
        have same := (List.append_inj' written rfl).1
        exact absurd (same ▸ (by simp)) absent
  | offset offset =>
      rw [written] at mem
      rcases List.mem_append.mp mem with mem | mem
      · exact absurd mem absent
      · exact absurd rfl (offset.isPlainChar mem).2

/-- A timestamp is read as what it denotes once `Z` is written as an offset. -/
theorem IsoTimestamp.fromisoformat_replace {text : Str} {t : AwareDatetime}
    (iso : IsoTimestamp text t) :
    fromisoformat (replace text "Z" "+00:00") = some ⟨t.wall, some t.offset⟩ := by
  obtain ⟨date_iso, clock_iso, zone_iso, pos, wall⟩ := iso
  rename_i date clock zone ordinal micros
  have absent := not_mem_before_zone date_iso clock_iso
  generalize hvalue : t.offset.val = value at zone_iso
  cases zone_iso with
  | utc =>
      rw [replace_last absent]
      have hours : IsoHours (Str.lit "00:00") 0 :=
        @IsoHours.minute true 0 0 (by decide) (by decide)
      have offset : IsoOffset (Str.lit "+00:00") t.offset.val := hvalue ▸ IsoOffset.ahead hours
      exact fromisoformat_of_offset date_iso clock_iso offset pos wall
  | offset offset =>
      have none_in : CodePoint.ofChar 'Z' ∉ date ++ Str.lit "T" ++ clock ++ zone := by
        intro mem
        rcases List.mem_append.mp mem with mem | mem
        · exact absent mem
        · exact (offset.isPlainChar mem).2 rfl
      rw [replace_of_head_not_mem rfl none_in]
      exact fromisoformat_of_offset date_iso clock_iso (hvalue ▸ offset) pos wall

end Python
