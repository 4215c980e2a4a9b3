import WebhookMonitor.Python.Bytes
import WebhookMonitor.Python.Errors
import WebhookMonitor.Python.Integer

/-!
# Dates and times

A `datetime` is a wall-clock reading, counted here in microseconds from
0001-01-01T00:00, together with a fixed offset from UTC or none.  Only the text
forms need the calendar.  Aware values compare by the instant they denote.

* `AwareDatetime.astimezoneUtc` — `dt.astimezone(timezone.utc)`, which raises
  `OverflowError` when the instant leaves the years 1 to 9999;
* `AwareDatetime.isoformat` — `dt.isoformat()`;
* `fromisoformat` — the C parser of `datetime.fromisoformat`, on the UTF-8 form
  of the text with a terminating zero byte, since its answers on odd input
  depend on that form.
-/

namespace Python

/-! ## The calendar -/

def isLeap (year : ℕ) : Bool := year % 4 = 0 && (year % 100 ≠ 0 || year % 400 = 0)

def daysInMonth (year month : ℕ) : ℕ :=
  if month = 2 then if isLeap year then 29 else 28
  else if month = 4 ∨ month = 6 ∨ month = 9 ∨ month = 11 then 30
  else 31

/-- Days before January 1 of `year`. -/
def daysBeforeYear (year : ℕ) : ℕ :=
  let y := year - 1
  y * 365 + y / 4 - y / 100 + y / 400

/-- Days before the first of each month of a common year. -/
def monthStarts : List ℕ := [0, 31, 59, 90, 120, 151, 181, 212, 243, 273, 304, 334]

/-- Days of `year` before the first of `month`. -/
def daysBeforeMonth (year month : ℕ) : ℕ :=
  monthStarts.getD (month - 1) 0 + if 2 < month ∧ isLeap year = true then 1 else 0

/-- The proleptic Gregorian ordinal: 0001-01-01 is day 1. -/
def ymdToOrd (year month day : ℕ) : ℕ :=
  daysBeforeYear year + daysBeforeMonth year month + day

/-- A calendar date. -/
structure Ymd where
  year : ℕ
  month : ℕ
  day : ℕ
  deriving DecidableEq, Repr

/-- The month and day of the `n`-th day of `year`, counted from zero: an
estimate that is exact or one month too late. -/
def monthDay (year n : ℕ) : Ymd :=
  let month := (n + 50) / 32
  if n < daysBeforeMonth year month then
    ⟨year, month - 1, n - daysBeforeMonth year (month - 1) + 1⟩
  else ⟨year, month, n - daysBeforeMonth year month + 1⟩

/-- The date of an ordinal, by cycles of 400, 100, 4 and 1 years.  The last day
of a cycle of 4 or 400 years belongs to no further full year. -/
def ordToYmd (ordinal : ℕ) : Ymd :=
  let n := ordinal - 1
  let n400 := n / 146097
  let n := n % 146097
  let n100 := n / 36524
  let n := n % 36524
  let n4 := n / 1461
  let n := n % 1461
  let n1 := n / 365
  let n := n % 365
  let year := n400 * 400 + n100 * 100 + n4 * 4 + n1 + 1
  if n1 = 4 ∨ n100 = 4 then ⟨year - 1, 12, 31⟩ else monthDay year n

/-! ## Values -/

/-- The days of the years 1 to 9999. -/
def maxOrdinal : ℕ := 3652059

/-- A wall-clock reading in microseconds. -/
abbrev Wall := Fin (3652059 * 86400000000)

/-- An offset from UTC in microseconds, strictly less than a day either way. -/
abbrev Offset := {o : ℤ // -86400000000 < o ∧ o < 86400000000}

def Offset.utc : Offset := ⟨0, by decide⟩

/-- A `datetime`, naive when it has no offset. -/
structure Datetime where
  wall : Wall
  offset : Option Offset
  deriving DecidableEq

/-- A timezone-aware `datetime`. -/
structure AwareDatetime where
  wall : Wall
  offset : Offset
  deriving DecidableEq

/-- The instant denoted, in microseconds from 0001-01-01T00:00 UTC.  Aware
values compare and are equal by their instants. -/
def AwareDatetime.instant (t : AwareDatetime) : ℤ := t.wall.val - t.offset.val

/-- The reading of a UTC clock. -/
def AwareDatetime.utc (wall : Wall) : AwareDatetime := ⟨wall, Offset.utc⟩

/-- `dt.tzinfo is not None and dt.utcoffset() is not None`, with the value. -/
def Datetime.aware? (t : Datetime) : Option AwareDatetime :=
  t.offset.map fun o => ⟨t.wall, o⟩

/-- `dt.astimezone(timezone.utc)`; `none` is `OverflowError`. -/
def AwareDatetime.astimezoneUtc (t : AwareDatetime) : Option AwareDatetime :=
  if h : 0 ≤ t.instant ∧ t.instant < 3652059 * 86400000000 then
    some (AwareDatetime.utc ⟨t.instant.toNat, by omega⟩)
  else none

theorem AwareDatetime.astimezoneUtc_congr {t t' : AwareDatetime} (same : t.instant = t'.instant) :
    t.astimezoneUtc = t'.astimezoneUtc := by
  unfold astimezoneUtc
  simp only [same]

/-! ## Writing -/

/-- `n` in decimal with at least `width` digits, for `n` below `10 ^ width`. -/
def padded : ℕ → ℕ → Str
  | 0, _ => []
  | width + 1, n => padded width (n / 10) ++ [codePoint (0x30 + n % 10)]

/-- The offset as `isoformat` writes it. -/
def formatOffset (o : ℤ) : Str :=
  let n := o.natAbs
  let hh := n / 3600000000
  let mm := n / 60000000 % 60
  let ss := n / 1000000 % 60
  let us := n % 1000000
  (if o < 0 then Str.lit "-" else Str.lit "+") ++ padded 2 hh ++ Str.lit ":" ++ padded 2 mm ++
    if ss ≠ 0 ∨ us ≠ 0 then
      Str.lit ":" ++ padded 2 ss ++ if us ≠ 0 then Str.lit "." ++ padded 6 us else []
    else []

/-- The wall clock as `isoformat` writes it. -/
def formatWall (wall : Wall) : Str :=
  let date := ordToYmd (wall.val / 86400000000 + 1)
  let n := wall.val % 86400000000
  let us := n % 1000000
  padded 4 date.year ++ Str.lit "-" ++ padded 2 date.month ++ Str.lit "-" ++ padded 2 date.day ++
    Str.lit "T" ++ padded 2 (n / 3600000000) ++ Str.lit ":" ++ padded 2 (n / 60000000 % 60) ++
    Str.lit ":" ++ padded 2 (n / 1000000 % 60) ++
    if us ≠ 0 then Str.lit "." ++ padded 6 us else []

/-- `dt.isoformat()`. -/
def AwareDatetime.isoformat (t : AwareDatetime) : Str :=
  formatWall t.wall ++ formatOffset t.offset.val

/-! ## Reading -/

/-- The byte a C string pointer sees: zero past the end. -/
def peek (p : Bytes) : ℕ := (p.headD 0).toNat

/-- The value of a digit byte. -/
def digitByte (b : UInt8) : Option ℕ :=
  if 0x30 ≤ b.toNat ∧ b.toNat ≤ 0x39 then some (b.toNat - 0x30) else none

/-- Exactly `k` digits, added to `n`, and the rest of the text. -/
def parseDigits : ℕ → ℕ → Bytes → Option (ℕ × Bytes)
  | 0, n, p => some (n, p)
  | _ + 1, _, [] => none
  | k + 1, n, b :: p =>
      match digitByte b with
      | some d => parseDigits k (n * 10 + d) p
      | none => none

/-- Where the date ends.  `none` is the one ambiguous form that is refused. -/
def findSeparator (p : Bytes) : Option ℕ :=
  let at_ := fun i => peek (p.drop i)
  if p.length = 7 then some 7
  else if at_ 4 = 0x2D then
    if at_ 5 = 0x57 then
      if 8 < p.length ∧ at_ 8 = 0x2D then
        if p.length = 9 then none
        else if 10 < p.length ∧ 0x30 ≤ at_ 10 ∧ at_ 10 ≤ 0x39 then some 8
        else some 10
      else some 8
    else some 10
  else if at_ 4 = 0x57 then
    let stop := 7 + ((p.drop 7).takeWhile fun b => (digitByte b).isSome).length
    if stop < 9 then some stop
    else if stop % 2 = 0 then some 7 else some 8
  else some 8

/-- The ordinal of the Monday of ISO week 1. -/
def isoWeek1Monday (year : ℕ) : ℤ :=
  let first := ymdToOrd year 1 1
  let weekday := (first + 6) % 7
  first - weekday + if 3 < weekday then 7 else 0

/-- The ordinal of an ISO week date. -/
def isoToOrd (year week day : ℕ) : Option ℕ :=
  let weekday := (ymdToOrd year 1 1) % 7
  let long := weekday = 4 ∨ (weekday = 3 ∧ isLeap year = true)
  if 1 ≤ year ∧ year ≤ 9999 ∧ 0 < week ∧ (week < 53 ∨ (week = 53 ∧ long)) ∧ 0 < day ∧ day < 8 then
    some (isoWeek1Monday year + (week - 1) * 7 + (day - 1)).toNat
  else none

/-- The ordinal of the date at `p`, which ends at index `len`. -/
def parseDate (p : Bytes) (len : ℕ) : Option ℕ := do
  let (year, q) ← parseDigits 4 0 p
  let dashed := peek q = 0x2D
  let q := if dashed then q.drop 1 else q
  if peek q = 0x57 then
    let (week, q) ← parseDigits 2 0 (q.drop 1)
    if p.length - q.length < len then
      let q ← if dashed then if peek q = 0x2D then some (q.drop 1) else none else some q
      let (day, _) ← parseDigits 1 0 q
      isoToOrd year week day
    else isoToOrd year week 1
  else
    let (month, q) ← parseDigits 2 0 q
    let q ← if dashed then if peek q = 0x2D then some (q.drop 1) else none else some q
    let (day, q) ← parseDigits 2 0 q
    if p.length - q.length = len ∧ 1 ≤ year ∧ 1 ≤ month ∧ month ≤ 12 ∧ 1 ≤ day ∧
        day ≤ daysInMonth year month then
      some (ymdToOrd year month day)
    else none

/-- The components of a time, and whether something was left over. -/
structure TimeParts where
  hour : ℕ
  minute : ℕ
  second : ℕ
  micro : ℕ
  excess : Bool

/-- The time with component `i` set. -/
def TimeParts.set (t : TimeParts) (i v : ℕ) : TimeParts :=
  match i with
  | 0 => { t with hour := v }
  | 1 => { t with minute := v }
  | _ => { t with second := v }

/-- The fraction at `p`, with `left` bytes up to the end of the time. -/
def parseFraction (t : TimeParts) (p : Bytes) (left : ℕ) : Option TimeParts := do
  let k := min left 6
  let (n, p) ← parseDigits k 0 p
  let rest := p.dropWhile fun b => (digitByte b).isSome
  some { t with micro := n * 10 ^ (6 - k), excess := peek rest ≠ 0 }

/-- The components from number `i` on, at `p`, with `left` bytes up to the end
of the time; `todo` components may still come. -/
def parseComponents : ℕ → ℕ → Bool → TimeParts → Bytes → ℕ → Option TimeParts
  | 0, _, _, t, p, left => parseFraction t p left
  | todo + 1, i, colons, t, p, left => do
      let (v, q) ← parseDigits 2 0 p
      let t := t.set i v
      let c := peek q
      let colons := if i = 0 then c = 0x3A else colons
      -- the component and the character after it reach the end
      if left ≤ 3 then some { t with excess := c ≠ 0 }
      else if colons ∧ c = 0x3A then parseComponents todo (i + 1) colons t (q.drop 1) (left - 3)
      else if c = 0x2E ∨ c = 0x2C then parseFraction t (q.drop 1) (left - 3)
      else if ¬ colons then parseComponents todo (i + 1) colons t q (left - 2)
      else none

/-- `HH[:?MM[:?SS[.f+]]]` in the `left` bytes at `p`. -/
def parseTime (p : Bytes) (left : ℕ) : Option TimeParts :=
  parseComponents 3 0 true ⟨0, 0, 0, 0, false⟩ p left

/-- The sign or letter that starts a time zone. -/
def startsZone (b : UInt8) : Bool := b.toNat = 0x2B || b.toNat = 0x2D || b.toNat = 0x5A

/-- The time of day in microseconds and the zone offset at `p`. -/
def parseTimeZone (p : Bytes) : Option (ℕ × Option Offset) := do
  let len := (p.takeWhile fun b => !startsZone b).length
  let t ← parseTime p len
  let zone ←
    match p.drop len with
    | [] => if t.excess then none else some none
    | sign :: rest =>
        if sign.toNat = 0x5A then
          if peek rest = 0 then some (some Offset.utc) else none
        else do
          let z ← parseTime rest rest.length
          let seconds : ℤ := z.hour * 3600 + z.minute * 60 + z.second
          let micros : ℤ := seconds * 1000000 + z.micro
          let o : ℤ := if seconds = 0 then 0 else if sign.toNat = 0x2D then -micros else micros
          if z.excess then none
          else if h : -86400000000 < o ∧ o < 86400000000 then some (some ⟨o, h⟩) else none
  if t.hour < 24 ∧ t.minute < 60 ∧ t.second < 60 then
    some ((t.hour * 3600 + t.minute * 60 + t.second) * 1000000 + t.micro, zone)
  else none

/-- The length of the UTF-8 sequence a byte starts. -/
def sequenceLength (b : ℕ) : ℕ :=
  if b < 0x80 then 1
  else if b / 16 = 0xE then 3
  else if b / 16 = 0xF then 4
  else 2

/-- A surrogate is allowed as the separator only; it is replaced by `T`. -/
def sanitize (s : Str) : Str :=
  let at_ := fun i => s.getD i (codePoint 0)
  let i := if isSurrogate (at_ 7) then 7 else if isSurrogate (at_ 8) then 8 else 10
  if i < s.length ∧ isSurrogate (at_ i) = true then s.set i 'T' else s

/-- `datetime.fromisoformat` of a text; `none` is `ValueError`. -/
def fromisoformat (s : Str) : Option Datetime := do
  if s.length < 7 then none
  else
    let p ← encodeUtf8 (sanitize s)
    let sep ← findSeparator p
    let ordinal ← parseDate p sep
    let (micros, zone) ←
      if sep < p.length then parseTimeZone (p.drop (sep + sequenceLength (peek (p.drop sep))))
      else some (0, none)
    let wall := (ordinal - 1) * 86400000000 + micros
    if h : 1 ≤ ordinal ∧ wall < 3652059 * 86400000000 then some ⟨⟨wall, h.2⟩, zone⟩ else none

end Python
