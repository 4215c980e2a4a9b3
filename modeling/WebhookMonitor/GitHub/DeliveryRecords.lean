import WebhookMonitor.GitHub.Client
import WebhookMonitor.Python.IsoText

/-!
# The grammar of delivery records

What `parse_delivery_summary` accepts.  The grammar asks for twelve typed members;
the parser differs from it in three ways:

* `isinstance(value, int)` holds of a boolean, so a boolean passes for an integer;
* `parse_datetime` replaces every `Z` wherever it stands, and `fromisoformat` lets other
  texts pass than those of the standard, so `2026-01-01ZZ` passes for a timestamp;
* `float(value)` of a very large integer raises, so such a `duration` does not pass.

`HasRecordShape` is the grammar over a notion of integer and one of timestamp,
`parses_iff` what the parser accepts in its terms, and `followsGrammar_iff` where the
two agree.
-/

namespace WebhookMonitor

open Python

/-! ## The grammar -/

/-- An ISO timestamp with an offset or `Z`. -/
def IsTimestampOf (value : Json) (t : AwareDatetime) : Prop :=
  ∃ text, value = .str text ∧ IsoTimestamp text t

def IsTimestamp (value : Json) : Prop := ∃ t, IsTimestampOf value t

/-- A text that `fromisoformat` reads, with an offset, once every `Z` is replaced. -/
def IsReadableTimestampOf (value : Json) (t : AwareDatetime) : Prop :=
  ∃ text read, value = .str text ∧ fromisoformat (replace text "Z" "+00:00") = some read ∧
    read.aware? = some t

def IsReadableTimestamp (value : Json) : Prop := ∃ t, IsReadableTimestampOf value t

/-- A JSON integer. -/
def IsInteger (value : Json) : Prop := ∃ n, value = .int n

/-- `isinstance(value, int)`. -/
def IsIntegerOrBool (value : Json) : Prop := ∃ n, value.int? = some n

/-- The members of a delivery record; `integer` and `timestamp` say what counts as one. -/
structure HasRecordShape (integer timestamp : Json → Prop) (members : Members) : Prop where
  id : integer (Members.get members "id")
  guid : ∃ s, Members.get members "guid" = .str s
  deliveredAt : timestamp (Members.get members "delivered_at")
  redelivery : ∃ b, Members.get members "redelivery" = .bool b
  duration : Members.get members "duration" = .null ∨ integer (Members.get members "duration") ∨
    ∃ x, Members.get members "duration" = .float x
  status : IsTextOrNull (Members.get members "status")
  statusCode : Members.get members "status_code" = .null ∨
    integer (Members.get members "status_code")
  event : IsTextOrNull (Members.get members "event")
  action : IsTextOrNull (Members.get members "action")
  installationId : Members.get members "installation_id" = .null ∨
    integer (Members.get members "installation_id")
  repositoryId : Members.get members "repository_id" = .null ∨
    integer (Members.get members "repository_id")
  throttledAt : Members.get members "throttled_at" = .null ∨
    timestamp (Members.get members "throttled_at")

/-- A delivery record. -/
def IsDeliveryRecord (value : Json) : Prop :=
  ∃ members, value = .dict members ∧ HasRecordShape IsInteger IsTimestamp members

/-- An integer that `float` refuses. -/
def TooLargeForFloat (value : Json) : Prop := ∃ n, value = .int n ∧ floatOfInt n = none

/-- The members an integer is asked for. -/
def integerKeys : List Str := ["id", "duration", "status_code", "installation_id", "repository_id"]

def HasBoolean (members : Members) : Prop :=
  ∃ key ∈ integerKeys, ∃ b, Members.get members key = .bool b

/-- The members a timestamp is asked for. -/
def timestampKeys : List Str := ["delivered_at", "throttled_at"]

/-- A text that can be read as a timestamp and is none: a `Z` that is not its end, or more
than one, another separator than `T`, or characters that the reading skips. -/
def HasOddTimestamp (members : Members) : Prop :=
  ∃ key ∈ timestampKeys, IsReadableTimestamp (Members.get members key) ∧
    ¬IsTimestamp (Members.get members key)

/-- A timestamp is read as what it denotes. -/
theorem IsTimestampOf.readable {value : Json} {t : AwareDatetime}
    (timestamp : IsTimestampOf value t) :
    IsReadableTimestampOf value t := by
  obtain ⟨text, rfl, iso⟩ := timestamp
  exact ⟨text, _, rfl, iso.fromisoformat_replace, rfl⟩

theorem IsReadableTimestampOf.unique {value : Json} {t t' : AwareDatetime}
    (readable : IsReadableTimestampOf value t) (readable' : IsReadableTimestampOf value t') :
    t = t' := by
  obtain ⟨text, read, rfl, found, zoned⟩ := readable
  obtain ⟨_, _, same, found', zoned'⟩ := readable'
  cases same
  cases found.symm.trans found'
  exact Option.some.inj (zoned.symm.trans zoned')

/-! ## The field parsers -/

theorem requireKey_bind {α : Type} {members : Members} {key : Str}
    {parse : Json → Except BuiltinError α} {a : α} (absent : parse .null ≠ .ok a) :
    (requireKey members key >>= parse) = .ok a ↔ parse (Members.get members key) = .ok a := by
  rw [requireKey, Members.get]
  cases Members.lookup members key with
  | none => exact ⟨nofun, fun parsed => absurd parsed absent⟩
  | some value => exact Iff.rfl

theorem requireInt_eq_ok {members : Members} {key : Str} {n : ℤ} :
    requireInt members key = .ok n ↔ (Members.get members key).int? = some n := by
  rw [requireInt]
  refine Iff.trans (requireKey_bind ?_) orRaise_eq_ok
  exact nofun

theorem requireStr_eq_ok {members : Members} {key s : Str} :
    requireStr members key = .ok s ↔ Members.get members key = .str s := by
  rw [requireStr]
  refine Iff.trans (requireKey_bind ?_) (Iff.trans orRaise_eq_ok ?_)
  · exact nofun
  · cases Members.get members key with
    | str s' => exact ⟨fun h => congrArg Json.str (Option.some.inj h), fun h => (by cases h; rfl)⟩
    | _ => exact ⟨nofun, nofun⟩

theorem requireBool_eq_ok {members : Members} {key : Str} {b : Bool} :
    requireBool members key = .ok b ↔ Members.get members key = .bool b := by
  rw [requireBool]
  refine Iff.trans (requireKey_bind ?_) (Iff.trans orRaise_eq_ok ?_)
  · exact nofun
  · cases Members.get members key with
    | bool b' => exact ⟨fun h => congrArg Json.bool (Option.some.inj h), fun h => (by cases h; rfl)⟩
    | _ => exact ⟨nofun, nofun⟩

theorem parseDatetime_eq_ok {value : Json} {t : AwareDatetime} :
    parseDatetime value = .ok t ↔ IsReadableTimestampOf value t := by
  constructor
  · intro parsed
    obtain ⟨text, written, parsed⟩ := bind_eq_ok.mp parsed
    obtain ⟨read, found, zoned⟩ := bind_eq_ok.mp parsed
    cases value with
    | str s =>
        cases written
        exact ⟨text, read, rfl, orRaise_eq_ok.mp found, orRaise_eq_ok.mp zoned⟩
    | _ => cases written
  · rintro ⟨text, read, rfl, found, zoned⟩
    exact bind_eq_ok.mpr ⟨text, rfl, bind_eq_ok.mpr ⟨read, orRaise_eq_ok.mpr found,
      orRaise_eq_ok.mpr zoned⟩⟩

theorem parseRequiredDatetime_eq_ok {members : Members} {key : Str} {t : AwareDatetime} :
    parseRequiredDatetime members key = .ok t ↔
      IsReadableTimestampOf (Members.get members key) t := by
  rw [parseRequiredDatetime]
  refine Iff.trans (requireKey_bind ?_) parseDatetime_eq_ok
  exact nofun

theorem optional_eq_ok {α : Type} {parse : Json → Except BuiltinError α} {value : Json}
    {o : Option α} :
    optional parse value = .ok o ↔
      (value = .null ∧ o = none) ∨ (value ≠ .null ∧ ∃ a, parse value = .ok a ∧ o = some a) := by
  rw [optional]
  by_cases null : value.isNone = true
  · rw [if_pos null]
    rw [Json.isNone_iff] at null
    constructor
    · intro h
      cases h
      exact .inl ⟨null, rfl⟩
    · rintro (⟨-, rfl⟩ | ⟨present, -⟩)
      · rfl
      · exact absurd null present
  · rw [if_neg null, map_eq_ok]
    rw [Json.isNone_iff] at null
    constructor
    · rintro ⟨a, parsed, rfl⟩
      exact .inr ⟨null, a, parsed, rfl⟩
    · rintro (⟨present, -⟩ | ⟨-, a, parsed, rfl⟩)
      · exact absurd present null
      · exact ⟨a, parsed, rfl⟩

/-- An optional member passes when it is null or what is asked for. -/
theorem optional_isOk {α : Type} {parse : Json → Except BuiltinError α} {value : Json} :
    (∃ o, optional parse value = .ok o) ↔ value = .null ∨ ∃ a, parse value = .ok a := by
  constructor
  · rintro ⟨o, parsed⟩
    rcases optional_eq_ok.mp parsed with ⟨null, -⟩ | ⟨-, a, parsed, -⟩
    · exact .inl null
    · exact .inr ⟨a, parsed⟩
  · intro accepted
    by_cases null : value = .null
    · exact ⟨none, optional_eq_ok.mpr (.inl ⟨null, rfl⟩)⟩
    · rcases accepted with accepted | ⟨a, parsed⟩
      · exact absurd accepted null
      · exact ⟨some a, optional_eq_ok.mpr (.inr ⟨null, a, parsed, rfl⟩)⟩

theorem optionalInt_isOk {value : Json} :
    (∃ o, optionalInt value = .ok o) ↔ value = .null ∨ IsIntegerOrBool value := by
  rw [optionalInt, optional_isOk]
  simp only [orRaise_eq_ok]
  rfl

theorem optionalStr_isOk {value : Json} :
    (∃ o, optionalStr value = .ok o) ↔ IsTextOrNull value := by
  rw [optionalStr, optional_isOk]
  refine or_congr_right ?_
  cases value with
  | str s => exact ⟨fun _ => ⟨s, rfl⟩, fun _ => ⟨s, rfl⟩⟩
  | _ => exact ⟨fun ⟨_, parsed⟩ => (by cases parsed), fun ⟨_, same⟩ => (by cases same)⟩

theorem parseOptionalDatetime_isOk {value : Json} :
    (∃ o, parseOptionalDatetime value = .ok o) ↔ value = .null ∨ IsReadableTimestamp value := by
  rw [parseOptionalDatetime, optional_isOk]
  simp only [parseDatetime_eq_ok]
  rfl

/-- The floats of 0 and 1, which a boolean stands for. -/
theorem floatOfInt_bool (b : Bool) : (floatOfInt (if b then 1 else 0)).isSome = true := by
  cases b <;> decide +kernel

theorem optionalNumber_isOk {value : Json} :
    (∃ o, optionalNumber value = .ok o) ↔
      (value = .null ∨ IsIntegerOrBool value ∨ ∃ x, value = .float x) ∧
        ¬TooLargeForFloat value := by
  rw [optionalNumber, optional_isOk]
  cases value with
  | null => exact ⟨fun _ => ⟨.inl rfl, nofun⟩, fun _ => .inl rfl⟩
  | float x => exact ⟨fun _ => ⟨.inr (.inr ⟨x, rfl⟩), nofun⟩, fun _ => .inr ⟨x, rfl⟩⟩
  | bool b =>
      refine ⟨fun _ => ⟨.inr (.inl ⟨_, rfl⟩), nofun⟩, fun _ => .inr ?_⟩
      obtain ⟨x, converted⟩ := Option.isSome_iff_exists.mp (floatOfInt_bool b)
      exact ⟨x, orRaise_eq_ok.mpr converted⟩
  | int n =>
      constructor
      · rintro (same | ⟨x, converted⟩)
        · cases same
        · refine ⟨.inr (.inl ⟨n, rfl⟩), ?_⟩
          rintro ⟨m, same, large⟩
          cases same
          rw [orRaise_eq_ok.mp converted] at large
          cases large
      · rintro ⟨-, fits⟩
        cases converted : floatOfInt n with
        | none => exact absurd ⟨n, rfl, converted⟩ fits
        | some x => exact .inr ⟨x, orRaise_eq_ok.mpr converted⟩
  | str s => exact ⟨by rintro (same | ⟨x, parsed⟩) <;> contradiction,
      by rintro ⟨same | ⟨n, same⟩ | ⟨x, same⟩, -⟩ <;> contradiction⟩
  | list items => exact ⟨by rintro (same | ⟨x, parsed⟩) <;> contradiction,
      by rintro ⟨same | ⟨n, same⟩ | ⟨x, same⟩, -⟩ <;> contradiction⟩
  | dict members => exact ⟨by rintro (same | ⟨x, parsed⟩) <;> contradiction,
      by rintro ⟨same | ⟨n, same⟩ | ⟨x, same⟩, -⟩ <;> contradiction⟩

/-! ## The record -/

/-- The twelve fields, each parsed from its own member. -/
structure ParsesTo (members : Members) (summary : GitHubDeliverySummary) : Prop where
  id : requireInt members "id" = .ok summary.githubDeliveryId
  guid : requireStr members "guid" = .ok summary.deliveryGuid
  deliveredAt : parseRequiredDatetime members "delivered_at" = .ok summary.deliveredAt
  redelivery : requireBool members "redelivery" = .ok summary.redelivery
  duration : optionalNumber (Members.get members "duration") = .ok summary.duration
  status : optionalStr (Members.get members "status") = .ok summary.status
  statusCode : optionalInt (Members.get members "status_code") = .ok summary.statusCode
  event : optionalStr (Members.get members "event") = .ok summary.event
  action : optionalStr (Members.get members "action") = .ok summary.action
  installationId : optionalInt (Members.get members "installation_id") = .ok summary.installationId
  repositoryId : optionalInt (Members.get members "repository_id") = .ok summary.repositoryId
  throttledAt : parseOptionalDatetime (Members.get members "throttled_at") = .ok summary.throttledAt

theorem parseDeliverySummary_eq_ok {value : Json} {summary : GitHubDeliverySummary} :
    parseDeliverySummary value = .ok summary ↔
      ∃ members, value = .dict members ∧ ParsesTo members summary := by
  constructor
  · intro parsed
    cases value with
    | dict members =>
        obtain ⟨_, id, parsed⟩ := bind_eq_ok.mp parsed
        obtain ⟨_, guid, parsed⟩ := bind_eq_ok.mp parsed
        obtain ⟨_, deliveredAt, parsed⟩ := bind_eq_ok.mp parsed
        obtain ⟨_, redelivery, parsed⟩ := bind_eq_ok.mp parsed
        obtain ⟨_, duration, parsed⟩ := bind_eq_ok.mp parsed
        obtain ⟨_, status, parsed⟩ := bind_eq_ok.mp parsed
        obtain ⟨_, statusCode, parsed⟩ := bind_eq_ok.mp parsed
        obtain ⟨_, event, parsed⟩ := bind_eq_ok.mp parsed
        obtain ⟨_, action, parsed⟩ := bind_eq_ok.mp parsed
        obtain ⟨_, installationId, parsed⟩ := bind_eq_ok.mp parsed
        obtain ⟨_, repositoryId, parsed⟩ := bind_eq_ok.mp parsed
        obtain ⟨_, throttledAt, parsed⟩ := bind_eq_ok.mp parsed
        cases parsed
        exact ⟨members, rfl, id, guid, deliveredAt, redelivery, duration, status, statusCode, event,
          action, installationId, repositoryId, throttledAt⟩
    | _ => cases parsed
  · rintro ⟨members, rfl, parses⟩
    rw [parseDeliverySummary, parses.id, ok_bind, parses.guid, ok_bind, parses.deliveredAt, ok_bind,
      parses.redelivery, ok_bind, parses.duration, ok_bind, parses.status, ok_bind,
      parses.statusCode, ok_bind, parses.event, ok_bind, parses.action, ok_bind,
      parses.installationId, ok_bind, parses.repositoryId, ok_bind, parses.throttledAt, ok_bind]
    rfl

/-- What the parser accepts: the grammar with booleans for integers and readable texts for
timestamps, and a duration that fits a float. -/
theorem parses_iff {value : Json} :
    (∃ summary, parseDeliverySummary value = .ok summary) ↔
      ∃ members, value = .dict members ∧
        HasRecordShape IsIntegerOrBool IsReadableTimestamp members ∧
        ¬TooLargeForFloat (Members.get members "duration") := by
  constructor
  · rintro ⟨summary, parsed⟩
    obtain ⟨members, rfl, parses⟩ := parseDeliverySummary_eq_ok.mp parsed
    obtain ⟨duration, fits⟩ := optionalNumber_isOk.mp ⟨_, parses.duration⟩
    exact ⟨members, rfl,
      { id := ⟨_, requireInt_eq_ok.mp parses.id⟩
        guid := ⟨_, requireStr_eq_ok.mp parses.guid⟩
        deliveredAt := ⟨_, parseRequiredDatetime_eq_ok.mp parses.deliveredAt⟩
        redelivery := ⟨_, requireBool_eq_ok.mp parses.redelivery⟩
        duration
        status := optionalStr_isOk.mp ⟨_, parses.status⟩
        statusCode := optionalInt_isOk.mp ⟨_, parses.statusCode⟩
        event := optionalStr_isOk.mp ⟨_, parses.event⟩
        action := optionalStr_isOk.mp ⟨_, parses.action⟩
        installationId := optionalInt_isOk.mp ⟨_, parses.installationId⟩
        repositoryId := optionalInt_isOk.mp ⟨_, parses.repositoryId⟩
        throttledAt := parseOptionalDatetime_isOk.mp ⟨_, parses.throttledAt⟩ }, fits⟩
  · rintro ⟨members, rfl, shape, fits⟩
    obtain ⟨githubDeliveryId, id⟩ := shape.id
    obtain ⟨deliveryGuid, guid⟩ := shape.guid
    obtain ⟨deliveredAt, delivered⟩ := shape.deliveredAt
    obtain ⟨redelivery, redelivered⟩ := shape.redelivery
    obtain ⟨duration, lasted⟩ := optionalNumber_isOk.mpr ⟨shape.duration, fits⟩
    obtain ⟨status, hstatus⟩ := optionalStr_isOk.mpr shape.status
    obtain ⟨statusCode, hstatusCode⟩ := optionalInt_isOk.mpr shape.statusCode
    obtain ⟨event, hevent⟩ := optionalStr_isOk.mpr shape.event
    obtain ⟨action, haction⟩ := optionalStr_isOk.mpr shape.action
    obtain ⟨installationId, hinstallation⟩ := optionalInt_isOk.mpr shape.installationId
    obtain ⟨repositoryId, hrepository⟩ := optionalInt_isOk.mpr shape.repositoryId
    obtain ⟨throttledAt, hthrottled⟩ := parseOptionalDatetime_isOk.mpr shape.throttledAt
    exact ⟨⟨githubDeliveryId, deliveryGuid, deliveredAt, redelivery, duration, status, statusCode,
      event, action, installationId, repositoryId, throttledAt⟩,
      parseDeliverySummary_eq_ok.mpr ⟨members, rfl, requireInt_eq_ok.mpr id,
        requireStr_eq_ok.mpr guid, parseRequiredDatetime_eq_ok.mpr delivered,
        requireBool_eq_ok.mpr redelivered, lasted, hstatus, hstatusCode, hevent, haction,
        hinstallation, hrepository, hthrottled⟩⟩

/-! ## What a summary carries -/

/-- A number, as a float. -/
def IsNumberOf (value : Json) (x : PyFloat) : Prop :=
  value = .float x ∨ ∃ n, value = .int n ∧ floatOfInt n = some x

/-- An optional member: null for none. -/
def CarriesOptional {α : Type} (carries : Json → α → Prop) (value : Json) : Option α → Prop
  | none => value = .null
  | some a => carries value a

/-- Every field has the value of its own member. -/
structure Carries (members : Members) (summary : GitHubDeliverySummary) : Prop where
  id : Members.get members "id" = .int summary.githubDeliveryId
  guid : Members.get members "guid" = .str summary.deliveryGuid
  deliveredAt : IsTimestampOf (Members.get members "delivered_at") summary.deliveredAt
  redelivery : Members.get members "redelivery" = .bool summary.redelivery
  duration : CarriesOptional IsNumberOf (Members.get members "duration") summary.duration
  status : CarriesOptional (· = .str ·) (Members.get members "status") summary.status
  statusCode : CarriesOptional (· = .int ·) (Members.get members "status_code") summary.statusCode
  event : CarriesOptional (· = .str ·) (Members.get members "event") summary.event
  action : CarriesOptional (· = .str ·) (Members.get members "action") summary.action
  installationId :
    CarriesOptional (· = .int ·) (Members.get members "installation_id") summary.installationId
  repositoryId :
    CarriesOptional (· = .int ·) (Members.get members "repository_id") summary.repositoryId
  throttledAt :
    CarriesOptional IsTimestampOf (Members.get members "throttled_at") summary.throttledAt

theorem carriesOptional_of_optional {α : Type} {parse : Json → Except BuiltinError α}
    {carries : Json → α → Prop} {value : Json} {o : Option α}
    (parsed : optional parse value = .ok o)
    (present : ∀ a, parse value = .ok a → carries value a) : CarriesOptional carries value o := by
  rcases optional_eq_ok.mp parsed with ⟨null, rfl⟩ | ⟨-, a, found, rfl⟩
  · exact null
  · exact present a found

theorem eq_int_of_int? {value : Json} {n : ℤ} (integral : value.int? = some n)
    (notBool : ∀ b, value ≠ .bool b) : value = .int n := by
  cases value with
  | int m =>
      cases integral
      rfl
  | bool b => exact absurd rfl (notBool b)
  | _ => cases integral

theorem carries_of_optionalInt {value : Json} {o : Option ℤ} (parsed : optionalInt value = .ok o)
    (notBool : ∀ b, value ≠ .bool b) : CarriesOptional (· = .int ·) value o :=
  carriesOptional_of_optional parsed fun _ integral =>
    eq_int_of_int? (orRaise_eq_ok.mp integral) notBool

theorem carries_of_optionalStr {value : Json} {o : Option Str}
    (parsed : optionalStr value = .ok o) :
    CarriesOptional (· = .str ·) value o := by
  refine carriesOptional_of_optional parsed fun s text => ?_
  cases value with
  | str s' =>
      cases text
      rfl
  | _ => cases text

theorem carries_of_optionalNumber {value : Json} {o : Option PyFloat}
    (parsed : optionalNumber value = .ok o) (notBool : ∀ b, value ≠ .bool b) :
    CarriesOptional IsNumberOf value o := by
  refine carriesOptional_of_optional parsed fun x number => ?_
  cases value with
  | float y =>
      cases number
      exact .inl rfl
  | int n => exact .inr ⟨n, rfl, orRaise_eq_ok.mp number⟩
  | bool b => exact absurd rfl (notBool b)
  | _ => cases number

/-- Without booleans for integers and odd timestamps, the fields are the members. -/
theorem ParsesTo.carries {members : Members} {summary : GitHubDeliverySummary}
    (parses : ParsesTo members summary) (noBoolean : ¬HasBoolean members)
    (noOdd : ¬HasOddTimestamp members) : Carries members summary := by
  have notBool : ∀ key ∈ integerKeys, ∀ b, Members.get members key ≠ .bool b :=
    fun key mem b same => noBoolean ⟨key, mem, b, same⟩
  -- what is read of a timestamp is what it denotes
  have denotes : ∀ key ∈ timestampKeys, ∀ t, IsReadableTimestampOf (Members.get members key) t →
      IsTimestampOf (Members.get members key) t := by
    intro key mem t readable
    by_cases timestamp : IsTimestamp (Members.get members key)
    · obtain ⟨t', timestamp⟩ := timestamp
      exact readable.unique timestamp.readable ▸ timestamp
    · exact absurd ⟨key, mem, ⟨t, readable⟩, timestamp⟩ noOdd
  exact {
    id := eq_int_of_int? (requireInt_eq_ok.mp parses.id) (notBool _ (by decide))
    guid := requireStr_eq_ok.mp parses.guid
    deliveredAt := denotes _ (by decide) _ (parseRequiredDatetime_eq_ok.mp parses.deliveredAt)
    redelivery := requireBool_eq_ok.mp parses.redelivery
    duration := carries_of_optionalNumber parses.duration (notBool _ (by decide))
    status := carries_of_optionalStr parses.status
    statusCode := carries_of_optionalInt parses.statusCode (notBool _ (by decide))
    event := carries_of_optionalStr parses.event
    action := carries_of_optionalStr parses.action
    installationId := carries_of_optionalInt parses.installationId (notBool _ (by decide))
    repositoryId := carries_of_optionalInt parses.repositoryId (notBool _ (by decide))
    throttledAt := carriesOptional_of_optional parses.throttledAt fun t parsed =>
      denotes _ (by decide) t (parseDatetime_eq_ok.mp parsed) }

/-! ## Where the parser and the grammar agree -/

/-- The members a record is read from. -/
def recordKeys : List Str :=
  ["id", "guid", "delivered_at", "redelivery", "duration", "status", "status_code", "event",
    "action", "installation_id", "repository_id", "throttled_at"]

/-- Other members change nothing. -/
theorem parseDeliverySummary_congr {members members' : Members}
    (same : ∀ key ∈ recordKeys, Members.lookup members' key = Members.lookup members key) :
    parseDeliverySummary (.dict members') = parseDeliverySummary (.dict members) := by
  have got : ∀ key ∈ recordKeys, Members.get members' key = Members.get members key := by
    intro key mem
    rw [Members.get, same key mem, Members.get]
  simp only [parseDeliverySummary, requireInt, requireStr, parseRequiredDatetime, requireBool,
    requireKey]
  rw [same "id" (by decide), same "guid" (by decide), same "delivered_at" (by decide),
    same "redelivery" (by decide), got "duration" (by decide), got "status" (by decide),
    got "status_code" (by decide), got "event" (by decide), got "action" (by decide),
    got "installation_id" (by decide), got "repository_id" (by decide),
    got "throttled_at" (by decide)]

/-- The parser accepts the value exactly when it is a delivery record, gives each
field the value of its own member, and looks at no other. -/
structure FollowsGrammar (value : Json) : Prop where
  accepts : (∃ summary, parseDeliverySummary value = .ok summary) ↔ IsDeliveryRecord value
  carries : ∀ summary, parseDeliverySummary value = .ok summary →
    ∃ members, value = .dict members ∧ Carries members summary
  ignores : ∀ members members', value = .dict members →
    (∀ key ∈ recordKeys, Members.lookup members' key = Members.lookup members key) →
    parseDeliverySummary (.dict members') = parseDeliverySummary (.dict members)

theorem isIntegerOrBool_iff {value : Json} :
    IsIntegerOrBool value ↔ IsInteger value ∨ ∃ b, value = .bool b := by
  cases value with
  | int n => exact ⟨fun _ => .inl ⟨n, rfl⟩, fun _ => ⟨n, rfl⟩⟩
  | bool b => exact ⟨fun _ => .inr ⟨b, rfl⟩, fun _ => ⟨_, rfl⟩⟩
  | _ =>
      constructor
      · rintro ⟨n, integral⟩
        cases integral
      · rintro (⟨n, same⟩ | ⟨b, same⟩) <;> cases same

/-- The grammar is the lenient one without booleans and odd timestamps. -/
theorem hasRecordShape_isInteger_iff {members : Members} :
    HasRecordShape IsInteger IsTimestamp members ↔
      HasRecordShape IsIntegerOrBool IsReadableTimestamp members ∧ ¬HasBoolean members ∧
        ¬HasOddTimestamp members := by
  constructor
  · intro shape
    have weaken : ∀ {value}, IsInteger value → IsIntegerOrBool value :=
      fun integer => isIntegerOrBool_iff.mpr (.inl integer)
    have readable : ∀ {value}, IsTimestamp value → IsReadableTimestamp value :=
      fun ⟨t, timestamp⟩ => ⟨t, timestamp.readable⟩
    refine ⟨{ shape with
      id := weaken shape.id
      deliveredAt := readable shape.deliveredAt
      duration := shape.duration.imp_right (Or.imp_left weaken)
      statusCode := shape.statusCode.imp_right weaken
      installationId := shape.installationId.imp_right weaken
      repositoryId := shape.repositoryId.imp_right weaken
      throttledAt := shape.throttledAt.imp_right readable }, ?_, ?_⟩
    · -- none of the five integer members is a boolean
      have integral : ∀ {value b}, value = .null ∨ IsInteger value → value ≠ .bool b := by
        rintro value b (rfl | ⟨n, rfl⟩) same <;> cases same
      rintro ⟨key, mem, b, same⟩
      simp only [integerKeys, List.mem_cons, List.not_mem_nil, or_false] at mem
      rcases mem with rfl | rfl | rfl | rfl | rfl
      · exact integral (.inr shape.id) same
      · rcases shape.duration with null | integer | ⟨x, float⟩
        · exact integral (.inl null) same
        · exact integral (.inr integer) same
        · rw [float] at same
          cases same
      · exact integral shape.statusCode same
      · exact integral shape.installationId same
      · exact integral shape.repositoryId same
    · rintro ⟨key, mem, ⟨t, text, -, written, -⟩, odd⟩
      simp only [timestampKeys, List.mem_cons, List.not_mem_nil, or_false] at mem
      rcases mem with rfl | rfl
      · exact odd shape.deliveredAt
      · rcases shape.throttledAt with null | timestamp
        · rw [null] at written
          cases written
        · exact odd timestamp
  · rintro ⟨shape, noBoolean, noOdd⟩
    have strengthen : ∀ key ∈ integerKeys, IsIntegerOrBool (Members.get members key) →
        IsInteger (Members.get members key) := by
      intro key mem integral
      rcases isIntegerOrBool_iff.mp integral with integer | ⟨b, same⟩
      · exact integer
      · exact absurd ⟨key, mem, b, same⟩ noBoolean
    have written : ∀ key ∈ timestampKeys, IsReadableTimestamp (Members.get members key) →
        IsTimestamp (Members.get members key) := fun key mem readable =>
      by_contra fun odd => noOdd ⟨key, mem, readable, odd⟩
    exact { shape with
      id := strengthen _ (by decide) shape.id
      deliveredAt := written _ (by decide) shape.deliveredAt
      duration := shape.duration.imp_right (Or.imp_left (strengthen _ (by decide)))
      statusCode := shape.statusCode.imp_right (strengthen _ (by decide))
      installationId := shape.installationId.imp_right (strengthen _ (by decide))
      repositoryId := shape.repositoryId.imp_right (strengthen _ (by decide))
      throttledAt := shape.throttledAt.imp_right (written _ (by decide)) }

/-- The parser follows the grammar on a value unless it is a record, booleans counted
as integers and readable texts as timestamps, with one of these defects: a boolean for an
integer or an odd timestamp, which the parser lets pass, or a duration too large for a
float, which it does not. -/
theorem followsGrammar_iff (value : Json) :
    FollowsGrammar value ↔
      ∀ members, value = .dict members →
        HasRecordShape IsIntegerOrBool IsReadableTimestamp members →
        ((HasBoolean members ∨ HasOddTimestamp members) ↔
          TooLargeForFloat (Members.get members "duration")) := by
  constructor
  · rintro follows members rfl shape
    constructor
    · intro defect
      -- a boolean or an odd timestamp that parses is no record of the grammar
      by_contra fits
      have accepted := parses_iff.mpr ⟨members, rfl, shape, fits⟩
      obtain ⟨_, same, strict⟩ := follows.accepts.mp accepted
      cases same
      obtain ⟨-, noBoolean, noOdd⟩ := hasRecordShape_isInteger_iff.mp strict
      exact defect.elim noBoolean noOdd
    · intro large
      -- a record with a very large duration does not parse
      by_contra sound
      obtain ⟨noBoolean, noOdd⟩ := not_or.mp sound
      have record : IsDeliveryRecord (.dict members) :=
        ⟨members, rfl, hasRecordShape_isInteger_iff.mpr ⟨shape, noBoolean, noOdd⟩⟩
      obtain ⟨_, same, -, fits⟩ := parses_iff.mp (follows.accepts.mpr record)
      cases same
      exact fits large
  · intro agree
    refine ⟨?_, ?_, ?_⟩
    · rw [parses_iff]
      constructor
      · rintro ⟨members, rfl, shape, fits⟩
        have sound := fun defect => fits ((agree members rfl shape).mp defect)
        exact ⟨members, rfl, hasRecordShape_isInteger_iff.mpr
          ⟨shape, fun boolean => sound (.inl boolean), fun odd => sound (.inr odd)⟩⟩
      · rintro ⟨members, rfl, strict⟩
        obtain ⟨shape, noBoolean, noOdd⟩ := hasRecordShape_isInteger_iff.mp strict
        exact ⟨members, rfl, shape, fun large =>
          ((agree members rfl shape).mpr large).elim noBoolean noOdd⟩
    · intro summary parsed
      obtain ⟨members, rfl, parses⟩ := parseDeliverySummary_eq_ok.mp parsed
      obtain ⟨_, same, shape, fits⟩ := parses_iff.mp ⟨summary, parsed⟩
      cases same
      have sound := fun defect => fits ((agree members rfl shape).mp defect)
      exact ⟨members, rfl,
        parses.carries (fun boolean => sound (.inl boolean)) fun odd => sound (.inr odd)⟩
    · rintro members members' - same
      exact parseDeliverySummary_congr same

/-- A record whose `id` is `true`. -/
def booleanIdRecord : Json :=
  .dict [("id", .bool true), ("guid", .str "g"), ("redelivery", .bool false),
    ("delivered_at", .str "2026-01-01T00:00:00Z")]

/-- It is no delivery record, and it passes for delivery 1. -/
theorem booleanIdRecord_accepted :
    ¬FollowsGrammar booleanIdRecord ∧
      (parseDeliverySummary booleanIdRecord).toOption.map (·.githubDeliveryId) = some 1 := by
  have accepted : (parseDeliverySummary booleanIdRecord).toOption.map (·.githubDeliveryId) =
      some 1 := by decide +kernel
  refine ⟨fun follows => ?_, accepted⟩
  cases parsed : parseDeliverySummary booleanIdRecord with
  | error e =>
      rw [parsed] at accepted
      cases accepted
  | ok summary =>
      obtain ⟨members, same, shape⟩ := follows.accepts.mp ⟨summary, parsed⟩
      cases same
      obtain ⟨n, integer⟩ := shape.id
      cases integer

/-- A record whose `delivered_at` is a date with two `Z`. -/
def repeatedZoneRecord : Json :=
  .dict [("id", .int 1), ("guid", .str "g"), ("redelivery", .bool false),
    ("delivered_at", .str "2026-01-01ZZ")]

/-- It is no delivery record, and it parses: the first replacement passes for the separator. -/
theorem repeatedZoneRecord_accepted :
    ¬FollowsGrammar repeatedZoneRecord ∧
      (parseDeliverySummary repeatedZoneRecord).isOk = true := by
  have accepted : (parseDeliverySummary repeatedZoneRecord).isOk = true := by decide +kernel
  refine ⟨fun follows => ?_, accepted⟩
  cases parsed : parseDeliverySummary repeatedZoneRecord with
  | error e =>
      rw [parsed] at accepted
      cases accepted
  | ok summary =>
      obtain ⟨members, same, shape⟩ := follows.accepts.mp ⟨summary, parsed⟩
      cases same
      obtain ⟨t, text, written, iso⟩ := shape.deliveredAt
      cases written
      cases (show IsoTimestamp (Str.lit "2026-01-01" ++ CodePoint.ofChar 'Z' :: Str.lit "Z") t
        from iso).rest_eq_nil

end WebhookMonitor
