import Mathlib.Data.List.Nodup
import WebhookMonitor.Python.DatetimeText
import WebhookMonitor.Python.Uuid
import WebhookMonitor.Services.Cursor

/-!
# Cursors of the two listings

The delivery listing and the journal listing hand out a cursor of one form: a
version, a timestamp in UTC and an identifier.  They differ in the names of the
members, which `CursorFormat` holds.

* `encodeKeysetCursor` — fails only when the timestamp has no form in UTC;
* `readKeysetCursor` — the `try` block of the decoders;
* `readKeysetCursor_encode` — a cursor reads back as what it was written from.
-/

namespace WebhookMonitor

open Python

/-! ## Members by name -/

/-- Filling an empty `dict` with distinct keys keeps the members as they are. -/
theorem foldl_set_of_nodup {members : List (Str × Scalar)} {d : Members}
    (distinct : (members.map Prod.fst).Nodup)
    (new : ∀ m ∈ members, ∀ old ∈ d, old.1 ≠ m.1) :
    members.foldl (fun d m => Members.set d m.1 m.2.toJson) d =
      d ++ members.map fun m => (m.1, m.2.toJson) := by
  induction members generalizing d with
  | nil => simp
  | cons m rest ih =>
      rw [List.map_cons, List.nodup_cons] at distinct
      have absent : (d.any fun old => old.1 = m.1) = false := by
        rw [List.any_eq_false]
        intro old mem same
        exact new m List.mem_cons_self old mem (of_decide_eq_true same)
      have set : Members.set d m.1 m.2.toJson = d ++ [(m.1, m.2.toJson)] := by
        rw [Members.set, absent]
        rfl
      rw [List.foldl_cons, set, ih distinct.2]
      · rw [List.append_assoc]
        rfl
      · intro other mem old hold
        rcases List.mem_append.mp hold with hold | hold
        · exact new other (List.mem_cons_of_mem _ mem) old hold
        · obtain rfl := List.mem_singleton.mp hold
          intro same
          exact distinct.1 (List.mem_map.mpr ⟨other, mem, same.symm⟩)

/-- A member that was written is there under its name. -/
theorem lookup_payloadOf {members : List (Str × Scalar)} {key : Str} {value : Scalar}
    (distinct : (members.map Prod.fst).Nodup) (mem : (key, value) ∈ members) :
    Members.lookup (payloadOf members) key = some value.toJson := by
  have sorted : (sortKeys members).Perm members := List.perm_insertionSort _ _
  have distinct' : ((sortKeys members).map Prod.fst).Nodup :=
    (sorted.map Prod.fst).symm.nodup distinct
  rw [payloadOf, foldl_set_of_nodup distinct' (fun _ _ _ h => absurd h List.not_mem_nil),
    List.nil_append, Members.lookup]
  have mem' : (key, value) ∈ sortKeys members := sorted.symm.subset mem
  generalize sortKeys members = members' at distinct' mem'
  induction members' with
  | nil => cases mem'
  | cons m rest ih =>
      rw [List.map_cons, List.nodup_cons] at distinct'
      rcases List.mem_cons.mp mem' with rfl | mem'
      · rw [List.map_cons, List.find?_cons_of_pos (by simp)]
        rfl
      · have other : m.1 ≠ key := by
          intro same
          exact distinct'.1 (List.mem_map.mpr ⟨_, mem', same.symm⟩)
        rw [List.map_cons, List.find?_cons_of_neg (by simpa using other)]
        exact ih distinct'.2 mem'

/-! ## The format -/

/-- The names of the members, and the version. -/
structure CursorFormat where
  version : ℤ
  timeKey : Str
  idKey : Str
  distinct : [Str.lit "v", timeKey, idKey].Nodup
  scalar : isScalar timeKey = true ∧ isScalar idKey = true
  readable : (Scalar.int version).Readable

namespace CursorFormat

variable (format : CursorFormat)

/-- The payload of a cursor; the timestamp is in UTC. -/
def members (utc : AwareDatetime) (id : UUID) : List (Str × Scalar) :=
  [(Str.lit "v", .int format.version), (format.timeKey, .str utc.isoformat),
    (format.idKey, .str (UUID.str id))]

def encodeKeysetCursor (timestamp : AwareDatetime) (id : UUID) : Except BuiltinError Str := do
  let utc ← orRaise .overflowError timestamp.astimezoneUtc
  encodeCursor (format.members utc id)

/-- `datetime.fromisoformat(value)`. -/
def datetimeOfJson : Json → Except BuiltinError Datetime
  | .str s => orRaise .valueError (fromisoformat s)
  | _ => .error .typeError

/-- The `try` block of the decoders. -/
def readKeysetCursor (limit : RecursionLimit) (cursor : Str) :
    Except BuiltinError (AwareDatetime × UUID) := do
  let payload ← cursorPayload limit format.version cursor
  let member ← requireMember payload format.timeKey
  let timestamp ← datetimeOfJson member
  let member ← requireMember payload format.idKey
  let id ← UUID.ofJson member
  let aware ← orRaise .valueError timestamp.aware?
  let utc ← orRaise .overflowError aware.astimezoneUtc
  return (utc, id)

variable {format}

theorem readable_members {wall : Wall} {id : UUID} :
    ∀ m ∈ format.members (AwareDatetime.utc wall) id, m.2.Readable := by
  intro m mem
  simp only [members, List.mem_cons, List.not_mem_nil, or_false] at mem
  rcases mem with rfl | rfl | rfl
  · exact format.readable
  · exact readable_str (isScalar_of_isAscii (isAscii_isoformat_utc wall))
  · exact readable_str (isScalar_of_isAscii (UUID.isAscii_str id))

theorem isScalar_keys {utc : AwareDatetime} {id : UUID} :
    ∀ m ∈ format.members utc id, isScalar m.1 = true := by
  intro m mem
  simp only [members, List.mem_cons, List.not_mem_nil, or_false] at mem
  rcases mem with rfl | rfl | rfl
  · rfl
  · exact format.scalar.1
  · exact format.scalar.2

@[simp] theorem instant_utc (wall : Wall) : (AwareDatetime.utc wall).instant = wall.val := by
  simp [AwareDatetime.instant, AwareDatetime.utc, Offset.utc]

/-- A timestamp in UTC is one of the UTC clock. -/
theorem eq_utc_of_astimezoneUtc {timestamp utc : AwareDatetime}
    (converted : timestamp.astimezoneUtc = some utc) :
    utc = AwareDatetime.utc utc.wall ∧ utc.instant = timestamp.instant := by
  rw [AwareDatetime.astimezoneUtc] at converted
  split_ifs at converted with within
  cases converted
  refine ⟨rfl, ?_⟩
  rw [instant_utc]
  exact Int.toNat_of_nonneg within.1

/-- A time of the UTC clock is its own form in UTC. -/
theorem astimezoneUtc_utc (wall : Wall) :
    (AwareDatetime.utc wall).astimezoneUtc = some (AwareDatetime.utc wall) := by
  have within : 0 ≤ (AwareDatetime.utc wall).instant ∧
      (AwareDatetime.utc wall).instant < 3652059 * 86400000000 := by
    have := wall.isLt
    rw [instant_utc]
    omega
  rw [AwareDatetime.astimezoneUtc, dif_pos within]
  refine congrArg (fun wall => some (AwareDatetime.utc wall)) (Fin.ext ?_)
  change (AwareDatetime.utc wall).instant.toNat = wall.val
  rw [instant_utc]
  exact Int.toNat_natCast _

/-- Writing a cursor fails exactly when the timestamp has no form in UTC. -/
theorem encodeKeysetCursor_isOk {timestamp utc : AwareDatetime} (id : UUID)
    (converted : timestamp.astimezoneUtc = some utc) :
    ∃ cursor, format.encodeKeysetCursor timestamp id = .ok cursor ∧ cursor ≠ [] := by
  have readable : ∀ m ∈ format.members utc id, m.2.Readable := by
    rw [(eq_utc_of_astimezoneUtc converted).1]
    exact readable_members
  have ascii : ∀ m ∈ format.members utc id, isAscii m.2.dumps = true := fun m mem =>
    (readable m mem).ascii
  have encoded := encodeCursor_eq ascii
  refine ⟨_, ?_, encodeCursor_ne_nil ascii encoded⟩
  rw [encodeKeysetCursor, converted, orRaise_some]
  exact encoded

/-- A cursor reads back as the instant and the identifier it was written from. -/
theorem readKeysetCursor_encode {limit : RecursionLimit} {timestamp : AwareDatetime} {id : UUID}
    {cursor : Str} (encoded : format.encodeKeysetCursor timestamp id = .ok cursor) :
    ∃ utc, timestamp.astimezoneUtc = some utc ∧
      format.readKeysetCursor limit cursor = .ok (utc, id) := by
  obtain ⟨utc, converted, encoded⟩ := bind_eq_ok.mp encoded
  have converted : timestamp.astimezoneUtc = some utc := by
    cases h : timestamp.astimezoneUtc with
    | none => rw [h] at converted; cases converted
    | some utc' => rw [h] at converted; cases converted; rfl
  refine ⟨utc, converted, ?_⟩
  obtain ⟨wall, rfl⟩ : ∃ wall, utc = AwareDatetime.utc wall :=
    ⟨_, (eq_utc_of_astimezoneUtc converted).1⟩
  have distinct : ((format.members (AwareDatetime.utc wall) id).map Prod.fst).Nodup :=
    format.distinct
  -- the three members of the payload
  have version := lookup_payloadOf distinct
    (show (Str.lit "v", .int format.version) ∈ _ from List.mem_cons_self)
  have time := lookup_payloadOf distinct
    (show (format.timeKey, .str (AwareDatetime.utc wall).isoformat) ∈ _ from
      List.mem_cons_of_mem _ List.mem_cons_self)
  have identifier := lookup_payloadOf distinct
    (show (format.idKey, .str (UUID.str id)) ∈ _ from
      List.mem_cons_of_mem _ (List.mem_cons_of_mem _ List.mem_cons_self))
  have versioned : (Members.get (payloadOf (format.members (AwareDatetime.utc wall) id))
      "v").eqInt format.version = true := by
    rw [Members.get, version]
    simp [Scalar.toJson, Json.eqInt]
  have payload : cursorPayload limit format.version cursor =
      .ok (payloadOf (format.members (AwareDatetime.utc wall) id)) :=
    cursorPayload_encodeCursor (List.cons_ne_nil _ _) isScalar_keys readable_members versioned
      encoded
  refine bind_eq_ok.mpr ⟨_, payload, bind_eq_ok.mpr ⟨.str (AwareDatetime.utc wall).isoformat, ?_,
    bind_eq_ok.mpr ⟨⟨wall, some Offset.utc⟩, ?_, bind_eq_ok.mpr ⟨.str (UUID.str id), ?_,
      bind_eq_ok.mpr ⟨id, UUID.ofJson_str id, bind_eq_ok.mpr ⟨AwareDatetime.utc wall, rfl,
        bind_eq_ok.mpr ⟨AwareDatetime.utc wall, ?_, rfl⟩⟩⟩⟩⟩⟩⟩
  · rw [requireMember, time]
    rfl
  · rw [datetimeOfJson, fromisoformat_isoformat_utc]
    rfl
  · rw [requireMember, identifier]
    rfl
  · rw [astimezoneUtc_utc]
    rfl

end CursorFormat

end WebhookMonitor
