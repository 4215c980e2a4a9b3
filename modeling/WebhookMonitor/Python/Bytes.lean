import WebhookMonitor.Python.Text

/-!
# Bytes and their decoding

`bytes.decode` for the encodings the application meets: UTF-8 (strict, with
`surrogatepass` and with `replace`), UTF-16 and UTF-32 with `surrogatepass`
(`json.loads` guesses among them), and `str.encode` for UTF-8 and ASCII.

An ill-formed UTF-8 sequence is cut off after its longest well-formed beginning
(Unicode, table 3-7): that is the prefix `replace` turns into one U+FFFD.
-/

namespace Python

/-- A Python `bytes`. -/
abbrev Bytes := List UInt8

/-- The `errors` argument of a UTF-8 decoder. -/
inductive Utf8Errors where
  | strict
  | surrogatepass
  | replace
  deriving DecidableEq, Repr

/-- Where a UTF-8 decoder stands between two bytes: between characters, or
inside one, with the bits read so far, the range the next byte must lie in and
the number of bytes owed after that one. -/
inductive Utf8State where
  | idle
  | inside (bits low high owed : ℕ)
  deriving DecidableEq, Repr

/-- The state after a lead byte, or the character it is alone; `none` for a byte
that starts no sequence.  The ranges at the edges exclude overlong forms,
surrogates (unless they are let through) and numbers above the last code point. -/
def utf8Lead (errors : Utf8Errors) (b : UInt8) : Option (Option CodePoint × Utf8State) :=
  let n := b.toNat
  if n < 0x80 then some (some (codePoint n), .idle)
  else if 0xC2 ≤ n ∧ n ≤ 0xDF then some (none, .inside (n - 0xC0) 0x80 0xBF 0)
  else if n = 0xE0 then some (none, .inside 0 0xA0 0xBF 1)
  else if n = 0xED ∧ errors ≠ .surrogatepass then some (none, .inside 0xD 0x80 0x9F 1)
  else if 0xE1 ≤ n ∧ n ≤ 0xEF then some (none, .inside (n - 0xE0) 0x80 0xBF 1)
  else if n = 0xF0 then some (none, .inside 0 0x90 0xBF 2)
  else if 0xF1 ≤ n ∧ n ≤ 0xF3 then some (none, .inside (n - 0xF0) 0x80 0xBF 2)
  else if n = 0xF4 then some (none, .inside 4 0x80 0x8F 2)
  else none

/-- What an ill-formed prefix contributes: U+FFFD under `replace`, otherwise the
decoder fails. -/
def illFormed (errors : Utf8Errors) (rest : Option Str) : Option Str :=
  if errors = .replace then rest.map (codePoint 0xFFFD :: ·) else none

/-- The decoder from a given state. -/
def decodeUtf8From (errors : Utf8Errors) : Utf8State → Bytes → Option Str
  | .idle, [] => some []
  | .inside .., [] => illFormed errors (some [])
  | .idle, b :: rest =>
      match utf8Lead errors b with
      | some (some c, state) => (decodeUtf8From errors state rest).map (c :: ·)
      | some (none, state) => decodeUtf8From errors state rest
      | none => illFormed errors (decodeUtf8From errors .idle rest)
  | .inside bits low high owed, b :: rest =>
      if low ≤ b.toNat ∧ b.toNat ≤ high then
        let bits' := bits * 0x40 + (b.toNat - 0x80)
        match owed with
        | 0 => (decodeUtf8From errors .idle rest).map (codePoint bits' :: ·)
        | owed + 1 => decodeUtf8From errors (.inside bits' 0x80 0xBF owed) rest
      else
        -- the sequence breaks off here, and this byte is read as a lead byte
        illFormed errors <|
          match utf8Lead errors b with
          | some (some c, state) => (decodeUtf8From errors state rest).map (c :: ·)
          | some (none, state) => decodeUtf8From errors state rest
          | none => illFormed errors (decodeUtf8From errors .idle rest)

/-- `bytes.decode("utf-8", errors)`; `none` is `UnicodeDecodeError`. -/
def decodeUtf8 (errors : Utf8Errors) (bs : Bytes) : Option Str :=
  decodeUtf8From errors .idle bs

/-- The UTF-8 form of one code point that is not a surrogate. -/
def utf8Char (c : CodePoint) : Bytes :=
  let n := c.val
  if n < 0x80 then [UInt8.ofNat n]
  else if n < 0x800 then [UInt8.ofNat (0xC0 + n / 0x40), UInt8.ofNat (0x80 + n % 0x40)]
  else if n < 0x10000 then
    [UInt8.ofNat (0xE0 + n / 0x1000), UInt8.ofNat (0x80 + n / 0x40 % 0x40),
      UInt8.ofNat (0x80 + n % 0x40)]
  else
    [UInt8.ofNat (0xF0 + n / 0x40000), UInt8.ofNat (0x80 + n / 0x1000 % 0x40),
      UInt8.ofNat (0x80 + n / 0x40 % 0x40), UInt8.ofNat (0x80 + n % 0x40)]

/-- `str.encode("utf-8")`; `none` is `UnicodeEncodeError`. -/
def encodeUtf8 (s : Str) : Option Bytes :=
  if isScalar s then some (s.flatMap utf8Char) else none

/-- `str.encode("ascii")`; `none` is `UnicodeEncodeError`. -/
def encodeAscii (s : Str) : Option Bytes :=
  if isAscii s then some (s.map fun c => UInt8.ofNat c.val) else none

/-- `bytes.decode("utf-16-be" / "utf-16-le", "surrogatepass")`: lone surrogates
stay, half a unit is an error. -/
def decodeUtf16 (bigEndian : Bool) : Bytes → Option Str
  | [] => some []
  | [_] => none
  | a :: b :: rest =>
      let unit := fun (x y : UInt8) =>
        if bigEndian then x.toNat * 0x100 + y.toNat else y.toNat * 0x100 + x.toNat
      let high := unit a b
      match rest with
      | c :: d :: rest' =>
          let low := unit c d
          if 0xD800 ≤ high ∧ high ≤ 0xDBFF ∧ 0xDC00 ≤ low ∧ low ≤ 0xDFFF then
            (decodeUtf16 bigEndian rest').map
              (codePoint (0x10000 + (high - 0xD800) * 0x400 + (low - 0xDC00)) :: ·)
          else (decodeUtf16 bigEndian (c :: d :: rest')).map (codePoint high :: ·)
      | short => (decodeUtf16 bigEndian short).map (codePoint high :: ·)

/-- `bytes.decode("utf-32-be" / "utf-32-le", "surrogatepass")`. -/
def decodeUtf32 (bigEndian : Bool) : Bytes → Option Str
  | [] => some []
  | a :: b :: c :: d :: rest =>
      let n :=
        if bigEndian then
          ((a.toNat * 0x100 + b.toNat) * 0x100 + c.toNat) * 0x100 + d.toNat
        else ((d.toNat * 0x100 + c.toNat) * 0x100 + b.toNat) * 0x100 + a.toNat
      if n < 0x110000 then (decodeUtf32 bigEndian rest).map (codePoint n :: ·) else none
  | _ => none

/-! ## ASCII text -/

theorem utf8Char_of_lt {c : CodePoint} (h : c.val < 0x80) :
    utf8Char c = [UInt8.ofNat c.val] := by
  simp [utf8Char, h]

/-- On ASCII text the UTF-8 form is the text itself. -/
theorem encodeUtf8_of_isAscii {s : Str} (h : isAscii s = true) :
    encodeUtf8 s = some (s.map fun c => UInt8.ofNat c.val) := by
  rw [encodeUtf8, if_pos (isScalar_of_isAscii h)]
  congr 1
  induction s with
  | nil => rfl
  | cons c rest ih =>
      have hc := isAscii_iff.mp h c (by simp)
      have hrest : isAscii rest = true :=
        isAscii_iff.mpr fun x hx => isAscii_iff.mp h x (by simp [hx])
      rw [List.flatMap_cons, utf8Char_of_lt hc, ih hrest]
      rfl

theorem codePoint_val (c : CodePoint) : codePoint c.val = c := by
  apply Fin.ext
  simp [codePoint, Fin.ofNat]

/-- Every UTF-8 decoder reads ASCII bytes back as they are. -/
theorem decodeUtf8_of_isAscii (errors : Utf8Errors) {s : Str} (h : isAscii s = true) :
    decodeUtf8 errors (s.map fun c => UInt8.ofNat c.val) = some s := by
  induction s with
  | nil => rfl
  | cons c rest ih =>
      have hc := isAscii_iff.mp h c (by simp)
      have hrest : isAscii rest = true :=
        isAscii_iff.mpr fun x hx => isAscii_iff.mp h x (by simp [hx])
      have hval : (UInt8.ofNat c.val).toNat = c.val := by
        rw [UInt8.toNat_ofNat']
        omega
      have hlead : utf8Lead errors (UInt8.ofNat c.val) = some (some c, .idle) := by
        simp [utf8Lead, hval, hc, codePoint_val]
      have ih' := ih hrest
      rw [decodeUtf8] at ih' ⊢
      rw [List.map_cons, decodeUtf8From, hlead]
      simp [ih']

/-! ## Replacing what is ill-formed -/

/-- What a decoder inside a sequence can still come to: the code points from the
first to the last completion of the bits read so far are no surrogates. -/
def Utf8State.Sound : Utf8State → Prop
  | .idle => True
  | .inside bits low high owed =>
      0x80 ≤ low ∧ high ≤ 0xBF ∧
        ((bits * 0x40 + (high - 0x80) + 1) * 0x40 ^ owed ≤ 0xD800 ∨
          (0xE000 ≤ (bits * 0x40 + (low - 0x80)) * 0x40 ^ owed ∧
            (bits * 0x40 + (high - 0x80) + 1) * 0x40 ^ owed ≤ 0x110000))

theorem isSurrogate_codePoint {n : ℕ} (h : n < 0xD800 ∨ (0xE000 ≤ n ∧ n < 0x110000)) :
    isSurrogate (codePoint n) = false := by
  have hval : (codePoint n).val = n := by
    simp only [codePoint, Fin.ofNat]
    omega
  simp only [isSurrogate, hval, Bool.and_eq_false_iff, decide_eq_false_iff_not]
  omega

theorem utf8Lead_sound {b : UInt8} {c : Option CodePoint} {state : Utf8State}
    (h : utf8Lead .replace b = some (c, state)) :
    state.Sound ∧ (∀ x, c = some x → isSurrogate x = false) ∧ (c = none → state ≠ .idle) := by
  have hb := b.toNat_lt
  simp only [utf8Lead, ne_eq, reduceCtorEq, not_false_eq_true, and_true] at h
  split_ifs at h
  · cases h
    refine ⟨trivial, fun x hx => ?_, nofun⟩
    cases hx
    exact isSurrogate_codePoint (by omega)
  all_goals
    cases h
    refine ⟨?_, nofun, fun _ => nofun⟩
    simp only [Utf8State.Sound, Nat.pow_zero, Nat.pow_one, Nat.reducePow]
    omega

/-- One more byte of a sequence. -/
theorem Utf8State.Sound.next {bits low high owed n : ℕ}
    (sound : (Utf8State.inside bits low high (owed + 1)).Sound) (hlow : low ≤ n)
    (hhigh : n ≤ high) :
    (Utf8State.inside (bits * 0x40 + (n - 0x80)) 0x80 0xBF owed).Sound := by
  obtain ⟨low_ge, high_le, range⟩ := sound
  refine ⟨le_rfl, le_rfl, ?_⟩
  rw [Nat.pow_succ'] at range
  generalize 0x40 ^ owed = k at range ⊢
  have above : (bits * 0x40 + (low - 0x80)) * (0x40 * k) ≤
      ((bits * 0x40 + (n - 0x80)) * 0x40 + (0x80 - 0x80)) * k := by
    rw [Nat.sub_self, Nat.add_zero, ← Nat.mul_assoc]
    exact Nat.mul_le_mul_right _ (Nat.mul_le_mul_right _ (by omega))
  have below : ((bits * 0x40 + (n - 0x80)) * 0x40 + (0xBF - 0x80) + 1) * k ≤
      (bits * 0x40 + (high - 0x80) + 1) * (0x40 * k) := by
    rw [← Nat.mul_assoc]
    exact Nat.mul_le_mul_right _ (by omega)
  omega

/-- The last byte of a sequence. -/
theorem Utf8State.Sound.last {bits low high n : ℕ}
    (sound : (Utf8State.inside bits low high 0).Sound) (hlow : low ≤ n) (hhigh : n ≤ high) :
    isSurrogate (codePoint (bits * 0x40 + (n - 0x80))) = false := by
  obtain ⟨low_ge, high_le, range⟩ := sound
  rw [Nat.pow_zero] at range
  exact isSurrogate_codePoint (by omega)

/-- Text without surrogates that is empty only where `mayBeEmpty`. -/
def Decoded (mayBeEmpty : Prop) (r : Option Str) : Prop :=
  ∃ s, r = some s ∧ isScalar s = true ∧ (s = [] → mayBeEmpty)

theorem Decoded.cons {p q : Prop} {c : CodePoint} (hc : isSurrogate c = false) {r : Option Str}
    (decoded : Decoded p r) : Decoded q (r.map (c :: ·)) := by
  obtain ⟨s, rfl, scalar, -⟩ := decoded
  refine ⟨c :: s, rfl, ?_, fun h => absurd h (List.cons_ne_nil _ _)⟩
  simp only [isScalar, List.all_cons, hc, Bool.not_false, Bool.true_and]
  exact scalar

theorem Decoded.illFormed {p q : Prop} {r : Option Str} (decoded : Decoded p r) :
    Decoded q (illFormed .replace r) := by
  rw [Python.illFormed, if_pos rfl]
  exact decoded.cons (by decide)

/-- With `replace` a decoder always yields text without surrogates, and none only
from no bytes. -/
theorem decodeUtf8From_replace (state : Utf8State) (bs : Bytes) (sound : state.Sound) :
    Decoded (state = .idle ∧ bs = []) (decodeUtf8From .replace state bs) := by
  induction bs generalizing state with
  | nil =>
      cases state with
      | idle => exact ⟨[], rfl, rfl, fun _ => ⟨rfl, rfl⟩⟩
      | inside bits low high owed =>
          rw [decodeUtf8From]
          exact Decoded.illFormed (p := True) ⟨[], rfl, rfl, fun _ => trivial⟩
  | cons b rest ih =>
      -- a byte read as a lead byte
      have lead : Decoded False (match utf8Lead .replace b with
          | some (some c, state) => (decodeUtf8From .replace state rest).map (c :: ·)
          | some (none, state) => decodeUtf8From .replace state rest
          | none => Python.illFormed .replace (decodeUtf8From .replace .idle rest)) := by
        cases hlead : utf8Lead .replace b with
        | none => exact (ih .idle trivial).illFormed
        | some next =>
            obtain ⟨c, state'⟩ := next
            obtain ⟨sound', alone, inside⟩ := utf8Lead_sound hlead
            cases c with
            | some c => exact (ih state' sound').cons (alone c rfl)
            | none =>
                obtain ⟨s, hs, scalar, empty⟩ := ih state' sound'
                exact ⟨s, hs, scalar, fun h => inside rfl (empty h).1⟩
      -- a text that is not empty is not the decoding of nothing
      have weaken : ∀ {r : Option Str}, Decoded False r →
          Decoded (state = .idle ∧ b :: rest = []) r :=
        fun ⟨s, hs, scalar, empty⟩ => ⟨s, hs, scalar, fun h => (empty h).elim⟩
      cases state with
      | idle => exact weaken lead
      | inside bits low high owed =>
          rw [decodeUtf8From]
          split_ifs with hrange
          · -- a continuation byte in range; every other byte is read again as a lead byte
            cases owed with
            | zero => exact (ih .idle trivial).cons (sound.last hrange.1 hrange.2)
            | succ owed =>
                obtain ⟨s, hs, scalar, empty⟩ := ih _ (sound.next hrange.1 hrange.2)
                exact ⟨s, hs, scalar, fun h => nomatch (empty h).1⟩
          · exact lead.illFormed

theorem decodeUtf8_replace (bs : Bytes) : Decoded (bs = []) (decodeUtf8 .replace bs) := by
  obtain ⟨s, hs, scalar, empty⟩ := decodeUtf8From_replace .idle bs trivial
  exact ⟨s, hs, scalar, fun h => (empty h).2⟩

end Python
