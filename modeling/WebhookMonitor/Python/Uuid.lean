import Mathlib.Tactic.Ring
import WebhookMonitor.Python.Errors
import WebhookMonitor.Python.Integer
import WebhookMonitor.Python.Json

/-!
# UUIDs

A `uuid.UUID` is its 128-bit integer; UUIDs compare as these integers.  `str`
writes the canonical form, and the constructor reads a good deal more: any
placement of hyphens, braces, a `urn:uuid:` prefix, and whatever `int(hex, 16)`
takes.
-/

namespace Python

/-- A `uuid.UUID`. -/
abbrev UUID := Fin (2 ^ 128)

/-- The lowest `k` hexadecimal digits of `n`, most significant first. -/
def hexDigits : ℕ → ℕ → Str
  | 0, _ => []
  | k + 1, n => hexDigits k (n / 16) ++ [hexDigit (n % 16)]

/-- 32 digits in groups of 8, 4, 4, 4 and 12. -/
def hyphenate (hex : Str) : Str :=
  let dash := Str.lit "-"
  hex.take 8 ++ (dash ++ ((hex.drop 8).take 4 ++ (dash ++ ((hex.drop 12).take 4 ++ (dash ++
    ((hex.drop 16).take 4 ++ (dash ++ hex.drop 20)))))))

/-- `str(uuid)`. -/
def UUID.str (u : UUID) : Str := hyphenate (hexDigits 32 u.val)

/-- `UUID(hex)` of a text; `none` is `ValueError`. -/
def UUID.parse (s : Str) : Option UUID :=
  let hex := replace (replace s "urn:" []) "uuid:" []
  let hex := (stripOf (fun c => c = '{' || c = '}') hex).filter
    (fun c : CodePoint => c ≠ '-')
  if hex.length ≠ 32 then none
  else match readHexInt hex with
    | some n =>
        if h : 0 ≤ n ∧ n < 2 ^ 128 then some ⟨n.toNat, by omega⟩ else none
    | none => none

/-- `UUID(value)` of a JSON value: only `None` is refused by the constructor's
own check, any other value that is not text lacks `replace`. -/
def UUID.ofJson : Json → Except BuiltinError UUID
  | .str s => orRaise .valueError (UUID.parse s)
  | .null => .error .typeError
  | _ => .error .attributeError

/-! ## The round trip -/

/-- The values of the lowest `k` hexadecimal digits of `n`. -/
def hexDigitValues : ℕ → ℕ → List ℕ
  | 0, _ => []
  | k + 1, n => hexDigitValues k (n / 16) ++ [n % 16]

theorem hexDigits_eq_map (k n : ℕ) : hexDigits k n = (hexDigitValues k n).map hexDigit := by
  induction k generalizing n with
  | zero => rfl
  | succ k ih => simp [hexDigits, hexDigitValues, ih]

@[simp] theorem length_hexDigits (k n : ℕ) : (hexDigits k n).length = k := by
  induction k generalizing n with
  | zero => rfl
  | succ k ih => simp [hexDigits, ih]

theorem hexDigitValues_lt {k n d : ℕ} (h : d ∈ hexDigitValues k n) : d < 16 := by
  induction k generalizing n with
  | zero => cases h
  | succ k ih =>
      rcases List.mem_append.mp h with h | h
      · exact ih h
      · obtain rfl := List.mem_singleton.mp h
        exact Nat.mod_lt _ (by decide)

theorem ofDigits_hexDigitValues (k n : ℕ) : ofDigits 16 (hexDigitValues k n) = n % 16 ^ k := by
  induction k generalizing n with
  | zero => simp [hexDigitValues, ofDigits, Nat.mod_one]
  | succ k ih =>
      have hn := ih (n / 16)
      rw [ofDigits] at hn ⊢
      rw [hexDigitValues, List.foldl_append, hn, List.foldl_cons, List.foldl_nil, Nat.pow_succ,
        Nat.mul_comm (16 ^ k), Nat.mod_mul]
      ring

/-- A hexadecimal digit is ASCII, none of the characters the constructor gives a
meaning of their own, and reads as its value. -/
theorem hexDigit_spec {d : ℕ} (h : d < 16) :
    (hexDigit d).val < 0x80 ∧ isCSpace (hexDigit d) = false ∧ digitValue (hexDigit d) = some d ∧
      hexDigit d ∉ Str.lit "-+_xXu{}" := by
  have hall : ∀ d < 16, (hexDigit d).val < 0x80 ∧ isCSpace (hexDigit d) = false ∧
      digitValue (hexDigit d) = some d ∧ hexDigit d ∉ Str.lit "-+_xXu{}" := by decide
  exact hall d h

theorem mem_hexDigits {k n : ℕ} {c : CodePoint} (h : c ∈ hexDigits k n) :
    ∃ d < 16, c = hexDigit d := by
  rw [hexDigits_eq_map] at h
  obtain ⟨d, hd, rfl⟩ := List.mem_map.mp h
  exact ⟨d, hexDigitValues_lt hd, rfl⟩

theorem scanDigits_hexDigit {ds : List ℕ} (h : ∀ d ∈ ds, d < 16) {afterDigit : Bool}
    (nonempty : ds ≠ [] ∨ afterDigit = true) :
    scanDigits 16 afterDigit (ds.map hexDigit) = some ds := by
  induction ds generalizing afterDigit with
  | nil =>
      obtain rfl : afterDigit = true := by simpa using nonempty
      rfl
  | cons d ds ih =>
      obtain ⟨-, -, hvalue, hnot⟩ := hexDigit_spec (h d (by simp))
      have hscore : hexDigit d ≠ '_' := by
        rintro heq
        exact hnot (by rw [heq]; decide)
      rw [List.map_cons, scanDigits, if_neg hscore, hvalue]
      simp only [if_pos (h d (by simp)), ih (fun x hx => h x (by simp [hx])) (.inr rfl),
        Option.map_some]

/-- `int(hex, 16)` of written digits. -/
theorem readHexInt_hexDigits {k : ℕ} (pos : 0 < k) (n : ℕ) :
    readHexInt (hexDigits k n) = some ((n % 16 ^ k : ℕ) : ℤ) := by
  have hascii : isAscii (hexDigits k n) = true := isAscii_iff.mpr fun c hc => by
    obtain ⟨d, hd, rfl⟩ := mem_hexDigits hc
    exact (hexDigit_spec hd).1
  have hstrip : stripOf isCSpace (hexDigits k n) = hexDigits k n := stripOf_eq_self fun c hc => by
    obtain ⟨d, hd, rfl⟩ := mem_hexDigits hc
    exact (hexDigit_spec hd).2.1
  have hnot : ∀ c ∈ hexDigits k n, c ∉ Str.lit "-+_xXu{}" := fun c hc => by
    obtain ⟨d, hd, rfl⟩ := mem_hexDigits hc
    exact (hexDigit_spec hd).2.2.2
  have hscan : scanDigits 16 false (hexDigits k n) = some (hexDigitValues k n) := by
    rw [hexDigits_eq_map]
    refine scanDigits_hexDigit (fun d hd => hexDigitValues_lt hd) (.inl ?_)
    intro hnil
    have := length_hexDigits k n
    rw [hexDigits_eq_map, hnil] at this
    exact pos.ne this
  have hhex : scanHex (hexDigits k n) = some (n % 16 ^ k) := by
    -- none of these digits is the `x` of a prefix
    have hbody : ∀ s : Str, (∀ c ∈ s, c ∉ Str.lit "-+_xXu{}") →
        scanHex s = (scanDigits 16 false s).map (ofDigits 16) := by
      intro s hs
      match s with
      | [] => rfl
      | [_] => rfl
      | a :: b :: rest =>
          have hx : ¬ (a = '0' ∧ (b = 'x' ∨ b = 'X')) := by
            rintro ⟨-, hb | hb⟩
            · exact hs b (by simp) (by rw [hb]; decide)
            · exact hs b (by simp) (by rw [hb]; decide)
          simp only [scanHex, if_neg hx]
    rw [hbody _ hnot, hscan, Option.map_some, ofDigits_hexDigitValues]
  rw [readHexInt, transcribe, if_pos hascii, hstrip]
  cases hdigits : hexDigits k n with
  | nil =>
      have := length_hexDigits k n
      rw [hdigits] at this
      exact absurd this pos.ne
  | cons c rest =>
      have hc := hnot c (by simp [hdigits])
      have hminus : c ≠ '-' := by rintro rfl; exact hc (by decide)
      have hplus : c ≠ '+' := by rintro rfl; exact hc (by decide)
      rw [scanSigned, if_neg hminus, if_neg hplus, ← hdigits, hhex]
      rfl

theorem mem_hyphenate {hex : Str} {c : CodePoint} (h : c ∈ hyphenate hex) :
    c = '-' ∨ c ∈ hex := by
  have hdash : c ∈ Str.lit "-" → c = '-' := fun h => by simpa [Str.lit] using h
  simp only [hyphenate, List.mem_append] at h
  rcases h with h | h | h | h | h | h | h | h | h
  · exact .inr (List.mem_of_mem_take h)
  · exact .inl (hdash h)
  · exact .inr (List.mem_of_mem_drop (List.mem_of_mem_take h))
  · exact .inl (hdash h)
  · exact .inr (List.mem_of_mem_drop (List.mem_of_mem_take h))
  · exact .inl (hdash h)
  · exact .inr (List.mem_of_mem_drop (List.mem_of_mem_take h))
  · exact .inl (hdash h)
  · exact .inr (List.mem_of_mem_drop h)

/-- Without its hyphens the canonical form is the digits. -/
theorem filter_hyphenate {hex : Str} (h : CodePoint.ofChar '-' ∉ hex) :
    (hyphenate hex).filter (fun c : CodePoint => c ≠ CodePoint.ofChar '-') = hex := by
  have hkeep : ∀ l : Str, l ⊆ hex →
      l.filter (fun c : CodePoint => c ≠ CodePoint.ofChar '-') = l := by
    intro l hl
    refine List.filter_eq_self.mpr fun c hc => ?_
    have hne : c ≠ '-' := fun heq => h (heq ▸ hl hc)
    simp [hne]
  have hdash : (Str.lit "-").filter (fun c : CodePoint => c ≠ CodePoint.ofChar '-') = [] := by
    decide
  have h16 : (hex.drop 16).take 4 ++ hex.drop 20 = hex.drop 16 := by
    rw [← List.drop_drop (i := 4) (j := 16), List.take_append_drop]
  have h12 : (hex.drop 12).take 4 ++ hex.drop 16 = hex.drop 12 := by
    rw [← List.drop_drop (i := 4) (j := 12), List.take_append_drop]
  have h8 : (hex.drop 8).take 4 ++ hex.drop 12 = hex.drop 8 := by
    rw [← List.drop_drop (i := 4) (j := 8), List.take_append_drop]
  have hsub : ∀ i j, (hex.drop i).take j ⊆ hex :=
    fun i j _ hc => List.mem_of_mem_drop (List.mem_of_mem_take hc)
  simp only [hyphenate, List.filter_append, hdash, List.nil_append, hkeep _ (hsub _ _),
    hkeep _ (List.take_subset _ _), hkeep _ (List.drop_subset _ _), h16, h12, h8,
    List.take_append_drop]

/-- Reading the canonical form of 32 digits. -/
theorem UUID.parse_hyphenate {hex : Str} {n : ℕ} (length : hex.length = 32)
    (digits : ∀ c ∈ hex, ∃ d < 16, c = hexDigit d) (value : readHexInt hex = some (n : ℤ))
    (h : n < 2 ^ 128) : UUID.parse (hyphenate hex) = some ⟨n, h⟩ := by
  have hnot : ∀ c ∈ hyphenate hex, c ∉ Str.lit "u{}" := by
    intro c hc
    rcases mem_hyphenate hc with rfl | hc
    · decide
    · obtain ⟨d, hd, rfl⟩ := digits c hc
      have hsub : Str.lit "u{}" ⊆ Str.lit "-+_xXu{}" := by decide
      exact fun h => (hexDigit_spec hd).2.2.2 (hsub h)
  have hminus : CodePoint.ofChar '-' ∉ hex := by
    intro hc
    obtain ⟨d, hd, heq⟩ := digits _ hc
    exact (hexDigit_spec hd).2.2.2 (by rw [← heq]; decide)
  have hu : CodePoint.ofChar 'u' ∉ hyphenate hex := fun h => hnot _ h (by decide)
  have hreplace : replace (replace (hyphenate hex) "urn:" []) "uuid:" [] = hyphenate hex := by
    rw [replace_of_head_not_mem (s := hyphenate hex) (c := CodePoint.ofChar 'u') rfl hu,
      replace_of_head_not_mem (c := CodePoint.ofChar 'u') rfl hu]
  have hstrip : stripOf (fun c => c = CodePoint.ofChar '{' || c = CodePoint.ofChar '}')
      (hyphenate hex) = hyphenate hex := stripOf_eq_self fun c hc => by
    have hne : c ≠ '{' ∧ c ≠ '}' :=
      ⟨fun h => hnot c hc (by rw [h]; decide), fun h => hnot c hc (by rw [h]; decide)⟩
    simp [hne.1, hne.2]
  rw [UUID.parse, hreplace, hstrip]
  simp only [filter_hyphenate hminus, length, ne_eq, not_true_eq_false, if_false, value]
  rw [dif_pos ⟨by omega, by omega⟩]
  simp

/-- `UUID(str(u))` is `u`. -/
theorem UUID.parse_str (u : UUID) : UUID.parse (UUID.str u) = some u := by
  have hval : u.val % 16 ^ 32 = u.val := Nat.mod_eq_of_lt (by have := u.isLt; omega)
  have hread := readHexInt_hexDigits (show 0 < 32 by decide) u.val
  rw [hval] at hread
  exact UUID.parse_hyphenate (length_hexDigits _ _) (fun c hc => mem_hexDigits hc) hread u.isLt

theorem UUID.isAscii_str (u : UUID) : isAscii (UUID.str u) = true := by
  rw [isAscii_iff]
  intro c hc
  rcases mem_hyphenate hc with rfl | hc
  · decide
  · obtain ⟨d, hd, rfl⟩ := mem_hexDigits hc
    exact (hexDigit_spec hd).1

theorem UUID.ofJson_str (u : UUID) : UUID.ofJson (.str (UUID.str u)) = .ok u := by
  rw [UUID.ofJson, UUID.parse_str, orRaise_some]

end Python
