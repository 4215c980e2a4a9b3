import WebhookMonitor.Python.Bytes

/-!
# UTF-8 read back

Every decoder reads the UTF-8 form of a text back as the text, so no two texts
have the same form.
-/

namespace Python

theorem toNat_ofNat_of_lt {n : ℕ} (lt : n < 0x100) : (UInt8.ofNat n).toNat = n := by
  rw [UInt8.toNat_ofNat']
  omega

/-- A byte within the range the decoder waits for, with more bytes owed. -/
theorem decodeUtf8From_inside_succ (errors : Utf8Errors) {bits low high owed n : ℕ} (rest : Bytes)
    (lt : n < 0x100) (within : low ≤ n ∧ n ≤ high) :
    decodeUtf8From errors (.inside bits low high (owed + 1)) (UInt8.ofNat n :: rest) =
      decodeUtf8From errors (.inside (bits * 0x40 + (n - 0x80)) 0x80 0xBF owed) rest := by
  rw [decodeUtf8From, toNat_ofNat_of_lt lt, if_pos within]

/-- The last byte of a sequence. -/
theorem decodeUtf8From_inside_zero (errors : Utf8Errors) {bits low high n : ℕ} (rest : Bytes)
    (lt : n < 0x100) (within : low ≤ n ∧ n ≤ high) :
    decodeUtf8From errors (.inside bits low high 0) (UInt8.ofNat n :: rest) =
      (decodeUtf8From errors .idle rest).map (codePoint (bits * 0x40 + (n - 0x80)) :: ·) := by
  rw [decodeUtf8From, toNat_ofNat_of_lt lt, if_pos within]

/-- The lead byte of a longer sequence. -/
theorem decodeUtf8From_lead (errors : Utf8Errors) {n : ℕ} {state : Utf8State} (rest : Bytes)
    (lead : utf8Lead errors (UInt8.ofNat n) = some (none, state)) :
    decodeUtf8From errors .idle (UInt8.ofNat n :: rest) = decodeUtf8From errors state rest := by
  rw [decodeUtf8From, lead]

section Lead

variable (errors : Utf8Errors) {n : ℕ}

theorem utf8Lead_two (low : 0x80 ≤ n) (high : n < 0x800) :
    utf8Lead errors (UInt8.ofNat (0xC0 + n / 0x40)) =
      some (none, .inside (n / 0x40) 0x80 0xBF 0) := by
  rw [utf8Lead, toNat_ofNat_of_lt (by omega)]
  rw [if_neg (by omega), if_pos (by omega), Nat.add_sub_cancel_left]

/-- The lead byte of three, and the range of the second byte. -/
theorem utf8Lead_three (low : 0x800 ≤ n) (high : n < 0x10000) (scalar : n < 0xD800 ∨ 0xE000 ≤ n) :
    ∃ lo hi, utf8Lead errors (UInt8.ofNat (0xE0 + n / 0x1000)) =
        some (none, .inside (n / 0x1000) lo hi 1) ∧
      lo ≤ 0x80 + n / 0x40 % 0x40 ∧ 0x80 + n / 0x40 % 0x40 ≤ hi := by
  rw [utf8Lead, toNat_ofNat_of_lt (by omega)]
  rw [if_neg (by omega), if_neg (by omega)]
  by_cases first : 0xE0 + n / 0x1000 = 0xE0
  · rw [if_pos first, show n / 0x1000 = 0 by omega]
    exact ⟨_, _, rfl, by omega, by omega⟩
  rw [if_neg first]
  by_cases surrogates : 0xE0 + n / 0x1000 = 0xED ∧ errors ≠ .surrogatepass
  · rw [if_pos surrogates, show n / 0x1000 = 0xD by omega]
    exact ⟨_, _, rfl, by omega, by omega⟩
  · rw [if_neg surrogates, if_pos (by omega), Nat.add_sub_cancel_left]
    exact ⟨_, _, rfl, by omega, by omega⟩

/-- The lead byte of four, and the range of the second byte. -/
theorem utf8Lead_four (low : 0x10000 ≤ n) (high : n < 0x110000) :
    ∃ lo hi, utf8Lead errors (UInt8.ofNat (0xF0 + n / 0x40000)) =
        some (none, .inside (n / 0x40000) lo hi 2) ∧
      lo ≤ 0x80 + n / 0x1000 % 0x40 ∧ 0x80 + n / 0x1000 % 0x40 ≤ hi := by
  rw [utf8Lead, toNat_ofNat_of_lt (by omega)]
  rw [if_neg (by omega), if_neg (by omega), if_neg (by omega), if_neg (by omega),
    if_neg (by omega)]
  by_cases first : 0xF0 + n / 0x40000 = 0xF0
  · rw [if_pos first, show n / 0x40000 = 0 by omega]
    exact ⟨_, _, rfl, by omega, by omega⟩
  rw [if_neg first]
  by_cases middle : 0xF1 ≤ 0xF0 + n / 0x40000 ∧ 0xF0 + n / 0x40000 ≤ 0xF3
  · rw [if_pos middle, Nat.add_sub_cancel_left]
    exact ⟨_, _, rfl, by omega, by omega⟩
  · rw [if_neg middle, if_pos (by omega), show n / 0x40000 = 4 by omega]
    exact ⟨_, _, rfl, by omega, by omega⟩

end Lead

/-- The form of one character is read as the character. -/
theorem decodeUtf8From_utf8Char (errors : Utf8Errors) {c : CodePoint}
    (scalar : isSurrogate c = false) (rest : Bytes) :
    decodeUtf8From errors .idle (utf8Char c ++ rest) =
      (decodeUtf8From errors .idle rest).map (c :: ·) := by
  have lt := c.isLt
  -- the range of the second byte keeps the surrogates out
  have notSurrogate : c.val < 0xD800 ∨ 0xE000 ≤ c.val := by
    simp only [isSurrogate, Bool.and_eq_false_iff, decide_eq_false_iff_not] at scalar
    omega
  have whole : ∀ n, n = c.val → codePoint n = c := by
    rintro n rfl
    exact codePoint_val c
  rw [utf8Char]
  by_cases one : c.val < 0x80
  · rw [if_pos one, List.singleton_append, decodeUtf8From, utf8Lead, toNat_ofNat_of_lt (by omega)]
    rw [if_pos one, whole _ rfl]
  rw [if_neg one]
  by_cases two : c.val < 0x800
  · rw [if_pos two, List.cons_append, List.cons_append, List.nil_append,
      decodeUtf8From_lead errors _ (utf8Lead_two errors (by omega) two),
      decodeUtf8From_inside_zero errors _ (by omega) (by omega), whole _ (by omega)]
  rw [if_neg two]
  by_cases three : c.val < 0x10000
  · obtain ⟨lo, hi, lead, above, below⟩ := utf8Lead_three errors (by omega) three notSurrogate
    rw [if_pos three, List.cons_append, List.cons_append, List.cons_append, List.nil_append,
      decodeUtf8From_lead errors _ lead,
      decodeUtf8From_inside_succ errors _ (by omega) ⟨above, below⟩,
      decodeUtf8From_inside_zero errors _ (by omega) (by omega), whole _ (by omega)]
  · obtain ⟨lo, hi, lead, above, below⟩ := utf8Lead_four errors (Nat.le_of_not_lt three) lt
    rw [if_neg three, List.cons_append, List.cons_append, List.cons_append, List.cons_append,
      List.nil_append, decodeUtf8From_lead errors _ lead,
      decodeUtf8From_inside_succ errors _ (by omega) ⟨above, below⟩,
      decodeUtf8From_inside_succ errors _ (by omega) (by omega),
      decodeUtf8From_inside_zero errors _ (by omega) (by omega), whole _ (by omega)]

/-- Every decoder reads the UTF-8 form of a text back. -/
theorem decodeUtf8_of_encodeUtf8 (errors : Utf8Errors) {s : Str} {bs : Bytes}
    (encoded : encodeUtf8 s = some bs) : decodeUtf8 errors bs = some s := by
  rw [encodeUtf8] at encoded
  split_ifs at encoded with scalar
  cases encoded
  rw [decodeUtf8]
  induction s with
  | nil => rfl
  | cons c rest ih =>
      rw [isScalar_iff] at scalar
      have later : isScalar rest = true :=
        isScalar_iff.mpr fun x hx => scalar x (List.mem_cons_of_mem _ hx)
      rw [List.flatMap_cons, decodeUtf8From_utf8Char errors (scalar c List.mem_cons_self), ih later]
      rfl

/-- No two texts have the same UTF-8 form. -/
theorem encodeUtf8_injective {s t : Str} {bs : Bytes} (first : encodeUtf8 s = some bs)
    (second : encodeUtf8 t = some bs) : s = t := by
  have read := decodeUtf8_of_encodeUtf8 .strict first
  rw [decodeUtf8_of_encodeUtf8 .strict second] at read
  exact (Option.some.inj read).symm

end Python
