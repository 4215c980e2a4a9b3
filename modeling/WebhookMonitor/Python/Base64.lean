import WebhookMonitor.Python.Bytes

/-!
# URL-safe base64

`base64.urlsafe_b64encode` and `base64.urlsafe_b64decode`.  The decoder is
lenient, as the C function behind it: characters outside the alphabet are passed
over, a complete padding ends the input, and only the number of alphabet
characters is checked at the end.
-/

namespace Python

/-- The character of a six-bit group. -/
def base64Char (n : ℕ) : CodePoint :=
  codePoint <|
    if n < 26 then 0x41 + n
    else if n < 52 then 0x61 + (n - 26)
    else if n < 62 then 0x30 + (n - 52)
    else if n = 62 then 0x2D
    else 0x5F

/-- `base64.urlsafe_b64encode`, as ASCII text. -/
def urlsafeB64encode : Bytes → Str
  | [] => []
  | [a] => [base64Char (a.toNat / 4), base64Char (a.toNat % 4 * 16), '=', '=']
  | [a, b] =>
      [base64Char (a.toNat / 4), base64Char (a.toNat % 4 * 16 + b.toNat / 16),
        base64Char (b.toNat % 16 * 4), '=']
  | a :: b :: c :: rest =>
      base64Char (a.toNat / 4) :: base64Char (a.toNat % 4 * 16 + b.toNat / 16) ::
        base64Char (b.toNat % 16 * 4 + c.toNat / 64) :: base64Char (c.toNat % 64) ::
        urlsafeB64encode rest

/-- The six-bit group of an ASCII byte.  The translation `-_` to `+/` happens
before decoding, so both spellings of the last two are understood. -/
def base64Value (b : UInt8) : Option ℕ :=
  let n := b.toNat
  if 0x41 ≤ n ∧ n ≤ 0x5A then some (n - 0x41)
  else if 0x61 ≤ n ∧ n ≤ 0x7A then some (n - 0x61 + 26)
  else if 0x30 ≤ n ∧ n ≤ 0x39 then some (n - 0x30 + 52)
  else if n = 0x2B ∨ n = 0x2D then some 62
  else if n = 0x2F ∨ n = 0x5F then some 63
  else none

/-- The decoder's loop: `position` in the group of four, the bits left over from
the character before, and the padding characters seen since. -/
def b64decodeFrom : ℕ → ℕ → ℕ → Bytes → Option Bytes
  | position, _, _, [] => if position = 0 then some [] else none
  | position, left, pads, b :: rest =>
      if b = 0x3D then
        if 2 ≤ position then
          if 4 ≤ position + (pads + 1) then some []
          else b64decodeFrom position left (pads + 1) rest
        else b64decodeFrom position left pads rest
      else match base64Value b with
        | none => b64decodeFrom position left pads rest
        | some n =>
            match position with
            | 0 => b64decodeFrom 1 n 0 rest
            | 1 =>
                (b64decodeFrom 2 (n % 16) 0 rest).map (UInt8.ofNat (left * 4 + n / 16) :: ·)
            | 2 =>
                (b64decodeFrom 3 (n % 4) 0 rest).map (UInt8.ofNat (left * 16 + n / 4) :: ·)
            | _ => (b64decodeFrom 0 0 0 rest).map (UInt8.ofNat (left * 64 + n) :: ·)

/-- `base64.urlsafe_b64decode`; `none` is `binascii.Error`. -/
def urlsafeB64decode (bs : Bytes) : Option Bytes := b64decodeFrom 0 0 0 bs

/-- `text.rstrip("=")`. -/
def stripPadding (s : Str) : Str := s.rdropWhile fun c => c = '='

/-- `text + "=" * (-len(text) % 4)`. -/
def restorePadding (s : Str) : Str :=
  s ++ List.replicate ((4 - s.length % 4) % 4) (CodePoint.ofChar '=')

/-! ## The round trip -/

/-- The characters of the alphabet are ASCII, not padding, and carry their value. -/
theorem base64Char_spec {n : ℕ} (h : n < 64) :
    (base64Char n).val < 0x80 ∧ base64Char n ≠ '=' ∧
      base64Value (UInt8.ofNat (base64Char n).val) = some n := by
  have hall : ∀ n < 64, (base64Char n).val < 0x80 ∧ base64Char n ≠ '=' ∧
      base64Value (UInt8.ofNat (base64Char n).val) = some n := by decide
  exact hall n h

/-- An alphabet character is taken as its six bits. -/
theorem b64decodeFrom_char {n : ℕ} (h : n < 64) (position left pads : ℕ) (rest : Bytes) :
    b64decodeFrom position left pads (UInt8.ofNat (base64Char n).val :: rest) =
      match position with
      | 0 => b64decodeFrom 1 n 0 rest
      | 1 => (b64decodeFrom 2 (n % 16) 0 rest).map (UInt8.ofNat (left * 4 + n / 16) :: ·)
      | 2 => (b64decodeFrom 3 (n % 4) 0 rest).map (UInt8.ofNat (left * 16 + n / 4) :: ·)
      | _ => (b64decodeFrom 0 0 0 rest).map (UInt8.ofNat (left * 64 + n) :: ·) := by
  obtain ⟨-, -, hvalue⟩ := base64Char_spec h
  have hpad : UInt8.ofNat (base64Char n).val ≠ 0x3D := by
    intro heq
    rw [heq, show base64Value 0x3D = none by decide] at hvalue
    cases hvalue
  rw [b64decodeFrom, if_neg hpad, hvalue]

theorem UInt8.ofNat_eq {a : UInt8} {n : ℕ} (h : n = a.toNat) : UInt8.ofNat n = a := by
  rw [h, UInt8.ofNat_toNat]

/-- What was encoded decodes to itself. -/
theorem urlsafeB64decode_encode (bs : Bytes) (left : ℕ) :
    b64decodeFrom 0 left 0 ((urlsafeB64encode bs).map fun c => UInt8.ofNat c.val) = some bs := by
  induction bs using urlsafeB64encode.induct generalizing left with
  | case1 => rfl
  | case2 a =>
      have ha := a.toNat_lt
      simp only [urlsafeB64encode, List.map_cons, List.map_nil]
      rw [b64decodeFrom_char (by omega)]
      simp only []
      rw [b64decodeFrom_char (by omega)]
      simp only [Option.map_eq_some_iff]
      exact ⟨[], rfl, by rw [UInt8.ofNat_eq (show _ = a.toNat by omega)]⟩
  | case3 a b =>
      have ha := a.toNat_lt
      have hb := b.toNat_lt
      simp only [urlsafeB64encode, List.map_cons, List.map_nil]
      rw [b64decodeFrom_char (by omega)]
      simp only []
      rw [b64decodeFrom_char (by omega)]
      simp only []
      rw [b64decodeFrom_char (by omega)]
      simp only [Option.map_eq_some_iff]
      exact ⟨[b], ⟨[], rfl, by rw [UInt8.ofNat_eq (show _ = b.toNat by omega)]⟩,
        by rw [UInt8.ofNat_eq (show _ = a.toNat by omega)]⟩
  | case4 a b c rest ih =>
      have ha := a.toNat_lt
      have hb := b.toNat_lt
      have hc := c.toNat_lt
      simp only [urlsafeB64encode, List.map_cons]
      rw [b64decodeFrom_char (by omega)]
      simp only []
      rw [b64decodeFrom_char (by omega)]
      simp only []
      rw [b64decodeFrom_char (by omega)]
      simp only []
      rw [b64decodeFrom_char (by omega)]
      simp only [ih 0, Option.map_some, Option.some.injEq]
      rw [UInt8.ofNat_eq (show _ = a.toNat by omega), UInt8.ofNat_eq (show _ = b.toNat by omega),
        UInt8.ofNat_eq (show _ = c.toNat by omega)]

theorem isAscii_urlsafeB64encode (bs : Bytes) : isAscii (urlsafeB64encode bs) = true := by
  have hpad : (CodePoint.ofChar '=').val < 0x80 := by decide
  induction bs using urlsafeB64encode.induct with
  | case1 => rfl
  | case2 a =>
      have ha := a.toNat_lt
      simp [isAscii_iff, urlsafeB64encode, hpad, (base64Char_spec (n := a.toNat / 4) (by omega)).1,
        (base64Char_spec (n := a.toNat % 4 * 16) (by omega)).1]
  | case3 a b =>
      have ha := a.toNat_lt
      have hb := b.toNat_lt
      simp [isAscii_iff, urlsafeB64encode, hpad, (base64Char_spec (n := a.toNat / 4) (by omega)).1,
        (base64Char_spec (n := a.toNat % 4 * 16 + b.toNat / 16) (by omega)).1,
        (base64Char_spec (n := b.toNat % 16 * 4) (by omega)).1]
  | case4 a b c rest ih =>
      have ha := a.toNat_lt
      have hb := b.toNat_lt
      have hc := c.toNat_lt
      rw [isAscii_iff] at ih ⊢
      simp only [urlsafeB64encode, List.mem_cons]
      rintro x (rfl | rfl | rfl | rfl | hx)
      · exact (base64Char_spec (by omega)).1
      · exact (base64Char_spec (by omega)).1
      · exact (base64Char_spec (by omega)).1
      · exact (base64Char_spec (by omega)).1
      · exact ih x hx

theorem stripPadding_append {s t : Str} {c : CodePoint} (hc : c ≠ '=') :
    stripPadding (s ++ c :: t) = s ++ c :: stripPadding t := by
  have hsplit : s ++ c :: t = (s ++ [c]) ++ t := by simp
  have hlast : (s ++ [c]).reverse.dropWhile (fun c => c = CodePoint.ofChar '=') =
      (s ++ [c]).reverse := by
    rw [List.reverse_append, List.reverse_singleton, List.singleton_append,
      List.dropWhile_cons_of_neg (by simpa using hc)]
  rw [stripPadding, stripPadding, List.rdropWhile, List.rdropWhile, hsplit,
    List.reverse_append, List.dropWhile_append]
  split
  · next hempty =>
      rw [hlast, List.isEmpty_iff.mp hempty]
      simp
  · simp

/-- Stripping the padding and restoring it from the length is the identity. -/
theorem restorePadding_stripPadding (bs : Bytes) :
    restorePadding (stripPadding (urlsafeB64encode bs)) = urlsafeB64encode bs := by
  have hpads : stripPadding [CodePoint.ofChar '='] = [] ∧
      stripPadding [CodePoint.ofChar '=', CodePoint.ofChar '='] = [] := by decide
  induction bs using urlsafeB64encode.induct with
  | case1 => rfl
  | case2 a =>
      have ha := a.toNat_lt
      have h2 := (base64Char_spec (n := a.toNat % 4 * 16) (by omega)).2.1
      rw [urlsafeB64encode, ← List.singleton_append, stripPadding_append h2, hpads.2]
      rfl
  | case3 a b =>
      have hb := b.toNat_lt
      have h3 := (base64Char_spec (n := b.toNat % 16 * 4) (by omega)).2.1
      have hsplit : ∀ x y z w : CodePoint, [x, y, z, w] = [x, y] ++ z :: [w] := fun _ _ _ _ => rfl
      rw [urlsafeB64encode, hsplit, stripPadding_append h3, hpads.1]
      rfl
  | case4 a b c rest ih =>
      have hc := c.toNat_lt
      have h4 := (base64Char_spec (n := c.toNat % 64) (by omega)).2.1
      have hsplit : ∀ (x y z w : CodePoint) (t : Str), x :: y :: z :: w :: t =
          [x, y, z] ++ w :: t := fun _ _ _ _ _ => rfl
      rw [urlsafeB64encode, hsplit, stripPadding_append h4]
      generalize stripPadding (urlsafeB64encode rest) = s at ih ⊢
      have hcount : (4 - (s.length + 4) % 4) % 4 = (4 - s.length % 4) % 4 := by omega
      rw [← ih, restorePadding, restorePadding]
      simp only [List.length_append, List.length_cons, List.length_nil]
      rw [show 0 + 1 + 1 + 1 + (s.length + 1) = s.length + 4 by omega, hcount]
      simp

end Python
