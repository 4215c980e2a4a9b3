import Mathlib.Data.List.Induction
import WebhookMonitor.Python.Json

/-!
# The decimal form of a number

`str(n)` writes a positive number in one way, `int(text)` reads it in many: with
leading zeros, a sign, underscores, white space or other digits.  The text of a
positive number survives the way through `int` and `str` exactly when it is the
one `str` writes (`strInt_eq_iff`).
-/

namespace Python

/-- The one way `str` writes a positive number. -/
def isCanonicalDecimal (s : Str) : Bool :=
  s ≠ [] && s.all isDigit && s.head? ≠ some (CodePoint.ofChar '0')

theorem isCanonicalDecimal_iff {s : Str} : isCanonicalDecimal s = true ↔
    s ≠ [] ∧ (∀ c ∈ s, isDigit c = true) ∧ s.head? ≠ some (CodePoint.ofChar '0') := by
  simp [isCanonicalDecimal, and_assoc]

/-- The code point of a decimal digit. -/
def digitPoint (d : ℕ) : CodePoint := codePoint (0x30 + d)

theorem digitPoint_val {d : ℕ} (lt : d < 10) : (digitPoint d).val = 0x30 + d := by
  simp only [digitPoint, codePoint, Fin.ofNat]
  omega

theorem isDigit_digitPoint {d : ℕ} (lt : d < 10) : isDigit (digitPoint d) = true := by
  simp only [isDigit, Bool.and_eq_true, decide_eq_true_eq, digitPoint_val lt]
  omega

/-- The value of a digit. -/
theorem eq_digitPoint_of_isDigit {c : CodePoint} (digit : isDigit c = true) :
    c = digitPoint (c.val - 0x30) ∧ c.val - 0x30 < 10 := by
  simp only [isDigit, Bool.and_eq_true, decide_eq_true_eq] at digit
  have lt : c.val - 0x30 < 10 := by omega
  exact ⟨Fin.ext (by rw [digitPoint_val lt]; omega), lt⟩

/-- The digits of a number, the last one apart. -/
theorem decimal_eq (n : ℕ) :
    decimal n = (if n < 10 then [] else decimal (n / 10)) ++ [digitPoint (n % 10)] := by
  have last : ∀ d, d < 10 → CodePoint.ofChar (Nat.digitChar d) = digitPoint d := by
    decide
  rw [decimal, Nat.toDigits_eq_if (by decide)]
  split_ifs with small
  · rw [List.map_singleton, last n small, Nat.mod_eq_of_lt small, List.nil_append]
  · rw [List.map_append, List.map_singleton, last _ (Nat.mod_lt n (by decide)), decimal]

theorem decimal_ne_nil (n : ℕ) : decimal n ≠ [] := by
  rw [decimal_eq]
  exact List.append_ne_nil_of_right_ne_nil _ (List.cons_ne_nil _ _)

/-- A positive number is written in the canonical way. -/
theorem isCanonicalDecimal_decimal {n : ℕ} (pos : 0 < n) :
    isCanonicalDecimal (decimal n) = true := by
  rw [isCanonicalDecimal_iff]
  refine ⟨decimal_ne_nil n, ?_, ?_⟩
  · induction n using Nat.strongRecOn with
    | ind n ih =>
        intro c mem
        rw [decimal_eq] at mem
        rcases List.mem_append.mp mem with mem | mem
        · split_ifs at mem with small
          · cases mem
          · exact ih (n / 10) (by omega) (by omega) c mem
        · obtain rfl := List.mem_singleton.mp mem
          exact isDigit_digitPoint (Nat.mod_lt n (by decide))
  · induction n using Nat.strongRecOn with
    | ind n ih =>
        rw [decimal_eq]
        split_ifs with small
        · rw [List.nil_append, List.head?_cons]
          intro zero
          have := congrArg Fin.val (Option.some.inj zero)
          rw [digitPoint_val (Nat.mod_lt n (by decide))] at this
          have value : (CodePoint.ofChar '0').val = 0x30 := rfl
          omega
        · rw [List.head?_append_of_ne_nil _ (decimal_ne_nil _)]
          exact ih (n / 10) (by omega) (by omega)

/-- No two numbers are written alike. -/
theorem decimal_injective {n m : ℕ} (same : decimal n = decimal m) : n = m := by
  induction n using Nat.strongRecOn generalizing m with
  | ind n ih =>
      have digits := same
      rw [decimal_eq n, decimal_eq m] at digits
      obtain ⟨prefixes, lasts⟩ := List.append_inj' digits rfl
      have values := congrArg Fin.val (List.singleton_inj.mp lasts)
      rw [digitPoint_val (Nat.mod_lt n (by decide)), digitPoint_val (Nat.mod_lt m (by decide))]
        at values
      by_cases small : n < 10
      · rw [if_pos small] at prefixes
        by_cases small' : m < 10
        · omega
        · rw [if_neg small'] at prefixes
          exact absurd prefixes.symm (decimal_ne_nil _)
      · rw [if_neg small] at prefixes
        by_cases small' : m < 10
        · rw [if_pos small'] at prefixes
          exact absurd prefixes (decimal_ne_nil _)
        · rw [if_neg small'] at prefixes
          have := ih (n / 10) (by omega) prefixes
          omega

/-- The text of a positive number is made of digits. -/
theorem isDigit_of_mem_strInt {n : ℤ} (pos : 0 < n) {c : CodePoint} (mem : c ∈ strInt n) :
    isDigit c = true := by
  rw [strInt, if_neg (by omega)] at mem
  exact (isCanonicalDecimal_iff.mp (isCanonicalDecimal_decimal (by omega))).2.1 c mem

theorem strInt_injective {n m : ℤ} (pos : 0 < n) (pos' : 0 < m) (same : strInt n = strInt m) :
    n = m := by
  rw [strInt, strInt, if_neg (by omega), if_neg (by omega)] at same
  have := decimal_injective same
  omega

/-! ## Reading the canonical form -/

/-- The digits the scanner finds. -/
theorem scanDigits_of_isDigit {s : Str} (digits : ∀ c ∈ s, isDigit c = true) :
    scanDigits 10 true s = some (s.map fun c => c.val - 0x30) := by
  induction s with
  | nil => rfl
  | cons c rest ih =>
      have digit := digits c List.mem_cons_self
      simp only [isDigit, Bool.and_eq_true, decide_eq_true_eq] at digit
      have value : digitValue c = some (c.val - 0x30) := if_pos digit
      have underscore : c ≠ CodePoint.ofChar '_' := by
        rintro rfl
        exact absurd digit (by decide)
      rw [scanDigits, if_neg underscore, value]
      dsimp only
      rw [if_pos (by omega), ih fun c mem => digits c (List.mem_cons_of_mem _ mem)]
      rfl

/-- A number reads back from its canonical form. -/
theorem decimal_ofDigits {s : Str} (canonical : isCanonicalDecimal s = true) :
    0 < ofDigits 10 (s.map fun c => c.val - 0x30) ∧
      decimal (ofDigits 10 (s.map fun c => c.val - 0x30)) = s := by
  rw [isCanonicalDecimal_iff] at canonical
  obtain ⟨nonempty, digits, head⟩ := canonical
  -- by the last digit, as `decimal` writes it
  induction s using List.reverseRecOn with
  | nil => exact absurd rfl nonempty
  | append_singleton s c ih =>
      obtain ⟨hc, lt⟩ := eq_digitPoint_of_isDigit (digits c (by simp))
      have step : ofDigits 10 ((s ++ [c]).map fun c => c.val - 0x30) =
          ofDigits 10 (s.map fun c => c.val - 0x30) * 10 + (c.val - 0x30) := by
        rw [List.map_append, ofDigits, List.foldl_append, ← ofDigits]
        rfl
      rw [step]
      by_cases first : s = []
      · subst first
        have nonzero : c.val - 0x30 ≠ 0 := by
          intro zero
          rw [zero] at hc
          exact head (congrArg some hc)
        have value : ofDigits 10 (([] : Str).map fun c => c.val - 0x30) * 10 + (c.val - 0x30) =
            c.val - 0x30 := by
          rw [List.map_nil]
          exact Nat.zero_add _
        rw [value]
        refine ⟨by omega, ?_⟩
        rw [decimal_eq, if_pos lt, Nat.mod_eq_of_lt lt, ← hc, List.nil_append]
      · obtain ⟨pos, back⟩ := ih first (fun d mem => digits d (List.mem_append_left _ mem))
          (by rwa [List.head?_append_of_ne_nil _ first] at head)
        refine ⟨by omega, ?_⟩
        rw [decimal_eq, if_neg (by omega)]
        have init : (ofDigits 10 (s.map fun c => c.val - 0x30) * 10 + (c.val - 0x30)) / 10 =
            ofDigits 10 (s.map fun c => c.val - 0x30) := by omega
        have last : (ofDigits 10 (s.map fun c => c.val - 0x30) * 10 + (c.val - 0x30)) % 10 =
            c.val - 0x30 := by omega
        rw [init, last, back, ← hc]

/-- What `int` makes of the canonical form. -/
theorem readInt_of_canonical {s : Str} {n : ℤ} (canonical : isCanonicalDecimal s = true)
    (read : readInt s = some n) : n = ofDigits 10 (s.map fun c => c.val - 0x30) := by
  obtain ⟨nonempty, digits, -⟩ := isCanonicalDecimal_iff.mp canonical
  have range : ∀ c ∈ s, 0x30 ≤ c.val ∧ c.val ≤ 0x39 := by
    intro c mem
    have := digits c mem
    simpa only [isDigit, Bool.and_eq_true, decide_eq_true_eq] using this
  have ascii : isAscii s = true := isAscii_iff.mpr fun c mem => by
    have := range c mem
    omega
  have stripped : stripOf isCSpace s = s := stripOf_eq_self fun c mem => by
    have := range c mem
    simp only [isCSpace, Bool.or_eq_false_iff, Bool.and_eq_false_iff, decide_eq_false_iff_not,
      beq_eq_false_iff_ne]
    omega
  rw [readInt, transcribe, if_pos ascii, stripped] at read
  cases s with
  | nil => exact absurd rfl nonempty
  | cons c rest =>
      -- a canonical text starts with a digit, so it has no sign
      have digit := range c List.mem_cons_self
      have minus : c ≠ CodePoint.ofChar '-' := by
        rintro rfl
        exact absurd digit (by decide)
      have plus : c ≠ CodePoint.ofChar '+' := by
        rintro rfl
        exact absurd digit (by decide)
      have underscore : c ≠ CodePoint.ofChar '_' := by
        rintro rfl
        exact absurd digit (by decide)
      have value : digitValue c = some (c.val - 0x30) := if_pos digit
      have scanned : scanDigits 10 false (c :: rest) =
          some ((c :: rest).map fun c => c.val - 0x30) := by
        have := scanDigits_of_isDigit digits
        rw [scanDigits, if_neg underscore] at this ⊢
        exact this
      rw [scanSigned, if_neg minus, if_neg plus, scanDecimal, scanned] at read
      dsimp only at read
      split_ifs at read
      · cases read
        rfl
      · cases read

/-- Reading and writing a positive number gives its text back exactly when that is
the canonical one. -/
theorem strInt_eq_iff {s : Str} {n : ℤ} (read : readInt s = some n) (pos : 0 < n) :
    strInt n = s ↔ isCanonicalDecimal s = true := by
  have natural : strInt n = decimal n.natAbs := if_neg (by omega)
  rw [natural]
  constructor
  · rintro rfl
    exact isCanonicalDecimal_decimal (by omega)
  · intro canonical
    rw [readInt_of_canonical canonical read]
    exact (decimal_ofDigits canonical).2

end Python
