import WebhookMonitor.Python.Text

/-!
# Integers and their text

`int(text)` accepts more than ASCII digits: surrounding white space, a sign,
single underscores between digits and every Unicode decimal digit.  `readInt`
follows the interpreter: the text is first transcribed to ASCII, then scanned.
Its answer `none` is the `ValueError`.

For a base that is not a power of two the interpreter also refuses more than
4300 digits (`sys.int_info.default_max_str_digits`).
-/

namespace Python

/-- The code points of the decimal digit zero; each starts a block of ten. -/
def decimalZeros : List ℕ :=
  [0x30, 0x660, 0x6F0, 0x7C0, 0x966, 0x9E6, 0xA66, 0xAE6, 0xB66, 0xBE6, 0xC66, 0xCE6, 0xD66,
    0xDE6, 0xE50, 0xED0, 0xF20, 0x1040, 0x1090, 0x17E0, 0x1810, 0x1946, 0x19D0, 0x1A80, 0x1A90,
    0x1B50, 0x1BB0, 0x1C40, 0x1C50, 0xA620, 0xA8D0, 0xA900, 0xA9D0, 0xA9F0, 0xAA50, 0xABF0,
    0xFF10, 0x104A0, 0x10D30, 0x11066, 0x110F0, 0x11136, 0x111D0, 0x112F0, 0x11450, 0x114D0,
    0x11650, 0x116C0, 0x11730, 0x118E0, 0x11950, 0x11C50, 0x11D50, 0x11DA0, 0x11F50, 0x16A60,
    0x16AC0, 0x16B50, 0x1D7CE, 0x1D7D8, 0x1D7E2, 0x1D7EC, 0x1D7F6, 0x1E140, 0x1E2F0, 0x1E4F0,
    0x1E950, 0x1FBF0]

/-- The value of a Unicode decimal digit. -/
def decimalValue (c : CodePoint) : Option ℕ :=
  (decimalZeros.find? fun z => z ≤ c.val && c.val < z + 10).map fun z => c.val - z

/-- Transcription of one code point of a text that is not ASCII throughout:
white space to a blank, decimal digits to ASCII digits, the rest to `?`. -/
def transcribeChar (c : CodePoint) : CodePoint :=
  if c.val < 127 then c
  else if isSpace c then ' '
  else match decimalValue c with
    | some d => codePoint (0x30 + d)
    | none => '?'

/-- The ASCII form the interpreter scans. -/
def transcribe (s : Str) : Str :=
  if isAscii s then s else s.map transcribeChar

/-- White space of the C scanner. -/
def isCSpace (c : CodePoint) : Bool :=
  (0x09 ≤ c.val && c.val ≤ 0x0D) || c.val == 0x20

/-- The value of an ASCII letter or digit, up to base 36. -/
def digitValue (c : CodePoint) : Option ℕ :=
  let n := c.val
  if 0x30 ≤ n ∧ n ≤ 0x39 then some (n - 0x30)
  else if 0x61 ≤ n ∧ n ≤ 0x7A then some (n - 0x57)
  else if 0x41 ≤ n ∧ n ≤ 0x5A then some (n - 0x37)
  else none

/-- The digits of `s` in base `base`, single underscores between them dropped:
`none` unless all of `s` is such a sequence.  `afterDigit` is set when the code
point before was a digit. -/
def scanDigits (base : ℕ) : Bool → Str → Option (List ℕ)
  | afterDigit, [] => if afterDigit then some [] else none
  | afterDigit, c :: rest =>
      if c = '_' then
        if afterDigit then scanDigits base false rest else none
      else match digitValue c with
        | some d =>
            if d < base then (scanDigits base true rest).map (d :: ·) else none
        | none => none

/-- The number with these digits, most significant first. -/
def ofDigits (base : ℕ) (digits : List ℕ) : ℕ :=
  digits.foldl (fun n d => n * base + d) 0

/-- `sys.int_info.default_max_str_digits`. -/
def maxStrDigits : ℕ := 4300

/-- Scan an unsigned number in base 10. -/
def scanDecimal (s : Str) : Option ℕ :=
  match scanDigits 10 false s with
  | some digits => if digits.length ≤ maxStrDigits then some (ofDigits 10 digits) else none
  | none => none

/-- Scan an unsigned number in base 16, after an optional `0x`; the prefix may
be followed by one underscore. -/
def scanHex (s : Str) : Option ℕ :=
  let body := match s with
    | a :: b :: rest =>
        if a = '0' ∧ (b = 'x' ∨ b = 'X') then
          match rest with
          | c :: rest' => if c = '_' then rest' else rest
          | [] => rest
        else s
    | _ => s
  (scanDigits 16 false body).map (ofDigits 16)

/-- A sign, then an unsigned number. -/
def scanSigned (scan : Str → Option ℕ) : Str → Option ℤ
  | [] => none
  | c :: rest =>
      if c = '-' then (scan rest).map fun n => -(n : ℤ)
      else if c = '+' then (scan rest).map fun n => (n : ℤ)
      else (scan (c :: rest)).map fun n => (n : ℤ)

/-- `int(s)`; `none` is `ValueError`. -/
def readInt (s : Str) : Option ℤ :=
  scanSigned scanDecimal (stripOf isCSpace (transcribe s))

/-- `int(s, 16)`; `none` is `ValueError`. -/
def readHexInt (s : Str) : Option ℤ :=
  scanSigned scanHex (stripOf isCSpace (transcribe s))

/-- One hexadecimal digit in lower case. -/
def hexDigit (n : ℕ) : CodePoint :=
  codePoint (if n < 10 then 0x30 + n else 0x57 + n)

/-- `str(n)` for a natural number. -/
def decimal (n : ℕ) : Str := (Nat.toDigits 10 n).map CodePoint.ofChar

/-- `str(n)`. -/
def strInt (n : ℤ) : Str :=
  if n < 0 then CodePoint.ofChar '-' :: decimal n.natAbs else decimal n.natAbs

end Python
