import Mathlib.Data.Int.Log
import Mathlib.Data.Rat.Floor
import WebhookMonitor.Python.Bytes
import WebhookMonitor.Python.Errors
import WebhookMonitor.Python.Integer

/-!
# JSON values and `json.loads`

`Json` is what `json.loads` returns, with Python's own distinctions: `true` is
not the integer one, integers are unbounded, a number with a fraction or an
exponent is a binary64 float, text may hold lone surrogates, and a key given
twice keeps its last value.

`loads` follows the C scanner of the interpreter.  Besides `JSONDecodeError` it
has two more ways to fail: an integer literal of more than `maxStrDigits` digits
raises `ValueError`, and containers nested deeper than the interpreter's
recursion limit raise `RecursionError`.  The limit is a parameter; it is also
what the recursion of `scanValue` descends on.
-/

namespace Python

/-- An interpreter's recursion limit, as what is left of it when `json.loads` is
called. -/
abbrev RecursionLimit := {n : ℕ // 0 < n}

/-! ## Floats -/

/-- A binary64 number by its value.  The two zeros are not told apart. -/
inductive PyFloat where
  | nan
  | inf (negative : Bool)
  | finite (value : ℚ)
  deriving DecidableEq, Repr

/-- Rounding to an integer, ties to even. -/
def roundHalfEven (x : ℚ) : ℤ :=
  let f := ⌊x⌋
  if x - f < 1 / 2 then f
  else if 1 / 2 < x - f then f + 1
  else if f % 2 = 0 then f else f + 1

/-- The binary64 number nearest to `x`, infinite above the range. -/
def roundFloat (x : ℚ) : PyFloat :=
  if x = 0 then .finite 0
  else
    let e := max (Int.log 2 |x| - 52) (-1074)
    let rounded : ℚ := roundHalfEven (|x| / 2 ^ e) * 2 ^ e
    if 2 ^ (1024 : ℕ) ≤ rounded then .inf (decide (x < 0))
    else .finite (if x < 0 then -rounded else rounded)

/-- `float(n)` for an integer; `none` is `OverflowError`. -/
def floatOfInt (n : ℤ) : Option PyFloat :=
  match roundFloat n with
  | .inf _ => none
  | x => some x

/-- The float a literal denotes: `digits` scaled by a power of ten.  Far outside
the range the answer is known without computing the power. -/
def floatOfLiteral (negative : Bool) (digits : ℕ) (exponent : ℤ) : PyFloat :=
  let magnitude := exponent + (Nat.toDigits 10 digits).length
  if digits = 0 ∨ magnitude < -400 then .finite 0
  else if 400 < magnitude then .inf negative
  else roundFloat ((if negative then -1 else 1) * digits * 10 ^ exponent)

/-! ## Values -/

/-- A JSON value as Python holds it. -/
inductive Json where
  | null
  | bool (b : Bool)
  | int (n : ℤ)
  | float (x : PyFloat)
  | str (s : Str)
  | list (items : List Json)
  | dict (members : List (Str × Json))
  deriving Repr

/-- The members of a `dict`. -/
abbrev Members := List (Str × Json)

/-- `d[key]`, absent when the key is. -/
def Members.lookup (d : Members) (key : Str) : Option Json :=
  (d.find? fun m => m.1 = key).map Prod.snd

/-- `d.get(key)`: `None` for an absent key. -/
def Members.get (d : Members) (key : Str) : Json :=
  (Members.lookup d key).getD .null

/-- `d[key] = value` while a `dict` is being filled. -/
def Members.set (d : Members) (key : Str) (value : Json) : Members :=
  if d.any fun m => m.1 = key then
    d.map fun m => if m.1 = key then (key, value) else m
  else d ++ [(key, value)]

/-- `isinstance(value, str)`. -/
def Json.str? : Json → Option Str
  | .str s => some s
  | _ => none

/-- `isinstance(value, dict)`. -/
def Json.dict? : Json → Option Members
  | .dict d => some d
  | _ => none

/-- `isinstance(value, list)`. -/
def Json.list? : Json → Option (List Json)
  | .list items => some items
  | _ => none

/-- `isinstance(value, int)`: a boolean is an integer. -/
def Json.int? : Json → Option ℤ
  | .int n => some n
  | .bool b => some (if b then 1 else 0)
  | _ => none

/-- `isinstance(value, bool)`. -/
def Json.bool? : Json → Option Bool
  | .bool b => some b
  | _ => none

/-- `value is None`. -/
def Json.isNone : Json → Bool
  | .null => true
  | _ => false

/-- A value that is text or null. -/
def IsTextOrNull (value : Json) : Prop := value = .null ∨ ∃ s, value = .str s

/-- `value == n`: numbers compare by value, whatever their type. -/
def Json.eqInt : Json → ℤ → Bool
  | .int m, n => m == n
  | .bool b, n => (if b then 1 else 0) == n
  | .float (.finite x), n => x == n
  | _, _ => false

/-- `value == s`. -/
def Json.eqStr (value : Json) (s : Str) : Bool := value.str? == some s

theorem Json.eqStr_iff {value : Json} {s : Str} : value.eqStr s = true ↔ value = .str s := by
  cases value <;> simp [Json.eqStr, Json.str?]

theorem Json.isNone_iff {value : Json} : value.isNone = true ↔ value = .null := by
  cases value <;> simp [Json.isNone]

/-! ## The scanner -/

/-- The four characters JSON treats as white space. -/
def isJsonSpace (c : CodePoint) : Bool :=
  c.val == 0x20 || c.val == 0x09 || c.val == 0x0A || c.val == 0x0D

def skipSpace (s : Str) : Str := s.dropWhile isJsonSpace

/-- An ASCII digit. -/
def isDigit (c : CodePoint) : Bool := 0x30 ≤ c.val && c.val ≤ 0x39

/-- The value of a hexadecimal digit. -/
def hexValue (c : CodePoint) : Option ℕ :=
  (digitValue c).filter (· < 16)

/-- The character of a two-character escape. -/
def simpleEscape (c : CodePoint) : Option CodePoint :=
  if c = '"' then some '"'
  else if c = '\\' then some '\\'
  else if c = '/' then some '/'
  else if c = 'b' then some (codePoint 0x08)
  else if c = 'f' then some (codePoint 0x0C)
  else if c = 'n' then some (codePoint 0x0A)
  else if c = 'r' then some (codePoint 0x0D)
  else if c = 't' then some (codePoint 0x09)
  else none

/-- Where the string scanner stands: in plain text, after a backslash, or inside
the four digits of a `\u` escape. -/
inductive StringMode where
  | plain
  | escape
  | hex (left value : ℕ)

def isHighSurrogate (n : ℕ) : Bool := 0xD800 ≤ n && n ≤ 0xDBFF
def isLowSurrogate (n : ℕ) : Bool := 0xDC00 ≤ n && n ≤ 0xDFFF

/-- Put back a high surrogate no low one followed. -/
def flush (high : Option ℕ) (s : Str) : Str :=
  match high with
  | some h => codePoint h :: s
  | none => s

/-- The rest of a string literal and what follows it.  `high` is a high
surrogate from the escape just read: a low one in the next escape joins it. -/
def scanString (high : Option ℕ) : StringMode → Str → Except BuiltinError (Str × Str)
  | _, [] => .error .jsonDecodeError
  | .plain, c :: rest =>
      if c = '"' then .ok (flush high [], rest)
      else if c = '\\' then scanString high .escape rest
      else if c.val < 0x20 then .error .jsonDecodeError
      else (scanString none .plain rest).map fun r => (flush high (c :: r.1), r.2)
  | .escape, c :: rest =>
      if c = 'u' then scanString high (.hex 3 0) rest
      else match simpleEscape c with
        | some e => (scanString none .plain rest).map fun r => (flush high (e :: r.1), r.2)
        | none => .error .jsonDecodeError
  | .hex left value, c :: rest =>
      match hexValue c with
      | none => .error .jsonDecodeError
      | some d =>
          let value' := value * 16 + d
          match left with
          | left + 1 => scanString high (.hex left value') rest
          | 0 =>
              match high with
              | some h =>
                  if isLowSurrogate value' then
                    (scanString none .plain rest).map fun r =>
                      (codePoint (0x10000 + (h - 0xD800) * 0x400 + (value' - 0xDC00)) :: r.1, r.2)
                  else if isHighSurrogate value' then
                    (scanString (some value') .plain rest).map fun r => (codePoint h :: r.1, r.2)
                  else (scanString none .plain rest).map fun r =>
                    (codePoint h :: codePoint value' :: r.1, r.2)
              | none =>
                  if isHighSurrogate value' then scanString (some value') .plain rest
                  else (scanString none .plain rest).map fun r => (codePoint value' :: r.1, r.2)

/-- A fraction: the digits after a point that a digit follows. -/
def scanFraction : Str → Option (Str × Str)
  | c :: d :: rest =>
      if c = '.' ∧ isDigit d = true then some ((d :: rest).span isDigit) else none
  | _ => none

/-- An exponent: `e`, a sign or none, and at least one digit. -/
def scanExponent : Str → Option (ℤ × Str)
  | [] => none
  | c :: rest =>
      if c = 'e' ∨ c = 'E' then
        let signed := match rest with
          | d :: rest' => if d = '-' then (true, rest') else if d = '+' then (false, rest')
              else (false, rest)
          | [] => (false, rest)
        match signed.2.span isDigit with
        | ([], _) => none
        | (digits, rest') =>
            let n : ℤ := ofDigits 10 (digits.filterMap digitValue)
            some (if signed.1 then -n else n, rest')
      else none

/-- A number literal. -/
def scanNumber (s : Str) : Except BuiltinError (Json × Str) :=
  let signed := match s with
    | c :: rest => if c = '-' then (true, rest) else (false, s)
    | [] => (false, s)
  let whole := match signed.2 with
    | c :: rest => if c = '0' then ([c], rest) else (c :: rest).span isDigit
    | [] => ([], [])
  if whole.1 = [] then .error .jsonDecodeError
  else
    let fraction := scanFraction whole.2
    let rest := match fraction with
      | some f => f.2
      | none => whole.2
    let value := fun digits => ofDigits 10 (digits.filterMap digitValue)
    match fraction, scanExponent rest with
    | none, none =>
        if whole.1.length ≤ maxStrDigits then
          let n : ℤ := value whole.1
          .ok (.int (if signed.1 then -n else n), rest)
        else .error .valueError
    | _, exponent =>
        let places := match fraction with
          | some f => f.1
          | none => []
        let tail := match exponent with
          | some e => e.2
          | none => rest
        let e : ℤ := match exponent with
          | some e => e.1
          | none => 0
        .ok (.float (floatOfLiteral signed.1 (value (whole.1 ++ places)) (e - places.length)), tail)

/-- The items of an array up to its closing bracket.  Every item takes at least
one code point, so the length of the text is fuel enough. -/
def scanItems (value : Str → Except BuiltinError (Json × Str)) :
    ℕ → Str → Except BuiltinError (List Json × Str)
  | 0, _ => .error .jsonDecodeError
  | fuel + 1, s => do
      let (v, rest) ← value s
      match skipSpace rest with
      | c :: rest =>
          if c = ']' then .ok ([v], rest)
          else if c = ',' then
            (scanItems value fuel (skipSpace rest)).map fun r => (v :: r.1, r.2)
          else .error .jsonDecodeError
      | [] => .error .jsonDecodeError

/-- The members of an object up to its closing brace, added to `d`. -/
def scanMembers (value : Str → Except BuiltinError (Json × Str)) :
    ℕ → Members → Str → Except BuiltinError (Members × Str)
  | 0, _, _ => .error .jsonDecodeError
  | fuel + 1, d, s =>
      match s with
      | [] => .error .jsonDecodeError
      | quote :: s =>
          if quote ≠ '"' then .error .jsonDecodeError
          else do
            let (key, rest) ← scanString none .plain s
            match skipSpace rest with
            | colon :: rest =>
                if colon ≠ ':' then .error .jsonDecodeError
                else do
                  let (v, rest) ← value (skipSpace rest)
                  match skipSpace rest with
                  | c :: rest =>
                      if c = '}' then .ok (Members.set d key v, rest)
                      else if c = ',' then
                        scanMembers value fuel (Members.set d key v) (skipSpace rest)
                      else .error .jsonDecodeError
                  | [] => .error .jsonDecodeError
            | [] => .error .jsonDecodeError

/-- One value, given how to scan the values inside it: `none` when the recursion
limit allows no container here. -/
def scanOnce (inner : Option (Str → Except BuiltinError (Json × Str))) (s : Str) :
    Except BuiltinError (Json × Str) :=
  match s with
  | [] => .error .jsonDecodeError
  | c :: rest =>
      if c = '"' then (scanString none .plain rest).map fun r => (.str r.1, r.2)
      else if c = '{' then
        match inner with
        | none => .error .recursionError
        | some value =>
            match skipSpace rest with
            | d :: rest' =>
                if d = '}' then .ok (.dict [], rest')
                else (scanMembers value rest.length [] (d :: rest')).map fun r => (.dict r.1, r.2)
            | [] => .error .jsonDecodeError
      else if c = '[' then
        match inner with
        | none => .error .recursionError
        | some value =>
            match skipSpace rest with
            | d :: rest' =>
                if d = ']' then .ok (.list [], rest')
                else (scanItems value rest.length (d :: rest')).map fun r => (.list r.1, r.2)
            | [] => .error .jsonDecodeError
      else if Str.lit "null" <+: s then .ok (.null, s.drop 4)
      else if Str.lit "true" <+: s then .ok (.bool true, s.drop 4)
      else if Str.lit "false" <+: s then .ok (.bool false, s.drop 5)
      else if Str.lit "NaN" <+: s then .ok (.float .nan, s.drop 3)
      else if Str.lit "Infinity" <+: s then .ok (.float (.inf false), s.drop 8)
      else if Str.lit "-Infinity" <+: s then .ok (.float (.inf true), s.drop 9)
      else scanNumber s

/-- One value, with at most `limit` containers inside one another. -/
def scanValue : ℕ → Str → Except BuiltinError (Json × Str)
  | 0 => scanOnce none
  | limit + 1 => scanOnce (some (scanValue limit))

/-- `json.loads` of text, under a recursion limit. -/
def loads (limit : ℕ) (s : Str) : Except BuiltinError Json :=
  if [codePoint 0xFEFF] <+: s then .error .jsonDecodeError
  else do
    let (v, rest) ← scanValue limit (skipSpace s)
    if skipSpace rest = [] then .ok v else .error .jsonDecodeError

/-- `bytes.decode(json.detect_encoding(bytes), "surrogatepass")`. -/
def decodeJsonBytes (bs : Bytes) : Option Str :=
  if [0x00, 0x00, 0xFE, 0xFF] <+: bs then decodeUtf32 true (bs.drop 4)
  else if [0xFF, 0xFE, 0x00, 0x00] <+: bs then decodeUtf32 false (bs.drop 4)
  else if [0xFE, 0xFF] <+: bs then decodeUtf16 true (bs.drop 2)
  else if [0xFF, 0xFE] <+: bs then decodeUtf16 false (bs.drop 2)
  else if [0xEF, 0xBB, 0xBF] <+: bs then decodeUtf8 .surrogatepass (bs.drop 3)
  else match bs with
    | a :: b :: c :: d :: _ =>
        if a = 0 then if b = 0 then decodeUtf32 true bs else decodeUtf16 true bs
        else if b = 0 then
          if c = 0 ∧ d = 0 then decodeUtf32 false bs else decodeUtf16 false bs
        else decodeUtf8 .surrogatepass bs
    | [a, b] =>
        if a = 0 then decodeUtf16 true bs
        else if b = 0 then decodeUtf16 false bs
        else decodeUtf8 .surrogatepass bs
    | _ => decodeUtf8 .surrogatepass bs

/-- `json.loads` of bytes. -/
def loadsBytes (limit : ℕ) (bs : Bytes) : Except BuiltinError Json := do
  let s ← orRaise .unicodeDecodeError (decodeJsonBytes bs)
  loads limit s

/-! ## Its exceptions -/

/-- What `json.loads` raises. -/
def IsLoadsError (e : BuiltinError) : Prop := e.isValueError = true ∨ e = .recursionError

theorem scanString_raises (high : Option ℕ) (mode : StringMode) (s : Str) :
    RaisesOnly IsLoadsError (scanString high mode s) := by
  induction s generalizing high mode with
  | nil => cases mode <;> exact .error (.inl rfl)
  | cons c rest ih =>
      cases mode with
      | plain =>
          rw [scanString]
          split_ifs
          · exact .ok
          · exact ih _ _
          · exact .error (.inl rfl)
          · exact (ih _ _).map
      | escape =>
          rw [scanString]
          split_ifs
          · exact ih _ _
          · cases simpleEscape c with
            | none => exact .error (.inl rfl)
            | some e => exact (ih _ _).map
      | hex left value =>
          rw [scanString]
          cases hexValue c with
          | none => exact .error (.inl rfl)
          | some d =>
              cases left with
              -- the last hexadecimal digit: a pair of surrogates may close here
              | succ left => exact ih _ _
              | zero =>
                  cases high with
                  | none =>
                      dsimp only
                      split_ifs
                      · exact ih _ _
                      · exact (ih _ _).map
                  | some h =>
                      dsimp only
                      split_ifs
                      · exact (ih _ _).map
                      · exact (ih _ _).map
                      · exact (ih _ _).map

theorem scanNumber_raises (s : Str) : RaisesOnly IsLoadsError (scanNumber s) := by
  unfold scanNumber
  dsimp only
  refine .ite (fun _ => .error (.inl rfl)) fun _ => ?_
  split
  · exact .ite (fun _ => .ok) fun _ => .error (.inl rfl)
  · exact .ok

section Containers

variable {value : Str → Except BuiltinError (Json × Str)}
  (inner : ∀ s, RaisesOnly IsLoadsError (value s))
include inner

theorem scanItems_raises (fuel : ℕ) (s : Str) :
    RaisesOnly IsLoadsError (scanItems value fuel s) := by
  induction fuel generalizing s with
  | zero => exact .error (.inl rfl)
  | succ fuel ih =>
      rw [scanItems]
      refine (inner s).bind fun r _ => ?_
      obtain ⟨v, rest⟩ := r
      dsimp only
      cases skipSpace rest with
      | nil => exact .error (.inl rfl)
      | cons c rest =>
          dsimp only
          split_ifs
          · exact .ok
          · exact (ih _).map
          · exact .error (.inl rfl)

theorem scanMembers_raises (fuel : ℕ) (d : Members) (s : Str) :
    RaisesOnly IsLoadsError (scanMembers value fuel d s) := by
  induction fuel generalizing d s with
  | zero => exact .error (.inl rfl)
  | succ fuel ih =>
      cases s with
      | nil => exact .error (.inl rfl)
      | cons quote s =>
          rw [scanMembers]
          split_ifs
          · exact .error (.inl rfl)
          · refine (scanString_raises _ _ _).bind fun r _ => ?_
            obtain ⟨key, rest⟩ := r
            dsimp only
            cases skipSpace rest with
            | nil => exact .error (.inl rfl)
            | cons colon rest =>
                dsimp only
                split_ifs
                · exact .error (.inl rfl)
                · refine (inner _).bind fun r _ => ?_
                  obtain ⟨v, rest⟩ := r
                  dsimp only
                  cases skipSpace rest with
                  | nil => exact .error (.inl rfl)
                  | cons c rest =>
                      dsimp only
                      split_ifs
                      · exact .ok
                      · exact ih _ _
                      · exact .error (.inl rfl)

end Containers

theorem scanOnce_raises {inner : Option (Str → Except BuiltinError (Json × Str))}
    (values : ∀ value ∈ inner, ∀ s, RaisesOnly IsLoadsError (value s)) (s : Str) :
    RaisesOnly IsLoadsError (scanOnce inner s) := by
  cases s with
  | nil => exact .error (.inl rfl)
  | cons c rest =>
      refine .ite (fun _ => (scanString_raises _ _ _).map) fun _ => ?_
      refine .ite (fun _ => ?_) fun _ => ?_
      · cases inner with
        | none => exact .error (.inr rfl)
        | some value =>
            dsimp only
            cases skipSpace rest with
            | nil => exact .error (.inl rfl)
            | cons d rest' =>
                exact .ite (fun _ => .ok) fun _ => (scanMembers_raises (values value rfl) _ _ _).map
      refine .ite (fun _ => ?_) fun _ => ?_
      · cases inner with
        | none => exact .error (.inr rfl)
        | some value =>
            dsimp only
            cases skipSpace rest with
            | nil => exact .error (.inl rfl)
            | cons d rest' =>
                exact .ite (fun _ => .ok) fun _ => (scanItems_raises (values value rfl) _ _).map
      -- the literals
      refine .ite (fun _ => .ok) fun _ => .ite (fun _ => .ok) fun _ => ?_
      refine .ite (fun _ => .ok) fun _ => .ite (fun _ => .ok) fun _ => ?_
      refine .ite (fun _ => .ok) fun _ => .ite (fun _ => .ok) fun _ => ?_
      exact scanNumber_raises _

theorem scanValue_raises (limit : ℕ) (s : Str) : RaisesOnly IsLoadsError (scanValue limit s) := by
  induction limit generalizing s with
  | zero => exact scanOnce_raises (fun value mem => by cases mem) s
  | succ limit ih => exact scanOnce_raises (fun value mem => by cases mem; exact ih) s

/-- Whatever the bytes, `json.loads` raises a `ValueError` or meets the recursion limit. -/
theorem loadsBytes_raises (limit : ℕ) (bs : Bytes) :
    RaisesOnly IsLoadsError (loadsBytes limit bs) := by
  refine (RaisesOnly.orRaise (.inl rfl)).bind fun s _ => ?_
  rw [loads]
  split_ifs
  · exact .error (.inl rfl)
  · refine (scanValue_raises _ _).bind fun r _ => ?_
    obtain ⟨v, rest⟩ := r
    dsimp only
    split_ifs
    · exact .ok
    · exact .error (.inl rfl)

end Python
