import Mathlib.Data.List.Lex
import Mathlib.Data.List.Sort
import Mathlib.Order.Fin.Basic
import WebhookMonitor.Python.Json

/-!
# Writing JSON

`json.dumps(d, separators=(",", ":"), sort_keys=True)` for a flat `d`, and that
`json.loads` reads such text back.

The writer escapes everything but printable ASCII, so its text is ASCII.  It
reads back because the two ends of an escape fit together (`scanString_escape`)
and because a code point outside the basic plane is written as a surrogate pair,
which the scanner joins again.  A lone surrogate would not survive: two of them
in a row read back as one code point.
-/

namespace Python

/-- A value of a flat object. -/
inductive Scalar where
  | null
  | int (n : ℤ)
  | str (s : Str)

def Scalar.toJson : Scalar → Json
  | .null => .null
  | .int n => .int n
  | .str s => .str s

/-! ## The writer -/

/-- `\uXXXX`. -/
def escapeUnit (n : ℕ) : Str :=
  [CodePoint.ofChar '\\', CodePoint.ofChar 'u', hexDigit (n / 0x1000), hexDigit (n / 0x100 % 16),
    hexDigit (n / 0x10 % 16), hexDigit (n % 16)]

/-- One code point inside a string literal. -/
def escapeChar (c : CodePoint) : Str :=
  if c = '"' then "\\\""
  else if c = '\\' then "\\\\"
  else if c.val = 0x08 then "\\b"
  else if c.val = 0x0C then "\\f"
  else if c.val = 0x0A then "\\n"
  else if c.val = 0x0D then "\\r"
  else if c.val = 0x09 then "\\t"
  else if 0x20 ≤ c.val ∧ c.val ≤ 0x7E then [c]
  else if c.val < 0x10000 then escapeUnit c.val
  else escapeUnit (0xD800 + (c.val - 0x10000) / 0x400) ++
    escapeUnit (0xDC00 + (c.val - 0x10000) % 0x400)

def dumpsStr (s : Str) : Str :=
  Str.lit "\"" ++ s.flatMap escapeChar ++ Str.lit "\""

def Scalar.dumps : Scalar → Str
  | .null => "null"
  | .int n => strInt n
  | .str s => dumpsStr s

/-- The members and the closing brace. -/
def dumpsMembers : List (Str × Scalar) → Str
  | [] => "\x7d"
  | [(key, value)] => dumpsStr key ++ Str.lit ":" ++ value.dumps ++ Str.lit "\x7d"
  | (key, value) :: rest =>
      dumpsStr key ++ Str.lit ":" ++ value.dumps ++ Str.lit "," ++ dumpsMembers rest

/-- `sort_keys`. -/
def sortKeys (members : List (Str × Scalar)) : List (Str × Scalar) :=
  members.insertionSort fun a b => a.1 ≤ b.1

/-- `json.dumps(d, separators=(",", ":"), sort_keys=True)`. -/
def dumps (members : List (Str × Scalar)) : Str := Str.lit "\x7b" ++ dumpsMembers (sortKeys members)

/-! ## The text is ASCII -/

theorem hexDigit_lt {d : ℕ} (h : d < 16) : (hexDigit d).val < 0x80 := by
  have hall : ∀ d < 16, (hexDigit d).val < 0x80 := by decide
  exact hall d h

theorem isAscii_escapeUnit {n : ℕ} (h : n < 0x10000) : isAscii (escapeUnit n) = true := by
  rw [isAscii_iff]
  intro c hc
  simp only [escapeUnit, List.mem_cons, List.not_mem_nil, or_false] at hc
  rcases hc with rfl | rfl | rfl | rfl | rfl | rfl
  · decide
  · decide
  all_goals exact hexDigit_lt (by omega)

theorem isAscii_escapeChar (c : CodePoint) : isAscii (escapeChar c) = true := by
  have hmax := c.isLt
  unfold escapeChar
  split_ifs
  · rfl
  · rfl
  · rfl
  · rfl
  · rfl
  · rfl
  · rfl
  · simp only [isAscii_iff, List.mem_singleton, forall_eq]
    omega
  · exact isAscii_escapeUnit ‹_›
  · rw [isAscii_append, isAscii_escapeUnit (by omega), isAscii_escapeUnit (by omega)]
    rfl

theorem isAscii_dumpsStr (s : Str) : isAscii (dumpsStr s) = true := by
  have hbody : isAscii (s.flatMap escapeChar) = true := by
    rw [isAscii_iff]
    intro c hc
    obtain ⟨x, -, hx⟩ := List.mem_flatMap.mp hc
    exact isAscii_iff.mp (isAscii_escapeChar x) c hx
  rw [dumpsStr, isAscii_append, isAscii_append, hbody]
  rfl

/-! ## String literals read back -/

theorem hexValue_hexDigit {d : ℕ} (h : d < 16) : hexValue (hexDigit d) = some d := by
  have hall : ∀ d < 16, hexValue (hexDigit d) = some d := by decide
  exact hall d h

/-- The four digits of an escape reach the scanner as the number they write. -/
theorem scanString_escapeUnit (high : Option ℕ) {n : ℕ} (h : n < 0x10000) (rest : Str) :
    scanString high .plain (escapeUnit n ++ rest) =
      scanString high (.hex 0 (n / 16)) (hexDigit (n % 16) :: rest) := by
  have h3 := hexValue_hexDigit (d := n / 0x1000) (by omega)
  have h2 := hexValue_hexDigit (d := n / 0x100 % 16) (by omega)
  have h1 := hexValue_hexDigit (d := n / 0x10 % 16) (by omega)
  have hn : ((0 * 16 + n / 0x1000) * 16 + n / 0x100 % 16) * 16 + n / 0x10 % 16 = n / 16 := by
    omega
  have hquote : CodePoint.ofChar '\\' ≠ CodePoint.ofChar '"' := by decide
  simp only [escapeUnit, List.cons_append, List.nil_append]
  rw [scanString, if_neg hquote, if_pos rfl, scanString, if_pos rfl, scanString, h3]
  simp only []
  rw [scanString, h2]
  simp only []
  rw [scanString, h1]
  simp only [hn]

theorem scanString_escapeUnit_scalar {c : CodePoint} (hc : c.val < 0x10000)
    (hs : isSurrogate c = false) (rest : Str) :
    scanString none .plain (escapeUnit c.val ++ rest) =
      (scanString none .plain rest).map fun r => (c :: r.1, r.2) := by
  have hd := hexValue_hexDigit (d := c.val % 16) (by omega)
  have hval : c.val / 16 * 16 + c.val % 16 = c.val := by omega
  have hhigh : isHighSurrogate c.val = false := by
    simp only [isSurrogate, isHighSurrogate, Bool.and_eq_false_iff, decide_eq_false_iff_not] at *
    omega
  rw [scanString_escapeUnit none hc, scanString, hd]
  simp only [hval, hhigh, codePoint_val]
  rfl

theorem scanString_escapeUnit_pair {c : CodePoint} (hc : ¬ c.val < 0x10000) (rest : Str) :
    scanString none .plain
        (escapeUnit (0xD800 + (c.val - 0x10000) / 0x400) ++
          (escapeUnit (0xDC00 + (c.val - 0x10000) % 0x400) ++ rest)) =
      (scanString none .plain rest).map fun r => (c :: r.1, r.2) := by
  have hmax := c.isLt
  generalize hh : 0xD800 + (c.val - 0x10000) / 0x400 = high
  generalize hl : 0xDC00 + (c.val - 0x10000) % 0x400 = low
  have hd := hexValue_hexDigit (d := high % 16) (by omega)
  have hd' := hexValue_hexDigit (d := low % 16) (by omega)
  have hval : high / 16 * 16 + high % 16 = high := by omega
  have hval' : low / 16 * 16 + low % 16 = low := by omega
  have hhigh : isHighSurrogate high = true := by
    simp only [isHighSurrogate, Bool.and_eq_true, decide_eq_true_eq]
    omega
  have hlow : isLowSurrogate low = true := by
    simp only [isLowSurrogate, Bool.and_eq_true, decide_eq_true_eq]
    omega
  have hjoin : 0x10000 + (high - 0xD800) * 0x400 + (low - 0xDC00) = c.val := by omega
  rw [scanString_escapeUnit none (by omega), scanString, hd]
  simp only [hval, hhigh, if_true]
  rw [scanString_escapeUnit _ (by omega), scanString, hd']
  simp only [hval', hlow, if_true, hjoin, codePoint_val]

/-- One escaped code point reads back as itself. -/
theorem scanString_escapeChar {c : CodePoint} (hs : isSurrogate c = false) (rest : Str) :
    scanString none .plain (escapeChar c ++ rest) =
      (scanString none .plain rest).map fun r => (c :: r.1, r.2) := by
  have two : ∀ e d : CodePoint, e ≠ 'u' → simpleEscape e = some d →
      scanString none .plain ([CodePoint.ofChar '\\', e] ++ rest) =
        (scanString none .plain rest).map fun r => (d :: r.1, r.2) := by
    intro e d hu he
    have hquote : CodePoint.ofChar '\\' ≠ CodePoint.ofChar '"' := by decide
    rw [List.cons_append, List.cons_append, List.nil_append, scanString, if_neg hquote,
      if_pos rfl, scanString, if_neg hu, he]
    rfl
  have named : ∀ n : ℕ, c.val = n → c = codePoint n := by
    rintro n rfl
    exact (codePoint_val c).symm
  unfold escapeChar
  split_ifs with h1 h2 h3 h4 h5 h6 h7 h8 h9
  · rw [h1]; exact two '"' '"' (by decide) (by decide)
  · rw [h2]; exact two '\\' '\\' (by decide) (by decide)
  · rw [named _ h3]; exact two 'b' _ (by decide) (by decide)
  · rw [named _ h4]; exact two 'f' _ (by decide) (by decide)
  · rw [named _ h5]; exact two 'n' _ (by decide) (by decide)
  · rw [named _ h6]; exact two 'r' _ (by decide) (by decide)
  · rw [named _ h7]; exact two 't' _ (by decide) (by decide)
  · rw [List.singleton_append, scanString, if_neg h1, if_neg h2, if_neg (by omega)]
    rfl
  · exact scanString_escapeUnit_scalar h9 hs rest
  · rw [List.append_assoc]
    exact scanString_escapeUnit_pair h9 rest

/-- A written string literal reads back, for text without surrogates. -/
theorem scanString_dumps {s : Str} (hs : isScalar s = true) (rest : Str) :
    scanString none .plain (s.flatMap escapeChar ++ (Str.lit "\"" ++ rest)) = .ok (s, rest) := by
  induction s with
  | nil => rfl
  | cons c s ih =>
      rw [isScalar_iff] at hs
      have hc := hs c (by simp)
      have htail : isScalar s = true := isScalar_iff.mpr fun x hx => hs x (by simp [hx])
      rw [List.flatMap_cons, List.append_assoc, scanString_escapeChar hc, ih htail]
      rfl

/-! ## Objects read back -/

/-- `value` reads back inside an object: whatever follows a member, the scanner
takes exactly the text of the value. -/
structure Scalar.Readable (value : Scalar) : Prop where
  scan : ∀ inner rest, (rest.head? = some (CodePoint.ofChar ',') ∨
      rest.head? = some (CodePoint.ofChar '}')) →
    scanOnce inner (value.dumps ++ rest) = .ok (value.toJson, rest)
  starts : ∃ c tail, value.dumps = c :: tail ∧ isJsonSpace c = false
  ascii : isAscii value.dumps = true

theorem readable_str {s : Str} (hs : isScalar s = true) : (Scalar.str s).Readable where
  scan inner rest _ := by
    rw [Scalar.dumps, dumpsStr, List.append_assoc, List.append_assoc]
    change scanOnce inner (CodePoint.ofChar '"' :: (s.flatMap escapeChar ++ _)) = _
    rw [scanOnce.eq_def]
    simp only [if_true, scanString_dumps hs]
    rfl
  starts := ⟨CodePoint.ofChar '"', s.flatMap escapeChar ++ Str.lit "\"", rfl, by decide⟩
  ascii := isAscii_dumpsStr s

theorem readable_one : (Scalar.int 1).Readable where
  scan inner rest follows := by
    cases rest with
    | nil => simp at follows
    | cons c rest =>
        have hc : c = ',' ∨ c = '}' := by simpa using follows
        rcases hc with rfl | rfl <;> cases rest <;> rfl
  starts := ⟨CodePoint.ofChar '1', [], rfl, by decide⟩
  ascii := rfl

theorem skipSpace_cons {c : CodePoint} (h : isJsonSpace c = false) (s : Str) :
    skipSpace (c :: s) = c :: s := by
  rw [skipSpace, List.dropWhile_cons_of_neg (by simp [h])]

theorem scanValue_readable (limit : ℕ) {value : Scalar} (readable : value.Readable) (rest : Str)
    (follows : rest.head? = some (CodePoint.ofChar ',') ∨
      rest.head? = some (CodePoint.ofChar '}')) :
    scanValue limit (skipSpace (value.dumps ++ rest)) = .ok (value.toJson, rest) := by
  obtain ⟨c, tail, hstart, hspace⟩ := readable.starts
  rw [hstart, List.cons_append, skipSpace_cons hspace, ← List.cons_append, ← hstart]
  cases limit <;> exact readable.scan _ _ follows

/-- The loop reads one written member and goes by the character after it. -/
theorem scanMembers_member {limit fuel : ℕ} {key : Str} {value : Scalar}
    (hkey : isScalar key = true) (readable : value.Readable) (d : Members) {c : CodePoint}
    (hc : c = ',' ∨ c = '}') (rest : Str) :
    scanMembers (scanValue limit) (fuel + 1) d
        (dumpsStr key ++ Str.lit ":" ++ value.dumps ++ c :: rest) =
      if c = '}' then .ok (Members.set d key value.toJson, rest)
      else scanMembers (scanValue limit) fuel (Members.set d key value.toJson)
        (skipSpace rest) := by
  have hcolon : skipSpace (CodePoint.ofChar ':' :: (value.dumps ++ c :: rest)) =
      CodePoint.ofChar ':' :: (value.dumps ++ c :: rest) := skipSpace_cons (by decide) _
  have hnext : skipSpace (c :: rest) = c :: rest := by
    rcases hc with rfl | rfl <;> exact skipSpace_cons (by decide) _
  have hscan := scanValue_readable limit readable (c :: rest)
    (by rcases hc with rfl | rfl <;> simp)
  have hbody : dumpsStr key ++ Str.lit ":" ++ value.dumps ++ c :: rest =
      CodePoint.ofChar '"' :: (key.flatMap escapeChar ++ (Str.lit "\"" ++
        CodePoint.ofChar ':' :: (value.dumps ++ c :: rest))) := by
    simp [dumpsStr, Str.lit]
  rw [hbody, scanMembers]
  simp only [ne_eq, not_true_eq_false, if_false, scanString_dumps hkey, bind, Except.bind, hcolon,
    hscan, hnext]
  rcases hc with rfl | rfl
  · simp only [if_true]
  · simp only [if_true]

/-- The member loop on written members adds them one by one. -/
theorem scanMembers_dumps (limit : ℕ) {members : List (Str × Scalar)} (nonempty : members ≠ [])
    (keys : ∀ m ∈ members, isScalar m.1 = true) (values : ∀ m ∈ members, m.2.Readable)
    {fuel : ℕ} (enough : members.length ≤ fuel) (d : Members) (rest : Str) :
    scanMembers (scanValue limit) fuel d (dumpsMembers members ++ rest) =
      .ok (members.foldl (fun d m => Members.set d m.1 m.2.toJson) d, rest) := by
  induction members generalizing fuel d with
  | nil => exact absurd rfl nonempty
  | cons m members ih =>
      have hkey := keys m (by simp)
      have hvalue := values m (by simp)
      cases fuel with
      | zero => simp at enough
      | succ fuel =>
          cases members with
          | nil =>
              have hbody : dumpsMembers [m] ++ rest =
                  dumpsStr m.1 ++ Str.lit ":" ++ m.2.dumps ++ CodePoint.ofChar '}' :: rest := by
                simp [dumpsMembers, Str.lit]
              rw [hbody, scanMembers_member hkey hvalue d (.inr rfl), if_pos rfl]
              rfl
          | cons next members =>
              have hbody : dumpsMembers (m :: next :: members) ++ rest =
                  dumpsStr m.1 ++ Str.lit ":" ++ m.2.dumps ++
                    CodePoint.ofChar ',' :: (dumpsMembers (next :: members) ++ rest) := by
                simp [dumpsMembers, Str.lit]
              have hnext : skipSpace (dumpsMembers (next :: members) ++ rest) =
                  dumpsMembers (next :: members) ++ rest := by
                cases members <;> exact skipSpace_cons (by decide) _
              rw [hbody, scanMembers_member hkey hvalue d (.inl rfl), if_neg (by decide), hnext,
                ih (by simp) (fun m hm => keys m (by simp [hm]))
                  (fun m hm => values m (by simp [hm])) (by simpa using enough)]
              rfl

theorem isAscii_dumpsMembers {members : List (Str × Scalar)}
    (values : ∀ m ∈ members, isAscii m.2.dumps = true) : isAscii (dumpsMembers members) = true := by
  induction members with
  | nil => rfl
  | cons m members ih =>
      have hvalue := values m (by simp)
      have hrest := ih fun m hm => values m (by simp [hm])
      cases members with
      | nil =>
          simp only [dumpsMembers, isAscii_append, isAscii_dumpsStr, hvalue]
          rfl
      | cons next members =>
          simp only [dumpsMembers, isAscii_append, isAscii_dumpsStr, hvalue] at hrest ⊢
          rw [hrest]
          rfl

theorem mem_sortKeys {members : List (Str × Scalar)} {m : Str × Scalar} :
    m ∈ sortKeys members ↔ m ∈ members := List.mem_insertionSort _

theorem isAscii_dumps {members : List (Str × Scalar)}
    (values : ∀ m ∈ members, isAscii m.2.dumps = true) : isAscii (dumps members) = true := by
  rw [dumps, isAscii_append, isAscii_dumpsMembers fun m hm => values m (mem_sortKeys.mp hm)]
  rfl

theorem length_dumpsMembers (members : List (Str × Scalar)) :
    members.length ≤ (dumpsMembers members).length := by
  induction members with
  | nil => simp
  | cons m members ih =>
      cases members with
      | nil => simp [dumpsMembers, dumpsStr, Str.lit]
      | cons next members =>
          simp only [dumpsMembers, List.length_append, List.length_cons] at ih ⊢
          have hcomma : (Str.lit ",").length = 1 := rfl
          omega

/-- A written object reads back as its members in key order. -/
theorem loads_dumps {limit : ℕ} (pos : 0 < limit) {members : List (Str × Scalar)}
    (nonempty : members ≠ []) (keys : ∀ m ∈ members, isScalar m.1 = true)
    (values : ∀ m ∈ members, m.2.Readable) :
    loads limit (dumps members) =
      .ok (.dict ((sortKeys members).foldl (fun d m => Members.set d m.1 m.2.toJson) [])) := by
  obtain ⟨limit, rfl⟩ := Nat.exists_eq_succ_of_ne_zero pos.ne'
  have hne : sortKeys members ≠ [] := by
    intro h
    have := List.length_insertionSort (fun a b : Str × Scalar => a.1 ≤ b.1) members
    rw [sortKeys] at h
    rw [h] at this
    exact nonempty (List.length_eq_zero_iff.mp this.symm)
  have hscan := scanMembers_dumps limit hne (fun m hm => keys m (mem_sortKeys.mp hm))
    (fun m hm => values m (mem_sortKeys.mp hm)) (length_dumpsMembers _) [] []
  rw [List.append_nil] at hscan
  -- the first member starts with a quote
  have hopen : ∃ tail, dumpsMembers (sortKeys members) = CodePoint.ofChar '"' :: tail := by
    obtain ⟨m, rest, hsort⟩ := List.exists_cons_of_ne_nil hne
    rw [hsort]
    cases rest <;> exact ⟨_, rfl⟩
  obtain ⟨tail, htail⟩ := hopen
  -- the scanner reads the members back, in sorted order
  have hvalue : scanValue (limit + 1) (dumps members) =
      .ok (.dict ((sortKeys members).foldl (fun d m => Members.set d m.1 m.2.toJson) []), []) := by
    rw [scanValue, dumps]
    change scanOnce _ (CodePoint.ofChar '{' :: dumpsMembers (sortKeys members)) = _
    rw [scanOnce.eq_def, htail]
    simp only [if_neg (show CodePoint.ofChar '{' ≠ CodePoint.ofChar '"' by decide), if_true,
      skipSpace_cons (show isJsonSpace (CodePoint.ofChar '"') = false by decide),
      if_neg (show CodePoint.ofChar '"' ≠ CodePoint.ofChar '}' by decide)]
    rw [← htail, hscan]
    rfl
  have hfirst : ¬ [codePoint 0xFEFF] <+: dumps members := by
    change ¬ [codePoint 0xFEFF] <+: CodePoint.ofChar '{' :: _
    rw [List.cons_prefix_cons]
    exact fun h => absurd h.1 (by decide)
  have hskip : skipSpace (dumps members) = dumps members := skipSpace_cons (by decide) _
  rw [loads, if_neg hfirst, hskip, hvalue]
  rfl

/-- Bytes of ASCII text that does not start with zeros are taken for UTF-8. -/
theorem decodeJsonBytes_of_isAscii {s : Str} (ascii : isAscii s = true) {a b : CodePoint}
    {rest : Str} (hs : s = a :: b :: rest) (ha : a ≠ 0) (hb : b ≠ 0) :
    decodeJsonBytes (s.map fun c => UInt8.ofNat c.val) = some s := by
  have hbyte : ∀ c ∈ s, (UInt8.ofNat c.val).toNat = c.val := by
    intro c hc
    have := isAscii_iff.mp ascii c hc
    rw [UInt8.toNat_ofNat']
    omega
  have hne : ∀ c ∈ s, ∀ n : UInt8, 0x80 ≤ n.toNat → UInt8.ofNat c.val ≠ n := by
    intro c hc n hn heq
    have := isAscii_iff.mp ascii c hc
    have := hbyte c hc
    rw [heq] at this
    omega
  have hzero : ∀ c ∈ s, c ≠ 0 → UInt8.ofNat c.val ≠ 0 := by
    intro c hc hc0 heq
    have := hbyte c hc
    rw [heq] at this
    exact hc0 (Fin.ext (by simpa using this.symm))
  have utf8 := decodeUtf8_of_isAscii .surrogatepass ascii
  have ha' := hzero a (by simp [hs]) ha
  have hb' := hzero b (by simp [hs]) hb
  have haF : ∀ n : UInt8, 0x80 ≤ n.toNat → UInt8.ofNat a.val ≠ n := hne a (by simp [hs])
  rw [← utf8, hs]
  simp only [List.map_cons, decodeJsonBytes, List.cons_prefix_cons]
  rw [if_neg (fun h => ha' h.1.symm), if_neg (fun h => haF _ (by decide) h.1.symm),
    if_neg (fun h => haF _ (by decide) h.1.symm), if_neg (fun h => haF _ (by decide) h.1.symm),
    if_neg (fun h => haF _ (by decide) h.1.symm)]
  rcases rest with _ | ⟨c, _ | ⟨d, rest⟩⟩
  · simp only [List.map_nil, if_neg ha', if_neg hb']
  · rfl
  · simp only [List.map_cons, if_neg ha', if_neg hb']

/-- The same round trip through bytes. -/
theorem loadsBytes_dumps {limit : ℕ} (pos : 0 < limit) {members : List (Str × Scalar)}
    (nonempty : members ≠ []) (keys : ∀ m ∈ members, isScalar m.1 = true)
    (values : ∀ m ∈ members, m.2.Readable) :
    loadsBytes limit ((dumps members).map fun c => UInt8.ofNat c.val) =
      .ok (.dict ((sortKeys members).foldl (fun d m => Members.set d m.1 m.2.toJson) [])) := by
  have hopen : ∃ rest, dumps members = CodePoint.ofChar '{' :: CodePoint.ofChar '"' :: rest := by
    obtain ⟨m, hm⟩ := List.exists_mem_of_ne_nil _ nonempty
    obtain ⟨m, rest, hsort⟩ := List.exists_cons_of_ne_nil
      (List.ne_nil_of_mem (mem_sortKeys.mpr hm))
    rw [dumps, hsort]
    cases rest <;> exact ⟨_, rfl⟩
  obtain ⟨rest, hopen⟩ := hopen
  rw [loadsBytes, decodeJsonBytes_of_isAscii (isAscii_dumps fun m hm => (values m hm).ascii) hopen
    (by decide) (by decide), orRaise_some]
  exact loads_dumps pos nonempty keys values

end Python
