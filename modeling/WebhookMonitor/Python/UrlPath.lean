import WebhookMonitor.Python.Decimal
import WebhookMonitor.Python.Url
import WebhookMonitor.Python.Utf8

/-!
# Paths of quoted segments

`quote` with no extra safe characters writes one path segment: `unquote` reads it
back, it holds no slash, and it is a dot segment only when the text itself is.

`removeDotSegments` is the removal of dot segments of RFC 3986, section 5.2.4,
which an HTTP client applies to the path of a request.  It leaves a path without
dot segments alone and makes any other path shorter.
-/

namespace Python

/-! ## Quoted text -/

/-- The form of one byte is ASCII without a slash. -/
theorem quoteByte_spec (b : UInt8) :
    ∀ c ∈ quoteByte b, c.val < 0x80 ∧ c ≠ CodePoint.ofChar '/' := by
  have all : ∀ n < 256, ((quoteByte (UInt8.ofNat n)).all fun c =>
      decide (c.val < 0x80) && decide (c ≠ CodePoint.ofChar '/')) = true := by decide +kernel
  have spec := all b.toNat b.toNat_lt
  rw [UInt8.ofNat_toNat, List.all_eq_true] at spec
  intro c mem
  simpa using spec c mem

/-- An escaped byte, or a byte that is its own form. -/
theorem quoteByte_cases (b : UInt8) :
    (∃ x y, quoteByte b = [CodePoint.ofChar '%', x, y] ∧
        ∀ rest, escapeByte (x :: y :: rest) = some b) ∨
      ∃ c, quoteByte b = [c] ∧ c ≠ CodePoint.ofChar '%' ∧ UInt8.ofNat c.val = b := by
  by_cases unreserved : isUnreserved b = true
  · have all : ∀ n < 256, isUnreserved (UInt8.ofNat n) = true →
        codePoint (UInt8.ofNat n).toNat ≠ CodePoint.ofChar '%' ∧
          UInt8.ofNat (codePoint (UInt8.ofNat n).toNat).val = UInt8.ofNat n := by decide +kernel
    have := all b.toNat b.toNat_lt
    rw [UInt8.ofNat_toNat] at this
    exact .inr ⟨_, if_pos unreserved, this unreserved⟩
  · have all : ∀ n < 256, hexValue (upperHexDigit ((UInt8.ofNat n).toNat / 16)) =
          some ((UInt8.ofNat n).toNat / 16) ∧
        hexValue (upperHexDigit ((UInt8.ofNat n).toNat % 16)) =
          some ((UInt8.ofNat n).toNat % 16) := by decide +kernel
    obtain ⟨high, low⟩ := all b.toNat b.toNat_lt
    rw [UInt8.ofNat_toNat] at high low
    refine .inl ⟨_, _, if_neg unreserved, fun rest => ?_⟩
    have value : b.toNat / 16 * 16 + b.toNat % 16 = b.toNat := by omega
    rw [escapeByte, high, low]
    dsimp only
    rw [value, UInt8.ofNat_toNat]

theorem unquoteFrom_quoteByte (b : UInt8) (rest : Str) :
    unquoteFrom 0 (quoteByte b ++ rest) = b :: unquoteFrom 0 rest := by
  rcases quoteByte_cases b with ⟨x, y, written, escaped⟩ | ⟨c, written, notPercent, value⟩
  · rw [written, List.cons_append, unquoteFrom, if_pos rfl, List.cons_append, List.cons_append,
      List.nil_append, escaped rest]
    rfl
  · rw [written, List.singleton_append, unquoteFrom, if_neg notPercent, value]

theorem unquoteFrom_flatMap_quoteByte (bs : Bytes) : unquoteFrom 0 (bs.flatMap quoteByte) = bs := by
  induction bs with
  | nil => rfl
  | cons b rest ih => rw [List.flatMap_cons, unquoteFrom_quoteByte, ih]

/-- Text has a quoted form exactly when it has no lone surrogates. -/
theorem quote_eq_some_iff {s : Str} : (∃ quoted, quote s = some quoted) ↔ isScalar s = true := by
  rw [quote, encodeUtf8]
  cases isScalar s with
  | true => exact ⟨fun _ => rfl, fun _ => ⟨_, rfl⟩⟩
  | false =>
      constructor
      · rintro ⟨quoted, written⟩
        cases written
      · intro scalar
        cases scalar

section Quote

variable {s quoted : Str}

/-- Quoted text is ASCII without a slash. -/
theorem quote_spec (written : quote s = some quoted) :
    ∀ c ∈ quoted, c.val < 0x80 ∧ c ≠ CodePoint.ofChar '/' := by
  obtain ⟨bs, -, rfl⟩ := Option.map_eq_some_iff.mp written
  intro c mem
  obtain ⟨b, -, mem⟩ := List.mem_flatMap.mp mem
  exact quoteByte_spec b c mem

/-- `unquote` undoes `quote`. -/
theorem unquote_quote (written : quote s = some quoted) : unquote quoted = s := by
  have ascii : isAscii quoted = true :=
    isAscii_iff.mpr fun c mem => (quote_spec written c mem).1
  obtain ⟨bs, encoded, rfl⟩ := Option.map_eq_some_iff.mp written
  have run : unquoteRun (bs.flatMap quoteByte) = s := by
    rw [unquoteRun, if_pos ascii, unquoteFrom_flatMap_quoteByte,
      decodeUtf8_of_encodeUtf8 .replace encoded]
    rfl
  by_cases empty : bs.flatMap quoteByte = []
  · rw [empty] at run ⊢
    exact run
  · have chained : (bs.flatMap quoteByte).IsChain fun a b =>
        (decide (a.val < 0x80) == decide (b.val < 0x80)) = true := by
      refine List.Pairwise.isChain (List.pairwise_iff_forall_sublist.mpr fun {a b} sub => ?_)
      have mem := sub.subset
      have first := isAscii_iff.mp ascii a (mem (by simp))
      have second := isAscii_iff.mp ascii b (mem (by simp))
      simp [first, second]
    rw [unquote, List.splitBy_of_isChain empty chained, List.flatMap_singleton, run]

/-- No two texts are quoted alike. -/
theorem quote_injective {t : Str} (first : quote s = some quoted) (second : quote t = some quoted) :
    s = t := (unquote_quote first).symm.trans (unquote_quote second)

end Quote

/-! ## Dot segments -/

/-- The output buffer without its last segment and the slash before it. -/
def dropLastSegment (output : Str) : Str :=
  ((output.reverse.dropWhile fun c => c ≠ CodePoint.ofChar '/').drop 1).reverse

/-- The loop of section 5.2.4, with the output and the input buffer.  Every step
makes the input shorter, so the length of the path is fuel enough. -/
def removeDotsFrom : ℕ → Str → Str → Str
  | 0, output, _ => output
  | fuel + 1, output, input =>
      if input = [] then output
      else if startsWith input "../" then removeDotsFrom fuel output (input.drop 3)
      else if startsWith input "./" then removeDotsFrom fuel output (input.drop 2)
      else if startsWith input "/./" then removeDotsFrom fuel output (input.drop 2)
      else if input = Str.lit "/." then removeDotsFrom fuel output "/"
      else if startsWith input "/../" then
        removeDotsFrom fuel (dropLastSegment output) (input.drop 3)
      else if input = Str.lit "/.." then removeDotsFrom fuel (dropLastSegment output) "/"
      else if input = Str.lit "." ∨ input = Str.lit ".." then removeDotsFrom fuel output []
      else
        let segment := input.take 1 ++ (input.drop 1).takeWhile fun c => c ≠ CodePoint.ofChar '/'
        removeDotsFrom fuel (output ++ segment) (input.drop segment.length)

/-- `remove_dot_segments(path)`. -/
def removeDotSegments (path : Str) : Str := removeDotsFrom (path.length + 1) [] path

/-- An absolute path of these segments. -/
def pathOf (segments : List Str) : Str := segments.flatMap fun s => CodePoint.ofChar '/' :: s

/-- A segment that the removal of dot segments acts on. -/
def IsDotSegment (s : Str) : Prop := s = Str.lit "." ∨ s = Str.lit ".."

/-- Where a segment ends: at the end of the path, or at the next slash. -/
def EndsSegment (rest : Str) : Prop := rest = [] ∨ rest.head? = some (CodePoint.ofChar '/')

theorem endsSegment_pathOf (segments : List Str) : EndsSegment (pathOf segments) := by
  cases segments with
  | nil => exact .inl rfl
  | cons s rest => exact .inr rfl

section Segments

variable {segment rest : Str}

theorem takeWhile_segment (slashFree : CodePoint.ofChar '/' ∉ segment) (ends : EndsSegment rest) :
    (segment ++ rest).takeWhile (fun c => c ≠ CodePoint.ofChar '/') = segment := by
  have all : ∀ c ∈ segment, decide (c ≠ CodePoint.ofChar '/') = true := by
    intro c mem
    exact decide_eq_true fun same => slashFree (same ▸ mem)
  rw [List.takeWhile_append_of_pos all]
  rcases ends with rfl | head
  · simp
  · cases rest with
    | nil => cases head
    | cons c rest =>
        cases head
        simp

/-- A segment is a dot segment when the path starts with one there. -/
theorem eq_of_startsWith {dots : Str} (slashFree : CodePoint.ofChar '/' ∉ segment)
    (ends : EndsSegment rest) (slashFree' : CodePoint.ofChar '/' ∉ dots)
    (starts : startsWith (CodePoint.ofChar '/' :: (segment ++ rest))
      (CodePoint.ofChar '/' :: (dots ++ [CodePoint.ofChar '/'])) = true) : segment = dots := by
  obtain ⟨later, same⟩ := List.isPrefixOf_iff_prefix.mp starts
  rw [List.cons_append, List.append_assoc] at same
  have same := List.tail_eq_of_cons_eq same
  rw [← takeWhile_segment slashFree ends, ← same]
  exact takeWhile_segment slashFree' (.inr rfl)

theorem eq_of_eq {dots : Str} (slashFree : CodePoint.ofChar '/' ∉ segment)
    (ends : EndsSegment rest) (slashFree' : CodePoint.ofChar '/' ∉ dots)
    (same : CodePoint.ofChar '/' :: (segment ++ rest) = CodePoint.ofChar '/' :: dots) :
    segment = dots := by
  have same := List.tail_eq_of_cons_eq same
  rw [← takeWhile_segment slashFree ends, same]
  have whole := takeWhile_segment slashFree' (.inl rfl : EndsSegment [])
  rwa [List.append_nil] at whole

/-- A segment that is no dot segment moves to the output. -/
theorem removeDotsFrom_segment (fuel : ℕ) (output : Str)
    (slashFree : CodePoint.ofChar '/' ∉ segment) (ends : EndsSegment rest)
    (plain : ¬IsDotSegment segment) :
    removeDotsFrom (fuel + 1) output (CodePoint.ofChar '/' :: (segment ++ rest)) =
      removeDotsFrom fuel (output ++ CodePoint.ofChar '/' :: segment) rest := by
  have moved : (CodePoint.ofChar '/' :: (segment ++ rest)).take 1 ++
      ((CodePoint.ofChar '/' :: (segment ++ rest)).drop 1).takeWhile
        (fun c => c ≠ CodePoint.ofChar '/') = CodePoint.ofChar '/' :: segment := by
    rw [List.take_one, List.head?_cons, List.drop_one, List.tail_cons,
      takeWhile_segment slashFree ends]
    rfl
  have absolute : startsWith (CodePoint.ofChar '/' :: (segment ++ rest)) "../" = false ∧
      startsWith (CodePoint.ofChar '/' :: (segment ++ rest)) "./" = false := ⟨rfl, rfl⟩
  have notDot : ¬startsWith (CodePoint.ofChar '/' :: (segment ++ rest)) "/./" = true :=
    fun starts => plain (.inl (eq_of_startsWith slashFree ends (by decide) starts))
  have notLastDot : CodePoint.ofChar '/' :: (segment ++ rest) ≠ Str.lit "/." :=
    fun same => plain (.inl (eq_of_eq slashFree ends (by decide) same))
  have notDots : ¬startsWith (CodePoint.ofChar '/' :: (segment ++ rest)) "/../" = true :=
    fun starts => plain (.inr (eq_of_startsWith slashFree ends (by decide) starts))
  have notLastDots : CodePoint.ofChar '/' :: (segment ++ rest) ≠ Str.lit "/.." :=
    fun same => plain (.inr (eq_of_eq slashFree ends (by decide) same))
  have notAlone : ¬(CodePoint.ofChar '/' :: (segment ++ rest) = Str.lit "." ∨
      CodePoint.ofChar '/' :: (segment ++ rest) = Str.lit "..") := by
    rintro (same | same)
    · exact absurd (List.head_eq_of_cons_eq same) (by decide)
    · exact absurd (List.head_eq_of_cons_eq same) (by decide)
  rw [removeDotsFrom, if_neg (List.cons_ne_nil _ _), absolute.1, if_neg Bool.false_ne_true,
    absolute.2, if_neg Bool.false_ne_true, if_neg notDot, if_neg notLastDot, if_neg notDots,
    if_neg notLastDots, if_neg notAlone]
  dsimp only
  rw [moved, List.length_cons, List.drop_succ_cons, List.drop_left]

theorem length_dropLastSegment_le (output : Str) :
    (dropLastSegment output).length ≤ output.length := by
  have kept : (output.reverse.dropWhile fun c => decide (c ≠ CodePoint.ofChar '/')).length ≤
      output.reverse.length := (List.dropWhile_suffix _).length_le
  rw [dropLastSegment, List.length_reverse, List.length_drop]
  rw [List.length_reverse] at kept
  omega

/-- Nothing is ever added. -/
theorem length_removeDotsFrom_le (fuel : ℕ) (output input : Str) :
    (removeDotsFrom fuel output input).length ≤ output.length + input.length := by
  induction fuel generalizing output input with
  | zero => exact Nat.le_add_right _ _
  | succ fuel ih =>
      have shorter := length_dropLastSegment_le output
      have slash : (Str.lit "/").length = 1 := rfl
      rw [removeDotsFrom]
      split_ifs with empty up here dot lastDot dots lastDots alone
      · exact Nat.le_add_right _ _
      · exact (ih _ _).trans (by rw [List.length_drop]; omega)
      · exact (ih _ _).trans (by rw [List.length_drop]; omega)
      · exact (ih _ _).trans (by rw [List.length_drop]; omega)
      · exact (ih _ _).trans (by rw [lastDot]; exact Nat.add_le_add_left (by decide) _)
      · exact (ih _ _).trans (by rw [List.length_drop]; omega)
      · exact (ih _ _).trans (by rw [lastDots]; exact Nat.add_le_add shorter (by decide))
      · exact (ih _ _).trans (Nat.add_le_add_left (Nat.zero_le _) _)
      · refine (ih _ _).trans ?_
        have part : (input.take 1 ++ (input.drop 1).takeWhile
            fun c => decide (c ≠ CodePoint.ofChar '/')).length ≤ input.length := by
          have taken : ((input.drop 1).takeWhile
              fun c => decide (c ≠ CodePoint.ofChar '/')).length ≤ (input.drop 1).length :=
            (List.takeWhile_prefix _).length_le
          rw [List.length_drop] at taken
          rw [List.length_append, List.length_take]
          have pos : 0 < input.length := List.length_pos_iff.mpr empty
          omega
        rw [List.length_append, List.length_drop]
        omega

/-- A dot segment makes the path shorter. -/
theorem length_removeDotsFrom_lt_of_dot (fuel : ℕ) (output : Str) (dot : IsDotSegment segment)
    (ends : EndsSegment rest) :
    (removeDotsFrom (fuel + 1) output (CodePoint.ofChar '/' :: (segment ++ rest))).length <
      output.length + (CodePoint.ofChar '/' :: (segment ++ rest)).length := by
  have shorter := length_dropLastSegment_le output
  have one : (Str.lit "/").length = 1 := rfl
  -- the dot segment is the last one, or a slash follows it
  rcases ends with rfl | head
  · rcases dot with rfl | rfl
    · have step : removeDotsFrom (fuel + 1) output (CodePoint.ofChar '/' :: (Str.lit "." ++ [])) =
          removeDotsFrom fuel output "/" := rfl
      rw [step]
      exact Nat.lt_of_le_of_lt (length_removeDotsFrom_le _ _ _) (Nat.add_lt_add_left (by decide) _)
    · have step : removeDotsFrom (fuel + 1) output (CodePoint.ofChar '/' :: (Str.lit ".." ++ [])) =
          removeDotsFrom fuel (dropLastSegment output) "/" := rfl
      rw [step]
      exact Nat.lt_of_le_of_lt (length_removeDotsFrom_le _ _ _)
        (Nat.add_lt_add_of_le_of_lt shorter (by decide))
  · cases rest with
    | nil => cases head
    | cons c rest =>
        cases head
        rcases dot with rfl | rfl
        · have step : removeDotsFrom (fuel + 1) output (CodePoint.ofChar '/' ::
              (Str.lit "." ++ CodePoint.ofChar '/' :: rest)) =
              removeDotsFrom fuel output (CodePoint.ofChar '/' :: rest) := rfl
          rw [step]
          refine Nat.lt_of_le_of_lt (length_removeDotsFrom_le _ _ _) ?_
          simp only [List.length_cons, List.length_append]
          omega
        · have step : removeDotsFrom (fuel + 1) output (CodePoint.ofChar '/' ::
              (Str.lit ".." ++ CodePoint.ofChar '/' :: rest)) =
              removeDotsFrom fuel (dropLastSegment output) (CodePoint.ofChar '/' :: rest) := rfl
          rw [step]
          refine Nat.lt_of_le_of_lt (length_removeDotsFrom_le _ _ _) ?_
          simp only [List.length_cons, List.length_append]
          omega

end Segments

theorem pathOf_cons (segment : Str) (segments : List Str) :
    pathOf (segment :: segments) = CodePoint.ofChar '/' :: (segment ++ pathOf segments) := rfl

theorem length_le_length_pathOf (segments : List Str) :
    segments.length ≤ (pathOf segments).length := by
  induction segments with
  | nil => exact le_rfl
  | cons s rest ih =>
      rw [pathOf_cons, List.length_cons, List.length_cons, List.length_append]
      omega

/-- The loop goes through a path up to its first dot segment. -/
theorem removeDotsFrom_pathOf {fuel : ℕ} {output : Str} {segments : List Str}
    (slashFree : ∀ s ∈ segments, CodePoint.ofChar '/' ∉ s) (enough : segments.length < fuel) :
    ((∀ s ∈ segments, ¬IsDotSegment s) →
      removeDotsFrom fuel output (pathOf segments) = output ++ pathOf segments) ∧
    ((∃ s ∈ segments, IsDotSegment s) →
      (removeDotsFrom fuel output (pathOf segments)).length <
        output.length + (pathOf segments).length) := by
  induction segments generalizing fuel output with
  | nil =>
      obtain ⟨fuel, rfl⟩ := Nat.exists_eq_add_of_lt enough
      exact ⟨fun _ => (List.append_nil output).symm, fun ⟨_, mem, _⟩ => (by cases mem)⟩
  | cons s rest ih =>
      obtain ⟨fuel, rfl⟩ : ∃ n, fuel = n + 1 :=
        ⟨fuel - 1, by rw [List.length_cons] at enough; omega⟩
      rw [pathOf_cons]
      have first := slashFree s List.mem_cons_self
      have later : ∀ s ∈ rest, CodePoint.ofChar '/' ∉ s :=
        fun s mem => slashFree s (List.mem_cons_of_mem _ mem)
      -- a dot segment shortens the path; any other is moved to the output
      by_cases dot : IsDotSegment s
      · refine ⟨fun plain => absurd dot (plain s List.mem_cons_self), fun _ => ?_⟩
        exact length_removeDotsFrom_lt_of_dot fuel output dot (endsSegment_pathOf rest)
      · rw [removeDotsFrom_segment fuel output first (endsSegment_pathOf rest) dot]
        have ih := @ih fuel (output ++ CodePoint.ofChar '/' :: s) later
          (by rw [List.length_cons] at enough; omega)
        constructor
        · intro plain
          rw [ih.1 fun s mem => plain s (List.mem_cons_of_mem _ mem), List.append_assoc]
          rfl
        · rintro ⟨s', mem, dot'⟩
          rcases List.mem_cons.mp mem with rfl | mem
          · exact absurd dot' dot
          · have := ih.2 ⟨s', mem, dot'⟩
            rw [List.length_append, List.length_cons] at this
            rw [List.length_cons, List.length_append]
            omega

/-- Removing dot segments leaves a path alone exactly when it has none. -/
theorem removeDotSegments_pathOf {segments : List Str}
    (slashFree : ∀ s ∈ segments, CodePoint.ofChar '/' ∉ s) :
    removeDotSegments (pathOf segments) = pathOf segments ↔ ∀ s ∈ segments, ¬IsDotSegment s := by
  have enough : segments.length < (pathOf segments).length + 1 :=
    Nat.lt_succ_of_le (length_le_length_pathOf segments)
  obtain ⟨plain, dots⟩ := @removeDotsFrom_pathOf _ [] segments slashFree enough
  constructor
  · intro same s mem dot
    have shorter := dots ⟨s, mem, dot⟩
    rw [← removeDotSegments, same, List.length_nil, Nat.zero_add] at shorter
    exact absurd shorter (Nat.lt_irrefl _)
  · exact plain

/-- The segments of a path. -/
theorem splitOn_pathOf {segments : List Str}
    (slashFree : ∀ s ∈ segments, CodePoint.ofChar '/' ∉ s) :
    (pathOf segments).splitOn (CodePoint.ofChar '/') = [] :: segments := by
  have joined : ∀ segments : List Str,
      [CodePoint.ofChar '/'].intercalate ([] :: segments) = pathOf segments := by
    intro segments
    cases segments with
    | nil => rfl
    | cons s rest =>
        rw [List.intercalate_cons_cons]
        induction rest generalizing s with
        | nil => simp [pathOf]
        | cons t rest ih =>
            rw [List.intercalate_cons_cons, pathOf_cons]
            have ih := ih t
            simp only [List.nil_append] at ih ⊢
            rw [List.append_assoc, ih]
            rfl
  rw [← joined, List.splitOn_intercalate]
  · intro s mem
    rcases List.mem_cons.mp mem with rfl | mem
    · exact List.not_mem_nil
    · exact slashFree s mem
  · exact List.cons_ne_nil _ _

end Python
