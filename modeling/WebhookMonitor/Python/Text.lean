import Mathlib.Algebra.Ring.Nat
import Mathlib.Data.List.Basic
import Mathlib.Data.List.DropRight
import Mathlib.Data.List.Infix

/-!
# Python text

A Python `str` is a sequence of code points, and a code point may be a lone
surrogate: `json.loads` produces such strings from `"\ud800"`, and several
library functions refuse them.  Lean's `Char` has no surrogates, so `Str` is a
list of numbers below `0x110000` instead.

The module defines the text operations of the language that the library
modules and the application share.  Each keeps Python's name.

* `isSpace`, `strip` — Unicode white space, as in `str.isspace`;
* `lower` — on the Latin-1 range, which is all HTTP header text can hold;
* `splitAt` — `s.split(sep, 1)`; splitting at every separator is
  `List.splitOn`;
* `replace` — `s.replace(old, new)` for a non-empty `old`.
-/

namespace Python

/-- A Unicode code point, surrogates included. -/
abbrev CodePoint := Fin 0x110000

/-- A Python `str`. -/
abbrev Str := List CodePoint

/-- The code point with this number. -/
def codePoint (n : ℕ) : CodePoint := Fin.ofNat 0x110000 n

/-- The code point of a Lean character. -/
def CodePoint.ofChar (c : Char) : CodePoint := codePoint c.toNat

/-- A literal. -/
def Str.lit (s : String) : Str := s.toList.map CodePoint.ofChar

instance : Coe Char CodePoint := ⟨CodePoint.ofChar⟩
instance : Coe String Str := ⟨Str.lit⟩

/-- A surrogate code point: not a Unicode scalar value. -/
def isSurrogate (c : CodePoint) : Bool := 0xD800 ≤ c.val && c.val ≤ 0xDFFF

/-- Text made of Unicode scalar values: the strings that have a UTF-8 form. -/
def isScalar (s : Str) : Bool := s.all fun c => !isSurrogate c

/-- `s.isascii()`. -/
def isAscii (s : Str) : Bool := s.all fun c => c.val < 0x80

/-- Text within Latin-1. -/
def isLatin1 (s : Str) : Bool := s.all fun c => c.val < 0x100

theorem isScalar_iff {s : Str} : isScalar s = true ↔ ∀ c ∈ s, isSurrogate c = false := by
  simp [isScalar]

theorem isAscii_iff {s : Str} : isAscii s = true ↔ ∀ c ∈ s, c.val < 0x80 := by
  simp [isAscii]

theorem isScalar_of_isAscii {s : Str} (h : isAscii s = true) : isScalar s = true := by
  rw [isScalar_iff]
  intro c hc
  have := isAscii_iff.mp h c hc
  simp only [isSurrogate, Bool.and_eq_false_iff, decide_eq_false_iff_not]
  omega

/-- Latin-1 text has no lone surrogates. -/
theorem isScalar_of_isLatin1 {s : Str} (latin : isLatin1 s = true) : isScalar s = true := by
  rw [isScalar_iff]
  intro c mem
  have := of_decide_eq_true (List.all_eq_true.mp latin c mem)
  simp only [isSurrogate, Bool.and_eq_false_iff, decide_eq_false_iff_not]
  omega

theorem isLatin1_of_isAscii {s : Str} (h : isAscii s = true) : isLatin1 s = true := by
  rw [isLatin1, List.all_eq_true]
  intro c hc
  have := isAscii_iff.mp h c hc
  rw [decide_eq_true_iff]
  omega

@[simp] theorem isAscii_append (s t : Str) : isAscii (s ++ t) = (isAscii s && isAscii t) := by
  simp [isAscii]

@[simp] theorem isScalar_append (s t : Str) :
    isScalar (s ++ t) = (isScalar s && isScalar t) := by
  simp [isScalar]

/-- White space, `str.isspace` of one code point (also `\s` in `re`). -/
def isSpace (c : CodePoint) : Bool :=
  let n := c.val
  (0x09 ≤ n && n ≤ 0x0D) || (0x1C ≤ n && n ≤ 0x20) || n == 0x85 || n == 0xA0 ||
  n == 0x1680 || (0x2000 ≤ n && n ≤ 0x200A) || n == 0x2028 || n == 0x2029 ||
  n == 0x202F || n == 0x205F || n == 0x3000

/-- `s.strip(chars)` for a set of characters given as a predicate. -/
def stripOf (p : CodePoint → Bool) (s : Str) : Str :=
  (s.dropWhile p).rdropWhile p

/-- `s.strip()`. -/
def strip (s : Str) : Str := stripOf isSpace s

/-- `s.lower()` on the Latin-1 range.  Header text has no other code points;
outside that range the only ones whose lower case touches ASCII are `K` (Kelvin)
and dotted capital `I`. -/
def lowerChar (c : CodePoint) : CodePoint :=
  let n := c.val
  if (0x41 ≤ n ∧ n ≤ 0x5A) ∨ (0xC0 ≤ n ∧ n ≤ 0xDE ∧ n ≠ 0xD7) then
    codePoint (n + 0x20)
  else c

def lower (s : Str) : Str := s.map lowerChar

/-- `s.split(sep, 1)`: what precedes the first separator, and what follows it
when there is one. -/
def splitAt (sep : CodePoint) : Str → Str × Option Str
  | [] => ([], none)
  | c :: rest =>
      if c = sep then ([], some rest)
      else ((c :: (splitAt sep rest).1), (splitAt sep rest).2)

/-- `s.startswith(prefix)`. -/
def startsWith (s start : Str) : Bool := start.isPrefixOf s

/-- `s.endswith(suffix)`. -/
def endsWith (s tail : Str) : Bool := tail.isSuffixOf s

/-- `s.replace(old, new)`, scanning left to right; `skip` counts the code points
of a match that are still to be passed over. -/
def replaceFrom (old new : Str) : ℕ → Str → Str
  | _, [] => []
  | skip + 1, _ :: rest => replaceFrom old new skip rest
  | 0, c :: rest =>
      if old.isPrefixOf (c :: rest) then new ++ replaceFrom old new (old.length - 1) rest
      else c :: replaceFrom old new 0 rest

def replace (s old new : Str) : Str := replaceFrom old new 0 s

/-- The words of `s.split()`: maximal runs without white space. -/
def words (s : Str) : List Str :=
  (s.splitOnP isSpace).filter (· ≠ [])

/-! ## Facts the library uses -/

@[simp] theorem Str.lit_append (s t : String) :
    Str.lit (s ++ t) = Str.lit s ++ Str.lit t := by
  simp [Str.lit]

theorem splitAt_eq_some {sep : CodePoint} {s left right : Str}
    (h : splitAt sep s = (left, some right)) : s = left ++ sep :: right := by
  induction s generalizing left with
  | nil => simp [splitAt] at h
  | cons c rest ih =>
      by_cases hc : c = sep
      · simp only [splitAt, hc, if_true, Prod.mk.injEq, Option.some.injEq] at h
        obtain ⟨rfl, rfl⟩ := h
        simp [hc]
      · simp only [splitAt, hc, if_false, Prod.mk.injEq] at h
        obtain ⟨rfl, hright⟩ := h
        have := @ih (splitAt sep rest).1 (Prod.ext rfl hright)
        simp [← this]

/-- Text without the first code point of `old` is left alone. -/
theorem replace_of_head_not_mem {s old new : Str} {c : CodePoint} (head : old.head? = some c)
    (h : c ∉ s) : replace s old new = s := by
  rw [replace]
  induction s with
  | nil => rfl
  | cons x rest ih =>
      obtain ⟨hx, hrest⟩ := List.ne_and_not_mem_of_not_mem_cons h
      cases old with
      | nil => cases head
      | cons y old =>
          obtain rfl : y = c := by simpa using head
          have hprefix : (y :: old).isPrefixOf (x :: rest) = false := by
            simp [List.isPrefixOf, hx]
          rw [replaceFrom, hprefix, if_neg Bool.false_ne_true, ih hrest]

/-- Nothing is stripped from text without such characters. -/
theorem stripOf_eq_self {p : CodePoint → Bool} {s : Str} (h : ∀ c ∈ s, p c = false) :
    stripOf p s = s := by
  have hdrop : ∀ t : Str, (∀ c ∈ t, p c = false) → t.dropWhile p = t := by
    intro t ht
    cases t with
    | nil => rfl
    | cons c t => exact List.dropWhile_cons_of_neg (by simp [ht c (by simp)])
  rw [stripOf, hdrop s h, List.rdropWhile, hdrop _ (by simpa using h), List.reverse_reverse]

/-- All of a text is stripped exactly when it has only such characters. -/
theorem stripOf_eq_nil_iff {p : CodePoint → Bool} {s : Str} :
    stripOf p s = [] ↔ ∀ c ∈ s, p c = true := by
  rw [stripOf, List.rdropWhile_eq_nil_iff]
  constructor
  · intro stripped
    by_contra other
    obtain ⟨c, mem, hc⟩ : ∃ c ∈ s, ¬ p c = true := by simpa using other
    have nonempty : s.dropWhile p ≠ [] := fun empty =>
      hc (List.dropWhile_eq_nil_iff.mp empty c mem)
    have first := List.head_dropWhile_not p nonempty
    rw [stripped _ (List.head_mem nonempty)] at first
    cases first
  · intro all c mem
    exact all c ((List.dropWhile_sublist p).subset mem)

/-! ## Parts of a text -/

theorem isScalar_of_subset {s t : Str} (part : s ⊆ t) (scalar : isScalar t = true) :
    isScalar s = true :=
  isScalar_iff.mpr fun c hc => isScalar_iff.mp scalar c (part hc)

theorem splitAt_fst_subset (sep : CodePoint) (s : Str) : (splitAt sep s).1 ⊆ s := by
  induction s with
  | nil => exact List.Subset.refl []
  | cons c rest ih =>
      rw [splitAt]
      split_ifs
      · exact List.nil_subset _
      · exact List.cons_subset_cons c ih

theorem splitAt_snd_subset (sep : CodePoint) (s : Str) : (splitAt sep s).2.getD [] ⊆ s := by
  induction s with
  | nil => exact List.Subset.refl []
  | cons c rest ih =>
      rw [splitAt]
      split_ifs
      · exact List.subset_cons_self c rest
      · exact List.subset_cons_of_subset c ih

/-- What stands between two separators is part of the text. -/
theorem subset_of_mem_splitOn {sep : CodePoint} {s piece : Str} (mem : piece ∈ s.splitOn sep) :
    piece ⊆ s := by
  have joined : ∀ pieces : List Str, piece ∈ pieces → piece ⊆ [sep].intercalate pieces := by
    intro pieces mem
    induction pieces with
    | nil => cases mem
    | cons first rest ih =>
        rcases List.mem_cons.mp mem with rfl | mem
        · cases rest with
          | nil => rw [List.intercalate_singleton]; exact List.Subset.refl _
          | cons second rest =>
              rw [List.intercalate_cons_cons, List.append_assoc]
              exact List.subset_append_left _ _
        · rw [List.intercalate_cons_of_ne_nil (List.ne_nil_of_mem mem)]
          exact List.subset_append_of_subset_right _ (ih mem)
  have := joined _ mem
  rwa [List.intercalate_splitOn] at this

theorem strip_subset (s : Str) : strip s ⊆ s :=
  List.Subset.trans (List.rdropWhile_prefix _ _).subset (List.dropWhile_suffix _).subset

/-! ## Words -/

/-- The pieces of a split have no separators. -/
theorem forall_not_of_mem_splitOnP {p : CodePoint → Bool} {s piece : Str}
    (mem : piece ∈ s.splitOnP p) : ∀ c ∈ piece, p c = false := by
  induction s generalizing piece with
  | nil =>
      rw [List.splitOnP_nil, List.mem_singleton] at mem
      rw [mem]
      exact fun c h => absurd h List.not_mem_nil
  | cons x rest ih =>
      rw [List.splitOnP_cons_eq_if_modifyHead] at mem
      split_ifs at mem with sep
      · rcases List.mem_cons.mp mem with rfl | mem
        · exact fun c h => absurd h List.not_mem_nil
        · exact ih mem
      · -- the first code point goes to the first piece of the rest
        cases pieces : rest.splitOnP p with
        | nil => exact absurd pieces (List.splitOnP_ne_nil p rest)
        | cons first others =>
            rw [pieces, List.modifyHead_cons] at mem
            rcases List.mem_cons.mp mem with rfl | mem
            · intro c h
              rcases List.mem_cons.mp h with rfl | h
              · exact Bool.eq_false_iff.mpr sep
              · exact ih (pieces ▸ List.mem_cons_self) c h
            · exact ih (pieces ▸ List.mem_cons_of_mem first mem)

/-- A word has no white space, and is not empty. -/
theorem forall_not_isSpace_of_mem_words {s word : Str} (mem : word ∈ words s) :
    word ≠ [] ∧ ∀ c ∈ word, isSpace c = false := by
  obtain ⟨piece, nonempty⟩ := List.mem_filter.mp mem
  exact ⟨of_decide_eq_true nonempty, forall_not_of_mem_splitOnP piece⟩

/-- Text without white space is one word. -/
theorem words_eq_singleton {s : Str} (nonempty : s ≠ []) (solid : ∀ c ∈ s, isSpace c = false) :
    words s = [s] := by
  rw [words, List.splitOnP_eq_singleton solid]
  exact List.filter_cons_of_pos (decide_eq_true nonempty)

end Python
