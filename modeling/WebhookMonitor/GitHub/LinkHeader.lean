import WebhookMonitor.GitHub.Client

/-!
# The next link of a header

`extract_next_cursor` splits a `Link` header at its commas and each part at its
semicolons, takes the first part that says `rel="next"` and has a target in angle
brackets, and reads the cursor from that target.

* `nextTarget` — the target of a part, when it is the next link;
* `headerTarget` — the target of the first next link;
* `cursorOfTarget` — the cursor in it.
-/

namespace WebhookMonitor

open Python

/-- The target of a comma-separated part, when the client takes it for the next
page. -/
def nextTarget (linkPart : Str) : Option Str :=
  let pieces := linkPart.splitOn (CodePoint.ofChar ';')
  let target := strip (pieces.headD [])
  if pieces.tail.any (fun part => strip part = Str.lit "rel=\"next\"") && startsWith target "<" &&
      endsWith target ">" then some (target.drop 1).dropLast
  else none

/-- The target of the first next link of a header. -/
def headerTarget (linkHeader : Option HeaderText) : Option Str :=
  linkHeader.bind fun header =>
    ((header.val.splitOn (CodePoint.ofChar ',')).filterMap nextTarget).head?

/-- The cursor of the page a target leads to. -/
def cursorOfTarget (expectedPath target : Str) : Except BuiltinError (Option Str) :=
  match urlparse target with
  | none => .error .valueError
  | some parsed =>
      if parsed.scheme ≠ Str.lit "https" ∨ parsed.netloc ≠ Str.lit "api.github.com" ∨
          parsed.path ≠ expectedPath then .ok none
      else .ok (queryValues parsed.query "cursor").head?

/-- The loop stops at the first part with a target. -/
theorem nextCursorOfParts_eq (expectedPath : Str) (parts : List Str) :
    nextCursorOfParts expectedPath parts =
      (parts.filterMap nextTarget).head?.elim (.ok none) (cursorOfTarget expectedPath) := by
  induction parts with
  | nil => rfl
  | cons linkPart rest ih =>
      rw [nextCursorOfParts, List.filterMap_cons]
      by_cases hnext : ((linkPart.splitOn (CodePoint.ofChar ';')).tail.any fun part =>
          decide (strip part = Str.lit "rel=\"next\"")) = true
      · by_cases hbracket : (startsWith (strip ((linkPart.splitOn (CodePoint.ofChar ';')).headD []))
            "<" && endsWith (strip ((linkPart.splitOn (CodePoint.ofChar ';')).headD [])) ">") = true
        · obtain ⟨hopen, hclose⟩ := Bool.and_eq_true_iff.mp hbracket
          simp only [nextTarget, hnext, hopen, hclose, Bool.not_true, Bool.or_self, Bool.and_self,
            Bool.false_eq_true, if_false, if_true, List.head?_cons, Option.elim_some]
          rfl
        · rw [Bool.not_eq_true, Bool.and_eq_false_iff] at hbracket
          rcases hbracket with hopen | hclose
          · simp only [nextTarget, hnext, hopen, Bool.not_true, Bool.not_false, Bool.true_or,
              Bool.and_false, Bool.false_and, Bool.false_eq_true, if_false, if_true, ih]
          · simp only [nextTarget, hnext, hclose, Bool.not_true, Bool.not_false, Bool.or_true,
              Bool.and_false, Bool.false_eq_true, if_false, if_true, ih]
      · rw [Bool.not_eq_true] at hnext
        simp only [nextTarget, hnext, Bool.not_false, Bool.false_and, Bool.false_eq_true, if_false,
          if_true, ih]

/-- The cursor of a header is that of its first next link. -/
theorem extractNextCursor_eq (linkHeader : Option HeaderText) (expectedPath : Str) :
    extractNextCursor linkHeader expectedPath =
      (headerTarget linkHeader).elim (.ok none) (cursorOfTarget expectedPath) := by
  cases linkHeader with
  | none => rfl
  | some header =>
      rw [extractNextCursor]
      by_cases empty : header.val = []
      · have nothing : ((([] : Str).splitOn (CodePoint.ofChar ',')).filterMap nextTarget).head? =
            none := by decide
        rw [if_pos empty, headerTarget, Option.bind_some, empty, nothing]
        rfl
      · rw [if_neg empty, nextCursorOfParts_eq]
        rfl

theorem nextTarget_subset {linkPart target : Str} (h : nextTarget linkPart = some target) :
    target ⊆ linkPart := by
  rw [nextTarget] at h
  split_ifs at h
  cases h
  intro c hc
  have first := strip_subset _ (List.drop_subset 1 _ (List.dropLast_subset _ hc))
  have mem : (linkPart.splitOn (CodePoint.ofChar ';')).headD [] ∈
      linkPart.splitOn (CodePoint.ofChar ';') := by
    cases hpieces : linkPart.splitOn (CodePoint.ofChar ';') with
    | nil => exact absurd hpieces (List.splitOn_ne_nil _ _)
    | cons piece rest => exact List.mem_cons_self
  exact subset_of_mem_splitOn mem first

theorem headerTarget_subset {linkHeader : Option HeaderText} {target : Str}
    (found : headerTarget linkHeader = some target) :
    ∃ header, linkHeader = some header ∧ target ⊆ header.val := by
  obtain ⟨header, same, first⟩ := Option.bind_eq_some_iff.mp found
  obtain ⟨linkPart, part, taken⟩ :=
    List.mem_filterMap.mp (List.mem_of_mem_head? (Option.mem_def.mpr first))
  exact ⟨header, same, List.Subset.trans (nextTarget_subset taken) (subset_of_mem_splitOn part)⟩

/-- `urlparse` refuses the target of the next link. -/
def RefusedTarget (linkHeader : Option HeaderText) : Prop :=
  ∃ target, headerTarget linkHeader = some target ∧ urlparse target = none

theorem extractNextCursor_eq_error {linkHeader : Option HeaderText} {expectedPath : Str}
    {e : BuiltinError} :
    extractNextCursor linkHeader expectedPath = .error e ↔
      e = .valueError ∧ RefusedTarget linkHeader := by
  rw [extractNextCursor_eq, RefusedTarget]
  cases headerTarget linkHeader with
  | none => exact ⟨nofun, fun ⟨_, _, found, _⟩ => (by cases found)⟩
  | some target =>
      rw [Option.elim_some, cursorOfTarget]
      cases parsed : urlparse target with
      | none =>
          constructor
          · intro raised
            cases raised
            exact ⟨rfl, target, rfl, parsed⟩
          · rintro ⟨rfl, -⟩
            rfl
      | some url =>
          constructor
          · intro raised
            dsimp only at raised
            split_ifs at raised
          · rintro ⟨-, target', same, refused⟩
            cases same
            rw [parsed] at refused
            cases refused

end WebhookMonitor
