import Mathlib.Data.List.Nodup
import Mathlib.Order.Lattice

/-!
# Keyset pagination

A collection listed by a key, greatest first, from a key on.

* `newestFirst` — the order of a listing;
* `page` — at most `limit` elements of it below a key;
* `newestFirst_unique` — where the keys are distinct the listing is the one order
  of the elements with falling keys, so nothing else about the collection matters:
  neither how it is stored (`page_perm`), nor whether the elements below the key
  are picked before or after sorting (`page_eq_where`);
* `visit` — a page of one element more than it hands out, and the key to go on
  from when there was one more;
* `Traversal` — pages taken one after the other, each of the contents of its time,
  to the first without a key to go on from;
* `Traversal.falling`, `Traversal.returned_of_present`, `exists_traversal` — it
  repeats nothing, loses nothing that was there all the time, and ends when the
  contents stay.
-/

namespace Pagination

variable {α β κ : Type} [LinearOrder κ] {key : α → κ}

/-- The elements by falling key; those of equal keys keep their order. -/
def newestFirst (key : α → κ) (l : List α) : List α :=
  l.mergeSort fun a b => decide (key b ≤ key a)

/-- `k` comes after the bound in a listing; everything does when there is none. -/
def Below (after : Option κ) (k : κ) : Prop := ∀ bound ∈ after, k < bound

instance (after : Option κ) (k : κ) : Decidable (Below after k) := by
  unfold Below
  infer_instance

@[simp] theorem below_none (k : κ) : Below none k := by
  intro bound mem
  cases mem

@[simp] theorem below_some {bound k : κ} : Below (some bound) k ↔ k < bound := by
  simp [Below]

/-- At most `limit` elements below a key, in the order of the listing. -/
def page (key : α → κ) (limit : ℕ) (after : Option κ) (l : List α) : List α :=
  ((newestFirst key l).filter fun a => decide (Below after (key a))).take limit

/-! ## The order of a listing -/

theorem newestFirst_perm (l : List α) : (newestFirst key l).Perm l := List.mergeSort_perm _ _

@[simp] theorem mem_newestFirst {l : List α} {a : α} : a ∈ newestFirst key l ↔ a ∈ l :=
  List.mem_mergeSort

/-- The keys of a listing do not rise. -/
theorem pairwise_newestFirst (l : List α) :
    (newestFirst key l).Pairwise fun a b => key b ≤ key a := by
  have sorted := @List.pairwise_mergeSort _ (fun a b => decide (key b ≤ key a))
    (fun a b c hab hbc => by
      rw [decide_eq_true_eq] at hab hbc ⊢
      exact hbc.trans hab)
    (fun a b => by
      rw [Bool.or_eq_true, decide_eq_true_eq, decide_eq_true_eq]
      exact le_total _ _) l
  exact sorted.imp fun {a b} h => of_decide_eq_true h

/-- Distinct keys fall strictly. -/
theorem strictlyFalling {l : List α} (falling : l.Pairwise fun a b => key b ≤ key a)
    (distinct : (l.map key).Nodup) : l.Pairwise fun a b => key b < key a := by
  refine (falling.and (List.pairwise_map.mp distinct)).imp ?_
  intro a b h
  exact lt_of_le_of_ne h.1 (Ne.symm h.2)

/-- Where the keys are distinct, the listing is the only order of the elements in
which they do not rise. -/
theorem newestFirst_unique {l l' : List α} (distinct : (l.map key).Nodup) (same : l'.Perm l)
    (falling : l'.Pairwise fun a b => key b ≤ key a) : newestFirst key l = l' := by
  refine List.Perm.eq_of_pairwise ?_ (pairwise_newestFirst l) falling
    ((newestFirst_perm l).trans same.symm)
  intro a b ha hb hba hab
  have mem : b ∈ l := same.subset hb
  exact List.inj_on_of_nodup_map distinct (mem_newestFirst.mp ha) mem (le_antisymm hab hba)

/-- A listing does not depend on how the collection is stored. -/
theorem newestFirst_congr {l l' : List α} (distinct : (l.map key).Nodup) (same : l'.Perm l) :
    newestFirst key l' = newestFirst key l :=
  (newestFirst_unique distinct ((newestFirst_perm l').trans same) (pairwise_newestFirst l')).symm

/-- Picking and sorting commute. -/
theorem filter_newestFirst {l : List α} (distinct : (l.map key).Nodup) (p : α → Bool) :
    (newestFirst key l).filter p = newestFirst key (l.filter p) := by
  refine (newestFirst_unique ?_ ((newestFirst_perm l).filter p) ?_).symm
  · exact distinct.sublist (List.filter_sublist.map key)
  · exact (pairwise_newestFirst l).filter p

/-- A listing of images under a map that keeps the key. -/
theorem map_newestFirst {f : α → β} {key' : β → κ} {l : List α}
    (keeps : ∀ a ∈ l, key' (f a) = key a) :
    (newestFirst key l).map f = newestFirst key' (l.map f) := by
  refine List.map_mergeSort fun a ha b hb => ?_
  rw [keeps a ha, keeps b hb]

/-! ## Pages -/

theorem page_perm {l l' : List α} (distinct : (l.map key).Nodup) (same : l'.Perm l) (limit : ℕ)
    (after : Option κ) : page key limit after l' = page key limit after l := by
  rw [page, page, newestFirst_congr distinct same]

theorem map_page {f : α → β} {key' : β → κ} {l : List α} (keeps : ∀ a ∈ l, key' (f a) = key a)
    (limit : ℕ) (after : Option κ) :
    (page key limit after l).map f = page key' limit after (l.map f) := by
  rw [page, page, List.map_take, ← map_newestFirst keeps, List.filter_map]
  congr 2
  refine List.filter_congr fun a ha => ?_
  rw [Function.comp_apply, keeps a (mem_newestFirst.mp ha)]

theorem mem_of_mem_page {l : List α} {limit : ℕ} {after : Option κ} {a : α}
    (mem : a ∈ page key limit after l) : a ∈ l ∧ Below after (key a) := by
  have found := List.mem_filter.mp (List.mem_of_mem_take mem)
  exact ⟨mem_newestFirst.mp found.1, of_decide_eq_true found.2⟩

/-- The keys of a page fall strictly. -/
theorem pairwise_page {l : List α} (distinct : (l.map key).Nodup) (limit : ℕ)
    (after : Option κ) : (page key limit after l).Pairwise fun a b => key b < key a := by
  have falling := strictlyFalling (pairwise_newestFirst l)
    (((newestFirst_perm l).map key).symm.nodup distinct)
  exact (falling.filter _).sublist (List.take_sublist _ _)

/-- The first elements of a strictly falling list are those with few above them. -/
theorem mem_take_iff {l : List α} (falling : l.Pairwise fun a b => key b < key a) {limit : ℕ}
    {a : α} :
    a ∈ l.take limit ↔ a ∈ l ∧ l.countP (fun b => decide (key a < key b)) < limit := by
  induction l generalizing limit with
  | nil => simp
  | cons b rest ih =>
      obtain ⟨below, falling⟩ := List.pairwise_cons.mp falling
      cases limit with
      | zero => simp
      | succ limit =>
          rw [List.take_succ_cons, List.mem_cons, List.mem_cons, ih falling]
          by_cases first : a = b
          · subst first
            have none_above : (a :: rest).countP (fun b => decide (key a < key b)) = 0 := by
              rw [List.countP_eq_zero]
              intro b mem
              rw [decide_eq_true_eq, not_lt]
              rcases List.mem_cons.mp mem with rfl | mem
              · exact le_refl _
              · exact (below b mem).le
            rw [none_above]
            exact iff_of_true (.inl rfl) ⟨.inl rfl, Nat.succ_pos _⟩
          · by_cases mem : a ∈ rest
            · have above : decide (key a < key b) = true := decide_eq_true (below a mem)
              rw [List.countP_cons, if_pos above, Nat.succ_lt_succ_iff]
              simp only [first, mem, true_and, false_or]
            · simp only [first, mem, false_and, or_self]

/-- An element is on a page when it is below the bound with few between. -/
theorem mem_page_iff {l : List α} (distinct : (l.map key).Nodup) {limit : ℕ} {after : Option κ}
    {a : α} :
    a ∈ page key limit after l ↔ (a ∈ l ∧ Below after (key a)) ∧
      l.countP (fun b => decide (key a < key b ∧ Below after (key b))) < limit := by
  have falling := strictlyFalling (pairwise_newestFirst l)
    (((newestFirst_perm l).map key).symm.nodup distinct)
  rw [page, mem_take_iff (falling.filter _), List.mem_filter, mem_newestFirst, decide_eq_true_eq,
    List.countP_filter, (newestFirst_perm l).countP_eq]
  simp only [Bool.decide_and]

/-! ## One visit -/

/-- What one visit hands out, and the key to go on from. -/
structure Visit (α κ : Type) where
  items : List α
  next : Option κ

/-- Ask for one element more than the visit hands out. -/
def visit (key : α → κ) (n : ℕ) (after : Option κ) (l : List α) : Visit α κ :=
  let found := page key (n + 1) after l
  ⟨found.take n, if n < found.length then (found.take n).getLast?.map key else none⟩

section Visits

variable {l : List α} {n : ℕ} {after : Option κ}

theorem visit_items : (visit key n after l).items = page key n after l := by
  rw [visit, page, page, List.take_take, Nat.min_eq_left (Nat.le_succ n)]

/-- The elements of a collection below a key, in the order of the listing. -/
def remaining (key : α → κ) (after : Option κ) (l : List α) : List α :=
  (newestFirst key l).filter fun a => decide (Below after (key a))

theorem mem_remaining {a : α} : a ∈ remaining key after l ↔ a ∈ l ∧ Below after (key a) := by
  rw [remaining, List.mem_filter, mem_newestFirst, decide_eq_true_eq]

/-- A last visit hands out everything that remains. -/
theorem items_of_next_none (pos : 0 < n) (ends : (visit key n after l).next = none) :
    (visit key n after l).items = remaining key after l := by
  rw [visit_items, page, ← remaining]
  rw [visit, page, ← remaining] at ends
  dsimp only at ends
  by_cases more : n < ((remaining key after l).take (n + 1)).length
  · rw [if_pos more, Option.map_eq_none_iff, List.getLast?_eq_none_iff] at ends
    have := congrArg List.length ends
    rw [List.length_take, List.length_nil] at this
    omega
  · refine List.take_of_length_le ?_
    rw [List.length_take] at more
    omega

/-- A visit that is not the last stops at the key of the last element it hands out. -/
theorem items_of_next_some (distinct : (l.map key).Nodup) {k : κ}
    (goes_on : (visit key n after l).next = some k) :
    (∃ a ∈ (visit key n after l).items, key a = k) ∧
      (∀ a ∈ (visit key n after l).items, k ≤ key a) ∧
      remaining key after l = (visit key n after l).items ++ remaining key (some k) l := by
  have items : (visit key n after l).items = (remaining key after l).take n := by
    rw [visit_items, page, remaining]
  have falling : (remaining key after l).Pairwise fun a b => key b < key a :=
    (strictlyFalling (pairwise_newestFirst l)
      (((newestFirst_perm l).map key).symm.nodup distinct)).filter _
  obtain ⟨last, hlast, rfl⟩ : ∃ last, ((remaining key after l).take n).getLast? = some last ∧
      key last = k := by
    rw [visit, page, ← remaining, List.take_take, Nat.min_eq_left (Nat.le_succ n)] at goes_on
    dsimp only at goes_on
    split_ifs at goes_on
    exact Option.map_eq_some_iff.mp goes_on
  rw [items]
  have cut := List.take_append_drop n (remaining key after l)
  generalize hfirst : (remaining key after l).take n = first at *
  generalize hrest : (remaining key after l).drop n = rest at *
  obtain ⟨init, rfl⟩ : ∃ init, first = init ++ [last] :=
    List.getLast?_eq_some_iff.mp hlast
  rw [← cut, List.append_assoc, List.pairwise_append] at falling
  obtain ⟨-, later, earlier⟩ := falling
  have below : ∀ a ∈ rest, key a < key last :=
    fun a mem => (List.pairwise_cons.mp later).1 a mem
  have above : ∀ a ∈ init ++ [last], key last ≤ key a := by
    intro a mem
    rcases List.mem_append.mp mem with mem | mem
    · exact (earlier a mem last (by simp)).le
    · rw [List.mem_singleton.mp mem]
  refine ⟨⟨last, by simp, rfl⟩, above, ?_⟩
  -- what is below the last element is the rest
  have tail : remaining key (some (key last)) l = rest := by
    have within : ∀ a, key a < key last → Below after (key a) := by
      intro a lt bound mem
      have hmem : last ∈ remaining key after l := by
        rw [← cut]
        simp
      exact lt.trans ((mem_remaining.mp hmem).2 bound mem)
    have split : remaining key (some (key last)) l =
        (remaining key after l).filter fun a => decide (key a < key last) := by
      rw [remaining, remaining, List.filter_filter]
      refine List.filter_congr fun a _ => ?_
      by_cases lt : key a < key last
      · simp [lt, within a lt]
      · simp [lt]
    have none_above : (init ++ [last]).filter (fun a => decide (key a < key last)) = [] := by
      refine List.filter_eq_nil_iff.mpr fun a mem lt => ?_
      exact absurd (of_decide_eq_true lt) (not_lt.mpr (above a mem))
    have all_below : rest.filter (fun a => decide (key a < key last)) = rest :=
      List.filter_eq_self.mpr fun a mem => decide_eq_true (below a mem)
    rw [split, ← cut, List.filter_append, none_above, all_below, List.nil_append]
  rw [tail]
  exact cut.symm

end Visits

/-! ## Traversals -/

/-- Visits from `after` on, each with its limit and the contents of its time, to the
first without a key to go on from. -/
inductive Traversal (key : α → κ) : Option κ → List (ℕ × List α) → List (List α) → Prop where
  | last {after : Option κ} {n : ℕ} {l : List α} (ends : (visit key n after l).next = none) :
      Traversal key after [(n, l)] [(visit key n after l).items]
  | more {after : Option κ} {n : ℕ} {l : List α} {k : κ} {rounds : List (ℕ × List α)}
      {pages : List (List α)} (goes_on : (visit key n after l).next = some k)
      (rest : Traversal key (some k) rounds pages) :
      Traversal key after ((n, l) :: rounds) ((visit key n after l).items :: pages)

namespace Traversal

variable {after : Option κ} {rounds : List (ℕ × List α)} {pages : List (List α)}

/-- Everything handed out is below the start. -/
theorem below_start (traversal : Traversal key after rounds pages)
    (distinct : ∀ round ∈ rounds, (round.2.map key).Nodup) :
    ∀ a ∈ pages.flatten, Below after (key a) := by
  induction traversal with
  | last ends =>
      intro a mem
      rw [List.flatten_singleton, visit_items] at mem
      exact (mem_of_mem_page mem).2
  | more goes_on rest ih =>
      intro a mem
      rw [List.flatten_cons, List.mem_append, visit_items] at mem
      rcases mem with mem | mem
      · exact (mem_of_mem_page mem).2
      · have first := items_of_next_some (distinct _ List.mem_cons_self) goes_on
        obtain ⟨⟨last, hlast, rfl⟩, -, -⟩ := first
        rw [visit_items] at hlast
        have lt := below_some.mp
          (ih (fun round mem => distinct round (List.mem_cons_of_mem _ mem)) a mem)
        exact fun bound hbound => lt.trans ((mem_of_mem_page hlast).2 bound hbound)

/-- The keys handed out fall strictly, so nothing is handed out twice. -/
theorem falling (traversal : Traversal key after rounds pages)
    (distinct : ∀ round ∈ rounds, (round.2.map key).Nodup) :
    pages.flatten.Pairwise fun a b => key b < key a := by
  induction traversal with
  | last ends =>
      rw [List.flatten_singleton, visit_items]
      exact pairwise_page (distinct _ List.mem_cons_self) _ _
  | more goes_on rest ih =>
      have distinct' := fun round mem => distinct round (List.mem_cons_of_mem _ mem)
      obtain ⟨-, above, -⟩ := items_of_next_some (distinct _ List.mem_cons_self) goes_on
      rw [List.flatten_cons, List.pairwise_append]
      refine ⟨?_, ih distinct', fun a ha b hb => ?_⟩
      · rw [visit_items]
        exact pairwise_page (distinct _ List.mem_cons_self) _ _
      · exact (below_some.mp (rest.below_start distinct' b hb)).trans_le (above a ha)

/-- A key that is there at every visit is handed out. -/
theorem returned_of_present (traversal : Traversal key after rounds pages)
    (distinct : ∀ round ∈ rounds, (round.2.map key).Nodup) (pos : ∀ round ∈ rounds, 0 < round.1)
    {k : κ} (start : Below after k) (present : ∀ round ∈ rounds, k ∈ round.2.map key) :
    k ∈ pages.flatten.map key := by
  induction traversal with
  | last ends =>
      obtain ⟨a, mem, rfl⟩ := List.mem_map.mp (present _ List.mem_cons_self)
      rw [List.flatten_singleton, items_of_next_none (pos _ List.mem_cons_self) ends]
      exact List.mem_map_of_mem (mem_remaining.mpr ⟨mem, start⟩)
  | more goes_on rest ih =>
      obtain ⟨a, mem, rfl⟩ := List.mem_map.mp (present _ List.mem_cons_self)
      obtain ⟨-, -, cut⟩ := items_of_next_some (distinct _ List.mem_cons_self) goes_on
      have there := mem_remaining.mpr ⟨mem, start⟩
      rw [cut] at there
      rw [List.flatten_cons, List.map_append]
      rcases List.mem_append.mp there with here | later
      · exact List.mem_append_left _ (List.mem_map_of_mem here)
      · exact List.mem_append_right _ (ih
          (fun round mem => distinct round (List.mem_cons_of_mem _ mem))
          (fun round mem => pos round (List.mem_cons_of_mem _ mem)) (mem_remaining.mp later).2
          fun round mem => present round (List.mem_cons_of_mem _ mem))

/-- A traversal of contents that stay hands out everything that remains. -/
theorem flatten_of_constant (traversal : Traversal key after rounds pages) {l : List α}
    (distinct : (l.map key).Nodup) (pos : ∀ round ∈ rounds, 0 < round.1)
    (constant : ∀ round ∈ rounds, round.2 = l) : pages.flatten = remaining key after l := by
  induction traversal with
  | last ends =>
      obtain rfl := constant _ List.mem_cons_self
      rw [List.flatten_singleton, items_of_next_none (pos _ List.mem_cons_self) ends]
  | more goes_on rest ih =>
      obtain rfl := constant _ List.mem_cons_self
      obtain ⟨-, -, cut⟩ := items_of_next_some distinct goes_on
      rw [List.flatten_cons, cut, ih (fun round mem => pos round (List.mem_cons_of_mem _ mem))
        fun round mem => constant round (List.mem_cons_of_mem _ mem)]

end Traversal

/-- While the contents stay, a traversal ends, whatever the limits. -/
theorem exists_traversal {l : List α} (distinct : (l.map key).Nodup) (limits : ℕ → ℕ)
    (after : Option κ) :
    ∃ m pages, Traversal key after ((List.range (m + 1)).map fun i => (limits i, l)) pages := by
  -- by the number of elements that remain
  generalize hsize : (remaining key after l).length = size
  induction size using Nat.strongRecOn generalizing after limits with
  | ind size ih =>
      cases hnext : (visit key (limits 0) after l).next with
      | none => exact ⟨0, _, .last hnext⟩
      | some k =>
          obtain ⟨⟨last, hlast, -⟩, -, cut⟩ := items_of_next_some distinct hnext
          have fewer : (remaining key (some k) l).length < size := by
            have total := congrArg List.length cut
            rw [List.length_append, hsize] at total
            have := List.length_pos_of_mem hlast
            omega
          obtain ⟨m, pages, rest⟩ := ih _ fewer (fun i => limits (i + 1)) (some k) rfl
          refine ⟨m + 1, (visit key (limits 0) after l).items :: pages, ?_⟩
          rw [List.range_succ_eq_map, List.map_cons, List.map_map]
          exact .more hnext rest

theorem remaining_none (l : List α) : remaining key none l = newestFirst key l := by
  rw [remaining, List.filter_eq_self]
  exact fun a _ => decide_eq_true (below_none _)

/-! ## Pages of stores that filter only when there is a bound -/

variable {κ' : Type} {keyOf : κ' → κ}

/-- The page of a store that sorts, then filters. -/
theorem page_eq_match (n : ℕ) (after : Option κ') (l : List α) :
    page key n (after.map keyOf) l =
      (match after with
        | none => newestFirst key l
        | some k => (newestFirst key l).filter fun a => decide (key a < keyOf k)).take n := by
  cases after with
  | none =>
      rw [page, Option.map_none, ← remaining, remaining_none]
  | some k =>
      rw [page, Option.map_some]
      simp only [below_some]

/-- The page of a store that filters, then sorts. -/
theorem page_eq_where {l : List α} (distinct : (l.map key).Nodup) (n : ℕ) (after : Option κ') :
    page key n (after.map keyOf) l =
      (newestFirst key (match after with
        | none => l
        | some k => l.filter fun a => decide (key a < keyOf k))).take n := by
  rw [page_eq_match]
  cases after with
  | none => rfl
  | some k =>
      dsimp only
      rw [filter_newestFirst distinct]

end Pagination
