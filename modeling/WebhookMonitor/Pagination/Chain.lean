import Mathlib.Data.List.Nodup

/-!
# Pages that name their successor

A history handed out in pages: `fetch` gives the page for a cursor, `next` the
cursor of the page after it, and the first page is asked for without a cursor.

* `Chain fetch next cursor asked` — from `cursor` the requests `asked`, each with
  the page it got, lead to a page without a successor;
* `Chain.drop` — a scan that stops after some of the pages can be taken up with
  the cursor of the last one it got;
* `Chain.nodup` — no request of a chain is made twice.
-/

namespace Pagination

variable {ε κ π : Type} {fetch : Option κ → Except ε π} {next : π → Option κ}

/-- The requests from `cursor` to the end of the history, with their pages. -/
inductive Chain (fetch : Option κ → Except ε π) (next : π → Option κ) :
    Option κ → List (Option κ × π) → Prop where
  | last {cursor : Option κ} {page : π} (got : fetch cursor = .ok page)
      (ends : next page = none) : Chain fetch next cursor [(cursor, page)]
  | more {cursor : Option κ} {page : π} {k : κ} {asked : List (Option κ × π)}
      (got : fetch cursor = .ok page) (goes_on : next page = some k)
      (rest : Chain fetch next (some k) asked) : Chain fetch next cursor ((cursor, page) :: asked)

namespace Chain

variable {cursor : Option κ} {asked asked' : List (Option κ × π)}

theorem head?_eq (chain : Chain fetch next cursor asked) :
    asked.head?.map Prod.fst = some cursor := by
  cases chain <;> rfl

theorem ne_nil (chain : Chain fetch next cursor asked) : asked ≠ [] := by
  rintro rfl
  cases chain

/-- Every request of a chain got its page. -/
theorem fetched (chain : Chain fetch next cursor asked) :
    ∀ request ∈ asked, fetch request.1 = .ok request.2 := by
  induction chain with
  | last got ends =>
      intro request mem
      obtain rfl := List.mem_singleton.mp mem
      exact got
  | more got goes_on rest ih =>
      intro request mem
      rcases List.mem_cons.mp mem with rfl | mem
      · exact got
      · exact ih request mem

/-- A cursor leads along one chain only. -/
theorem unique (chain : Chain fetch next cursor asked) (chain' : Chain fetch next cursor asked') :
    asked = asked' := by
  induction chain generalizing asked' with
  | last got ends =>
      cases chain' with
      | last got' ends' => rw [got, Except.ok.injEq] at got'; rw [got']
      | more got' goes_on' rest' =>
          rw [got, Except.ok.injEq] at got'
          rw [← got', ends] at goes_on'
          cases goes_on'
  | more got goes_on rest ih =>
      cases chain' with
      | last got' ends' =>
          rw [got, Except.ok.injEq] at got'
          rw [← got', goes_on] at ends'
          cases ends'
      | more got' goes_on' rest' =>
          rw [got, Except.ok.injEq] at got'
          subst got'
          rw [goes_on, Option.some.injEq] at goes_on'
          subst goes_on'
          rw [ih rest']

/-- What is left after `n` pages is the chain from the cursor of the last of them. -/
theorem drop (chain : Chain fetch next cursor asked) {n : ℕ} (pos : 0 < n) (lt : n < asked.length) :
    ∃ request ∈ asked, ∃ k, next request.2 = some k ∧ Chain fetch next (some k) (asked.drop n) := by
  induction chain generalizing n with
  | last got ends =>
      rw [List.length_singleton] at lt
      omega
  | @more cursor page k asked got goes_on rest ih =>
      obtain ⟨n, rfl⟩ := Nat.exists_eq_add_of_lt pos
      rw [Nat.zero_add] at lt ⊢
      rw [List.drop_succ_cons]
      cases n with
      | zero => exact ⟨(cursor, page), List.mem_cons_self, k, goes_on, rest⟩
      | succ n =>
          rw [List.length_cons] at lt
          obtain ⟨request, mem, k', goes_on', rest'⟩ := ih (Nat.succ_pos n) (by omega)
          exact ⟨request, List.mem_cons_of_mem _ mem, k', goes_on', rest'⟩

/-- The chain from any of the requests is shorter. -/
theorem from_mem (chain : Chain fetch next cursor asked) {request : Option κ × π}
    (mem : request ∈ asked) :
    ∃ asked', Chain fetch next request.1 asked' ∧ asked'.length ≤ asked.length := by
  induction chain with
  | last got ends =>
      obtain rfl := List.mem_singleton.mp mem
      exact ⟨_, .last got ends, Nat.le_refl _⟩
  | more got goes_on rest ih =>
      rcases List.mem_cons.mp mem with rfl | mem
      · exact ⟨_, .more got goes_on rest, Nat.le_refl _⟩
      · obtain ⟨asked', chain', le⟩ := ih mem
        exact ⟨asked', chain', Nat.le_trans le (Nat.le_succ _)⟩

/-- No cursor of a chain occurs twice: it would lead to two chains of different
length. -/
theorem nodup (chain : Chain fetch next cursor asked) : (asked.map Prod.fst).Nodup := by
  induction chain with
  | last got ends => exact List.nodup_singleton _
  | more got goes_on rest ih =>
      rw [List.map_cons, List.nodup_cons]
      refine ⟨fun mem => ?_, ih⟩
      obtain ⟨request, hrequest, same⟩ := List.mem_map.mp mem
      obtain ⟨asked', chain', le⟩ := rest.from_mem hrequest
      rw [same] at chain'
      have := (Chain.more got goes_on rest).unique chain'
      rw [← this, List.length_cons] at le
      omega

end Chain

end Pagination
