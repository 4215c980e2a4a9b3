import Mathlib.Algebra.Order.BigOperators.Group.Finset
import WebhookMonitor.Interaction.Budget

/-!
# Runs that come to an end

A system whose programs are bounded cannot go on for ever without new requests; if some
request can always take a step, every run of it can be brought to an end.

* `System.Run` — a run in which no request starts;
* `Config.left` — what the requests under way may still spend, which every answer lessens;
* `System.Reachable.drains` — a run that is bounded, and that can be brought to an end from
  wherever it has come to.

What a step has to be like for the end is a parameter: a run may have gone through failures,
and may yet be brought to an end without any.
-/

namespace Interaction

variable {I : Interface} {ε α ι σ : Type}

/-! ## Runs without new requests -/

/-- `n` answers that meet `ok`, and no new request. -/
inductive System.Run (S : System I ε α ι σ) (ok : Config I ε α ι σ → Event I → Prop) :
    Config I ε α ι σ → ℕ → Config I ε α ι σ → Prop where
  | refl (cfg : Config I ε α ι σ) : Run S ok cfg 0 cfg
  | step {cfg mid cfg' : Config I ε α ι σ} {n i : ℕ} {e : Event I} (before : Run S ok cfg n mid)
      (step : S.Step mid (.answer i e) cfg') (meets : ok mid e) : Run S ok cfg (n + 1) cfg'

/-- Every request has ended. -/
def Config.Ended (cfg : Config I ε α ι σ) : Prop :=
  ∀ i t, cfg.threads i = some t → ∃ r, t.rest = Program.ofExcept r

/-- The requests have numbers below `N`. -/
def Config.Below (N : ℕ) (cfg : Config I ε α ι σ) : Prop := ∀ i, N ≤ i → cfg.threads i = none

variable {S : System I ε α ι σ} {ok : Config I ε α ι σ → Event I → Prop}
  {cfg cfg' : Config I ε α ι σ} {n N : ℕ}

theorem System.Run.append {mid : Config I ε α ι σ} {m : ℕ} (first : S.Run ok cfg n mid)
    (second : S.Run ok mid m cfg') : S.Run ok cfg (n + m) cfg' := by
  induction second with
  | refl => exact first
  | step before step meets ih => exact .step ih step meets

/-- An answer gives no number to a new request. -/
theorem Config.Below.answer (below : cfg.Below N) {i : ℕ} {e : Event I}
    (step : S.Step cfg (.answer i e) cfg') : cfg'.Below N := by
  cases step with
  | answer pending answered =>
      intro j high
      have other : j ≠ i := by
        rintro rfl
        rw [below j high] at pending
        cases pending
      rw [Config.set_of_ne _ _ _ other, below j high]

/-- The request a move is about. -/
def Move.number : Move ι → ℕ
  | .start i _ | .go i => i

/-- A schedule about requests with numbers below `N` leaves it at these. -/
theorem Config.Below.play {choose : σ → (c : I.Call) → Option (I.Answer c × σ)}
    {check : Config I ε α ι σ → Label I ι → Bool} {moves : List (Move ι)}
    (sound : ∀ {w c a w'}, choose w c = some (a, w') → S.answers w c a w') (below : cfg.Below N)
    (low : ∀ m ∈ moves, m.number < N) (played : S.play choose check cfg moves = some cfg') :
    cfg'.Below N := by
  induction moves generalizing cfg with
  | nil =>
      cases played
      exact below
  | cons m rest ih =>
      rw [System.play] at played
      cases moved : S.move choose cfg m with
      | none =>
          rw [moved] at played
          cases played
      | some next =>
          rw [moved] at played
          dsimp only at played
          split_ifs at played with passes
          refine ih ?_ (fun m mem => low m (List.mem_cons_of_mem _ mem)) played
          cases m with
          | start i request =>
              have small : i < N := low _ List.mem_cons_self
              rw [System.move] at moved
              split at moved
              · cases moved
                intro j high
                rw [Config.set_of_ne _ _ _ (by omega), below j high]
              · cases moved
          | go i =>
              rw [System.move] at moved
              split at moved
              · next pending =>
                  obtain ⟨r, chosen, rfl⟩ := Option.map_eq_some_iff.mp moved
                  exact below.answer (S := S) (.answer pending (sound chosen))
              · cases moved

/-- A run of answers goes on from a reachable configuration to reachable ones. -/
theorem System.Run.reachable {world : σ} (run : S.Run ok cfg n cfg')
    (reachable : S.Reachable (fun _ _ => True) world cfg) :
    S.Reachable (fun _ _ => True) world cfg' := by
  induction run with
  | refl => exact reachable
  | step before step meets ih => exact .step ih step trivial

/-- Where each request shows one thing at most, and one shows nothing, fewer things than
requests are shown. -/
theorem Config.Below.card_lt {β : Type} [DecidableEq β] {view : Event I → Option β}
    (below : cfg.Below N) (once : ∀ i, (cfg.shown view i).length ≤ 1) {s : Finset β}
    (shown : ∀ b ∈ s, ∃ i, b ∈ cfg.shown view i) {i : ℕ} (low : i < N)
    (nothing : cfg.shown view i = []) : s.card < N := by
  choose! owner owns using shown
  have others : ∀ b ∈ s, owner b ∈ (Finset.range N).erase i := by
    intro b mem
    have mine := owns b mem
    refine Finset.mem_erase.mpr ⟨?_, Finset.mem_range.mpr (Nat.lt_of_not_le fun high => ?_)⟩
    · intro same
      rw [same, nothing] at mine
      cases mine
    · rw [Config.shown, below _ high] at mine
      cases mine
  have apart : ∀ b ∈ s, ∀ b' ∈ s, owner b = owner b' → b = b' := by
    intro b mem b' mem' same
    have mine := owns b mem
    have theirs := owns b' mem'
    rw [← same] at theirs
    have only := once (owner b)
    cases listed : cfg.shown view (owner b) with
    | nil =>
        rw [listed] at mine
        cases mine
    | cons b₀ rest =>
        rw [listed] at mine theirs only
        obtain rfl : rest = [] := List.eq_nil_of_length_eq_zero (by simpa using only)
        rw [List.mem_singleton.mp mine, List.mem_singleton.mp theirs]
  have fewer := Finset.card_le_card_of_injOn owner others apart
  rw [Finset.card_erase_of_mem (Finset.mem_range.mpr low), Finset.card_range] at fewer
  omega

/-! ## What is left -/

/-- What a request may still spend. -/
def Thread.left (budget : ι → ℕ) (t : Thread I ε α ι) : ℕ := budget t.request - t.history.length

/-- What the requests with numbers below `N` may still spend. -/
def Config.left (budget : ι → ℕ) (N : ℕ) (cfg : Config I ε α ι σ) : ℕ :=
  ∑ i ∈ Finset.range N, (cfg.threads i).elim 0 (Thread.left budget)

variable {budget : ι → ℕ}

/-- A run has not made more calls than its program may. -/
theorem length_lt_of_within {p : Program I ε α} {c : I.Call} {k : I.Answer c → Program I ε α}
    {es : List (Event I)} {m : ℕ} (within : CostsAtMost (fun _ => 1) m p)
    (trace : Trace p es (.call c k)) : es.length < m := by
  have counted : spent (fun _ => 1) es = es.length := by
    simp [spent]
  have bound : spent (fun _ => 1) es + 1 ≤ m := within.call_le trace
  omega

/-- Every answer lessens what is left. -/
theorem Config.left_lt
    (within : ∀ request, CostsAtMost (fun _ => 1) (budget request) (S.program request))
    {world : σ} (reachable : S.Reachable (fun _ _ => True) world cfg) (below : cfg.Below N) {i : ℕ}
    {e : Event I} (step : S.Step cfg (.answer i e) cfg') :
    cfg'.left budget N < cfg.left budget N := by
  cases step with
  | @answer i request h c k a w pending answered =>
      have low : i ∈ Finset.range N := by
        refine Finset.mem_range.mpr (Nat.lt_of_not_le fun high => ?_)
        rw [below i high] at pending
        cases pending
      have room : h.length < budget request :=
        length_lt_of_within (within request) (reachable.trace pending)
      have less : Thread.left budget ⟨request, h ++ [⟨c, a⟩], k a⟩ <
          Thread.left budget ⟨request, h, .call c k⟩ := by
        show budget request - (h ++ [(⟨c, a⟩ : Event I)]).length < budget request - h.length
        rw [List.length_append, List.length_singleton]
        omega
      refine Finset.sum_lt_sum (fun j _ => ?_) ⟨i, low, ?_⟩
      · by_cases same : j = i
        · subst same
          rw [Config.set_self, pending]
          exact less.le
        · rw [Config.set_of_ne _ _ _ same]
      · rw [Config.set_self, pending]
        exact less

/-- A run spends what is left. -/
theorem System.Run.length_le
    (within : ∀ request, CostsAtMost (fun _ => 1) (budget request) (S.program request)) {world : σ}
    (reachable : S.Reachable (fun _ _ => True) world cfg) (below : cfg.Below N)
    (run : S.Run ok cfg n cfg') :
    cfg'.Below N ∧ n + cfg'.left budget N ≤ cfg.left budget N := by
  induction run with
  | refl => exact ⟨below, by rw [Nat.zero_add]⟩
  | step before step meets ih =>
      obtain ⟨still, spent⟩ := ih
      refine ⟨still.answer step, ?_⟩
      have less := Config.left_lt within (before.reachable reachable) still step
      omega

/-! ## Coming to an end -/

variable {good : Config I ε α ι σ → Event I → Prop}

/-- Where a request can always be answered as it should, all come to an end. -/
theorem System.Reachable.ends
    (within : ∀ request, CostsAtMost (fun _ => 1) (budget request) (S.program request)) {world : σ}
    (progress : ∀ {cfg}, S.Reachable (fun _ _ => True) world cfg → cfg.Below N → ¬ cfg.Ended →
      ∃ i e cfg', S.Step cfg (.answer i e) cfg' ∧ good cfg e)
    (reachable : S.Reachable (fun _ _ => True) world cfg) (below : cfg.Below N) :
    ∃ n cfg', S.Run good cfg n cfg' ∧ cfg'.Ended := by
  -- what is left grows less with every step
  induction left : cfg.left budget N using Nat.strong_induction_on generalizing cfg with
  | _ left ih =>
      subst left
      by_cases ended : cfg.Ended
      · exact ⟨0, cfg, .refl cfg, ended⟩
      · obtain ⟨i, e, mid, step, meets⟩ := progress reachable below ended
        obtain ⟨n, cfg', run, ended⟩ := ih _ (Config.left_lt within reachable below step)
          (.step reachable step trivial) (below.answer step) rfl
        exact ⟨1 + n, cfg', (System.Run.step (.refl cfg) step meets).append run, ended⟩

/-- **Draining.**  No run without new requests goes on for ever, and each can be brought to an
end. -/
theorem System.Reachable.drains
    (within : ∀ request, CostsAtMost (fun _ => 1) (budget request) (S.program request)) {world : σ}
    (progress : ∀ {cfg}, S.Reachable (fun _ _ => True) world cfg → cfg.Below N → ¬ cfg.Ended →
      ∃ i e cfg', S.Step cfg (.answer i e) cfg' ∧ good cfg e)
    (reachable : S.Reachable (fun _ _ => True) world cfg) (below : cfg.Below N)
    (run : S.Run ok cfg n cfg') :
    n ≤ cfg.left budget N ∧ ∃ m last, S.Run good cfg' m last ∧ last.Ended := by
  obtain ⟨still, spent⟩ := run.length_le within reachable below
  exact ⟨by omega, (run.reachable reachable).ends within progress still⟩

end Interaction
