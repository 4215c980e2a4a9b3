import WebhookMonitor.Storage.RecoveryActions

/-!
# The PostgreSQL journal

`PostgresRecoveryActionStore` by its statements.  `finalize` is one guarded
`UPDATE`; only when it matched no row does a `SELECT` find out which of the two
errors to raise.  A failing statement is the store error of the protocol.

A statement stands for the transaction around it: one that fails, its `COMMIT` included, has
changed nothing.  That a `COMMIT` is carried out and its answer is lost, is left out, and so is
the limit on the size of an index entry.
-/

namespace WebhookMonitor

open Python Interaction

/-- The answer of a statement, its failure as the store error. -/
def orStoreError {α : Type} : Except SqlError α → Action α
  | .ok a => .ret a
  | .error _ => .raise (.recoveryActionStore "Recovery action store operation failed")

/-- `PostgresRecoveryActionStore`. -/
def postgresRecoveryActionStore : RecoveryActionStore where
  createInitiatedGithubRedelivery request := do
    let actionId ← invoke .uuid4
    let row ← invoke (.insert (initiatedAction actionId request))
    orStoreError row
  finalize request :=
    match RecoveryActionState.terminalOfText request.state with
    | none => throw (.invalidRecoveryActionTransition "Invalid recovery action transition")
    | some state => do
        let updated ← invoke (.updateInitiated request state)
        match ← orStoreError updated with
        | some row => return row
        | none =>
            let existing ← invoke (.selectState request.actionId)
            match ← orStoreError existing with
            | none => throw (.recoveryActionNotFound "Recovery action not found")
            | some _ =>
                throw (.invalidRecoveryActionTransition "Invalid recovery action transition")
  create_meets request h₀ := by
    refine ⟨⟨.refl h₀, rfl, trivial⟩, fun id => ?_⟩
    have issued : id ∈ issued (h₀ ++ [⟨.uuid4, id⟩]) := by
      rw [issued_append]
      exact List.mem_append_right _ (List.mem_singleton_self id)
    have same : SameExchanges h₀ (h₀ ++ [⟨.uuid4, id⟩]) :=
      (SameExchanges.refl h₀).snoc rfl rfl rfl rfl
    refine ⟨⟨same, shown_of_none storedOf rfl h₀, id, issued, rfl⟩, fun row => ?_⟩
    cases row with
    | ok row =>
        refine ⟨same.snoc rfl rfl rfl rfl, id, ?_, ?_⟩
        · rw [issued_append]
          exact List.mem_append_left _ issued
        · exact (shown_of_some storedOf rfl _).trans
            (congrArg (· ++ _) (shown_of_none storedOf rfl h₀))
    | error e =>
        exact ⟨same.snoc rfl rfl rfl rfl,
          (shown_of_none storedOf rfl _).trans (shown_of_none storedOf rfl h₀), _, rfl⟩
  finalize_meets request h₀ := by
    cases hstate : RecoveryActionState.terminalOfText request.state with
    | none => exact ⟨.refl h₀, rfl, .inr ⟨rfl, .inr hstate⟩⟩
    | some state =>
        refine ⟨⟨.refl h₀, rfl, rfl, rfl, hstate⟩, fun updated => ?_⟩
        have same : SameEntries h₀ (h₀ ++ [⟨.updateInitiated request state, updated⟩]) :=
          (SameEntries.refl h₀).snoc rfl rfl rfl
        match updated with
        | .error e => exact ⟨same, shown_of_none finalizationOf rfl h₀, .inl ⟨_, rfl⟩⟩
        | .ok (some row) =>
            exact ⟨same, shown_of_some finalizationOf rfl h₀, shown_of_none faultOf rfl h₀⟩
        | .ok none =>
            refine ⟨⟨same, shown_of_none finalizationOf rfl h₀, shown_of_none faultOf rfl h₀, rfl⟩,
              fun existing => ?_⟩
            have same' : SameEntries h₀ (h₀ ++ [⟨.updateInitiated request state, .ok none⟩] ++
                [⟨.selectState request.actionId, existing⟩]) := same.snoc rfl rfl rfl
            have none_finalized : finalizations (h₀ ++
                [⟨.updateInitiated request state, .ok none⟩] ++
                [⟨.selectState request.actionId, existing⟩]) = finalizations h₀ :=
              (shown_of_none finalizationOf rfl _).trans (shown_of_none finalizationOf rfl h₀)
            match existing with
            | .error e => exact ⟨same', none_finalized, .inl ⟨_, rfl⟩⟩
            | .ok none =>
                exact ⟨same', none_finalized, .inr
                  ⟨(shown_of_none faultOf rfl _).trans (shown_of_none faultOf rfl h₀),
                    .inl (.inr ⟨state, by simp⟩)⟩⟩
            | .ok (some _) =>
                exact ⟨same', none_finalized, .inr
                  ⟨(shown_of_none faultOf rfl _).trans (shown_of_none faultOf rfl h₀),
                    .inl (.inr ⟨state, by simp⟩)⟩⟩

end WebhookMonitor
