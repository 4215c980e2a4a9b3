import WebhookMonitor.Python.UrlPath
import WebhookMonitor.Services.GitHubReconciliation

/-!
# Where the requests to GitHub go

The two paths of the clients are made of quoted coordinates and numbers, so they
have the segments of the API and say which repository, hook and delivery they are
for.  `quote` leaves dots alone, though, and the pattern of a repository name
accepts `.` and `..`: then the removal of dot segments takes the path elsewhere
(`targetsInside_iff`).
-/

namespace WebhookMonitor

open Python

/-! ## The coordinates -/

/-- The coordinates of an attempt are the two sides of the slash in its repository. -/
theorem repository_of_repositoryCoordinates {attempt : DeliveryAttempt} {owner repository : Str}
    (accepted : repositoryCoordinates attempt = .ok (owner, repository)) :
    attempt.repository = .str (owner ++ CodePoint.ofChar '/' :: repository) := by
  rw [repositoryCoordinates] at accepted
  split_ifs at accepted
  cases stored : attempt.repository with
  | str name =>
      rw [stored] at accepted
      dsimp only at accepted
      split_ifs at accepted with full
      obtain ⟨rfl, rfl⟩ := Prod.mk.inj (Except.ok.inj accepted)
      cases split : splitAt '/' name with
      | mk left right =>
          cases right with
          | none =>
              rw [isRepositoryFullName, split] at full
              cases full
          | some right => exact congrArg Json.str (splitAt_eq_some split)
  | _ =>
      rw [stored] at accepted
      cases accepted

/-! ## The paths -/

/-- The segments of both paths up to the hook. -/
def hookSegments (owner repository : Str) (tail : List Str) : List Str :=
  Str.lit "repos" :: owner :: repository :: Str.lit "hooks" :: tail

/-- The segments after `hooks` of the listing and of the redelivery. -/
def deliveriesTail (hookId : ℤ) : List Str := [strInt hookId, Str.lit "deliveries"]

def redeliveryTail (hookId githubDeliveryId : ℤ) : List Str :=
  [strInt hookId, Str.lit "deliveries", strInt githubDeliveryId, Str.lit "attempts"]

section Paths

variable {owner repository path : Str} {hookId githubDeliveryId : ℤ}

theorem repositoryDeliveriesPath_eq_ok
    (built : repositoryDeliveriesPath owner repository hookId = .ok path) :
    ∃ owner' repository', quote owner = some owner' ∧ quote repository = some repository' ∧
      path = pathOf (hookSegments owner' repository' (deliveriesTail hookId)) := by
  obtain ⟨owner', first, built⟩ := bind_eq_ok.mp built
  obtain ⟨repository', second, built⟩ := bind_eq_ok.mp built
  refine ⟨owner', repository', orRaise_eq_ok.mp first, orRaise_eq_ok.mp second, ?_⟩
  cases built
  simp only [pathOf, hookSegments, deliveriesTail, List.flatMap_cons, List.flatMap_nil,
    List.append_assoc]
  rfl

theorem repositoryRedeliveryPath_eq_ok
    (built : repositoryRedeliveryPath owner repository hookId githubDeliveryId = .ok path) :
    ∃ owner' repository', quote owner = some owner' ∧ quote repository = some repository' ∧
      path = pathOf (hookSegments owner' repository' (redeliveryTail hookId githubDeliveryId)) := by
  obtain ⟨owner', first, built⟩ := bind_eq_ok.mp built
  obtain ⟨repository', second, built⟩ := bind_eq_ok.mp built
  refine ⟨owner', repository', orRaise_eq_ok.mp first, orRaise_eq_ok.mp second, ?_⟩
  cases built
  simp only [pathOf, hookSegments, redeliveryTail, List.flatMap_cons, List.flatMap_nil,
    List.append_assoc]
  rfl

/-- A segment that is no dot segment and holds no slash. -/
def PlainSegment (s : Str) : Prop := CodePoint.ofChar '/' ∉ s ∧ ¬IsDotSegment s

/-- The text of a positive number is one. -/
theorem plainSegment_strInt {n : ℤ} (pos : 0 < n) : PlainSegment (strInt n) := by
  have digits : ∀ c ∈ strInt n, isDigit c = true := fun c mem => isDigit_of_mem_strInt pos mem
  refine ⟨fun slash => absurd (digits _ slash) (by decide), ?_⟩
  have noPoint : CodePoint.ofChar '.' ∉ strInt n := fun point =>
    absurd (digits _ point) (by decide)
  rintro (dot | dots)
  · exact noPoint (by rw [dot]; decide)
  · exact noPoint (by rw [dots]; decide)

theorem plainSegment_deliveriesTail (hook : 0 < hookId) :
    ∀ s ∈ deliveriesTail hookId, PlainSegment s := by
  have deliveries : PlainSegment (Str.lit "deliveries") :=
    ⟨by decide, by rintro (same | same) <;> exact absurd same (by decide)⟩
  simp only [deliveriesTail, List.forall_mem_cons, List.not_mem_nil, false_imp_iff, implies_true,
    and_true]
  exact ⟨plainSegment_strInt hook, deliveries⟩

theorem plainSegment_redeliveryTail (hook : 0 < hookId) (delivery : 0 < githubDeliveryId) :
    ∀ s ∈ redeliveryTail hookId githubDeliveryId, PlainSegment s := by
  have deliveries : PlainSegment (Str.lit "deliveries") :=
    ⟨by decide, by rintro (same | same) <;> exact absurd same (by decide)⟩
  have attempts : PlainSegment (Str.lit "attempts") :=
    ⟨by decide, by rintro (same | same) <;> exact absurd same (by decide)⟩
  simp only [redeliveryTail, List.forall_mem_cons, List.not_mem_nil, false_imp_iff, implies_true,
    and_true]
  exact ⟨plainSegment_strInt hook, deliveries, plainSegment_strInt delivery, attempts⟩

/-- Quoting makes and unmakes no dot segment. -/
theorem isDotSegment_quote {s quoted : Str} (written : quote s = some quoted) :
    IsDotSegment quoted ↔ IsDotSegment s := by
  have dot : quote (Str.lit ".") = some (Str.lit ".") := by decide
  have dots : quote (Str.lit "..") = some (Str.lit "..") := by decide
  constructor
  · rintro (rfl | rfl)
    · exact .inl (quote_injective written dot)
    · exact .inr (quote_injective written dots)
  · rintro (rfl | rfl)
    · exact .inl (Option.some.inj (written.symm.trans dot))
    · exact .inr (Option.some.inj (written.symm.trans dots))

end Paths

/-! ## The targets -/

/-- The path has exactly the segments of the API, those of the coordinates read
back as the coordinates, and no dot segment takes it elsewhere. -/
structure IsTarget (owner repository : Str) (tail : List Str) (path : Str) : Prop where
  segments : ∃ owner' repository',
    path.splitOn (CodePoint.ofChar '/') = [] :: hookSegments owner' repository' tail ∧
      unquote owner' = owner ∧ unquote repository' = repository
  stays : removeDotSegments path = path

section Targets

variable {owner repository : Str} {tail : List Str}

theorem slashFree_hookSegments {owner' repository' : Str} (first : quote owner = some owner')
    (second : quote repository = some repository') (plain : ∀ s ∈ tail, PlainSegment s) :
    ∀ s ∈ hookSegments owner' repository' tail, CodePoint.ofChar '/' ∉ s := by
  simp only [hookSegments, List.forall_mem_cons]
  exact ⟨by decide, fun slash => (quote_spec first _ slash).2 rfl,
    fun slash => (quote_spec second _ slash).2 rfl, by decide, fun s mem => (plain s mem).1⟩

/-- A path of quoted coordinates is a target exactly when neither is a dot segment. -/
theorem isTarget_iff {owner' repository' : Str} (first : quote owner = some owner')
    (second : quote repository = some repository') (plain : ∀ s ∈ tail, PlainSegment s) :
    IsTarget owner repository tail (pathOf (hookSegments owner' repository' tail)) ↔
      ¬IsDotSegment owner ∧ ¬IsDotSegment repository := by
  have slashFree := slashFree_hookSegments first second plain
  have fixed : (∀ s ∈ hookSegments owner' repository' tail, ¬IsDotSegment s) ↔
      ¬IsDotSegment owner ∧ ¬IsDotSegment repository := by
    rw [← isDotSegment_quote first, ← isDotSegment_quote second]
    simp only [hookSegments, List.forall_mem_cons]
    constructor
    · rintro ⟨-, owner, repository, -, -⟩
      exact ⟨owner, repository⟩
    · rintro ⟨owner, repository⟩
      exact ⟨by rintro (same | same) <;> exact absurd same (by decide), owner, repository,
        by rintro (same | same) <;> exact absurd same (by decide), fun s mem => (plain s mem).2⟩
  rw [← fixed, ← removeDotSegments_pathOf slashFree]
  constructor
  · exact fun target => target.stays
  · exact fun stays => ⟨⟨owner', repository', splitOn_pathOf slashFree, unquote_quote first,
      unquote_quote second⟩, stays⟩

/-- Paths of quoted coordinates that are equal have equal segments. -/
theorem eq_of_pathOf_eq {owner' repository' first first' second second' : Str} {tail' : List Str}
    (quoted : quote owner = some first) (quoted' : quote owner' = some first')
    (wrote : quote repository = some second) (wrote' : quote repository' = some second')
    (plain : ∀ s ∈ tail, PlainSegment s) (plain' : ∀ s ∈ tail', PlainSegment s)
    (same : pathOf (hookSegments first second tail) = pathOf (hookSegments first' second' tail')) :
    owner = owner' ∧ repository = repository' ∧ tail = tail' := by
  have split := splitOn_pathOf (slashFree_hookSegments quoted wrote plain)
  rw [same, splitOn_pathOf (slashFree_hookSegments quoted' wrote' plain')] at split
  simp only [hookSegments, List.cons.injEq, true_and] at split
  obtain ⟨rfl, rfl, rfl⟩ := split
  exact ⟨quote_injective quoted quoted', quote_injective wrote wrote', rfl⟩

end Targets

/-- The coordinates are the repository of the attempt; the paths built from them
are targets, and no other coordinates and numbers have the same. -/
structure TargetsInside (attempt : DeliveryAttempt) (owner repository : Str)
    (hookId githubDeliveryId : ℤ) : Prop where
  joined : attempt.repository = .str (owner ++ CodePoint.ofChar '/' :: repository)
  deliveries : ∀ path, repositoryDeliveriesPath owner repository hookId = .ok path →
    IsTarget owner repository (deliveriesTail hookId) path
  redelivery : ∀ path,
    repositoryRedeliveryPath owner repository hookId githubDeliveryId = .ok path →
    IsTarget owner repository (redeliveryTail hookId githubDeliveryId) path
  distinctDeliveries : ∀ owner' repository' hookId' path, 0 < hookId' →
    repositoryDeliveriesPath owner' repository' hookId' = .ok path →
    repositoryDeliveriesPath owner repository hookId = .ok path →
    owner' = owner ∧ repository' = repository ∧ hookId' = hookId
  distinctRedeliveries : ∀ owner' repository' hookId' githubDeliveryId' path, 0 < hookId' →
    0 < githubDeliveryId' →
    repositoryRedeliveryPath owner' repository' hookId' githubDeliveryId' = .ok path →
    repositoryRedeliveryPath owner repository hookId githubDeliveryId = .ok path →
    owner' = owner ∧ repository' = repository ∧ hookId' = hookId ∧
      githubDeliveryId' = githubDeliveryId

/-- The requests for an accepted attempt stay under its repository unless one of its
coordinates is a dot segment; a coordinate with a lone surrogate has no path. -/
theorem targetsInside_iff {attempt : DeliveryAttempt} {owner repository : Str}
    {hookId githubDeliveryId : ℤ}
    (accepted : repositoryCoordinates attempt = .ok (owner, repository)) (hook : 0 < hookId)
    (delivery : 0 < githubDeliveryId) :
    TargetsInside attempt owner repository hookId githubDeliveryId ↔
      (isScalar owner = true → isScalar repository = true →
        ¬IsDotSegment owner ∧ ¬IsDotSegment repository) := by
  constructor
  · intro inside scalar scalar'
    obtain ⟨owner', first⟩ := quote_eq_some_iff.mpr scalar
    obtain ⟨repository', second⟩ := quote_eq_some_iff.mpr scalar'
    have built : ∃ path, repositoryDeliveriesPath owner repository hookId = .ok path := by
      rw [repositoryDeliveriesPath, first, second]
      exact ⟨_, rfl⟩
    obtain ⟨path, built⟩ := built
    have target := inside.deliveries path built
    obtain ⟨owner'', repository'', first', second', rfl⟩ := repositoryDeliveriesPath_eq_ok built
    exact (isTarget_iff first' second' (plainSegment_deliveriesTail hook)).mp target
  · intro plain
    have scalar : ∀ {s q : Str}, quote s = some q → isScalar s = true :=
      fun written => quote_eq_some_iff.mp ⟨_, written⟩
    refine ⟨repository_of_repositoryCoordinates accepted, ?_, ?_, ?_, ?_⟩
    · intro path built
      obtain ⟨owner', repository', first, second, rfl⟩ := repositoryDeliveriesPath_eq_ok built
      exact (isTarget_iff first second (plainSegment_deliveriesTail hook)).mpr
        (plain (scalar first) (scalar second))
    · intro path built
      obtain ⟨owner', repository', first, second, rfl⟩ := repositoryRedeliveryPath_eq_ok built
      exact (isTarget_iff first second (plainSegment_redeliveryTail hook delivery)).mpr
        (plain (scalar first) (scalar second))
    · -- equal paths have equal segments, and the decimals in them are equal
      intro owner' repository' hookId' path hook' built' built
      obtain ⟨_, _, first, second, rfl⟩ := repositoryDeliveriesPath_eq_ok built
      obtain ⟨_, _, first', second', same⟩ := repositoryDeliveriesPath_eq_ok built'
      obtain ⟨rfl, rfl, tails⟩ := eq_of_pathOf_eq first' first second' second
        (plainSegment_deliveriesTail hook') (plainSegment_deliveriesTail hook) same.symm
      simp only [deliveriesTail, List.cons.injEq, and_true] at tails
      exact ⟨rfl, rfl, strInt_injective hook' hook tails⟩
    · intro owner' repository' hookId' githubDeliveryId' path hook' delivery' built' built
      obtain ⟨_, _, first, second, rfl⟩ := repositoryRedeliveryPath_eq_ok built
      obtain ⟨_, _, first', second', same⟩ := repositoryRedeliveryPath_eq_ok built'
      obtain ⟨rfl, rfl, tails⟩ := eq_of_pathOf_eq first' first second' second
        (plainSegment_redeliveryTail hook' delivery') (plainSegment_redeliveryTail hook delivery)
        same.symm
      simp only [redeliveryTail, List.cons.injEq, and_true, true_and] at tails
      exact ⟨rfl, rfl, strInt_injective hook' hook tails.1,
        strInt_injective delivery' delivery tails.2⟩

/-- An attempt whose repository is `o/..`. -/
def dottedAttempt : DeliveryAttempt := { sampleAttempt with repository := .str "o/.." }

/-- The sample attempt stays under its repository. -/
theorem targetsInside_sample : TargetsInside sampleAttempt "o" "r" 3 7 :=
  (targetsInside_iff rfl (by decide) (by decide)).mpr fun _ _ =>
    ⟨by rintro (same | same) <;> exact absurd same (by decide),
      by rintro (same | same) <;> exact absurd same (by decide)⟩

/-- The listing of `o/..` goes to `/repos/hooks/3/deliveries`. -/
theorem dottedAttempt_redirected :
    repositoryCoordinates dottedAttempt = .ok ("o", "..") ∧
      ¬TargetsInside dottedAttempt "o" ".." 3 7 := by
  refine ⟨rfl, fun inside => ?_⟩
  have stays := (inside.deliveries _ rfl).stays
  exact absurd stays (by decide)

end WebhookMonitor
