import WebhookMonitor.Deliveries.ConcurrentAdds
import WebhookMonitor.Python.Decimal
import WebhookMonitor.Webhooks.Acceptance

/-!
# Reading a stored attempt back

What `get_attempt` returns for an attempt that `add` has stored.

* `DeliveryAttempt.Equal` — `==` of two attempts: timestamps compare as instants;
* `Bound` — how the columns of a row come from the attempt;
* `DeliveryAttempt.IsPlain` — the attempts whose columns lose nothing: the three
  payload fields are text or null, and the target identifier is in the form `str`
  gives an integer;
* `getAttempt_iff` — an attempt reads back equal exactly when it is plain and the
  session can show its timestamp.

The column of the target identifier is a number, the field a text: `"007"` is
stored as 7 and comes back as `"7"`.
-/

namespace WebhookMonitor

open Python Interaction Database PostgresDeliveryStore

/-! ## Attempts that lose nothing -/

/-- `a == b`. -/
def DeliveryAttempt.Equal (a b : DeliveryAttempt) : Prop :=
  a.receivedAt.instant = b.receivedAt.instant ∧ a = { b with receivedAt := a.receivedAt }

/-- A value the model declares for a payload field: `str | None`. -/
def isNullableText : Json → Bool
  | .null | .str _ => true
  | _ => false

/-- The attempts whose columns lose nothing. -/
def DeliveryAttempt.IsPlain (attempt : DeliveryAttempt) : Bool :=
  isNullableText attempt.action && isNullableText attempt.repository &&
    isNullableText attempt.sender && attempt.installationTargetId.all isCanonicalDecimal

/-! ## The columns of an attempt -/

/-- Text is bound as it is. -/
theorem bindText_eq_ok {s s' : Str} (bound : bindText s = .ok s') : s' = s := by
  rw [bindText] at bound
  split_ifs at bound
  cases bound
  rfl

/-- The row of an attempt, column by column. -/
structure Bound (driver : Driver) (attempt : DeliveryAttempt) (row : StoredAttempt) : Prop where
  attemptId : row.attemptId = attempt.attemptId
  receivedAt : row.receivedAt = attempt.receivedAt.instant
  payloadSha256 : row.payloadSha256 = attempt.payloadSha256
  eventType : row.eventType = attempt.eventType
  action : driver.bindNullableText attempt.action = .ok row.action
  repository : driver.bindNullableText attempt.repository = .ok row.repository
  sender : driver.bindNullableText attempt.sender = .ok row.sender
  targetId : installationTargetIdToDb attempt.installationTargetId = .ok row.installationTargetId
  targetType : row.installationTargetType = attempt.installationTargetType
  targetPair : isTargetPair row.installationTargetId row.installationTargetType = true

theorem DeliveryAttempt.HasRow.bound {driver : Driver} {attempt : DeliveryAttempt}
    {row : StoredAttempt} (hasRow : attempt.HasRow driver row) : Bound driver attempt row := by
  obtain ⟨values, parameters, bound⟩ := hasRow
  generalize row.githubDeliveryId = githubDeliveryId at parameters
  obtain ⟨targetId, htarget, built⟩ := bind_eq_ok.mp parameters
  cases built
  rw [Driver.bindAttempt] at bound
  obtain ⟨payloadSha256, hpayload, bound⟩ := bind_eq_ok.mp bound
  obtain ⟨eventType, hevent, bound⟩ := bind_eq_ok.mp bound
  obtain ⟨action, haction, bound⟩ := bind_eq_ok.mp bound
  obtain ⟨repository, hrepository, bound⟩ := bind_eq_ok.mp bound
  obtain ⟨sender, hsender, bound⟩ := bind_eq_ok.mp bound
  obtain ⟨targetType, htype, bound⟩ := bind_eq_ok.mp bound
  split_ifs at bound with accepted
  cases bound
  rw [Bool.and_eq_true, Bool.and_eq_true] at accepted
  refine ⟨rfl, rfl, bindText_eq_ok hpayload, bindText_eq_ok hevent, haction, hrepository, hsender,
    htarget, ?_, accepted.2⟩
  cases hgiven : attempt.installationTargetType with
  | none =>
      rw [hgiven] at htype
      cases htype
      rfl
  | some given =>
      rw [hgiven] at htype
      obtain ⟨text, htext, htype⟩ := bind_eq_ok.mp htype
      cases htype
      exact congrArg some (bindText_eq_ok htext)

/-- What a nullable text column gives back is the value that was bound exactly when
that was text or null. -/
theorem nullable_eq_iff {driver : Driver} {value : Json} {column : Option Str}
    (bound : driver.bindNullableText value = .ok column) :
    rowToDeliveryAttempt.nullable column = value ↔ isNullableText value = true := by
  cases value with
  | null =>
      cases bound
      exact iff_of_true rfl rfl
  | str s =>
      cases hs : bindText s with
      | error e =>
          rw [Driver.bindNullableText, hs] at bound
          cases bound
      | ok s' =>
          rw [Driver.bindNullableText, hs] at bound
          cases bound
          exact iff_of_true (congrArg Json.str (bindText_eq_ok hs)) rfl
  | bool _ | int _ | float _ | list _ | dict _ =>
      refine iff_of_false ?_ Bool.false_ne_true
      cases column <;> exact Json.noConfusion

/-- The target identifier comes back as it was exactly when it is canonical. -/
theorem targetId_eq_iff {value : Option Str} {column : Option ℤ} {targetType : Option Str}
    (bound : installationTargetIdToDb value = .ok column)
    (pair : isTargetPair column targetType = true) :
    installationTargetIdFromDb column = value ↔ value.all isCanonicalDecimal = true := by
  cases value with
  | none =>
      cases bound
      exact iff_of_true rfl rfl
  | some s =>
      cases hread : readInt s with
      | none =>
          rw [installationTargetIdToDb, hread] at bound
          cases bound
      | some n =>
          rw [installationTargetIdToDb, hread] at bound
          cases bound
          have pos : 0 < n := by
            cases targetType with
            | none => cases pair
            | some targetType =>
                simp only [isTargetPair, Bool.and_eq_true, decide_eq_true_eq] at pair
                exact pair.1
          rw [installationTargetIdFromDb, Option.map_some, Option.some.injEq,
            strInt_eq_iff hread pos, Option.all_some]

/-! ## The row read back -/

/-- The attempt with the values of a row that may differ from its own. -/
def DeliveryAttempt.readBack (attempt : DeliveryAttempt) (row : StoredAttempt)
    (receivedAt : AwareDatetime) : DeliveryAttempt :=
  { attempt with
    receivedAt
    action := rowToDeliveryAttempt.nullable row.action
    repository := rowToDeliveryAttempt.nullable row.repository
    sender := rowToDeliveryAttempt.nullable row.sender
    installationTargetId := installationTargetIdFromDb row.installationTargetId }

/-- An identity was accepted once, so it is again. -/
theorem GitHubDeliveryIdentity.new_self (identity : GitHubDeliveryIdentity) :
    GitHubDeliveryIdentity.new identity.deliveryGuid identity.hookId = .ok identity := by
  rw [new, dif_neg identity.guid_nonblank, dif_neg (not_le.mpr identity.hookId_pos)]

/-- What the row of an attempt reads back as. -/
theorem rowToDeliveryAttempt_of_bound {driver : Driver} {attempt : DeliveryAttempt}
    {row : StoredAttempt} (bound : Bound driver attempt row) (id : ℕ) :
    rowToDeliveryAttempt driver ⟨id, attempt.deliveryIdentity.deliveryGuid,
      attempt.deliveryIdentity.hookId, row⟩ =
        match driver.shown attempt.receivedAt.instant with
        | some receivedAt => .ok (attempt.readBack row receivedAt)
        | none => .error storeError := by
  rw [rowToDeliveryAttempt]
  dsimp only
  rw [bound.receivedAt]
  cases driver.shown attempt.receivedAt.instant with
  | none => rfl
  | some receivedAt =>
      simp only [bind, Except.bind, GitHubDeliveryIdentity.new_self, DeliveryAttempt.new,
        Datetime.aware?, Option.map_some, bound.attemptId, bound.payloadSha256, bound.eventType,
        bound.targetType]
      rw [dif_pos attempt.digest_wellFormed]
      rfl

/-- The row reads back equal exactly when the attempt is plain. -/
theorem readBack_equal_iff {driver : Driver} {attempt : DeliveryAttempt} {row : StoredAttempt}
    (bound : Bound driver attempt row) {receivedAt : AwareDatetime}
    (shown : driver.shown attempt.receivedAt.instant = some receivedAt) :
    (attempt.readBack row receivedAt).Equal attempt ↔ attempt.IsPlain = true := by
  have instant := Driver.instant_of_shown shown
  have fields : (attempt.readBack row receivedAt).Equal attempt ↔
      rowToDeliveryAttempt.nullable row.action = attempt.action ∧
        rowToDeliveryAttempt.nullable row.repository = attempt.repository ∧
        rowToDeliveryAttempt.nullable row.sender = attempt.sender ∧
        installationTargetIdFromDb row.installationTargetId = attempt.installationTargetId := by
    constructor
    · rintro ⟨-, same⟩
      exact ⟨congrArg DeliveryAttempt.action same, congrArg DeliveryAttempt.repository same,
        congrArg DeliveryAttempt.sender same, congrArg DeliveryAttempt.installationTargetId same⟩
    · rintro ⟨action, repository, sender, targetId⟩
      refine ⟨instant, ?_⟩
      rw [DeliveryAttempt.readBack, action, repository, sender, targetId]
  rw [fields, nullable_eq_iff bound.action, nullable_eq_iff bound.repository,
    nullable_eq_iff bound.sender, targetId_eq_iff bound.targetId bound.targetPair,
    DeliveryAttempt.IsPlain]
  simp only [Bool.and_eq_true, and_assoc]

/-! ## Looking an attempt up -/

/-- The join finds the one delivery of each row. -/
theorem join_eq {db : DeliveryDatabase} {attempt : DeliveryAttempt} (sound : db.Sound)
    {row : Row StoredAttempt}
    (identified : Stage.Identified attempt row.values.githubDeliveryId db.deliveries.committed) :
    ((db.deliveries.committed.filter fun delivery =>
      delivery.id = row.values.githubDeliveryId).map fun delivery =>
        (⟨row.id, delivery.values.deliveryGuid, delivery.values.hookId, row.values⟩ : JoinedRow)) =
      [⟨row.id, attempt.deliveryIdentity.deliveryGuid, attempt.deliveryIdentity.hookId,
        row.values⟩] := by
  obtain ⟨delivery, mem, named, same⟩ := identified
  have distinct : (db.deliveries.committed.map Row.id).Nodup :=
    sound.deliveries.ids.sublist ((List.sublist_append_left _ _).map _)
  rw [filter_eq_singleton distinct mem named, List.map_singleton, same]
  rfl

/-- The rows of the join with one attempt identifier. -/
theorem baseAttempts_filter {db : DeliveryDatabase} {attempt : DeliveryAttempt}
    {row : Row StoredAttempt} (sound : db.Sound) (mem : row ∈ db.attempts.committed)
    (named : row.values.attemptId = attempt.attemptId)
    (identified : Stage.Identified attempt row.values.githubDeliveryId db.deliveries.committed) :
    (baseAttempts db).filter (fun joined => joined.attempt.attemptId = attempt.attemptId) =
      [⟨row.id, attempt.deliveryIdentity.deliveryGuid, attempt.deliveryIdentity.hookId,
        row.values⟩] := by
  have distinct : (db.attempts.committed.map fun row => row.values.attemptId).Nodup :=
    sound.attempts.unique.sublist ((List.sublist_append_left _ _).map _)
  have one := filter_eq_singleton distinct mem named
  -- the filter on the joined rows is one on the attempts
  have push : ∀ rows : List (Row StoredAttempt),
      (rows.flatMap fun attempt => (db.deliveries.committed.filter fun delivery =>
        delivery.id = attempt.values.githubDeliveryId).map fun delivery =>
          (⟨attempt.id, delivery.values.deliveryGuid, delivery.values.hookId,
            attempt.values⟩ : JoinedRow)).filter
        (fun joined => joined.attempt.attemptId = attempt.attemptId) =
      (rows.filter fun row => row.values.attemptId = attempt.attemptId).flatMap fun attempt =>
        (db.deliveries.committed.filter fun delivery =>
          delivery.id = attempt.values.githubDeliveryId).map fun delivery =>
            (⟨attempt.id, delivery.values.deliveryGuid, delivery.values.hookId,
              attempt.values⟩ : JoinedRow) := by
    intro rows
    induction rows with
    | nil => rfl
    | cons head rest ih =>
        rw [List.flatMap_cons, List.filter_append, ih, List.filter_cons]
        by_cases hit : head.values.attemptId = attempt.attemptId
        · rw [if_pos (decide_eq_true hit), List.flatMap_cons]
          congr 1
          refine List.filter_eq_self.mpr fun joined mem => ?_
          obtain ⟨delivery, -, rfl⟩ := List.mem_map.mp mem
          exact decide_eq_true hit
        · rw [if_neg (by simpa using hit)]
          have nothing : (((db.deliveries.committed.filter fun delivery =>
              delivery.id = head.values.githubDeliveryId).map fun delivery =>
                (⟨head.id, delivery.values.deliveryGuid, delivery.values.hookId,
                  head.values⟩ : JoinedRow)).filter
              fun joined => joined.attempt.attemptId = attempt.attemptId) = [] := by
            refine List.filter_eq_nil_iff.mpr fun joined mem => ?_
            obtain ⟨delivery, -, rfl⟩ := List.mem_map.mp mem
            simpa using hit
          rw [nothing, List.nil_append]
  rw [baseAttempts, push, one, List.flatMap_singleton, join_eq sound identified]

/-- What a lookup returns for a stored attempt. -/
theorem getAttempt_of_row {driver : Driver} {db : DeliveryDatabase} {attempt : DeliveryAttempt}
    {row : Row StoredAttempt} (sound : db.Sound) (mem : row ∈ db.attempts.committed)
    (hasRow : attempt.HasRow driver row.values)
    (identified : Stage.Identified attempt row.values.githubDeliveryId db.deliveries.committed) :
    getAttempt driver attempt.attemptId db =
      match driver.shown attempt.receivedAt.instant with
      | some receivedAt => .ok (some (attempt.readBack row.values receivedAt))
      | none => .error storeError := by
  have bound := hasRow.bound
  rw [getAttempt, baseAttempts_filter sound mem bound.attemptId identified]
  dsimp only
  rw [rowToDeliveryAttempt_of_bound bound]
  cases driver.shown attempt.receivedAt.instant with
  | none => rfl
  | some receivedAt => rfl

/-- A lookup returns an attempt equal to the stored one. -/
def ReadsBack (driver : Driver) (db : DeliveryDatabase) (attempt : DeliveryAttempt) : Prop :=
  ∃ found, getAttempt driver attempt.attemptId db = .ok (some found) ∧ found.Equal attempt

/-- A stored attempt reads back equal exactly when it is plain and its timestamp can
be shown. -/
theorem readsBack_iff {driver : Driver} {db : DeliveryDatabase} {attempt : DeliveryAttempt}
    {row : Row StoredAttempt} (sound : db.Sound) (mem : row ∈ db.attempts.committed)
    (hasRow : attempt.HasRow driver row.values)
    (identified : Stage.Identified attempt row.values.githubDeliveryId db.deliveries.committed) :
    ReadsBack driver db attempt ↔
      attempt.IsPlain = true ∧ (driver.shown attempt.receivedAt.instant).isSome = true := by
  rw [ReadsBack, getAttempt_of_row sound mem hasRow identified]
  cases shown : driver.shown attempt.receivedAt.instant with
  | none =>
      refine iff_of_false ?_ fun h => Bool.false_ne_true h.2
      rintro ⟨found, heq, -⟩
      cases heq
  | some receivedAt =>
      rw [Option.isSome_some, eq_self_iff_true, and_true, ← readBack_equal_iff hasRow.bound shown]
      constructor
      · rintro ⟨found, heq, equal⟩
        cases heq
        exact equal
      · exact fun equal => ⟨_, rfl, equal⟩

/-- In every state that concurrent adds reach, for every attempt whose add has
returned. -/
theorem readsBack_iff_isPlain (driver : Driver) {cfg : AddConfig}
    (reachable : (addSystem driver).Reachable (fun _ _ => True) .empty cfg) {i : ℕ}
    {t : Thread Sql AppError Unit DeliveryAttempt} (running : cfg.threads i = some t)
    (returned : t.rest = .ret ()) :
    ReadsBack driver cfg.world t.request ↔
      t.request.IsPlain = true ∧ (driver.shown t.request.receivedAt.instant).isSome = true := by
  have consistent := Consistent.of_reachable (addSystem_adds driver) reachable
  obtain ⟨stage, rest, -, -, holds⟩ := consistent.stage i t running
  obtain ⟨tx, rfl⟩ := Stage.eq_returned_of_program (rest.symm.trans returned)
  obtain ⟨-, -, row, committed, hasRow, identified⟩ := holds
  have mem : row ∈ cfg.world.attempts.committedOf tx := by
    rw [committed]
    exact List.mem_singleton_self row
  exact readsBack_iff consistent.sound (Table.mem_committedOf.mp mem).1 hasRow identified

/-- One stored attempt of a repository webhook. -/
theorem readsBack_iff_isPlain_sample :
    ∃ (cfg : AddConfig) (t : Thread Sql AppError Unit DeliveryAttempt), cfg.threads 0 = some t ∧
      t.request.installationTargetId = some (Str.lit "7") ∧
      ReadsBack sampleDriver cfg.world t.request := by
  have stored : ((addSystem sampleDriver).play (DeliveryDatabase.choose sampleDriver)
      (fun _ _ => true) (Config.initial .empty)
      (.start 0 { sampleAttempt with
        installationTargetId := some "7", installationTargetType := some "repository" } ::
          List.replicate 4 (.go 0))).bind (fun cfg => (cfg.threads 0).bind fun t =>
            t.rest.outcome.bind fun r => r.toOption.map fun _ => (t.request.installationTargetId,
              t.request.IsPlain, (sampleDriver.shown t.request.receivedAt.instant).isSome)) =
              some (some (Str.lit "7"), true, true) := by decide +kernel
  obtain ⟨cfg, played, shows⟩ := Option.bind_eq_some_iff.mp stored
  obtain ⟨t, running, shows⟩ := Option.bind_eq_some_iff.mp shows
  obtain ⟨r, ended, shows⟩ := Option.bind_eq_some_iff.mp shows
  cases r with
  | error e => cases shows
  | ok u =>
      simp only [Except.toOption, Option.map_some, Option.some.injEq, Prod.mk.injEq] at shows
      exact ⟨cfg, t, running, shows.1, (readsBack_iff_isPlain sampleDriver
        (System.reachable_of_play DeliveryDatabase.choose_sound (fun {_ _} _ => trivial) .initial
          played) running (Program.eq_ret_of_outcome ended)).mpr shows.2⟩

/-! ## A target identifier that is not canonical -/

/-- The headers of a signed push of a repository webhook whose target is `007`. -/
def targetHeaders (body : Bytes) : WebhookHeaders :=
  { sampleHeaders body with
    xGithubHookInstallationTargetId := some ⟨"007", by decide⟩
    xGithubHookInstallationTargetType := some ⟨"repository", by decide⟩ }

/-- The attempt of an accepted request, and what a lookup finds after it is stored. -/
def storeAndLookUp (headers : WebhookHeaders) (body : Bytes) :
    Except AppError (DeliveryAttempt × Option DeliveryAttempt) := do
  let request ← admission 2 headers [body]
  let attempt ← sampleWebhookService.newAttempt request sampleActionId sampleNow
  let stored := addAlone sampleDriver attempt .empty
  stored.1
  let found ← getAttempt sampleDriver attempt.attemptId stored.2
  return (attempt, found)

/-- The target `007` of an accepted request comes back as `7`. -/
theorem leading_zeros_lost : ∃ request attempt,
    admission 2 (targetHeaders [0x7B, 0x7D]) [[0x7B, 0x7D]] = .ok request ∧
      sampleWebhookService.newAttempt request sampleActionId sampleNow = .ok attempt ∧
      (addAlone sampleDriver attempt .empty).1 = .ok () ∧
      ¬ ReadsBack sampleDriver (addAlone sampleDriver attempt .empty).2 attempt := by
  have run : (storeAndLookUp (targetHeaders [0x7B, 0x7D]) [0x7B, 0x7D]).toOption.map
      (fun r => (r.1.installationTargetId, r.2.bind (·.installationTargetId))) =
        some (some (Str.lit "007"), some (Str.lit "7")) := by decide +kernel
  obtain ⟨⟨attempt, found⟩, looked, ids⟩ := Option.map_eq_some_iff.mp run
  have ok : storeAndLookUp (targetHeaders [0x7B, 0x7D]) [0x7B, 0x7D] = .ok (attempt, found) := by
    cases h : storeAndLookUp (targetHeaders [0x7B, 0x7D]) [0x7B, 0x7D] with
    | error e => rw [h] at looked; cases looked
    | ok r => rw [h] at looked; exact congrArg _ (Option.some.inj looked)
  obtain ⟨request, admitted, ok⟩ := bind_eq_ok.mp ok
  obtain ⟨attempt', built, ok⟩ := bind_eq_ok.mp ok
  obtain ⟨_, added, ok⟩ := bind_eq_ok.mp ok
  obtain ⟨found', get, ok⟩ := bind_eq_ok.mp ok
  cases ok
  refine ⟨request, attempt, admitted, built, added, ?_⟩
  rintro ⟨back, get', equal⟩
  cases get.symm.trans get'
  have same := congrArg DeliveryAttempt.installationTargetId equal.2
  obtain ⟨given, returned⟩ := Prod.mk.inj ids
  have : some (Str.lit "7") = some (Str.lit "007") := returned.symm.trans (same.trans given)
  exact absurd this (by decide)

end WebhookMonitor
