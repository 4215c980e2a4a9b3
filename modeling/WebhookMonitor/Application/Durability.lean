import WebhookMonitor.Application.System
import WebhookMonitor.Interaction.Component

/-!
# What becomes of an accepted webhook

A webhook is acknowledged once `add` has returned and the answer has been rendered.  In
PostgreSQL the transactions of the webhooks under way overlap; `additionComponent` is
`PostgresDeliveryStore.add` as a component of the application, so what overlapping adds
keep among themselves they keep inside the application.

* `WebhooksDurable` — what the committed rows and the webhooks have to do with each other;
* `postgres_webhooks_durable` — in every run.

A webhook can fail with its row committed, in two ways: the answer to its `COMMIT` was
lost, or the stored event could not be rendered.  Any run starts from empty tables.
-/

namespace WebhookMonitor

open Python Interaction Database ApplicationCall

variable {κ : Type}

/-! ## What adds an attempt -/

/-- The call adds to the delivery store. -/
def ApplicationCall.isAddition : ApplicationCall κ → Bool
  | .store c => !c.isQuery
  | _ => false

/-- Only a webhook is acknowledged. -/
theorem webhook_of_acknowledged (self : Application κ) {request : Request}
    {h : ApplicationHistory κ} {attempt : DeliveryAttempt}
    (ends : self.MayAnswer request h (.ok (.webhookReceived attempt))) :
    ∃ headers chunks, request = .githubWebhook headers chunks := by
  cases request with
  | githubWebhook headers chunks => exact ⟨headers, chunks, rfl⟩
  | requestGithubRedelivery credentials attemptId githubDeliveryId =>
      generalize outcome : (Except.ok (.webhookReceived attempt) : Except AppError Answer) = r
        at ends
      cases ends with
      | refused nothing => cases outcome
      | requested found parsed ended tells =>
          obtain ⟨result, -, built⟩ := bind_eq_ok.mp outcome.symm
          obtain ⟨response, -, built⟩ := bind_eq_ok.mp built
          cases built
  | listDeliveryAttempts | getDeliveryAttempt | reconcileGithubDeliveries | listRecoveryActions
  | getRecoveryAction | getEvents | health | ready => exact (ends _ rfl).elim

/-- No other route adds or acknowledges anything. -/
theorem quiet_of_route (self : Application κ) (deliveries : DeliveryBackend)
    (journal : JournalBackend) {request : Request}
    (other : ∀ headers chunks, request ≠ .githubWebhook headers chunks) :
    Quiet (fun c : ApplicationCall κ => c.isAddition = false)
      (fun r => ∀ attempt, r ≠ .ok (.webhookReceived attempt))
      ((self.over deliveries journal).handle request) := by
  refine .of_meets (fun h c may => ?_) (fun h r ends attempt answered => ?_)
    ((self.over deliveries journal).handle_meets deliveries.add_meets journal.raises request)
  · cases c with
    | store c =>
        rcases isQuery_of_mayAsk may with query | ⟨headers, chunks, -, -, -, -, webhook, -⟩
        · rw [ApplicationCall.isAddition, query]
          rfl
        · exact absurd webhook (other headers chunks)
    | authenticator | service | journal | readinessCheck => rfl
  · subst answered
    obtain ⟨headers, chunks, webhook⟩ := webhook_of_acknowledged _ ends
    exact other headers chunks webhook

/-! ## `add` as a component -/

section Component

variable (self : Application κ) (driver : Driver) (listLimit : ℕ) (journal : JournalBackend)

/-- `PostgresDeliveryStore.add` among the requests of the application. -/
def additionComponent :
    Component (applicationSystem self (postgresDeliveries driver listLimit) journal)
      (lossyAddSystem driver) where
  calls := ⟨fun c => .store (.statement c), fun _ => Equiv.refl _⟩
  view e := (storeEvent e).bind statementEvent
  world w := w.deliveries
  asks request attempt := ∃ headers chunks attemptId now,
    request = .githubWebhook headers chunks ∧ self.FromWebhook headers chunks attemptId now attempt
  quiet c := c.isAddition = false
  apart r := ∀ attempt, r ≠ .ok (.webhookReceived attempt)
  ends attempt added r := r = self.recorded attempt added
  own _ := rfl
  silent := by
    intro c a quiet
    cases c with
    | store c =>
        cases c with
        | statement | appendLeft => cases quiet
        | getAttempt | listRecent | listAttemptsPage => rfl
    | authenticator | service | journal | readinessCheck => rfl
  same := by
    intro w w' c a quiet answered
    cases answered with
    | @store c a world answered =>
        cases c with
        | statement | appendLeft => cases quiet
        | getAttempt | listRecent | listAttemptsPage => exact answered.2
    | authenticator | service | journal | readinessCheck => rfl
  answers := by
    intro w w' c a answered
    cases answered with
    | store answered => exact answered

/-- `add` in its place in a webhook. -/
def recordingContext (attempt : DeliveryAttempt) :
    Context (additionComponent self driver listLimit journal).calls
      AppError Unit AppError Answer where
  fill p := self.recording attempt (statements.lift p)
  fill_call _ _ := rfl

variable {self driver listLimit journal}

/-- With the outcome of `add` there, the webhook ends as that says. -/
theorem recordingContext_finishes (attempt : DeliveryAttempt) :
    (additionComponent self driver listLimit journal).Finishes
      (recordingContext self driver listLimit journal attempt) attempt := by
  intro added
  have filled : (recordingContext self driver listLimit journal attempt).fill
      (Program.ofExcept added) = Program.ofExcept (self.recorded attempt added) := by
    rw [← self.recording_ofExcept]
    cases added <;> rfl
  rw [filled]
  cases ended : self.recorded attempt added with
  | ok answer => exact ended.symm
  | error e => exact ended.symm

/-- Every request comes to `add` at most once, and with the attempt of its webhook. -/
theorem addition_approaches (request : Request) :
    (additionComponent self driver listLimit journal).Approaches request
      ((self.over (postgresDeliveries driver listLimit) journal).handle request) := by
  cases request with
  | githubWebhook headers chunks =>
      rcases (self.over (postgresDeliveries driver listLimit) journal).handle_githubWebhook
        headers chunks with ⟨e, same⟩ | ⟨attempt, from_, same⟩
      · rw [same]
        refine .apart fun attempt answered => ?_
        cases answered
      · rw [same]
        exact .call rfl fun attemptId => .call rfl fun now =>
          .enters (recordingContext self driver listLimit journal _)
            ⟨headers, chunks, attemptId, now, rfl, from_ attemptId now⟩
            (recordingContext_finishes _)
  | listDeliveryAttempts | getDeliveryAttempt | reconcileGithubDeliveries
  | requestGithubRedelivery | listRecoveryActions | getRecoveryAction | getEvents | health
  | ready => exact .apart (quiet_of_route _ _ _ fun _ _ same => by cases same)

end Component

/-! ## PostgreSQL -/

/-- The statements a webhook has sent, with their answers. -/
def webhookStatements (t : RequestThread κ) : List (Event Sql) :=
  t.history.filterMap fun e => (storeEvent e).bind statementEvent

/-- The transaction of a webhook, once it has one. -/
def webhookTransaction (t : RequestThread κ) : Option ℕ := transactionOf (webhookStatements t)

/-- What a webhook has been told of its `COMMIT`, once it has been told. -/
def webhookTold (t : RequestThread κ) : Option (Except StatementError Unit) :=
  toldOf (webhookStatements t)

/-- The row is the one of the attempt, and points to its identity. -/
def IsRowOf (driver : Driver) (db : DeliveryDatabase) (attempt : DeliveryAttempt)
    (row : Row StoredAttempt) : Prop :=
  attempt.HasRow driver row.values ∧
    Stage.Identified attempt row.values.githubDeliveryId db.deliveries.committed

/-- The request is a signed webhook, and the attempt is the one it builds. -/
def RequestThread.Signed (self : Application κ) (t : RequestThread κ) (attempt : DeliveryAttempt) :
    Prop :=
  ∃ headers chunks attemptId now, t.request = .githubWebhook headers chunks ∧
    self.FromWebhook headers chunks attemptId now attempt

/-- What the committed rows and the webhooks have to do with each other. -/
structure WebhooksDurable (self : Application κ) (driver : Driver) {listLimit : ℕ}
    {journal : JournalBackend} (cfg : Requests κ (postgresDeliveries driver listLimit) journal) :
    Prop where
  /-- What a webhook has committed, by the answer to its `COMMIT`: nothing before it, one row
  after a success, one or the other after an error. -/
  settled : ∀ i t tx, cfg.threads i = some t → webhookTransaction t = some tx →
    ∃ attempt, RequestThread.Signed self t attempt ∧
      Settles driver attempt cfg.world.deliveries tx (webhookTold t)
  /-- An acknowledged webhook has been told of a success, and its one row is committed. -/
  acknowledged : ∀ i t attempt, cfg.threads i = some t → t.rest = .ret (.webhookReceived attempt) →
    ∃ tx row, webhookTransaction t = some tx ∧ webhookTold t = some (.ok ()) ∧
      cfg.world.deliveries.attempts.committedOf tx = [row] ∧
      IsRowOf driver cfg.world.deliveries attempt row
  /-- It can be looked up. -/
  readable : ∀ i t attempt, cfg.threads i = some t → t.rest = .ret (.webhookReceived attempt) →
    (driver.shown attempt.receivedAt.instant).isSome = true →
      ∃ found, PostgresDeliveryStore.getAttempt driver attempt.attemptId cfg.world.deliveries =
        .ok (some found) ∧ SameDelivery attempt found
  /-- A webhook that has failed after a success could not be answered. -/
  failed : ∀ i t e, cfg.threads i = some t → t.rest = .raise e → webhookTold t = some (.ok ()) →
    ∃ attempt e', RequestThread.Signed self t attempt ∧
      self.renderJson (webhookReceivedBody attempt) = .error e' ∧ e = .python e'
  /-- Every committed row is the one of a signed webhook.  If that has ended, it has been
  acknowledged, or it could not be answered, or its `COMMIT` was answered by an error. -/
  committed : ∀ row ∈ cfg.world.deliveries.attempts.committed, ∃ i t attempt,
    cfg.threads i = some t ∧ webhookTransaction t = some row.xmin ∧
      RequestThread.Signed self t attempt ∧ IsRowOf driver cfg.world.deliveries attempt row ∧
      ∀ r, t.rest = Program.ofExcept r → r = .ok (.webhookReceived attempt) ∨
        (∃ e, self.renderJson (webhookReceivedBody attempt) = .error e) ∨
        ∃ e, webhookTold t = some (.error e)
  /-- No two webhooks share a transaction. -/
  apart : ∀ i j t t' tx, cfg.threads i = some t → cfg.threads j = some t' →
    webhookTransaction t = some tx → webhookTransaction t' = some tx → i = j
  /-- There is one delivery for each identity. -/
  identities : (cfg.world.deliveries.deliveries.committed.map Row.values).Nodup
  /-- And one row for each attempt. -/
  attemptIds : (cfg.world.deliveries.attempts.committed.map (·.values.attemptId)).Nodup

section Postgres

variable {self : Application κ} {driver : Driver} {listLimit : ℕ} {journal : JournalBackend}
  {cfg : Requests κ (postgresDeliveries driver listLimit) journal} {parts : AddConfig}

/-- A call of `add` that has ended: with a success it has returned, and raised without. -/
theorem Consistent.told_of_ended (consistent : Consistent driver True parts) {i : ℕ}
    {attempt : DeliveryAttempt} {es : List (Event Sql)} {added : Except AppError Unit}
    (part : parts.threads i = some ⟨attempt, es, Program.ofExcept added⟩) :
    added = .ok () ↔ toldOf es = some (.ok ()) := by
  obtain ⟨stage, rest, -, heard, -⟩ := consistent.stage i _ part
  cases added with
  | ok u =>
      obtain ⟨tx, rfl⟩ := Stage.eq_returned_of_program rest.symm
      exact ⟨fun _ => heard, fun _ => rfl⟩
  | error e =>
      refine ⟨nofun, fun told => ?_⟩
      rcases Stage.eq_raised_of_program rest.symm with ⟨tx, rfl⟩ | ⟨tx, rfl⟩
      · exact absurd told heard
      · obtain ⟨e', failed⟩ := heard
        cases told.symm.trans failed

/-- A webhook that has ended did so apart from `add`, or as its `add` says. -/
theorem hosted_ended {t : RequestThread κ} {i : ℕ} {r : Except AppError Answer}
    (hosted : (additionComponent self driver listLimit journal).Hosted t (parts.threads i))
    (ended : t.rest = Program.ofExcept r) :
    (parts.threads i = none ∧ ∀ attempt, r ≠ .ok (.webhookReceived attempt)) ∨
      ∃ attempt added, parts.threads i =
        some ⟨attempt, webhookStatements t, Program.ofExcept added⟩ ∧
          r = self.recorded attempt added := by
  have hosts := hosted.hosts
  have shows : Component.seen (parts.threads i) = webhookStatements t := hosted.shows
  rw [ended] at hosts
  rcases hosts.ended with ⟨none, apart⟩ | ⟨attempt, es, added, part, ends⟩
  · exact .inl ⟨none, apart⟩
  · rw [part] at shows
    exact .inr ⟨attempt, added, shows ▸ part, ends⟩

/-- A webhook that has sent statements has its part in `add`. -/
theorem exists_part {t : RequestThread κ} {i : ℕ}
    (hosted : (additionComponent self driver listLimit journal).Hosted t (parts.threads i))
    (sent : webhookStatements t ≠ []) :
    ∃ part, parts.threads i = some part ∧ webhookStatements t = part.history := by
  have shows : Component.seen (parts.threads i) = webhookStatements t := hosted.shows
  cases there : parts.threads i with
  | none =>
      rw [there] at shows
      exact absurd shows.symm sent
  | some part =>
      rw [there] at shows
      exact ⟨part, rfl, shows.symm⟩

theorem statements_of_transaction {t : RequestThread κ} {tx : ℕ}
    (own : webhookTransaction t = some tx) : webhookStatements t ≠ [] := by
  intro none
  rw [webhookTransaction, none] at own
  cases own

theorem statements_of_told {t : RequestThread κ} {answer : Except StatementError Unit}
    (told : webhookTold t = some answer) : webhookStatements t ≠ [] := by
  intro none
  rw [webhookTold, none] at told
  cases told

/-- The webhook of a part is signed. -/
theorem signed_of_part {t : RequestThread κ} {i : ℕ}
    {part : Thread Sql AppError Unit DeliveryAttempt}
    (hosted : (additionComponent self driver listLimit journal).Hosted t (parts.threads i))
    (there : parts.threads i = some part) : RequestThread.Signed self t part.request := by
  have hosts := hosted.hosts
  rw [there] at hosts
  exact hosts.asks

/-- An acknowledged webhook has been told so, and has its row. -/
theorem committed_of_acknowledged (consistent : Consistent driver True parts)
    (sameWorld : parts.world = cfg.world.deliveries) {t : RequestThread κ} {i : ℕ}
    (hosted : (additionComponent self driver listLimit journal).Hosted t (parts.threads i))
    {attempt : DeliveryAttempt} (acknowledged : t.rest = .ret (.webhookReceived attempt)) :
    ∃ tx row, webhookTransaction t = some tx ∧ webhookTold t = some (.ok ()) ∧
      cfg.world.deliveries.attempts.committedOf tx = [row] ∧
      IsRowOf driver cfg.world.deliveries attempt row := by
  rcases hosted_ended (r := .ok (.webhookReceived attempt)) hosted acknowledged with
    ⟨-, apart⟩ | ⟨added, outcome, part, ends⟩
  · exact absurd rfl (apart attempt)
  · obtain ⟨rfl, same⟩ := Application.recorded_eq_ok (Eq.symm ends)
    obtain rfl : attempt = added := Answer.webhookReceived.inj same
    obtain ⟨stage, rest, own, heard, holds⟩ := consistent.stage i _ part
    obtain ⟨tx, rfl⟩ := Stage.eq_returned_of_program rest.symm
    obtain ⟨-, -, row, committed, isRow⟩ := holds
    rw [sameWorld] at committed isRow
    exact ⟨tx, row, own.symm, heard, committed, isRow⟩

/-- A webhook with a committed row has been told of a success, or of an error. -/
theorem ended_of_committed (consistent : Consistent driver True parts) {t : RequestThread κ}
    {i : ℕ} {part : Thread Sql AppError Unit DeliveryAttempt}
    (hosted : (additionComponent self driver listLimit journal).Hosted t (parts.threads i))
    (there : parts.threads i = some part) {row : Row StoredAttempt}
    (mem : row ∈ parts.world.attempts.committed)
    (own : transactionOf part.history = some row.xmin) {r : Except AppError Answer}
    (ended : t.rest = Program.ofExcept r) :
    r = .ok (.webhookReceived part.request) ∨
      (∃ e, self.renderJson (webhookReceivedBody part.request) = .error e) ∨
      ∃ e, webhookTold t = some (.error e) := by
  rcases hosted_ended hosted ended with ⟨none, -⟩ | ⟨attempt, added, part', rfl⟩
  · cases there.symm.trans none
  · obtain rfl := Option.some.inj (there.symm.trans part')
    have settles := consistent.settles part' own
    cases told : toldOf (webhookStatements t) with
    | none =>
        -- then nothing would be committed
        rw [told] at settles
        have present := Table.mem_committedOf.mpr ⟨mem, rfl⟩
        rw [settles.2] at present
        cases present
    | some answer =>
        cases answer with
        | error e => exact .inr (.inr ⟨e, told⟩)
        | ok u =>
            obtain rfl := (consistent.told_of_ended part').mpr told
            cases outcome : self.recorded attempt (.ok ()) with
            | ok answer =>
                obtain ⟨-, rfl⟩ := Application.recorded_eq_ok outcome
                exact .inl rfl
            | error e =>
                obtain ⟨e', raised, -⟩ := Application.recorded_eq_error outcome
                exact .inr (.inl ⟨e', raised⟩)

end Postgres

/-- **Durability.**  In every configuration that requests of all routes reach over PostgreSQL
from empty tables, whatever statement, `COMMIT` or connection fails (a `COMMIT` answered by an
error has by then been carried out or not): an acknowledged webhook has exactly one committed
row, which can be looked up and points to its identity; a webhook that has not been told of its
`COMMIT` has committed nothing; one whose `COMMIT` was answered by an error has committed its one
row or nothing; and every committed row is the one of a signed webhook, acknowledged if it has
ended unless such an error or the rendering of its answer stood against it. -/
theorem postgres_webhooks_durable (self : Application κ) (driver : Driver) (listLimit : ℕ)
    (journal : JournalBackend) {now : Monotonic}
    {cfg : Requests κ (postgresDeliveries driver listLimit) journal}
    (reachable : (applicationSystem self (postgresDeliveries driver listLimit) journal).Reachable
      (fun _ _ => True) (SharedWorld.start (postgresDeliveries driver listLimit) journal now) cfg) :
    WebhooksDurable self driver cfg := by
  obtain ⟨parts, run, sameWorld, absent, hosted⟩ := Component.project
    (C := additionComponent self driver listLimit journal) addition_approaches reachable
  have consistent : Consistent driver True parts :=
    Consistent.of_reachable (lossyAddSystem_adds driver) run
  change parts.world = cfg.world.deliveries at sameWorld
  have sound : cfg.world.deliveries.Sound := sameWorld ▸ consistent.sound
  refine ⟨?_, ?_, ?_, ?_, ?_, ?_, ?_, ?_⟩
  · intro i t tx running own
    obtain ⟨part, there, shows⟩ :=
      exists_part (hosted i t running) (statements_of_transaction own)
    refine ⟨part.request, signed_of_part (hosted i t running) there, ?_⟩
    rw [webhookTransaction, shows] at own
    rw [webhookTold, shows, ← sameWorld]
    exact consistent.settles there own
  · intro i t attempt running acknowledged
    exact committed_of_acknowledged consistent sameWorld (hosted i t running) acknowledged
  · intro i t attempt running acknowledged shown
    obtain ⟨tx, row, -, -, committed, hasRow, identified⟩ :=
      committed_of_acknowledged consistent sameWorld (hosted i t running) acknowledged
    have mem : row ∈ cfg.world.deliveries.attempts.committedOf tx := by
      rw [committed]
      exact List.mem_singleton_self row
    obtain ⟨receivedAt, shown⟩ := Option.isSome_iff_exists.mp shown
    refine ⟨attempt.readBack row.values receivedAt, ?_, (postgresDeliveries driver listLimit).same
      ⟨row.values, receivedAt, hasRow, shown, rfl⟩⟩
    rw [getAttempt_of_row sound (Table.mem_committedOf.mp mem).1 hasRow identified, shown]
  · intro i t e running failed told
    obtain ⟨part, there, -⟩ := exists_part (hosted i t running) (statements_of_told told)
    rcases hosted_ended (r := .error e) (hosted i t running) failed with
      ⟨none, -⟩ | ⟨attempt, added, part', ends⟩
    · cases there.symm.trans none
    · obtain rfl := (consistent.told_of_ended part').mpr told
      obtain ⟨e', raised, same⟩ := Application.recorded_eq_error (Eq.symm ends)
      exact ⟨attempt, e', signed_of_part (hosted i t running) part', raised, same⟩
  · intro row mem
    rw [← sameWorld] at mem ⊢
    obtain ⟨i, part, there, own⟩ := consistent.owned row (List.mem_append_left _ mem)
    cases running : cfg.threads i with
    | none =>
        rw [absent i running] at there
        cases there
    | some t =>
        have shows : Component.seen (parts.threads i) = webhookStatements t :=
          (hosted i t running).shows
        rw [there] at shows
        obtain ⟨stage, -, named, -, holds⟩ := consistent.stage i part there
        have isRow : IsRowOf driver parts.world part.request row := by
          rcases Stage.returned_of_committed holds (named.trans own) mem with
            rfl | ⟨-, e, rfl | rfl⟩
          · exact Stage.Recorded.isRow holds mem
          · exact Stage.Recorded.isRow holds.2 mem
          · exact Stage.Recorded.isRow holds.2 mem
        refine ⟨i, t, part.request, running, ?_, signed_of_part (hosted i t running) there, isRow,
          fun r ended => ended_of_committed consistent (hosted i t running) there mem own ended⟩
        rw [webhookTransaction, ← shows]
        exact own
  · intro i j t t' tx running running' own own'
    obtain ⟨part, there, shows⟩ :=
      exists_part (hosted i t running) (statements_of_transaction own)
    obtain ⟨part', there', shows'⟩ :=
      exists_part (hosted j t' running') (statements_of_transaction own')
    rw [webhookTransaction, shows] at own
    rw [webhookTransaction, shows'] at own'
    exact consistent.distinct i j part part' tx there there' own own'
  · exact sound.deliveries.unique.sublist ((List.sublist_append_left _ _).map _)
  · exact sound.attempts.unique.sublist ((List.sublist_append_left _ _).map _)

/-- Requests over PostgreSQL. -/
abbrev PostgresRequests :=
  Requests Members (postgresDeliveries sampleDriver 10) (memoryJournalBackend 1 Nat.one_pos)

/-- One webhook that is acknowledged. -/
theorem postgres_webhooks_durable_sample :
    ∃ cfg : PostgresRequests,
      cfg.returned 0 = true ∧ cfg.world.deliveries.counts = (1, 1) ∧
      WebhooksDurable sampleApplication sampleDriver cfg := by
  have played : ((applicationSystem sampleApplication (postgresDeliveries sampleDriver 10)
      (memoryJournalBackend 1 Nat.one_pos)).play
      (SharedWorld.choose DeliveryDatabase.chooseCall (MemoryWorld.choose sampleOutside)
        MemoryWorld.chooseQuery) (fun _ _ => true) (Config.initial (SharedWorld.start _ _ 0))
      (.start 0 sampleWebhook :: List.replicate 6 (.go 0))).map
        (fun cfg : PostgresRequests => (cfg.returned 0, cfg.world.deliveries.counts)) =
          some (true, (1, 1)) := by decide +kernel
  obtain ⟨cfg, reached, shows⟩ := Option.map_eq_some_iff.mp played
  obtain ⟨returned, counts⟩ := Prod.mk.inj shows
  exact ⟨cfg, returned, counts, postgres_webhooks_durable sampleApplication sampleDriver 10
    (memoryJournalBackend 1 Nat.one_pos) (System.reachable_of_play
      (SharedWorld.choose_sound DeliveryDatabase.chooseCall_sound MemoryWorld.choose_sound
        MemoryWorld.chooseQuery_sound) (fun _ => trivial) .initial reached)⟩

end WebhookMonitor
