import Mathlib.Data.Finset.Insert
import WebhookMonitor.Deliveries.Backends

/-!
# The recent events of the two delivery backends

Calls of `ingest` that overlap: each reads the clock for its attempt and adds the
attempt later.  The in-memory store lists attempts as they were added, the database
by the time that was read.

* `IngestStep` — one call reads the clock, or one adds its attempt to both stores;
* `IngestRun` — the states of a run, last first;
* `Mirrors.newestFirst_of_inOrder` — when no attempt is added after one with a later
  time, the order of the database is that of the adds;
* `recent_agrees` — the views agree all along exactly in such runs.
-/

namespace WebhookMonitor

open Python Database Pagination PostgresDeliveryStore

/-! ## Overlapping calls -/

/-- The calls between the clock and the store, what has been added, newest first,
and both stores. -/
structure IngestWorld where
  issued : Finset UUID
  pending : List DeliveryAttempt
  added : List DeliveryAttempt
  memory : InMemoryDeliveryStore
  db : DeliveryDatabase

/-- Before the first call. -/
def IngestWorld.start (n : ℕ) (pos : 0 < n) : IngestWorld :=
  ⟨∅, [], [], .empty n pos, .empty⟩

/-- A step of one of the calls.  The clock may show any time. -/
inductive IngestStep (driver : Driver) (service : WebhookIngestionService) :
    IngestWorld → IngestWorld → Prop where
  | readClock {w : IngestWorld} {request : IngestRequest} {attemptId : UUID} {now : Wall}
      {attempt : DeliveryAttempt} (fresh : attemptId ∉ w.issued)
      (built : service.newAttempt request attemptId now = .ok attempt) :
      IngestStep driver service w
        { w with issued := insert attemptId w.issued, pending := attempt :: w.pending }
  | add {w : IngestWorld} {before after : List DeliveryAttempt} {attempt : DeliveryAttempt}
      {db' : DeliveryDatabase} (waiting : w.pending = before ++ attempt :: after)
      (added : addAlone driver attempt w.db = (.ok (), db')) :
      IngestStep driver service w
        { w with
          pending := before ++ after
          added := attempt :: w.added
          memory := w.memory.add attempt
          db := db' }

/-- The states of a run, last first. -/
inductive IngestRun (driver : Driver) (service : WebhookIngestionService) (n : ℕ) (pos : 0 < n) :
    List IngestWorld → Prop where
  | start : IngestRun driver service n pos [.start n pos]
  | step {w w' : IngestWorld} {earlier : List IngestWorld}
      (run : IngestRun driver service n pos (w :: earlier))
      (step : IngestStep driver service w w') :
      IngestRun driver service n pos (w' :: w :: earlier)

/-- The attempt has the identifier and the time it was built with. -/
theorem stamps_of_newAttempt {service : WebhookIngestionService} {request : IngestRequest}
    {attemptId : UUID} {now : Wall} {attempt : DeliveryAttempt}
    (built : service.newAttempt request attemptId now = .ok attempt) :
    attempt.attemptId = attemptId ∧ attempt.receivedAt = AwareDatetime.utc now := by
  obtain ⟨verified, -, built⟩ := bind_eq_ok.mp built
  dsimp only at built
  split_ifs at built
  · cases built
  · obtain ⟨payload, -, built⟩ := bind_eq_ok.mp built
    obtain ⟨hookId, -, built⟩ := bind_eq_ok.mp built
    obtain ⟨identity, -, built⟩ := bind_eq_ok.mp built
    unfold DeliveryAttempt.new Datetime.aware? at built
    rw [Option.map_some] at built
    dsimp only at built
    split_ifs at built
    cases built
    exact ⟨rfl, rfl⟩

/-- What holds of every state of a run. -/
structure IngestWorld.Consistent (driver : Driver) (n : ℕ) (pos : 0 < n) (w : IngestWorld) :
    Prop where
  stored : StoredInBoth driver n pos w.added w.memory w.db
  distinct : ((w.pending ++ w.added).map DeliveryAttempt.attemptId).Nodup
  issued : ∀ attempt ∈ w.pending ++ w.added, attempt.attemptId ∈ w.issued

theorem IngestWorld.Consistent.step {driver : Driver} {service : WebhookIngestionService} {n : ℕ}
    {pos : 0 < n} {w w' : IngestWorld} (consistent : w.Consistent driver n pos)
    (step : IngestStep driver service w w') : w'.Consistent driver n pos := by
  obtain ⟨stored, distinct, issued⟩ := consistent
  cases step with
  | @readClock request attemptId now attempt fresh built =>
      obtain rfl := (stamps_of_newAttempt built).1
      refine ⟨stored, ?_, ?_⟩
      · rw [List.cons_append, List.map_cons, List.nodup_cons]
        refine ⟨fun mem => ?_, distinct⟩
        obtain ⟨other, hother, same⟩ := List.mem_map.mp mem
        exact fresh (same ▸ issued other hother)
      · intro other mem
        rcases List.mem_cons.mp mem with rfl | mem
        · exact Finset.mem_insert_self _ _
        · exact Finset.mem_insert_of_mem (issued other mem)
  | @add before after attempt db' waiting added =>
      rw [waiting] at distinct issued
      have moved : (before ++ after ++ attempt :: w.added).Perm
          (before ++ attempt :: after ++ w.added) := by
        rw [List.append_assoc, List.append_assoc, List.cons_append]
        exact List.Perm.append_left _ List.perm_middle
      have distinct' := (moved.map DeliveryAttempt.attemptId).symm.nodup distinct
      refine ⟨stored.add ?_ added, distinct', ?_⟩
      · rw [List.map_append, List.map_cons, List.nodup_append] at distinct'
        exact (List.nodup_cons.mp distinct'.2.1).1
      · exact fun other mem => issued other (moved.subset mem)

theorem IngestRun.consistent {driver : Driver} {service : WebhookIngestionService} {n : ℕ}
    {pos : 0 < n} {worlds : List IngestWorld} (run : IngestRun driver service n pos worlds) :
    ∀ w ∈ worlds, w.Consistent driver n pos := by
  induction run with
  | start =>
      intro w mem
      obtain rfl := List.mem_singleton.mp mem
      exact ⟨.empty, List.nodup_nil, fun _ mem => absurd mem List.not_mem_nil⟩
  | step run step ih =>
      intro v mem
      rcases List.mem_cons.mp mem with rfl | mem
      · exact (ih _ List.mem_cons_self).step step
      · exact ih v mem

/-! ## The views -/

/-- Both views list the same attempts in the same order. -/
def IngestWorld.RecentAgree (driver : Driver) (n : ℕ) (w : IngestWorld) : Prop :=
  ∃ found, listRecent driver n w.db = .ok found ∧
    found.map DeliveryAttempt.attemptId = w.memory.listRecent.map DeliveryAttempt.attemptId

/-- And the listed attempts are equal. -/
def IngestWorld.RecentEqual (driver : Driver) (n : ℕ) (w : IngestWorld) : Prop :=
  ∃ found, listRecent driver n w.db = .ok found ∧
    List.Forall₂ DeliveryAttempt.Equal found w.memory.listRecent

/-- No attempt was added after one with a later time. -/
def InOrder (added : List DeliveryAttempt) : Prop :=
  added.Pairwise fun later earlier => earlier.receivedAt.instant ≤ later.receivedAt.instant

namespace Mirrors

variable {driver : Driver} {db : DeliveryDatabase} {ms : List (Mirrored driver)}

/-- What the view of the database lists. -/
theorem listRecent_eq_ok_iff (mirrors : Mirrors driver db ms) {n : ℕ}
    {found : List DeliveryAttempt} :
    listRecent driver n db = .ok found ↔ n ≤ driver.maxLimit ∧
      List.Forall₂ Mirrored.ReadsAs ((newestFirst (fun m => m.row.recentKey) ms).take n) found := by
  refine fetchAll_mirrored ?_
  rw [mirrors.rows, List.map_take, map_newestFirst fun m _ => rfl]

/-- When the adds were in order the database lists the attempts as they were added. -/
theorem newestFirst_of_inOrder (mirrors : Mirrors driver db ms)
    (inOrder : InOrder (ms.map Mirrored.attempt).reverse) :
    newestFirst (fun m => m.row.recentKey) ms = ms.reverse := by
  have ids : (ms.map fun m => m.row.id).Nodup :=
    List.pairwise_map.mpr (mirrors.increasing.imp fun lt => Nat.ne_of_lt lt)
  have keys : (ms.map fun m => m.row.recentKey).Nodup := by
    refine List.Nodup.of_map (fun k => (ofLex k).2) ?_
    rw [List.map_map]
    exact ids
  refine newestFirst_unique keys (List.reverse_perm _) (List.pairwise_reverse.mpr ?_)
  have instants := List.pairwise_map.mp (List.pairwise_reverse.mp inOrder)
  refine (instants.and mirrors.increasing).imp fun {m m'} before => ?_
  rw [JoinedRow.recentKey, JoinedRow.recentKey, m.bound.receivedAt, m'.bound.receivedAt,
    Prod.Lex.toLex_le_toLex]
  exact before.1.lt_or_eq.imp_right fun same => ⟨same, before.2.le⟩

/-- When the database lists the last attempt first, none has a later time. -/
theorem le_of_first {m : Mirrored driver}
    (first : (newestFirst (fun m => m.row.recentKey) ms).head? = some m) {m' : Mirrored driver}
    (mem : m' ∈ ms) : m'.attempt.receivedAt.instant ≤ m.attempt.receivedAt.instant := by
  obtain ⟨rest, listed⟩ := List.head?_eq_some_iff.mp first
  have falling := @pairwise_newestFirst _ _ _ (fun m => m.row.recentKey) ms
  rw [listed, List.pairwise_cons] at falling
  have there : m' ∈ m :: rest := by
    rw [← listed]
    exact mem_newestFirst.mpr mem
  rcases List.mem_cons.mp there with rfl | later
  · exact le_refl _
  · have key := falling.1 m' later
    rw [JoinedRow.recentKey, JoinedRow.recentKey, Prod.Lex.toLex_le_toLex, m.bound.receivedAt,
      m'.bound.receivedAt] at key
    exact key.elim le_of_lt fun same => le_of_eq same.1

end Mirrors

/-! ## One state -/

namespace IngestWorld

variable {driver : Driver} {n : ℕ} {pos : 0 < n} {w : IngestWorld}

theorem RecentAgree.within (consistent : w.Consistent driver n pos)
    (agree : w.RecentAgree driver n) : n ≤ driver.maxLimit := by
  obtain ⟨ms, mirrors, -⟩ := consistent.stored.mirrors
  obtain ⟨found, listed, -⟩ := agree
  exact (mirrors.listRecent_eq_ok_iff.mp listed).1

theorem RecentEqual.agree (same : w.RecentEqual driver n) : w.RecentAgree driver n := by
  obtain ⟨found, listed, equal⟩ := same
  refine ⟨found, listed, ?_⟩
  clear listed
  generalize w.memory.listRecent = view at equal
  induction equal with
  | nil => rfl
  | cons first _ ih => rw [List.map_cons, List.map_cons, ih, first.2]

/-- What the database lists first when the views agree: the attempt added last. -/
theorem RecentAgree.first (consistent : w.Consistent driver n pos) {attempt : DeliveryAttempt}
    {rest : List DeliveryAttempt} (last : w.added = attempt :: rest) {found : List DeliveryAttempt}
    (listed : listRecent driver n w.db = .ok found)
    (ids : found.map DeliveryAttempt.attemptId =
      w.memory.listRecent.map DeliveryAttempt.attemptId) :
    ∃ (m : Mirrored driver) (back : DeliveryAttempt), m.attempt = attempt ∧ m.ReadsAs back ∧
      found.head? = some back ∧
      ∀ other ∈ rest, other.receivedAt.instant ≤ attempt.receivedAt.instant := by
  obtain ⟨ms, mirrors, added⟩ := consistent.stored.mirrors
  have reads := (mirrors.listRecent_eq_ok_iff.mp listed).2
  have memory := consistent.stored.memory_eq.2
  obtain ⟨k, rfl⟩ := Nat.exists_eq_succ_of_ne_zero (Nat.ne_of_gt pos)
  rw [last, List.take_succ_cons] at memory
  rw [InMemoryDeliveryStore.listRecent, memory, List.map_cons] at ids
  cases hordered : newestFirst (fun m : Mirrored driver => m.row.recentKey) ms with
  | nil =>
      rw [hordered, List.take_nil] at reads
      cases reads
      cases ids
  | cons m others =>
      rw [hordered, List.take_succ_cons] at reads
      cases reads with
      | @cons _ back _ found' first later =>
          have mem : m ∈ ms := mem_newestFirst.mp (hordered ▸ List.mem_cons_self)
          have named : m.attempt.attemptId = attempt.attemptId :=
            first.attemptId.symm.trans (List.cons.inj ids).1
          have stored : ∀ other, other ∈ w.added ↔ other ∈ ms.map Mirrored.attempt := by
            intro other
            rw [added, List.mem_reverse]
          have distinct : ((ms.map Mirrored.attempt).map DeliveryAttempt.attemptId).Nodup := by
            rw [List.map_map]
            exact mirrors.distinct
          have there := (stored attempt).mp (last ▸ List.mem_cons_self)
          -- the first row is the one of the last attempt, as the identifiers agree
          obtain rfl := List.inj_on_of_nodup_map distinct (List.mem_map_of_mem mem) there named
          refine ⟨m, back, rfl, first, rfl, fun other hother => ?_⟩
          obtain ⟨m', hm', rfl⟩ := List.mem_map.mp
            ((stored other).mp (last ▸ List.mem_cons_of_mem _ hother))
          exact Mirrors.le_of_first (by rw [hordered]; rfl) hm'

/-- The views agree when the adds were in order and all of them can be shown. -/
theorem recent_of_inOrder (consistent : w.Consistent driver n pos) (within : n ≤ driver.maxLimit)
    (inOrder : InOrder w.added) (shown : ∀ attempt ∈ w.added, attempt.IsShown driver) :
    w.RecentAgree driver n ∧
      ((∀ attempt ∈ w.added, attempt.IsPlain = true) → w.RecentEqual driver n) := by
  obtain ⟨ms, mirrors, added⟩ := consistent.stored.mirrors
  have stored : ∀ m ∈ ms.reverse.take n, m.attempt ∈ w.added := fun m mem => by
    rw [added, List.mem_reverse]
    exact List.mem_map_of_mem (List.mem_reverse.mp (List.mem_of_mem_take mem))
  have view : w.memory.listRecent = (ms.reverse.take n).map Mirrored.attempt := by
    rw [InMemoryDeliveryStore.listRecent, consistent.stored.memory_eq.2, added, List.map_take,
      List.map_reverse]
  obtain ⟨found, reads⟩ := Mirrored.exists_forall₂_readsAs.mpr fun m mem => shown _ (stored m mem)
  have listed : listRecent driver n w.db = .ok found := by
    rw [mirrors.listRecent_eq_ok_iff, mirrors.newestFirst_of_inOrder (added ▸ inOrder)]
    exact ⟨within, reads⟩
  constructor
  · exact ⟨found, listed, by rw [view, Mirrored.attemptIds_of_reads reads]⟩
  · intro plain
    refine ⟨found, listed, ?_⟩
    rw [view]
    exact (Mirrored.equal_iff_of_reads reads).mpr fun m mem => plain _ (stored m mem)

end IngestWorld

/-! ## Runs -/

namespace IngestRun

variable {driver : Driver} {service : WebhookIngestionService} {n : ℕ} {pos : 0 < n}

/-- Adds are never undone. -/
theorem added_suffix {worlds : List IngestWorld} (run : IngestRun driver service n pos worlds)
    {w : IngestWorld} (last : worlds.head? = some w) : ∀ v ∈ worlds, v.added <:+ w.added := by
  induction run generalizing w with
  | start =>
      intro v mem
      obtain rfl := Option.some.inj last
      rw [List.mem_singleton.mp mem]
  | step run step ih =>
      intro v mem
      obtain rfl := Option.some.inj last
      rcases List.mem_cons.mp mem with rfl | mem
      · exact List.suffix_refl _
      · refine (ih rfl v mem).trans ?_
        cases step with
        | readClock => exact List.suffix_refl _
        | add => exact List.suffix_cons _ _

/-- What every step adds when the views agree after it. -/
theorem inOrder_of_agree {worlds : List IngestWorld} (run : IngestRun driver service n pos worlds)
    {w : IngestWorld} (last : worlds.head? = some w)
    (agree : ∀ v ∈ worlds, v.RecentAgree driver n) :
    n ≤ driver.maxLimit ∧ InOrder w.added ∧ ∀ attempt ∈ w.added, attempt.IsShown driver := by
  have consistent := run.consistent
  induction run generalizing w with
  | start =>
      obtain rfl := Option.some.inj last
      have first := agree _ List.mem_cons_self
      exact ⟨first.within (consistent _ List.mem_cons_self), .nil,
        fun _ mem => absurd mem List.not_mem_nil⟩
  | step run step ih =>
      obtain rfl := Option.some.inj last
      obtain ⟨within, inOrder, shown⟩ := ih rfl (fun v mem => agree v (List.mem_cons_of_mem _ mem))
        fun v mem => consistent v (List.mem_cons_of_mem _ mem)
      cases step with
      | readClock => exact ⟨within, inOrder, shown⟩
      | add waiting added =>
          obtain ⟨found, listed, ids⟩ := agree _ List.mem_cons_self
          obtain ⟨m, back, rfl, reads, -, before⟩ := IngestWorld.RecentAgree.first
            (consistent _ List.mem_cons_self) rfl listed ids
          refine ⟨within, List.pairwise_cons.mpr ⟨before, inOrder⟩, ?_⟩
          intro attempt mem
          rcases List.mem_cons.mp mem with rfl | mem
          · exact Mirrored.exists_readsAs.mp ⟨back, reads⟩
          · exact shown attempt mem

theorem plain_of_equal {worlds : List IngestWorld} (run : IngestRun driver service n pos worlds)
    {w : IngestWorld} (last : worlds.head? = some w)
    (same : ∀ v ∈ worlds, v.RecentEqual driver n) :
    ∀ attempt ∈ w.added, attempt.IsPlain = true := by
  have consistent := run.consistent
  induction run generalizing w with
  | start =>
      obtain rfl := Option.some.inj last
      exact fun _ mem => absurd mem List.not_mem_nil
  | step run step ih =>
      obtain rfl := Option.some.inj last
      have plain := ih rfl (fun v mem => same v (List.mem_cons_of_mem _ mem))
        fun v mem => consistent v (List.mem_cons_of_mem _ mem)
      cases step with
      | readClock => exact plain
      | @add before after attempt db' waiting added =>
          obtain ⟨found, listed, equal⟩ := same _ List.mem_cons_self
          obtain ⟨found', listed', ids⟩ := (same _ List.mem_cons_self).agree
          obtain rfl := Except.ok.inj (listed.symm.trans listed')
          obtain ⟨m, back, rfl, reads, first, -⟩ := IngestWorld.RecentAgree.first
            (consistent _ List.mem_cons_self) rfl listed ids
          have view := (consistent _ List.mem_cons_self).stored.memory_eq.2
          obtain ⟨k, rfl⟩ := Nat.exists_eq_succ_of_ne_zero (Nat.ne_of_gt pos)
          rw [List.take_succ_cons] at view
          unfold InMemoryDeliveryStore.listRecent at equal
          rw [view] at equal
          intro attempt mem
          rcases List.mem_cons.mp mem with rfl | mem
          · cases equal with
            | cons head _ =>
                cases first
                exact reads.equal_iff.mp head
          · exact plain attempt mem

end IngestRun

/-- The views list the same attempts after every prefix of a run exactly when no
attempt is added after one with a later time, and every timestamp can be shown; the
listed attempts are also equal exactly when all of them are plain. -/
theorem recent_agrees (driver : Driver) (service : WebhookIngestionService) {n : ℕ} {pos : 0 < n}
    {w : IngestWorld} {earlier : List IngestWorld}
    (run : IngestRun driver service n pos (w :: earlier)) :
    ((∀ v ∈ w :: earlier, v.RecentAgree driver n) ↔
      n ≤ driver.maxLimit ∧ InOrder w.added ∧ ∀ attempt ∈ w.added, attempt.IsShown driver) ∧
    ((∀ v ∈ w :: earlier, v.RecentEqual driver n) ↔
      n ≤ driver.maxLimit ∧ InOrder w.added ∧
        ∀ attempt ∈ w.added, attempt.IsShown driver ∧ attempt.IsPlain = true) := by
  constructor
  · constructor
    · exact run.inOrder_of_agree rfl
    · rintro ⟨within, inOrder, shown⟩ v mem
      have suffix := run.added_suffix rfl v mem
      exact (IngestWorld.recent_of_inOrder (run.consistent v mem) within
        (inOrder.sublist suffix.sublist) fun a ha => shown a (suffix.subset ha)).1
  · constructor
    · intro same
      obtain ⟨within, inOrder, shown⟩ := run.inOrder_of_agree rfl fun v mem => (same v mem).agree
      exact ⟨within, inOrder, fun a ha => ⟨shown a ha, run.plain_of_equal rfl same a ha⟩⟩
    · rintro ⟨within, inOrder, good⟩ v mem
      have suffix := run.added_suffix rfl v mem
      exact (IngestWorld.recent_of_inOrder (run.consistent v mem) within
        (inOrder.sublist suffix.sublist) fun a ha => (good a (suffix.subset ha)).1).2
          fun a ha => (good a (suffix.subset ha)).2

/-- The calls of one run: the first reads the clock, then the second, which is added
first. -/
def overtake : Except AppError (IngestRequest × DeliveryAttempt × DeliveryAttempt) := do
  let request ← admission 2 (sampleHeaders [0x7B, 0x7D]) [[0x7B, 0x7D]]
  let slow ← sampleWebhookService.newAttempt request sampleAttempt.attemptId sampleNow
  let fast ← sampleWebhookService.newAttempt request sampleActionId laterNow
  let first := addAlone sampleDriver fast .empty
  first.1
  (addAlone sampleDriver slow first.2).1
  return (request, slow, fast)

/-- The run of these calls. -/
theorem overtaken_run : ∃ (w : IngestWorld) (earlier : List IngestWorld)
    (slow fast : DeliveryAttempt),
    IngestRun sampleDriver sampleWebhookService 2 Nat.two_pos (w :: earlier) ∧
      w.added = [slow, fast] ∧ slow.receivedAt = AwareDatetime.utc sampleNow ∧
      fast.receivedAt = AwareDatetime.utc laterNow := by
  have run : overtake.toOption.isSome = true := by decide +kernel
  obtain ⟨⟨request, slow, fast⟩, ran⟩ := Option.isSome_iff_exists.mp run
  have ok : overtake = .ok (request, slow, fast) := by
    cases h : overtake with
    | error e => rw [h] at ran; cases ran
    | ok r => rw [h] at ran; exact congrArg _ (Option.some.inj ran)
  obtain ⟨_, -, ok⟩ := bind_eq_ok.mp ok
  obtain ⟨_, slowBuilt, ok⟩ := bind_eq_ok.mp ok
  obtain ⟨_, fastBuilt, ok⟩ := bind_eq_ok.mp ok
  obtain ⟨_, fastAdded, ok⟩ := bind_eq_ok.mp ok
  obtain ⟨_, slowAdded, ok⟩ := bind_eq_ok.mp ok
  cases ok
  have begun : IngestRun sampleDriver sampleWebhookService 2 Nat.two_pos [.start 2 _] := .start
  have read := begun.step (.readClock (Finset.notMem_empty _) slowBuilt)
  have other : sampleActionId ∉ insert sampleAttempt.attemptId (∅ : Finset UUID) := by decide
  have read' := read.step (.readClock other fastBuilt)
  -- the second call is the first one in the list of those that wait
  have added := read'.step (@IngestStep.add _ _ _ [] [slow] fast _ rfl (Prod.ext fastAdded rfl))
  have added' := added.step (@IngestStep.add _ _ _ [] [] slow _ rfl (Prod.ext slowAdded rfl))
  exact ⟨_, _, slow, fast, added', rfl, (stamps_of_newAttempt slowBuilt).2,
    (stamps_of_newAttempt fastBuilt).2⟩

theorem recent_agrees_sample : ∃ (w : IngestWorld) (earlier : List IngestWorld),
    ((∀ v ∈ w :: earlier, v.RecentAgree sampleDriver 2) ↔ 2 ≤ sampleDriver.maxLimit ∧
      InOrder w.added ∧ ∀ attempt ∈ w.added, attempt.IsShown sampleDriver) := by
  obtain ⟨w, earlier, _, _, run, -⟩ := overtaken_run
  exact ⟨w, earlier, (recent_agrees sampleDriver sampleWebhookService run).1⟩

/-- A call that read the clock first and adds last is listed first by the memory, but
not by the database. -/
theorem overtaken_events : ∃ (w : IngestWorld) (earlier : List IngestWorld),
    IngestRun sampleDriver sampleWebhookService 2 Nat.two_pos (w :: earlier) ∧
      ¬ w.RecentAgree sampleDriver 2 := by
  obtain ⟨w, earlier, slow, fast, run, added, early, late⟩ := overtaken_run
  refine ⟨w, earlier, run, ?_⟩
  rintro ⟨found, listed, ids⟩
  obtain ⟨_, _, -, -, -, inOrder⟩ :=
    (IngestWorld.RecentAgree.first (run.consistent w List.mem_cons_self) added listed ids)
  have before := inOrder fast (List.mem_singleton_self fast)
  rw [early, late] at before
  exact absurd before (by decide)

end WebhookMonitor
