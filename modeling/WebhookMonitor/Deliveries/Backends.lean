import WebhookMonitor.Deliveries.AddAlone
import WebhookMonitor.Deliveries.Readback
import WebhookMonitor.Services.Queries

/-!
# The two delivery backends

The same attempts in the in-memory store and in the database.

* `Mirrored` — an attempt with the joined row the database has of it;
* `Mirrors` — the rows of the join are those of the attempts, in the order in which
  they were added; every successful `add` keeps it;
* `fetchAll_mirrored` — what reading such rows gives;
* `StoredInBoth` — runs of adds to both stores;
* `backends_agree` — when pages, lookups and cursors agree.

Both backends list by instant and identifier, so the order is never the difference.
The differences are those of reading a row: a timestamp the session cannot show, a
`LIMIT` the driver does not take, and a value that its column does not keep.
-/

namespace WebhookMonitor

open Python Database Pagination PostgresDeliveryStore

/-! ## Rows of attempts -/

/-- The session can show the timestamp of the attempt. -/
def DeliveryAttempt.IsShown (driver : Driver) (attempt : DeliveryAttempt) : Prop :=
  (driver.shown attempt.receivedAt.instant).isSome = true

/-- An attempt and its joined row. -/
structure Mirrored (driver : Driver) where
  row : JoinedRow
  attempt : DeliveryAttempt
  deliveryGuid : row.deliveryGuid = attempt.deliveryIdentity.deliveryGuid
  hookId : row.hookId = attempt.deliveryIdentity.hookId
  bound : Bound driver attempt row.attempt

namespace Mirrored

variable {driver : Driver}

/-- What the row reads back as. -/
def ReadsAs (m : Mirrored driver) (found : DeliveryAttempt) : Prop :=
  ∃ receivedAt, driver.shown m.attempt.receivedAt.instant = some receivedAt ∧
    found = m.attempt.readBack m.row.attempt receivedAt

theorem read_eq (m : Mirrored driver) :
    rowToDeliveryAttempt driver m.row =
      match driver.shown m.attempt.receivedAt.instant with
      | some receivedAt => .ok (m.attempt.readBack m.row.attempt receivedAt)
      | none => .error storeError := by
  have read := rowToDeliveryAttempt_of_bound m.bound m.row.id
  rw [← m.deliveryGuid, ← m.hookId] at read
  exact read

/-- A row can be read exactly when its timestamp can be shown. -/
theorem read_eq_ok_iff {m : Mirrored driver} {found : DeliveryAttempt} :
    rowToDeliveryAttempt driver m.row = .ok found ↔ m.ReadsAs found := by
  rw [read_eq, ReadsAs]
  cases driver.shown m.attempt.receivedAt.instant with
  | none =>
      constructor
      · intro read
        cases read
      · rintro ⟨_, shown, -⟩
        cases shown
  | some receivedAt =>
      constructor
      · intro read
        cases read
        exact ⟨receivedAt, rfl, rfl⟩
      · rintro ⟨_, shown, rfl⟩
        cases shown
        rfl

theorem pageKey_eq (m : Mirrored driver) : m.row.pageKey = m.attempt.keyset.key := by
  rw [JoinedRow.pageKey, m.bound.receivedAt, m.bound.attemptId]
  rfl

theorem ReadsAs.attemptId {m : Mirrored driver} {found : DeliveryAttempt} (read : m.ReadsAs found) :
    found.attemptId = m.attempt.attemptId := by
  obtain ⟨receivedAt, -, rfl⟩ := read
  rfl

theorem ReadsAs.instant {m : Mirrored driver} {found : DeliveryAttempt} (read : m.ReadsAs found) :
    found.receivedAt.instant = m.attempt.receivedAt.instant := by
  obtain ⟨receivedAt, shown, rfl⟩ := read
  exact Driver.instant_of_shown shown

theorem ReadsAs.equal_iff {m : Mirrored driver} {found : DeliveryAttempt} (read : m.ReadsAs found) :
    found.Equal m.attempt ↔ m.attempt.IsPlain = true := by
  obtain ⟨receivedAt, shown, rfl⟩ := read
  exact readBack_equal_iff m.bound shown

theorem exists_readsAs {m : Mirrored driver} :
    (∃ found, m.ReadsAs found) ↔ m.attempt.IsShown driver := by
  constructor
  · rintro ⟨_, receivedAt, shown, -⟩
    rw [DeliveryAttempt.IsShown, shown]
    rfl
  · intro shown
    obtain ⟨receivedAt, shown⟩ := Option.isSome_iff_exists.mp shown
    exact ⟨_, receivedAt, shown, rfl⟩

/-- Rows are read one by one. -/
theorem mapM_read_eq_ok_iff {ms : List (Mirrored driver)} {found : List DeliveryAttempt} :
    (ms.map row).mapM (rowToDeliveryAttempt driver) = .ok found ↔
      List.Forall₂ ReadsAs ms found := by
  induction ms generalizing found with
  | nil =>
      constructor
      · intro read
        cases read
        exact .nil
      · intro reads
        cases reads
        rfl
  | cons m ms ih =>
      rw [List.map_cons, List.mapM_cons]
      constructor
      · intro read
        obtain ⟨first, hfirst, read⟩ := bind_eq_ok.mp read
        obtain ⟨rest, hrest, read⟩ := bind_eq_ok.mp read
        cases read
        exact .cons (read_eq_ok_iff.mp hfirst) (ih.mp hrest)
      · intro reads
        cases reads with
        | cons first rest =>
            refine bind_eq_ok.mpr ⟨_, read_eq_ok_iff.mpr first, ?_⟩
            exact bind_eq_ok.mpr ⟨_, ih.mpr rest, rfl⟩

/-- Rows that cannot be read raise the store error. -/
theorem mapM_read_eq_error {ms : List (Mirrored driver)} {e : AppError}
    (raised : (ms.map row).mapM (rowToDeliveryAttempt driver) = .error e) : e = storeError := by
  induction ms with
  | nil => cases raised
  | cons m ms ih =>
      rw [List.map_cons, List.mapM_cons, read_eq] at raised
      cases shown : driver.shown m.attempt.receivedAt.instant with
      | none =>
          rw [shown] at raised
          cases raised
          rfl
      | some receivedAt =>
          rw [shown] at raised
          cases rest : (ms.map row).mapM (rowToDeliveryAttempt driver) with
          | error e' =>
              rw [rest] at raised
              cases raised
              exact ih rest
          | ok found =>
              rw [rest] at raised
              cases raised

theorem exists_forall₂_readsAs {ms : List (Mirrored driver)} :
    (∃ found, List.Forall₂ ReadsAs ms found) ↔ ∀ m ∈ ms, m.attempt.IsShown driver := by
  constructor
  · rintro ⟨found, reads⟩ m mem
    induction reads with
    | nil => cases mem
    | cons first _ ih =>
        rcases List.mem_cons.mp mem with rfl | mem
        · exact exists_readsAs.mp ⟨_, first⟩
        · exact ih mem
  · intro shown
    induction ms with
    | nil => exact ⟨[], .nil⟩
    | cons m ms ih =>
        obtain ⟨first, hfirst⟩ := exists_readsAs.mpr (shown m List.mem_cons_self)
        obtain ⟨rest, hrest⟩ := ih fun m mem => shown m (List.mem_cons_of_mem _ mem)
        exact ⟨first :: rest, .cons hfirst hrest⟩

/-- What the rows read back as has the identifiers of the attempts. -/
theorem attemptIds_of_reads {ms : List (Mirrored driver)} {found : List DeliveryAttempt}
    (reads : List.Forall₂ ReadsAs ms found) :
    found.map DeliveryAttempt.attemptId =
      (ms.map attempt).map DeliveryAttempt.attemptId := by
  induction reads with
  | nil => rfl
  | cons first _ ih => rw [List.map_cons, first.attemptId, ih]; rfl

/-- It is equal to the attempts exactly when they are plain. -/
theorem equal_iff_of_reads {ms : List (Mirrored driver)} {found : List DeliveryAttempt}
    (reads : List.Forall₂ ReadsAs ms found) :
    List.Forall₂ DeliveryAttempt.Equal found (ms.map attempt) ↔
      ∀ m ∈ ms, m.attempt.IsPlain = true := by
  induction reads with
  | nil =>
      constructor
      · exact fun _ m mem => absurd mem List.not_mem_nil
      · exact fun _ => .nil
  | cons first _ ih =>
      rw [List.map_cons, List.forall₂_cons, ih, first.equal_iff, List.forall_mem_cons]

end Mirrored

/-- What fetching rows of attempts gives. -/
theorem fetchAll_mirrored {driver : Driver} {limit : ℕ} {ms : List (Mirrored driver)}
    {ordered : List JoinedRow} (rows : ordered.take limit = ms.map Mirrored.row)
    {found : List DeliveryAttempt} :
    fetchAll driver limit ordered = .ok found ↔
      limit ≤ driver.maxLimit ∧ List.Forall₂ Mirrored.ReadsAs ms found := by
  rw [fetchAll, rows]
  split_ifs with within
  · rw [Mirrored.mapM_read_eq_ok_iff]
    exact ⟨fun reads => ⟨within, reads⟩, And.right⟩
  · constructor
    · intro fetched
      cases fetched
    · exact fun fetched => absurd fetched.1 within

theorem fetchAll_mirrored_error {driver : Driver} {limit : ℕ} {ms : List (Mirrored driver)}
    {ordered : List JoinedRow} (rows : ordered.take limit = ms.map Mirrored.row) {e : AppError}
    (raised : fetchAll driver limit ordered = .error e) : e = storeError := by
  rw [fetchAll, rows] at raised
  split_ifs at raised
  · exact Mirrored.mapM_read_eq_error raised
  · cases raised
    rfl

/-! ## The database of a run of adds -/

/-- The rows of the database are those of the attempts, in the order of their keys. -/
structure Mirrors (driver : Driver) (db : DeliveryDatabase) (ms : List (Mirrored driver)) :
    Prop where
  quiet : db.Quiet
  rows : baseAttempts db = ms.map Mirrored.row
  increasing : ms.Pairwise fun m m' => m.row.id < m'.row.id
  distinct : (ms.map fun m => m.attempt.attemptId).Nodup

namespace Mirrors

variable {driver : Driver} {db db' : DeliveryDatabase} {ms : List (Mirrored driver)}

theorem empty : Mirrors driver .empty [] :=
  ⟨DeliveryDatabase.quiet_empty, rfl, .nil, List.nodup_nil⟩

/-- New deliveries leave the joined rows alone. -/
theorem join_grows (quiet : db.Quiet) (sound' : db'.Sound)
    (grows : ∀ delivery ∈ db.deliveries.committed, delivery ∈ db'.deliveries.committed)
    {row : Row StoredAttempt} (mem : row ∈ db.attempts.committed) :
    db'.deliveries.committed.filter (fun delivery => delivery.id = row.values.githubDeliveryId) =
      db.deliveries.committed.filter fun delivery =>
        delivery.id = row.values.githubDeliveryId := by
  obtain ⟨delivery, there, named⟩ := quiet.references row mem
  have ids : (db.deliveries.committed.map Row.id).Nodup :=
    quiet.sound.deliveries.ids.sublist ((List.sublist_append_left _ _).map _)
  have ids' : (db'.deliveries.committed.map Row.id).Nodup :=
    sound'.deliveries.ids.sublist ((List.sublist_append_left _ _).map _)
  rw [filter_eq_singleton ids there named, filter_eq_singleton ids' (grows delivery there) named]

/-- Every row of the join has the key of a row of the table. -/
theorem exists_of_mem_baseAttempts {joined : JoinedRow} (mem : joined ∈ baseAttempts db) :
    ∃ row ∈ db.attempts.committed, row.id = joined.id := by
  obtain ⟨row, hrow, mem⟩ := List.mem_flatMap.mp mem
  obtain ⟨delivery, -, rfl⟩ := List.mem_map.mp mem
  exact ⟨row, hrow, rfl⟩

/-- A successful `add` appends the row of its attempt. -/
theorem add (mirrors : Mirrors driver db ms) {attempt : DeliveryAttempt}
    (fresh : attempt.attemptId ∉ ms.map fun m => m.attempt.attemptId)
    (added : addAlone driver attempt db = (.ok (), db')) :
    ∃ m : Mirrored driver, m.attempt = attempt ∧ Mirrors driver db' (ms ++ [m]) := by
  obtain ⟨quiet', grows, row, committed, later, hasRow, identified⟩ :=
    addAlone_ok mirrors.quiet added
  refine ⟨⟨⟨row.id, attempt.deliveryIdentity.deliveryGuid, attempt.deliveryIdentity.hookId,
    row.values⟩, attempt, rfl, rfl, hasRow.bound⟩, rfl, quiet', ?_, ?_, ?_⟩
  · have old : (db.attempts.committed.flatMap fun attempt =>
        (db'.deliveries.committed.filter fun delivery =>
          delivery.id = attempt.values.githubDeliveryId).map fun delivery =>
            (⟨attempt.id, delivery.values.deliveryGuid, delivery.values.hookId,
              attempt.values⟩ : JoinedRow)) = baseAttempts db := by
      refine List.flatMap_congr fun row mem => ?_
      rw [join_grows mirrors.quiet quiet'.sound grows mem]
    rw [baseAttempts, committed, List.flatMap_append, old, mirrors.rows, List.flatMap_singleton,
      join_eq quiet'.sound identified, List.map_append, List.map_singleton]
  · rw [List.pairwise_append]
    refine ⟨mirrors.increasing, List.pairwise_singleton _ _, fun m mem m' mem' => ?_⟩
    obtain rfl := List.mem_singleton.mp mem'
    have joined : m.row ∈ baseAttempts db := by
      rw [mirrors.rows]
      exact List.mem_map_of_mem mem
    obtain ⟨other, hother, same⟩ := exists_of_mem_baseAttempts joined
    rw [← same]
    exact later other hother
  · rw [List.map_append, List.map_singleton]
    exact List.nodup_append.mpr ⟨mirrors.distinct, List.nodup_singleton _, fun id mem id' mem' => by
      rintro rfl
      rw [List.mem_singleton.mp mem'] at mem
      exact fresh mem⟩

/-! ## Pages and lookups of mirrored attempts -/

theorem keys (mirrors : Mirrors driver db ms) :
    (ms.map fun m => m.attempt.keyset.key).Nodup := by
  refine List.Nodup.of_map (fun k => (ofLex k).2) ?_
  rw [List.map_map]
  exact mirrors.distinct

/-- The statement of a page picks the rows of a page of the attempts. -/
theorem page_rows (mirrors : Mirrors driver db ms) (limit : ℕ)
    (after : Option DeliveryAttemptKeyset) :
    (newestFirst JoinedRow.pageKey (match after with
      | none => baseAttempts db
      | some after => (baseAttempts db).filter (isAfter after))).take limit =
      (page (fun m => m.attempt.keyset.key) limit (after.map DeliveryAttemptKeyset.key) ms).map
        Mirrored.row := by
  have rowKeys : ((baseAttempts db).map JoinedRow.pageKey).Nodup := by
    rw [mirrors.rows, List.map_map]
    refine (List.map_congr_left fun m _ => ?_).symm ▸ mirrors.keys
    exact m.pageKey_eq
  rw [map_page fun m _ => m.pageKey_eq, ← mirrors.rows, page_eq_where rowKeys]
  cases after with
  | none => rfl
  | some after =>
      dsimp only
      congr 2
      refine List.filter_congr fun row _ => ?_
      -- the two comparisons of the statement are the order of the pairs
      rw [isAfter, JoinedRow.pageKey, DeliveryAttemptKeyset.key]
      simp only [Prod.Lex.toLex_lt_toLex, Bool.decide_or, Bool.decide_and]

/-- What a page lists. -/
theorem listAttemptsPage_eq_ok_iff (mirrors : Mirrors driver db ms) {limit : ℕ}
    {after : Option DeliveryAttemptKeyset} {found : List DeliveryAttempt} :
    listAttemptsPage driver limit after db = .ok found ↔ limit ≤ driver.maxLimit ∧
      List.Forall₂ Mirrored.ReadsAs
        (page (fun m => m.attempt.keyset.key) limit (after.map DeliveryAttemptKeyset.key) ms)
        found :=
  fetchAll_mirrored (mirrors.page_rows limit after)

theorem listAttemptsPage_eq_error (mirrors : Mirrors driver db ms) {limit : ℕ}
    {after : Option DeliveryAttemptKeyset} {e : AppError}
    (raised : listAttemptsPage driver limit after db = .error e) : e = storeError :=
  fetchAll_mirrored_error (mirrors.page_rows limit after) raised

/-- What a lookup finds. -/
theorem getAttempt_eq (mirrors : Mirrors driver db ms) {m : Mirrored driver} (mem : m ∈ ms) :
    getAttempt driver m.attempt.attemptId db = (rowToDeliveryAttempt driver m.row).map some := by
  have ids : ((baseAttempts db).map fun row => row.attempt.attemptId).Nodup := by
    rw [mirrors.rows, List.map_map]
    refine (List.map_congr_left fun m _ => ?_).symm ▸ mirrors.distinct
    exact m.bound.attemptId
  have joined : m.row ∈ baseAttempts db := by
    rw [mirrors.rows]
    exact List.mem_map_of_mem mem
  rw [getAttempt, filter_eq_singleton ids joined m.bound.attemptId]

theorem getAttempt_eq_none (mirrors : Mirrors driver db ms) {id : UUID}
    (absent : ∀ m ∈ ms, m.attempt.attemptId ≠ id) : getAttempt driver id db = .ok none := by
  have nothing : (baseAttempts db).filter (fun row => row.attempt.attemptId = id) = [] := by
    refine List.filter_eq_nil_iff.mpr fun row mem => ?_
    rw [mirrors.rows] at mem
    obtain ⟨m, hm, rfl⟩ := List.mem_map.mp mem
    rw [m.bound.attemptId, decide_eq_true_eq]
    exact absent m hm
  rw [getAttempt, nothing]

end Mirrors

/-! ## Adding to both stores -/

/-- Attempts with distinct identifiers, newest first, added to both stores. -/
inductive StoredInBoth (driver : Driver) (maxEvents : ℕ) (pos : 0 < maxEvents) :
    List DeliveryAttempt → InMemoryDeliveryStore → DeliveryDatabase → Prop where
  | empty : StoredInBoth driver maxEvents pos [] (.empty maxEvents pos) .empty
  | add {attempts : List DeliveryAttempt} {memory : InMemoryDeliveryStore}
      {db db' : DeliveryDatabase} {attempt : DeliveryAttempt}
      (stored : StoredInBoth driver maxEvents pos attempts memory db)
      (fresh : attempt.attemptId ∉ attempts.map DeliveryAttempt.attemptId)
      (added : addAlone driver attempt db = (.ok (), db')) :
      StoredInBoth driver maxEvents pos (attempt :: attempts) (memory.add attempt) db'

namespace StoredInBoth

variable {driver : Driver} {maxEvents : ℕ} {pos : 0 < maxEvents}
  {attempts : List DeliveryAttempt} {memory : InMemoryDeliveryStore} {db : DeliveryDatabase}

/-- The memory keeps the newest attempts. -/
theorem memory_eq (stored : StoredInBoth driver maxEvents pos attempts memory db) :
    memory.maxEvents = maxEvents ∧ memory.attempts = attempts.take maxEvents := by
  induction stored with
  | empty => exact ⟨rfl, List.take_nil.symm⟩
  | add _ _ _ ih =>
      refine ⟨ih.1, ?_⟩
      rw [InMemoryDeliveryStore.add_attempts, ih.1, ih.2, take_cons_take]

/-- The database keeps all of them. -/
theorem mirrors (stored : StoredInBoth driver maxEvents pos attempts memory db) :
    ∃ ms : List (Mirrored driver), Mirrors driver db ms ∧
      attempts = (ms.map Mirrored.attempt).reverse := by
  induction stored with
  | empty => exact ⟨[], .empty, rfl⟩
  | add _ fresh added ih =>
      obtain ⟨ms, mirrors, rfl⟩ := ih
      rw [List.map_reverse, List.mem_reverse, List.map_map] at fresh
      obtain ⟨m, rfl, mirrors'⟩ := mirrors.add fresh added
      refine ⟨ms ++ [m], mirrors', ?_⟩
      rw [List.map_append, List.map_singleton, List.reverse_append]
      rfl

/-- While nothing has been evicted both stores hold the same attempts. -/
theorem mirrors_of_fits (stored : StoredInBoth driver maxEvents pos attempts memory db)
    (fits : attempts.length ≤ maxEvents) :
    ∃ ms : List (Mirrored driver), Mirrors driver db ms ∧
      memory.attempts = (ms.map Mirrored.attempt).reverse := by
  obtain ⟨ms, mirrors, rfl⟩ := stored.mirrors
  refine ⟨ms, mirrors, ?_⟩
  rw [stored.memory_eq.2, List.take_of_length_le fits]

end StoredInBoth

/-! ## Agreement -/

section Agreement

variable (driver : Driver) (memory : InMemoryDeliveryStore) (db : DeliveryDatabase)

/-- Both stores list the same attempts in the same order. -/
def PagesAgree (limit : ℕ) (after : Option DeliveryAttemptKeyset) : Prop :=
  ∃ found, listAttemptsPage driver limit after db = .ok found ∧
    found.map DeliveryAttempt.attemptId =
      (memory.listAttemptsPage limit after).map DeliveryAttempt.attemptId

/-- Both stores find the same attempt, or neither finds one. -/
def LookupsAgree (id : UUID) : Prop :=
  ∃ found, getAttempt driver id db = .ok found ∧
    Option.Rel DeliveryAttempt.Equal found (memory.getAttempt id)

/-- What a client sees of a page, identifiers for attempts. -/
def KeysetPage.outline (page : KeysetPage DeliveryAttempt) : List UUID × Option Str :=
  (page.items.map DeliveryAttempt.attemptId, page.nextCursor)

/-- The service over either store answers a cursor alike. -/
def CursorsAgree (recursionLimit : RecursionLimit) (n : ℕ) (cursor : Option Str) : Prop :=
  (listAttempts recursionLimit (fun n after => listAttemptsPage driver n after db) n cursor).map
      KeysetPage.outline =
    (listAttempts recursionLimit (fun n after => .ok (memory.listAttemptsPage n after)) n
      cursor).map KeysetPage.outline

end Agreement

namespace Mirrors

variable {driver : Driver} {memory : InMemoryDeliveryStore} {db : DeliveryDatabase}
  {ms : List (Mirrored driver)}

/-- The page of the memory. -/
theorem memory_page (mirrors : Mirrors driver db ms)
    (held : memory.attempts = (ms.map Mirrored.attempt).reverse) (limit : ℕ)
    (after : Option DeliveryAttemptKeyset) :
    memory.listAttemptsPage limit after =
      (page (fun m => m.attempt.keyset.key) limit (after.map DeliveryAttemptKeyset.key) ms).map
        Mirrored.attempt := by
  have asPage : memory.listAttemptsPage limit after =
      page (fun a => a.keyset.key) limit (after.map DeliveryAttemptKeyset.key) memory.attempts := by
    rw [page_eq_match]
    cases after <;> rfl
  have distinct : ((ms.map Mirrored.attempt).map fun a => a.keyset.key).Nodup := by
    rw [List.map_map]
    exact mirrors.keys
  rw [asPage, held, page_perm distinct (List.reverse_perm _), ← map_page fun m _ => rfl]

/-- Pages agree when every attempt on them can be shown. -/
theorem pagesAgree_iff (mirrors : Mirrors driver db ms)
    (held : memory.attempts = (ms.map Mirrored.attempt).reverse) {limit : ℕ}
    {after : Option DeliveryAttemptKeyset} :
    PagesAgree driver memory db limit after ↔ limit ≤ driver.maxLimit ∧
      ∀ attempt ∈ memory.listAttemptsPage limit after, attempt.IsShown driver := by
  rw [PagesAgree, mirrors.memory_page held, List.forall_mem_map]
  constructor
  · rintro ⟨found, listed, -⟩
    obtain ⟨within, reads⟩ := mirrors.listAttemptsPage_eq_ok_iff.mp listed
    exact ⟨within, Mirrored.exists_forall₂_readsAs.mp ⟨found, reads⟩⟩
  · rintro ⟨within, shown⟩
    obtain ⟨found, reads⟩ := Mirrored.exists_forall₂_readsAs.mpr shown
    exact ⟨found, mirrors.listAttemptsPage_eq_ok_iff.mpr ⟨within, reads⟩,
      Mirrored.attemptIds_of_reads reads⟩

/-- A lookup in the memory. -/
theorem memory_lookup (mirrors : Mirrors driver db ms)
    (held : memory.attempts = (ms.map Mirrored.attempt).reverse) {m : Mirrored driver}
    (mem : m ∈ ms) : memory.getAttempt m.attempt.attemptId = some m.attempt := by
  have distinct : (memory.attempts.map DeliveryAttempt.attemptId).Nodup := by
    rw [held, List.map_reverse, List.nodup_reverse, List.map_map]
    exact mirrors.distinct
  have there : m.attempt ∈ memory.attempts := by
    rw [held, List.mem_reverse]
    exact List.mem_map_of_mem mem
  rw [InMemoryDeliveryStore.getAttempt, ← List.head?_filter,
    filter_eq_singleton distinct there rfl, List.head?_cons]

/-- Lookups agree when the attempt found is plain and can be shown. -/
theorem lookupsAgree_iff (mirrors : Mirrors driver db ms)
    (held : memory.attempts = (ms.map Mirrored.attempt).reverse) {id : UUID} :
    LookupsAgree driver memory db id ↔ ∀ attempt ∈ memory.getAttempt id,
      attempt.IsPlain = true ∧ attempt.IsShown driver := by
  unfold LookupsAgree
  by_cases present : ∃ m ∈ ms, m.attempt.attemptId = id
  · obtain ⟨m, mem, rfl⟩ := present
    rw [mirrors.getAttempt_eq mem, mirrors.memory_lookup held mem]
    constructor
    · rintro ⟨found, looked, agrees⟩ attempt hattempt
      obtain rfl := Option.mem_some.mp hattempt
      obtain ⟨back, read, rfl⟩ := map_eq_ok.mp looked
      have reads := Mirrored.read_eq_ok_iff.mp read
      cases agrees with
      | some equal => exact ⟨reads.equal_iff.mp equal, Mirrored.exists_readsAs.mp ⟨back, reads⟩⟩
    · intro good
      obtain ⟨plain, shown⟩ := good _ (Option.mem_some_self _)
      obtain ⟨back, reads⟩ := Mirrored.exists_readsAs.mpr shown
      refine ⟨some back, map_eq_ok.mpr ⟨back, Mirrored.read_eq_ok_iff.mpr reads, rfl⟩, ?_⟩
      exact .some (reads.equal_iff.mpr plain)
  · -- neither backend has the attempt
    have absent : ∀ m ∈ ms, m.attempt.attemptId ≠ id := fun m mem named =>
      present ⟨m, mem, named⟩
    have nothing : memory.getAttempt id = none := by
      rw [InMemoryDeliveryStore.getAttempt, List.find?_eq_none]
      intro attempt mem
      rw [held, List.mem_reverse] at mem
      obtain ⟨m, hm, rfl⟩ := List.mem_map.mp mem
      rw [decide_eq_true_eq]
      exact absent m hm
    rw [mirrors.getAttempt_eq_none absent, nothing]
    constructor
    · intro _ attempt hattempt
      cases hattempt
    · intro _
      exact ⟨none, rfl, .none⟩

end Mirrors

/-- A store error is none of those of a cursor. -/
theorem nextCursor_ne_storeError {n : ℕ} {found : List DeliveryAttempt} :
    deliveryAttemptsListing.nextCursor n found ≠ .error storeError := by
  intro raised
  unfold KeysetListing.nextCursor at raised
  cases hlast : (found.take n).getLast? with
  | none =>
      rw [hlast] at raised
      cases raised
  | some last =>
      rw [hlast] at raised
      dsimp only at raised
      split_ifs at raised
      unfold KeysetListing.encodeCursor at raised
      cases encoded : deliveryAttemptsListing.format.encodeKeysetCursor
          (deliveryAttemptsListing.timestamp last) (deliveryAttemptsListing.id last) with
      | error e =>
          rw [encoded] at raised
          cases raised
      | ok cursor =>
          rw [encoded] at raised
          cases raised

namespace Mirrors

variable {driver : Driver} {memory : InMemoryDeliveryStore} {db : DeliveryDatabase}
  {ms : List (Mirrored driver)}

/-- The keys of what the rows read back as are those of the attempts. -/
theorem keys_of_reads {page : List (Mirrored driver)} {found : List DeliveryAttempt}
    (reads : List.Forall₂ Mirrored.ReadsAs page found) :
    found.map deliveryAttemptsListing.key =
      (page.map Mirrored.attempt).map deliveryAttemptsListing.key := by
  induction reads with
  | nil => rfl
  | cons first _ ih =>
      rw [List.map_cons, List.map_cons, List.map_cons, ih]
      congr 1
      exact congrArg toLex (Prod.ext first.instant first.attemptId)

/-- A cursor is answered alike exactly when the page it asks for is. -/
theorem cursorsAgree_iff (mirrors : Mirrors driver db ms)
    (held : memory.attempts = (ms.map Mirrored.attempt).reverse) {recursionLimit : RecursionLimit}
    {n : ℕ} {cursor : Option Str} :
    CursorsAgree driver memory db recursionLimit n cursor ↔
      ∀ after, deliveryAttemptsListing.decodeOptional recursionLimit cursor = .ok after →
        PagesAgree driver memory db (n + 1) (after.map fun k => ⟨k.1, k.2⟩) := by
  unfold CursorsAgree listAttempts KeysetListing.listPage
  cases deliveryAttemptsListing.decodeOptional recursionLimit cursor with
  | error e =>
      constructor
      · intro _ after decoded
        cases decoded
      · intro _
        rfl
  | ok after =>
      generalize hkeyset : (after.map fun k => (⟨k.1, k.2⟩ : DeliveryAttemptKeyset)) = keyset
      have decoded : (∀ after', (Except.ok after : Except AppError _) = .ok after' →
          PagesAgree driver memory db (n + 1) (after'.map fun k => ⟨k.1, k.2⟩)) ↔
            PagesAgree driver memory db (n + 1) keyset := by
        constructor
        · exact fun agree => hkeyset ▸ agree after rfl
        · rintro agree _ ⟨⟩
          exact hkeyset.symm ▸ agree
      rw [decoded]
      simp only [bind, Except.bind, hkeyset]
      constructor
      · intro same
        -- the memory never raises the store error
        cases listed : listAttemptsPage driver (n + 1) keyset db with
        | error e =>
            exfalso
            rw [listed] at same
            obtain rfl := mirrors.listAttemptsPage_eq_error listed
            cases written : deliveryAttemptsListing.nextCursor n
                (memory.listAttemptsPage (n + 1) keyset) with
            | error e =>
                rw [written] at same
                cases same
                exact nextCursor_ne_storeError written
            | ok next =>
                rw [written] at same
                cases same
        | ok found =>
            obtain ⟨within, reads⟩ := mirrors.listAttemptsPage_eq_ok_iff.mp listed
            refine ⟨found, listed, ?_⟩
            rw [mirrors.memory_page held]
            exact Mirrored.attemptIds_of_reads reads
      · rintro ⟨found, listed, ids⟩
        obtain ⟨within, reads⟩ := mirrors.listAttemptsPage_eq_ok_iff.mp listed
        have keys := keys_of_reads reads
        rw [← mirrors.memory_page held] at keys
        rw [listed]
        dsimp only
        rw [KeysetListing.nextCursor_congr keys]
        cases deliveryAttemptsListing.nextCursor n (memory.listAttemptsPage (n + 1) keyset) with
        | error e => rfl
        | ok next =>
            change Except.ok (_, next) = Except.ok (_, next)
            dsimp only
            rw [List.map_take, ids, List.map_take]

end Mirrors

/-- An attempt is one of the `limit` newest after the keyset. -/
def IsListed (attempts : List DeliveryAttempt) (limit : ℕ) (after : Option DeliveryAttemptKeyset)
    (attempt : DeliveryAttempt) : Prop :=
  (attempt ∈ attempts ∧ Below (after.map DeliveryAttemptKeyset.key) attempt.keyset.key) ∧
    attempts.countP (fun other => decide (attempt.keyset.key < other.keyset.key ∧
      Below (after.map DeliveryAttemptKeyset.key) other.keyset.key)) < limit

/-- After adds of attempts with distinct identifiers, no more than the memory holds:
a page is the same on both backends exactly when `LIMIT` takes its length and its
timestamps can be shown, a lookup exactly when its attempt is plain and can be shown;
and a cursor, of either backend, is answered alike exactly when the page is the same. -/
theorem backends_agree (driver : Driver) {maxEvents : ℕ} {pos : 0 < maxEvents}
    {attempts : List DeliveryAttempt} {memory : InMemoryDeliveryStore} {db : DeliveryDatabase}
    (stored : StoredInBoth driver maxEvents pos attempts memory db)
    (fits : attempts.length ≤ maxEvents) :
    (∀ limit after, PagesAgree driver memory db limit after ↔ limit ≤ driver.maxLimit ∧
      ∀ attempt, IsListed attempts limit after attempt → attempt.IsShown driver) ∧
    (∀ id, LookupsAgree driver memory db id ↔ ∀ attempt ∈ attempts, attempt.attemptId = id →
      attempt.IsPlain = true ∧ attempt.IsShown driver) ∧
    ∀ recursionLimit n cursor, CursorsAgree driver memory db recursionLimit n cursor ↔
      ∀ after, deliveryAttemptsListing.decodeOptional recursionLimit cursor = .ok after →
        PagesAgree driver memory db (n + 1) (after.map fun k => ⟨k.1, k.2⟩) := by
  obtain ⟨ms, mirrors, held⟩ := stored.mirrors_of_fits fits
  have same : memory.attempts = attempts := by
    rw [stored.memory_eq.2, List.take_of_length_le fits]
  have distinct : (attempts.map fun a => a.keyset.key).Nodup := by
    rw [← same, held, List.map_reverse, List.nodup_reverse, List.map_map]
    exact mirrors.keys
  refine ⟨fun limit after => ?_, fun id => ?_, fun _ _ _ => mirrors.cursorsAgree_iff held⟩
  · have listed : ∀ attempt, attempt ∈ memory.listAttemptsPage limit after ↔
        IsListed attempts limit after attempt := by
      intro attempt
      rw [IsListed, ← mem_page_iff distinct, ← same, page_eq_match]
      cases after <;> rfl
    rw [mirrors.pagesAgree_iff held]
    simp only [listed]
  · rw [mirrors.lookupsAgree_iff held]
    have found : ∀ attempt, attempt ∈ memory.getAttempt id ↔
        attempt ∈ attempts ∧ attempt.attemptId = id := by
      intro attempt
      constructor
      · intro hfound
        have named := List.find?_some hfound
        exact ⟨same ▸ List.mem_of_find?_eq_some hfound, of_decide_eq_true named⟩
      · rintro ⟨mem, rfl⟩
        rw [← same, held, List.mem_reverse] at mem
        obtain ⟨m, hm, rfl⟩ := List.mem_map.mp mem
        rw [mirrors.memory_lookup held hm]
        exact Option.mem_some_self _
    simp only [found, and_imp]

/-- The first attempt, stored in both. -/
theorem StoredInBoth.single {driver : Driver} {maxEvents : ℕ} {pos : 0 < maxEvents}
    {attempt : DeliveryAttempt} (added : (addAlone driver attempt .empty).1 = .ok ()) :
    StoredInBoth driver maxEvents pos [attempt] ((InMemoryDeliveryStore.empty maxEvents pos).add
      attempt) (addAlone driver attempt .empty).2 :=
  .add .empty List.not_mem_nil (Prod.ext added rfl)

/-- Attempts of one instant, but for the last. -/
def tiedAttempts : List DeliveryAttempt :=
  [{ sampleAttempt with attemptId := ⟨3, by decide⟩, receivedAt := AwareDatetime.utc laterNow },
    { sampleAttempt with attemptId := sampleActionId }, sampleAttempt]

/-- Three attempts, two of them of one instant; the page from the keyset of one of these, and
the lookup of the other, which it shows. -/
theorem backends_agree_sample : ∃ memory db,
    StoredInBoth sampleDriver 3 (Nat.succ_pos 2) tiedAttempts memory db ∧
      PagesAgree sampleDriver memory db 2 (some ⟨AwareDatetime.utc sampleNow, sampleActionId⟩) ∧
      LookupsAgree sampleDriver memory db sampleAttempt.attemptId := by
  have first : StoredInBoth sampleDriver 3 (Nat.succ_pos 2) [sampleAttempt] _ _ := .single rfl
  have second : StoredInBoth sampleDriver 3 (Nat.succ_pos 2) (tiedAttempts.drop 1) _ _ :=
    first.add (by decide) (Prod.ext rfl rfl)
  have stored : StoredInBoth sampleDriver 3 (Nat.succ_pos 2) tiedAttempts _ _ :=
    second.add (by decide) (Prod.ext rfl rfl)
  have shown : ∀ attempt ∈ tiedAttempts, attempt.IsPlain = true ∧ attempt.IsShown sampleDriver := by
    unfold DeliveryAttempt.IsShown
    decide
  obtain ⟨pages, lookups, -⟩ := backends_agree sampleDriver stored (Nat.le_refl 3)
  refine ⟨_, _, stored, (pages 2 _).mpr ⟨by decide, ?_⟩, (lookups _).mpr ?_⟩
  · exact fun attempt listed => (shown attempt listed.1.1).2
  · exact fun attempt mem _ => shown attempt mem

/-- An attempt whose target is `007`. -/
def zerosAttempt : DeliveryAttempt :=
  { sampleAttempt with
    installationTargetId := some "007"
    installationTargetType := some "repository" }

/-- Both stores take it, and then a lookup finds different attempts in them. -/
theorem zeros_looked_up : ∃ memory db,
    StoredInBoth sampleDriver 1 Nat.one_pos [zerosAttempt] memory db ∧
      ¬ LookupsAgree sampleDriver memory db zerosAttempt.attemptId := by
  have added : (addAlone sampleDriver zerosAttempt .empty).1 = .ok () := by rfl
  have stored : StoredInBoth sampleDriver 1 Nat.one_pos _ _ _ := .single added
  refine ⟨_, _, stored, fun agree => ?_⟩
  obtain ⟨ms, mirrors, held⟩ := stored.mirrors_of_fits (Nat.le_refl 1)
  have plain := (mirrors.lookupsAgree_iff held).mp agree zerosAttempt rfl
  exact absurd plain.1 (by decide)

end WebhookMonitor
