import Mathlib.Logic.Relation
import WebhookMonitor.Pagination.Keyset
import WebhookMonitor.Redelivery.Journals
import WebhookMonitor.Services.Queries

/-!
# Traversals of the two listings

A client that asks for the first page and follows each cursor to the end, while
the store is written to between its requests.

* `Pages` — such a traversal, page by page;
* `SharedListing` — a store that changes, the listing over it, and what every write
  keeps: a key is an entry's for good, and a dropped key does not come back;
* `deliveries` and `journal` — the two in-memory stores as such;
* `TraversalLaws` — nothing is repeated, nothing that stays is lost, and a
  traversal of contents that stay ends with all of them in order;
* `listings_traverse` — both listings obey the laws.

The cursor of an entry holds its timestamp in UTC, which a timestamp at the edge of
the years 1 to 9999 may not have; the last law asks for it.
-/

namespace WebhookMonitor

open Python Pagination Relation

/-! ## Page by page -/

/-- The pages a client gets from `cursor` on, to the first without a cursor; each
request finds the store of its time. -/
inductive Pages {σ α : Type} (list : σ → ℕ → Option Str → Except AppError (KeysetPage α)) :
    Option Str → List (ℕ × σ) → List (List α) → Prop where
  | last {cursor : Option Str} {n : ℕ} {s : σ} {items : List α}
      (got : list s n cursor = .ok ⟨items, none⟩) : Pages list cursor [(n, s)] [items]
  | more {cursor : Option Str} {n : ℕ} {s : σ} {items : List α} {next : Str}
      {rounds : List (ℕ × σ)} {pages : List (List α)}
      (got : list s n cursor = .ok ⟨items, some next⟩)
      (rest : Pages list (some next) rounds pages) :
      Pages list cursor ((n, s) :: rounds) (items :: pages)

/-- The first request of a traversal is answered. -/
theorem Pages.first_isOk {σ α : Type} {list : σ → ℕ → Option Str → Except AppError (KeysetPage α)}
    {cursor : Option Str} {n : ℕ} {s : σ} {rounds : List (ℕ × σ)} {pages : List (List α)}
    (got : Pages list cursor ((n, s) :: rounds) pages) : ∃ page, list s n cursor = .ok page := by
  cases got with
  | last got => exact ⟨_, got⟩
  | more got _ => exact ⟨_, got⟩

/-- A store that changes, with the listing over it. -/
structure SharedListing where
  World : Type
  Entry : Type
  content : World → List Entry
  listing : KeysetListing Entry
  list : RecursionLimit → World → ℕ → Option Str → Except AppError (KeysetPage Entry)
  /-- One write. -/
  Write : World → World → Prop
  /-- The stores that can be reached, and the identifiers used in them. -/
  Good : World → Prop
  used : World → Finset UUID
  list_eq : ∀ limit w n cursor, list limit w n cursor = listing.listPage limit
    (fun n after => .ok (page listing.key n (after.map KeysetListing.keyOf) (content w))) n cursor
  distinct : ∀ w, Good w → ((content w).map listing.id).Nodup
  issued : ∀ w, Good w → ∀ a ∈ content w, listing.id a ∈ used w
  kept : ∀ w w', Good w → Write w w' → Good w' ∧ used w ⊆ used w' ∧
    ∀ k ∈ (content w').map listing.key, k ∈ (content w).map listing.key ∨ (ofLex k).2 ∉ used w

namespace SharedListing

variable (S : SharedListing)

/-- Any number of writes. -/
def Later : S.World → S.World → Prop := ReflTransGen S.Write

/-- Every stored timestamp has a form in UTC. -/
def HasUtcForms (w : S.World) : Prop :=
  ∀ a ∈ S.content w, (S.listing.timestamp a).astimezoneUtc.isSome = true

/-- The requests of a client: the first store is good, each one comes later than
those before it, and every limit is positive. -/
structure IsRun (rounds : List (ℕ × S.World)) : Prop where
  good : ∀ round ∈ rounds.head?, S.Good round.2
  later : (rounds.map Prod.snd).Pairwise S.Later
  pos : ∀ round ∈ rounds, 0 < round.1

/-- What holds of every traversal. -/
structure TraversalLaws (limit : RecursionLimit) : Prop where
  falling : ∀ rounds pages, S.IsRun rounds → Pages (S.list limit) none rounds pages →
    pages.flatten.Pairwise fun a b => S.listing.key b < S.listing.key a
  once : ∀ rounds pages first last, S.IsRun rounds → Pages (S.list limit) none rounds pages →
    rounds.head? = some first → rounds.getLast? = some last →
    ∀ k ∈ (S.content first.2).map S.listing.key, k ∈ (S.content last.2).map S.listing.key →
      (pages.flatten.map S.listing.key).count k = 1
  answered : ∀ w w' n n' cursor page, S.HasUtcForms w → S.list limit w' n' cursor = .ok page →
    (∃ page, S.list limit w n none = .ok page) ∧
      ∃ page', S.list limit w n page.nextCursor = .ok page'
  complete : ∀ w (limits : ℕ → ℕ), S.Good w → S.HasUtcForms w → (∀ i, 0 < limits i) →
    ∃ m pages, Pages (S.list limit) none ((List.range (m + 1)).map fun i => (limits i, w)) pages ∧
      pages.flatten = newestFirst S.listing.key (S.content w)

variable {S} {limit : RecursionLimit}

/-! ## The keys of a store that changes -/

theorem nodup_keys {w : S.World} (good : S.Good w) :
    ((S.content w).map S.listing.key).Nodup := by
  refine List.Nodup.of_map (fun k => (ofLex k).2) ?_
  rw [List.map_map]
  exact S.distinct w good

theorem good_of_later {w w' : S.World} (good : S.Good w) (later : S.Later w w') : S.Good w' := by
  induction later with
  | refl => exact good
  | tail _ write ih => exact (S.kept _ _ ih write).1

/-- A key that is gone stays gone. -/
theorem gone {w w' : S.World} {k : ℤ ×ₗ UUID} (good : S.Good w) (later : S.Later w w')
    (known : (ofLex k).2 ∈ S.used w) (absent : k ∉ (S.content w).map S.listing.key) :
    k ∉ (S.content w').map S.listing.key ∧ (ofLex k).2 ∈ S.used w' := by
  induction later with
  | refl => exact ⟨absent, known⟩
  | tail before write ih =>
      obtain ⟨-, more, new⟩ := S.kept _ _ (good_of_later good before) write
      refine ⟨fun mem => ?_, more ih.2⟩
      rcases new k mem with old | unknown
      · exact ih.1 old
      · exact unknown ih.2

/-- Identifiers stay used. -/
theorem used_of_later {w w' : S.World} (good : S.Good w) (later : S.Later w w') :
    S.used w ⊆ S.used w' := by
  induction later with
  | refl => exact subset_rfl
  | tail before write ih => exact ih.trans (S.kept _ _ (good_of_later good before) write).2.1

/-- A key that is there early and late is there in between. -/
theorem present_between {w w' w'' : S.World} {k : ℤ ×ₗ UUID} (good : S.Good w)
    (first : S.Later w w') (second : S.Later w' w'')
    (early : k ∈ (S.content w).map S.listing.key) (late : k ∈ (S.content w'').map S.listing.key) :
    k ∈ (S.content w').map S.listing.key := by
  by_contra absent
  obtain ⟨a, mem, rfl⟩ := List.mem_map.mp early
  have known := used_of_later good first (S.issued w good a mem)
  exact (gone (k := S.listing.key a) (good_of_later good first) second known absent).1 late

theorem IsRun.good_all {rounds : List (ℕ × S.World)} (run : S.IsRun rounds) :
    ∀ round ∈ rounds, S.Good round.2 := by
  cases rounds with
  | nil => exact fun _ mem => absurd mem List.not_mem_nil
  | cons first rest =>
      intro round mem
      have start := run.good first (by simp)
      rcases List.mem_cons.mp mem with rfl | mem
      · exact start
      · have later := run.later
        rw [List.map_cons, List.pairwise_cons] at later
        exact good_of_later start (later.1 _ (List.mem_map_of_mem mem))

/-- A key that is there at the first and at the last request is there at each. -/
theorem IsRun.present {rounds : List (ℕ × S.World)} (run : S.IsRun rounds)
    {first last : ℕ × S.World} (isFirst : rounds.head? = some first)
    (isLast : rounds.getLast? = some last) {k : ℤ ×ₗ UUID}
    (early : k ∈ (S.content first.2).map S.listing.key)
    (late : k ∈ (S.content last.2).map S.listing.key) :
    ∀ round ∈ rounds, k ∈ (S.content round.2).map S.listing.key := by
  intro round mem
  have good := run.good first isFirst
  have fromFirst : S.Later first.2 round.2 := by
    obtain ⟨rest, rfl⟩ := List.head?_eq_some_iff.mp isFirst
    rcases List.mem_cons.mp mem with rfl | mem
    · exact .refl
    · have later := run.later
      rw [List.map_cons, List.pairwise_cons] at later
      exact later.1 _ (List.mem_map_of_mem mem)
  have toLast : S.Later round.2 last.2 := by
    obtain ⟨init, rfl⟩ := List.getLast?_eq_some_iff.mp isLast
    rcases List.mem_append.mp mem with mem | mem
    · have later := run.later
      rw [List.map_append, List.pairwise_append] at later
      exact later.2.2 _ (List.mem_map_of_mem mem) _ (by simp)
    · rw [List.mem_singleton.mp mem]
      exact .refl
  exact present_between good fromFirst toLast early late

/-! ## From cursors to keys -/

/-- The cursor stands for the key to go on from. -/
def Decodes (listing : KeysetListing S.Entry) (limit : RecursionLimit) (cursor : Option Str)
    (after : Option (ℤ ×ₗ UUID)) : Prop :=
  ∃ keyset, listing.decodeOptional limit cursor = .ok keyset ∧
    keyset.map KeysetListing.keyOf = after

theorem decodes_none : S.Decodes S.listing limit none none := ⟨none, rfl, rfl⟩

/-- A page, and what its cursor stands for. -/
theorem list_of_decodes {w : S.World} {n : ℕ} {cursor : Option Str} {after : Option (ℤ ×ₗ UUID)}
    (decodes : S.Decodes S.listing limit cursor after) :
    S.list limit w n cursor =
      (S.listing.nextCursor n (page S.listing.key (n + 1) after (S.content w))).map
        fun next => ⟨(visit S.listing.key n after (S.content w)).items, next⟩ := by
  obtain ⟨keyset, decoded, rfl⟩ := decodes
  rw [S.list_eq, KeysetListing.listPage, decoded]
  change (S.listing.nextCursor n (page S.listing.key (n + 1) _ (S.content w)) >>= _) = _
  cases S.listing.nextCursor n
    (page S.listing.key (n + 1) (keyset.map KeysetListing.keyOf) (S.content w)) with
  | error e => rfl
  | ok next => rfl

/-- The cursor handed out is the one of the key to go on from. -/
theorem nextCursor_eq_ok (limit : RecursionLimit) {n : ℕ} {after : Option (ℤ ×ₗ UUID)}
    {l : List S.Entry} {next : Option Str}
    (written : S.listing.nextCursor n (page S.listing.key (n + 1) after l) = .ok next) :
    match next with
    | none => (visit S.listing.key n after l).next = none
    | some cursor => ∃ k, (visit S.listing.key n after l).next = some k ∧
        S.Decodes S.listing limit (some cursor) (some k) := by
  rw [KeysetListing.nextCursor] at written
  rw [visit]
  dsimp only
  cases hlast : ((page S.listing.key (n + 1) after l).take n).getLast? with
  | none =>
      rw [hlast] at written
      cases written
      split_ifs <;> rfl
  | some last =>
      rw [hlast] at written
      dsimp only at written
      by_cases more : n < (page S.listing.key (n + 1) after l).length
      · rw [if_pos more] at written ⊢
        cases encoded : S.listing.encodeCursor last with
        | error e => rw [encoded] at written; cases written
        | ok cursor =>
            rw [encoded] at written
            cases written
            obtain ⟨keyset, decoded, key⟩ :=
              @KeysetListing.decodeOptional_encode _ _ limit _ _ encoded
            exact ⟨_, rfl, some keyset, decoded, congrArg some key⟩
      · rw [if_neg more] at written ⊢
        cases written
        rfl

/-- A traversal by cursors is one by keys. -/
theorem traversal_of_pages {cursor : Option Str} {after : Option (ℤ ×ₗ UUID)}
    {rounds : List (ℕ × S.World)} {pages : List (List S.Entry)}
    (got : Pages (S.list limit) cursor rounds pages)
    (decodes : S.Decodes S.listing limit cursor after) :
    Traversal S.listing.key after (rounds.map fun round => (round.1, S.content round.2)) pages := by
  induction got generalizing after with
  | last got =>
      rw [list_of_decodes decodes] at got
      obtain ⟨next, written, same⟩ := map_eq_ok.mp got
      cases same
      exact .last (nextCursor_eq_ok limit written)
  | more got rest ih =>
      rw [list_of_decodes decodes] at got
      obtain ⟨next, written, same⟩ := map_eq_ok.mp got
      cases same
      obtain ⟨k, goes_on, decodes'⟩ := nextCursor_eq_ok limit written
      exact .more goes_on (ih decodes')

/-- A page can be had while the timestamps have a form in UTC. -/
theorem list_isOk {w : S.World} {n : ℕ} {cursor : Option Str} {after : Option (ℤ ×ₗ UUID)}
    (utc : S.HasUtcForms w) (decodes : S.Decodes S.listing limit cursor after) :
    ∃ page, S.list limit w n cursor = .ok page := by
  obtain ⟨next, written⟩ : ∃ next, S.listing.nextCursor n
      (page S.listing.key (n + 1) after (S.content w)) = .ok next := by
    rw [KeysetListing.nextCursor]
    cases hlast : ((page S.listing.key (n + 1) after (S.content w)).take n).getLast? with
    | none => exact ⟨none, rfl⟩
    | some last =>
        have mem := (mem_of_mem_page (List.mem_of_mem_take (List.mem_of_getLast? hlast))).1
        obtain ⟨cursor, encoded⟩ := KeysetListing.encodeCursor_isOk (utc last mem)
        dsimp only
        split_ifs
        · exact ⟨some cursor, by rw [encoded]; rfl⟩
        · exact ⟨none, rfl⟩
  rw [list_of_decodes decodes, written]
  exact ⟨_, rfl⟩

/-- A cursor from any page decodes. -/
theorem decodes_of_list {w : S.World} {n : ℕ} {cursor : Option Str} {page : KeysetPage S.Entry}
    (got : S.list limit w n cursor = .ok page) :
    ∃ after, S.Decodes S.listing limit page.nextCursor after := by
  rw [S.list_eq, KeysetListing.listPage] at got
  obtain ⟨keyset, decoded, got⟩ := bind_eq_ok.mp got
  have got : S.list limit w n cursor = .ok page := by
    rw [S.list_eq, KeysetListing.listPage, decoded]
    exact got
  rw [list_of_decodes ⟨keyset, decoded, rfl⟩] at got
  obtain ⟨next, written, rfl⟩ := map_eq_ok.mp got
  have cursor := nextCursor_eq_ok limit written
  cases next with
  | none => exact ⟨none, decodes_none⟩
  | some next =>
      obtain ⟨k, -, decodes⟩ := cursor
      exact ⟨some k, decodes⟩

/-- Every traversal by keys of contents with forms in UTC is one by cursors. -/
theorem pages_of_traversal {cursor : Option Str} {after : Option (ℤ ×ₗ UUID)}
    {rounds : List (ℕ × S.World)} {pages : List (List S.Entry)}
    (utc : ∀ round ∈ rounds, S.HasUtcForms round.2)
    (traversal : Traversal S.listing.key after
      (rounds.map fun round => (round.1, S.content round.2)) pages)
    (decodes : S.Decodes S.listing limit cursor after) :
    Pages (S.list limit) cursor rounds pages := by
  -- along the rounds: each cursor decodes to the key the next page starts after
  induction rounds generalizing cursor after pages with
  | nil => cases traversal
  | cons round rest ih =>
      obtain ⟨n, w⟩ := round
      obtain ⟨page, got⟩ := list_isOk (n := n) (utc _ List.mem_cons_self) decodes
      have listed := list_of_decodes (w := w) (n := n) decodes
      rw [got] at listed
      obtain ⟨next, written, rfl⟩ := map_eq_ok.mp listed.symm
      have cursor := nextCursor_eq_ok limit written
      rw [List.map_cons] at traversal
      cases next with
      | none =>
          generalize hrounds : rest.map (fun round => (round.1, S.content round.2)) = rounds'
            at traversal
          cases traversal with
          | last ends =>
              obtain rfl := List.map_eq_nil_iff.mp hrounds
              exact .last got
          | more goes_on rest => rw [cursor] at goes_on; cases goes_on
      | some next =>
          obtain ⟨k, goes_on, decodes'⟩ := cursor
          generalize hrounds : rest.map (fun round => (round.1, S.content round.2)) = rounds'
            at traversal
          cases traversal with
          | last ends => rw [ends] at goes_on; cases goes_on
          | more goes_on' later =>
              rw [goes_on] at goes_on'
              cases goes_on'
              subst hrounds
              exact .more got
                (ih (fun round mem => utc round (List.mem_cons_of_mem _ mem)) later decodes')

/-- Every shared listing obeys the laws. -/
theorem traversalLaws (S : SharedListing) (limit : RecursionLimit) : S.TraversalLaws limit := by
  have keys : ∀ {rounds : List (ℕ × S.World)}, S.IsRun rounds →
      ∀ round ∈ rounds.map fun round => (round.1, S.content round.2),
        (round.2.map S.listing.key).Nodup := by
    intro rounds run round mem
    obtain ⟨asked, hasked, rfl⟩ := List.mem_map.mp mem
    exact nodup_keys (run.good_all asked hasked)
  constructor
  · intro rounds pages run got
    exact (traversal_of_pages got decodes_none).falling (keys run)
  · intro rounds pages first last run got isFirst isLast k early late
    have traversal := traversal_of_pages got decodes_none
    have falling := traversal.falling (keys run)
    -- the keys fall along the traversal, so none is returned twice
    have unique : (pages.flatten.map S.listing.key).Nodup :=
      List.pairwise_map.mpr (falling.imp fun lt => (ne_of_lt lt).symm)
    have mem := traversal.returned_of_present (keys run)
      (fun round mem => by
        obtain ⟨asked, hasked, rfl⟩ := List.mem_map.mp mem
        exact run.pos asked hasked)
      (below_none k)
      fun round mem => by
        obtain ⟨asked, hasked, rfl⟩ := List.mem_map.mp mem
        exact run.present isFirst isLast early late asked hasked
    exact List.count_eq_one_of_mem unique mem
  · intro w w' n n' cursor page utc got
    obtain ⟨after, decodes⟩ := decodes_of_list got
    exact ⟨list_isOk utc decodes_none, list_isOk utc decodes⟩
  · intro w limits good utc pos
    -- with nothing written the traversal ends, and returns what was there
    obtain ⟨m, pages, traversal⟩ := exists_traversal (nodup_keys good) limits none
    have rounds : ((List.range (m + 1)).map fun i => (limits i, w)).map
        (fun round => (round.1, S.content round.2)) =
          (List.range (m + 1)).map fun i => (limits i, S.content w) := by
      rw [List.map_map]
      rfl
    refine ⟨m, pages, pages_of_traversal ?_ (rounds ▸ traversal) decodes_none, ?_⟩
    · intro round mem
      obtain ⟨i, -, rfl⟩ := List.mem_map.mp mem
      exact utc
    · rw [← remaining_none]
      refine traversal.flatten_of_constant (nodup_keys good) ?_ ?_
      · intro round mem
        obtain ⟨i, -, rfl⟩ := List.mem_map.mp mem
        exact pos i
      · intro round mem
        obtain ⟨i, -, rfl⟩ := List.mem_map.mp mem
        rfl

end SharedListing

/-! ## The two stores -/

/-- The in-memory store of attempts, and the identifiers given to attempts. -/
structure DeliveryWorld where
  store : InMemoryDeliveryStore
  issued : Finset UUID

/-- An attempt with a fresh identifier is added. -/
inductive DeliveryWorld.Write : DeliveryWorld → DeliveryWorld → Prop where
  | add {w : DeliveryWorld} {attempt : DeliveryAttempt} (fresh : attempt.attemptId ∉ w.issued) :
      Write w ⟨w.store.add attempt, insert attempt.attemptId w.issued⟩

/-- The identifiers are distinct and were given out. -/
structure DeliveryWorld.Good (w : DeliveryWorld) : Prop where
  distinct : (w.store.attempts.map DeliveryAttempt.attemptId).Nodup
  issued : ∀ a ∈ w.store.attempts, a.attemptId ∈ w.issued

/-- Adding keeps the keys, apart from the evicted one, and gives a new one. -/
theorem DeliveryWorld.kept {w w' : DeliveryWorld} (good : w.Good) (write : w.Write w') :
    w'.Good ∧ w.issued ⊆ w'.issued ∧
      ∀ k ∈ w'.store.attempts.map deliveryAttemptsListing.key,
        k ∈ w.store.attempts.map deliveryAttemptsListing.key ∨ (ofLex k).2 ∉ w.issued := by
  cases write with
  | @add attempt fresh =>
      refine ⟨⟨?_, ?_⟩, Finset.subset_insert _ _, ?_⟩
      · have all : ((attempt :: w.store.attempts).map DeliveryAttempt.attemptId).Nodup := by
          rw [List.map_cons, List.nodup_cons]
          refine ⟨fun mem => ?_, good.distinct⟩
          obtain ⟨a, hmem, same⟩ := List.mem_map.mp mem
          exact fresh (same ▸ good.issued a hmem)
        exact all.sublist ((List.take_sublist _ _).map _)
      · intro a mem
        rcases InMemoryDeliveryStore.mem_add mem with rfl | mem
        · exact Finset.mem_insert_self _ _
        · exact Finset.mem_insert_of_mem (good.issued a mem)
      · intro k mem
        obtain ⟨a, hmem, rfl⟩ := List.mem_map.mp mem
        rcases InMemoryDeliveryStore.mem_add hmem with rfl | old
        · exact .inr fresh
        · exact .inl (List.mem_map_of_mem old)

/-- `DeliveryQueryService` over the in-memory store. -/
def deliveries : SharedListing where
  World := DeliveryWorld
  Entry := DeliveryAttempt
  content w := w.store.attempts
  listing := deliveryAttemptsListing
  list limit w n cursor :=
    listAttempts limit (fun n after => .ok (w.store.listAttemptsPage n after)) n cursor
  Write := DeliveryWorld.Write
  Good := DeliveryWorld.Good
  used := DeliveryWorld.issued
  list_eq limit w n cursor := by
    have pages : ∀ n (after : Option (AwareDatetime × UUID)),
        w.store.listAttemptsPage n (after.map fun k => ⟨k.1, k.2⟩) =
          page deliveryAttemptsListing.key n (after.map KeysetListing.keyOf) w.store.attempts := by
      intro n after
      rw [page_eq_match]
      cases after <;> rfl
    rw [listAttempts]
    simp only [pages]
  distinct _ good := good.distinct
  issued _ good := good.issued
  kept _ _ good write := DeliveryWorld.kept good write

/-- A write to the in-memory journal: a new entry, or a finalized one. -/
inductive MemoryWorld.Write : MemoryWorld → MemoryWorld → Prop where
  | create {w : MemoryWorld} {id : UUID} {request : CreateRequest} (fresh : id ∉ w.issued) :
      Write w ⟨(w.store.createInitiatedGithubRedelivery id request).2, insert id w.issued⟩
  | finalize {w : MemoryWorld} {request : FinalizeRequest} {action : RecoveryAction}
      {store : InMemoryRecoveryActionStore}
      (finalized : w.store.finalize request = .ok (action, store)) :
      Write w { w with store := store }

/-- The identifiers are distinct and were given out. -/
structure MemoryWorld.Good (w : MemoryWorld) : Prop where
  distinct : (w.store.actions.map RecoveryAction.actionId).Nodup
  issued : ∀ a ∈ w.store.actions, a.actionId ∈ w.issued

/-- Finalizing an entry leaves the keys alone. -/
theorem keys_replaceRow {r : FinalizeRequest} {state : RecoveryActionState} {old : RecoveryAction}
    {actions : List RecoveryAction} (distinct : (actions.map RecoveryAction.actionId).Nodup)
    (mem : old ∈ actions) (named : old.actionId = r.actionId) :
    (replaceRow r.actionId (old.finalized r state) actions).map recoveryActionsListing.key =
      actions.map recoveryActionsListing.key := by
  rw [replaceRow, List.map_map]
  refine List.map_congr_left fun row hrow => ?_
  by_cases same : row.actionId = r.actionId
  · obtain rfl : row = old := List.inj_on_of_nodup_map distinct hrow mem (same.trans named.symm)
    rw [Function.comp_apply, if_pos same]
    rfl
  · rw [Function.comp_apply, if_neg same]

theorem MemoryWorld.kept {w w' : MemoryWorld} (good : w.Good) (write : w.Write w') :
    w'.Good ∧ w.issued ⊆ w'.issued ∧
      ∀ k ∈ w'.store.actions.map recoveryActionsListing.key,
        k ∈ w.store.actions.map recoveryActionsListing.key ∨ (ofLex k).2 ∉ w.issued := by
  cases write with
  | @create id request fresh =>
      -- the capacity drops entries, and only the new one enters
      have enters : ∀ a ∈ (w.store.createInitiatedGithubRedelivery id request).2.actions,
          a = initiatedAction id request ∨ a ∈ w.store.actions := fun a mem =>
        List.mem_cons.mp (List.mem_of_mem_take mem)
      refine ⟨⟨?_, ?_⟩, Finset.subset_insert _ _, ?_⟩
      · have all : ((initiatedAction id request :: w.store.actions).map
            RecoveryAction.actionId).Nodup := by
          rw [List.map_cons, List.nodup_cons]
          refine ⟨fun mem => ?_, good.distinct⟩
          obtain ⟨a, hmem, same⟩ := List.mem_map.mp mem
          have same : a.actionId = id := same
          exact fresh (same ▸ good.issued a hmem)
        exact all.sublist ((List.take_sublist _ _).map _)
      · intro a mem
        rcases enters a mem with rfl | mem
        · exact Finset.mem_insert_self _ _
        · exact Finset.mem_insert_of_mem (good.issued a mem)
      · intro k mem
        obtain ⟨a, hmem, rfl⟩ := List.mem_map.mp mem
        rcases enters a hmem with rfl | old
        · exact .inr fresh
        · exact .inl (List.mem_map_of_mem old)
  | @finalize request action store finalized =>
      obtain ⟨old, mem, state, named, -, -, rfl, actions⟩ :=
        InMemoryRecoveryActionStore.finalizeIn_eq_ok good.distinct
          (InMemoryRecoveryActionStore.finalize_eq_ok finalized).1
      -- a finalization keeps the keys in their places
      have keys : store.actions.map recoveryActionsListing.key =
          w.store.actions.map recoveryActionsListing.key := by
        rw [actions]
        exact keys_replaceRow good.distinct mem named
      have ids : store.actions.map RecoveryAction.actionId =
          w.store.actions.map RecoveryAction.actionId := by
        rw [actions]
        exact replaceRow_actionIds ((RecoveryAction.finalized_actionId _ _ _).trans named) _
      refine ⟨⟨?_, ?_⟩, subset_rfl, fun k mem => .inl (keys ▸ mem)⟩
      · change (store.actions.map RecoveryAction.actionId).Nodup
        rw [ids]
        exact good.distinct
      · intro a hmem
        have hid : a.actionId ∈ w.store.actions.map RecoveryAction.actionId := by
          rw [← ids]
          exact List.mem_map_of_mem hmem
        obtain ⟨b, hb, same⟩ := List.mem_map.mp hid
        exact same ▸ good.issued b hb

/-- `RecoveryActionQueryService` over the in-memory journal. -/
def journal : SharedListing where
  World := MemoryWorld
  Entry := RecoveryAction
  content w := w.store.actions
  listing := recoveryActionsListing
  list limit w n cursor :=
    listActions limit (fun n after => .ok (w.store.listRecent n after)) n cursor
  Write := MemoryWorld.Write
  Good := MemoryWorld.Good
  used := MemoryWorld.issued
  list_eq limit w n cursor := by
    have pages : ∀ n (after : Option (AwareDatetime × UUID)),
        w.store.listRecent n (after.map fun k => ⟨k.1, k.2⟩) =
          page recoveryActionsListing.key n (after.map KeysetListing.keyOf) w.store.actions := by
      intro n after
      rw [page_eq_match]
      cases after <;> rfl
    rw [listActions]
    simp only [pages]
  distinct _ good := good.distinct
  issued _ good := good.issued
  kept _ _ good write := MemoryWorld.kept good write

/-- Both listings obey the laws. -/
theorem listings_traverse (limit : RecursionLimit) :
    deliveries.TraversalLaws limit ∧ journal.TraversalLaws limit :=
  ⟨deliveries.traversalLaws limit, journal.traversalLaws limit⟩

/-! ## A timestamp without a form in UTC -/

/-- Midnight of the first day of the year 1, five hours east: still the year 0 in UTC. -/
def beforeYearOne : AwareDatetime := ⟨sampleNow, 18000000000, by decide, by decide⟩

/-- Two attempts of that time. -/
def earlyWorld : DeliveryWorld where
  store :=
    { maxEvents := 2
      attempts := [{ sampleAttempt with receivedAt := beforeYearOne },
        { sampleAttempt with attemptId := sampleActionId, receivedAt := beforeYearOne }]
      maxEvents_pos := Nat.two_pos
      bounded := Nat.le_refl 2 }
  issued := {sampleAttempt.attemptId, sampleActionId}

/-- The first page, one attempt long, needs a cursor that cannot be written. -/
theorem early_listing_fails : earlyWorld.Good ∧
    deliveries.list sampleLimit earlyWorld 1 none = .error (.python .overflowError) ∧
    ¬ ∃ m pages, Pages (deliveries.list sampleLimit) none
      ((List.range (m + 1)).map fun _ => (1, earlyWorld)) pages := by
  have good : earlyWorld.Good := ⟨by decide, by decide⟩
  have early : ∀ a ∈ earlyWorld.store.attempts,
      deliveryAttemptsListing.encodeCursor a = .error (.python .overflowError) := by
    intro a mem
    -- before the year 1 in UTC
    have converted : a.receivedAt.astimezoneUtc = none := by
      simp only [earlyWorld, List.mem_cons, List.not_mem_nil, or_false] at mem
      rcases mem with rfl | rfl
      · exact dif_neg (by decide)
      · exact dif_neg (by decide)
    change uncaught (orRaise .overflowError a.receivedAt.astimezoneUtc >>= _) = _
    rw [converted]
    rfl
  have fails : deliveries.list sampleLimit earlyWorld 1 none = .error (.python .overflowError) := by
    refine (@SharedListing.list_of_decodes deliveries sampleLimit earlyWorld 1 none none
      SharedListing.decodes_none).trans ?_
    have length :
        (page deliveryAttemptsListing.key 2 none earlyWorld.store.attempts).length = 2 := by
      rw [page, ← remaining, remaining_none, List.length_take, (newestFirst_perm _).length_eq]
      rfl
    obtain ⟨a, b, hpage⟩ := List.length_eq_two.mp length
    have mem : a ∈ page deliveryAttemptsListing.key 2 none earlyWorld.store.attempts := by
      rw [hpage]
      exact List.mem_cons_self
    have written : deliveryAttemptsListing.nextCursor 1 [a, b] =
        (deliveryAttemptsListing.encodeCursor a).map some := rfl
    change (deliveryAttemptsListing.nextCursor 1 (page deliveryAttemptsListing.key 2 none
      earlyWorld.store.attempts)).map _ = _
    rw [hpage, written, early a (mem_of_mem_page mem).1]
    rfl
  refine ⟨good, fails, ?_⟩
  rintro ⟨m, pages, got⟩
  rw [List.range_succ_eq_map, List.map_cons] at got
  obtain ⟨page, got⟩ := got.first_isOk
  cases fails.symm.trans got

end WebhookMonitor
