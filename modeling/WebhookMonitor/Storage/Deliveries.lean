import Mathlib.Data.Int.Order.Basic
import Mathlib.Data.Prod.Lex
import Mathlib.Order.Fin.Basic
import WebhookMonitor.Domain

/-!
# The delivery store

The in-memory store of delivery attempts, and what the ingestion asks of any
store.

* `InMemoryDeliveryStore` — a bounded deque, newest first.  Adding to a full
  deque drops the oldest attempt;
* `listAttemptsPage` — the attempts by instant and identifier, newest first, from
  a keyset on;
* `DeliveryStore` — `add` over any state, raising nothing but the store error.
-/

namespace WebhookMonitor

open Python

/-! ## The in-memory store -/

/-- Only the newest elements of a bounded deque matter to what is kept of it. -/
theorem take_cons_take {α : Type} (a : α) (l : List α) (n : ℕ) :
    (a :: l.take n).take n = (a :: l).take n := by
  cases n with
  | zero => rfl
  | succ n =>
      rw [List.take_succ_cons, List.take_succ_cons, List.take_take,
        Nat.min_eq_left (Nat.le_succ n)]

/-- `DeliveryAttemptKeyset`. -/
structure DeliveryAttemptKeyset where
  receivedAt : AwareDatetime
  attemptId : UUID

/-- The order of the listing: by instant, then by identifier. -/
def DeliveryAttemptKeyset.key (k : DeliveryAttemptKeyset) : ℤ ×ₗ UUID :=
  toLex (k.receivedAt.instant, k.attemptId)

/-- The place of an attempt in the listing. -/
def DeliveryAttempt.keyset (attempt : DeliveryAttempt) : DeliveryAttemptKeyset :=
  ⟨attempt.receivedAt, attempt.attemptId⟩

/-- `InMemoryDeliveryStore`: a deque of at most `maxEvents` attempts. -/
structure InMemoryDeliveryStore where
  maxEvents : ℕ
  attempts : List DeliveryAttempt
  maxEvents_pos : 0 < maxEvents
  bounded : attempts.length ≤ maxEvents

namespace InMemoryDeliveryStore

/-- A new store. -/
def empty (maxEvents : ℕ) (pos : 0 < maxEvents) : InMemoryDeliveryStore :=
  ⟨maxEvents, [], pos, Nat.zero_le _⟩

/-- `self._attempts.appendleft(attempt)`. -/
def add (store : InMemoryDeliveryStore) (attempt : DeliveryAttempt) : InMemoryDeliveryStore :=
  { store with
    attempts := (attempt :: store.attempts).take store.maxEvents
    bounded := List.length_take_le _ _ }

/-- `list_recent`: the deque as it stands. -/
def listRecent (store : InMemoryDeliveryStore) : List DeliveryAttempt := store.attempts

/-- `list_attempts_page`: `sorted(…, reverse=True)` keeps the order of equal keys. -/
def listAttemptsPage (store : InMemoryDeliveryStore) (limit : ℕ)
    (after : Option DeliveryAttemptKeyset) : List DeliveryAttempt :=
  let orderedAttempts :=
    store.attempts.mergeSort fun a b => decide (b.keyset.key ≤ a.keyset.key)
  let orderedAttempts := match after with
    | none => orderedAttempts
    | some k => orderedAttempts.filter fun a => decide (a.keyset.key < k.key)
  orderedAttempts.take limit

/-- `get_attempt`. -/
def getAttempt (store : InMemoryDeliveryStore) (attemptId : UUID) : Option DeliveryAttempt :=
  store.attempts.find? fun attempt => attempt.attemptId = attemptId

@[simp] theorem add_attempts (store : InMemoryDeliveryStore) (attempt : DeliveryAttempt) :
    (store.add attempt).attempts = (attempt :: store.attempts).take store.maxEvents := rfl

@[simp] theorem add_maxEvents (store : InMemoryDeliveryStore) (attempt : DeliveryAttempt) :
    (store.add attempt).maxEvents = store.maxEvents := rfl

/-- The added attempt is the newest. -/
theorem head?_add (store : InMemoryDeliveryStore) (attempt : DeliveryAttempt) :
    (store.add attempt).attempts.head? = some attempt := by
  obtain ⟨n, hn⟩ := Nat.exists_eq_succ_of_ne_zero (Nat.ne_of_gt store.maxEvents_pos)
  rw [add_attempts, hn, List.take_succ_cons, List.head?_cons]

/-- Nothing but the added attempt enters the store. -/
theorem mem_add {store : InMemoryDeliveryStore} {attempt stored : DeliveryAttempt}
    (mem : stored ∈ (store.add attempt).attempts) : stored = attempt ∨ stored ∈ store.attempts :=
  List.mem_cons.mp (List.mem_of_mem_take mem)

/-- What a page lists is in the store. -/
theorem mem_of_mem_listAttemptsPage {store : InMemoryDeliveryStore} {limit : ℕ}
    {after : Option DeliveryAttemptKeyset} {attempt : DeliveryAttempt}
    (mem : attempt ∈ store.listAttemptsPage limit after) : attempt ∈ store.attempts := by
  have ordered := List.mem_of_mem_take mem
  cases after with
  | none => exact List.mem_mergeSort.mp ordered
  | some k => exact List.mem_mergeSort.mp (List.mem_of_mem_filter ordered)

end InMemoryDeliveryStore

/-! ## The protocol -/

/-- `DeliveryStore`, as far as the ingestion uses it: `add` over the state of the
store. -/
structure DeliveryStore (σ : Type) where
  add : DeliveryAttempt → σ → Except AppError Unit × σ
  raises : ∀ attempt s e, (add attempt s).1 = .error e → ∃ message, e = .deliveryStore message

/-- The in-memory store never raises. -/
def inMemoryDeliveryStore : DeliveryStore InMemoryDeliveryStore where
  add attempt store := (.ok (), store.add attempt)
  raises _ _ _ raised := by cases raised

end WebhookMonitor
