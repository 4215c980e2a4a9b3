import WebhookMonitor.Effects

/-!
# What a history shows

The calls a service has made so far, with their answers, are its history.  The
statements about the services speak of a history through what it shows: the
pages asked for, the requests submitted, the journal entries stored and the
entries finalized.

A statement that raised stored or finalized nothing; a finalization counts only
when an entry was in fact finalized.
-/

namespace WebhookMonitor

open Python Interaction

abbrev History := List (Event Effects)

/-- A GET of a page of the delivery history. -/
structure Listing where
  path : Str
  cursor : Option Str
  answer : Except HttpClientError HttpResponse

/-- A POST. -/
structure Submission where
  path : Str
  answer : Except HttpClientError HttpResponse

/-- A journal entry that was stored, and what the store returned for it. -/
structure Stored where
  entry : RecoveryAction
  returned : RecoveryAction

def listingOf : Event Effects → Option Listing
  | ⟨.httpGet path _ cursor, answer⟩ => some ⟨path, cursor, answer⟩
  | _ => none

def submissionOf : Event Effects → Option Submission
  | ⟨.httpPost path, answer⟩ => some ⟨path, answer⟩
  | _ => none

def issuedOf : Event Effects → Option UUID
  | ⟨.uuid4, id⟩ => some id
  | _ => none

def storedOf : Event Effects → Option Stored
  | ⟨.appendLeft entry, _⟩ => some ⟨entry, entry⟩
  | ⟨.insert entry, .ok row⟩ => some ⟨entry, row⟩
  | _ => none

def finalizationOf : Event Effects → Option FinalizeRequest
  | ⟨.finalizeEntry request, .ok _⟩ => some request
  | ⟨.updateInitiated request _, .ok (some _)⟩ => some request
  | _ => none

/-- A statement of `finalize` that failed. -/
def faultOf : Event Effects → Option SqlError
  | ⟨.updateInitiated .., .error e⟩ => some e
  | ⟨.selectState _, .error e⟩ => some e
  | _ => none

def listings (h : History) : List Listing := h.filterMap listingOf
def submissions (h : History) : List Submission := h.filterMap submissionOf
def issued (h : History) : List UUID := h.filterMap issuedOf
def stored (h : History) : List Stored := h.filterMap storedOf
def finalizations (h : History) : List FinalizeRequest := h.filterMap finalizationOf
def faults (h : History) : List SqlError := h.filterMap faultOf

section Append

variable (h h' : History)

@[simp] theorem listings_append : listings (h ++ h') = listings h ++ listings h' :=
  List.filterMap_append

@[simp] theorem submissions_append :
    submissions (h ++ h') = submissions h ++ submissions h' := List.filterMap_append

@[simp] theorem issued_append : issued (h ++ h') = issued h ++ issued h' :=
  List.filterMap_append

@[simp] theorem stored_append : stored (h ++ h') = stored h ++ stored h' :=
  List.filterMap_append

@[simp] theorem finalizations_append :
    finalizations (h ++ h') = finalizations h ++ finalizations h' := List.filterMap_append

@[simp] theorem faults_append : faults (h ++ h') = faults h ++ faults h' :=
  List.filterMap_append

end Append

/-- An event that shows nothing of a kind leaves what is shown of it. -/
theorem shown_of_none {β : Type} (shown : Event Effects → Option β) {e : Event Effects}
    (none : shown e = none) (h : History) : (h ++ [e]).filterMap shown = h.filterMap shown := by
  simp [none]

/-- An event that shows something adds it at the end. -/
theorem shown_of_some {β : Type} (shown : Event Effects → Option β) {e : Event Effects} {b : β}
    (some : shown e = some b) (h : History) :
    (h ++ [e]).filterMap shown = h.filterMap shown ++ [b] := by
  simp [some]

/-! ## Stretches of a history that leave the rest alone -/

/-- From `h` to `h'` no page was asked for, nothing submitted and nothing
finalized: what a journal does while it creates an entry. -/
structure SameExchanges (h h' : History) : Prop where
  listings : listings h' = listings h
  submissions : submissions h' = submissions h
  finalizations : finalizations h' = finalizations h
  faults : faults h' = faults h

/-- From `h` to `h'` no page was asked for, nothing submitted and nothing stored:
what a journal does while it finalizes an entry. -/
structure SameEntries (h h' : History) : Prop where
  listings : listings h' = listings h
  submissions : submissions h' = submissions h
  stored : stored h' = stored h

/-- Nothing but pages was asked for. -/
structure OnlyListings (h : History) : Prop where
  submissions : submissions h = []
  issued : issued h = []
  stored : stored h = []
  finalizations : finalizations h = []
  faults : faults h = []

theorem OnlyListings.nil : OnlyListings [] := ⟨rfl, rfl, rfl, rfl, rfl⟩

theorem OnlyListings.snoc {h : History} (only : OnlyListings h) (path : Str) (perPage : ℕ)
    (cursor : Option Str) (answer : Except HttpClientError HttpResponse) :
    OnlyListings (h ++ [⟨.httpGet path perPage cursor, answer⟩]) where
  submissions := (shown_of_none submissionOf rfl h).trans only.submissions
  issued := (shown_of_none issuedOf rfl h).trans only.issued
  stored := (shown_of_none storedOf rfl h).trans only.stored
  finalizations := (shown_of_none finalizationOf rfl h).trans only.finalizations
  faults := (shown_of_none faultOf rfl h).trans only.faults

theorem SameExchanges.refl (h : History) : SameExchanges h h := ⟨rfl, rfl, rfl, rfl⟩

theorem SameExchanges.snoc {h h' : History} (same : SameExchanges h h') {e : Event Effects}
    (listing : listingOf e = none) (submission : submissionOf e = none)
    (finalization : finalizationOf e = none) (fault : faultOf e = none) :
    SameExchanges h (h' ++ [e]) where
  listings := (shown_of_none listingOf listing h').trans same.listings
  submissions := (shown_of_none submissionOf submission h').trans same.submissions
  finalizations := (shown_of_none finalizationOf finalization h').trans same.finalizations
  faults := (shown_of_none faultOf fault h').trans same.faults

theorem SameEntries.refl (h : History) : SameEntries h h := ⟨rfl, rfl, rfl⟩

theorem SameEntries.snoc {h h' : History} (same : SameEntries h h') {e : Event Effects}
    (listing : listingOf e = none) (submission : submissionOf e = none)
    (stored : storedOf e = none) : SameEntries h (h' ++ [e]) where
  listings := (shown_of_none listingOf listing h').trans same.listings
  submissions := (shown_of_none submissionOf submission h').trans same.submissions
  stored := (shown_of_none storedOf stored h').trans same.stored

end WebhookMonitor
