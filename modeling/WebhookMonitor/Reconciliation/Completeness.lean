import WebhookMonitor.GitHub.LinkHeader
import WebhookMonitor.Reconciliation.Search

/-!
# Whether a complete search has seen the whole history

A search is reported complete when the client extracts no cursor from the last
page.  The client extracts none as well when the page announces a next one that
it will not follow, or whose entry its splitting at `,` and `;` takes apart.

* `announcesNext` — whether a `Link` header has an entry with `rel="next"`, read
  with its targets and quoted strings in one piece;
* `followsNext` — whether the entry the client picks leads to a next page;
* `completesHonestly_iff` — a search that reports its end tells the truth exactly
  when its last page announces no next one or one the client follows.
-/

namespace WebhookMonitor

open Python Interaction

/-! ## Link headers -/

/-- Where a character of a `Link` header stands: between delimiters, in a
`<target>`, in a quoted string, or after a backslash in one. -/
inductive LinkContext where
  | plain
  | target
  | quoted
  | escaped
  deriving DecidableEq, Repr

/-- Where the next character stands. -/
def LinkContext.after : LinkContext → CodePoint → LinkContext
  | .plain, c => if c = '<' then .target else if c = '"' then .quoted else .plain
  | .target, c => if c = '>' then .plain else .target
  | .quoted, c => if c = '"' then .plain else if c = '\\' then .escaped else .quoted
  | .escaped, _ => .quoted

/-- Split at the separators that stand between delimiters. -/
def splitPlain (separator : CodePoint) : LinkContext → Str → List Str
  | _, [] => [[]]
  | context, c :: rest =>
      if context = .plain ∧ c = separator then [] :: splitPlain separator .plain rest
      else match splitPlain separator (context.after c) rest with
        | piece :: pieces => (c :: piece) :: pieces
        | [] => [[c]]

/-- One entry of the header has the parameter `rel="next"`. -/
def hasNextEntry (header : Str) : Bool :=
  (splitPlain ',' .plain header).any fun entry =>
    (splitPlain ';' .plain entry).tail.any fun parameter => strip parameter = Str.lit "rel=\"next\""

/-- The response announces a next page. -/
def announcesNext (link : Option HeaderText) : Bool :=
  link.any fun header => hasNextEntry header.val

/-! ## What the client makes of one -/

/-- The target is on the listing path of the API and carries a cursor. -/
def isFollowable (expectedPath target : Str) : Bool :=
  match urlparse target with
  | some parsed => parsed.scheme = Str.lit "https" && parsed.netloc = Str.lit "api.github.com" &&
      parsed.path = expectedPath && queryValues parsed.query "cursor" ≠ []
  | none => false

/-- The first part the client takes for the next page leads to it. -/
def followsNext (expectedPath : Str) (link : Option HeaderText) : Bool :=
  link.any fun header =>
    ((header.val.splitOn (CodePoint.ofChar ',')).filterMap nextTarget).head?.any
      (isFollowable expectedPath)

/-- A cursor is extracted exactly from a header that leads to a next page. -/
theorem followsNext_eq_of_extractNextCursor {link : Option HeaderText} {expectedPath : Str}
    {cursor : Option Str} (extracted : extractNextCursor link expectedPath = .ok cursor) :
    followsNext expectedPath link = cursor.isSome := by
  have follows :
      followsNext expectedPath link = (headerTarget link).any (isFollowable expectedPath) := by
    cases link <;> rfl
  rw [extractNextCursor_eq] at extracted
  rw [follows]
  cases htarget : headerTarget link with
  | none =>
      rw [htarget] at extracted
      cases extracted
      rfl
  | some target =>
      rw [htarget] at extracted
      rw [Option.elim_some, cursorOfTarget] at extracted
      rw [Option.any_some, isFollowable]
      cases hparse : urlparse target with
      | none => simp [hparse] at extracted
      | some parsed =>
          simp only [hparse] at extracted
          split_ifs at extracted with hforeign
          · cases extracted
            simp only [Option.isSome_none, Bool.and_eq_false_iff, decide_eq_false_iff_not]
            tauto
          · cases extracted
            simp only [not_or, not_not] at hforeign
            obtain ⟨hscheme, hnetloc, hpath⟩ := hforeign
            cases hvalues : queryValues parsed.query "cursor" <;>
              simp [hscheme, hnetloc, hpath, hvalues]

/-- An extracted cursor is not empty and holds no surrogates. -/
theorem extractNextCursor_spec {link : Option HeaderText} {expectedPath cursor : Str}
    (extracted : extractNextCursor link expectedPath = .ok (some cursor)) :
    isScalar cursor = true ∧ cursor ≠ [] := by
  rw [extractNextCursor_eq] at extracted
  cases htarget : headerTarget link with
  | none => simp [htarget] at extracted
  | some target =>
      obtain ⟨header, -, within⟩ := headerTarget_subset htarget
      cases hparse : urlparse target with
      | none => simp [htarget, cursorOfTarget, hparse] at extracted
      | some parsed =>
          simp only [htarget, Option.elim_some, cursorOfTarget, hparse] at extracted
          split_ifs at extracted with hforeign
          · cases extracted
          rw [Except.ok.injEq] at extracted
          exact queryValues_spec
            (isScalar_of_subset (List.Subset.trans (urlparse_query_subset hparse) within)
              header.property)
            (List.mem_of_mem_head? (Option.mem_def.mpr extracted))

/-! ## Complete searches -/

variable {service : GitHubReconciliationService} {attempt : DeliveryAttempt}

/-- If the search is reported complete, the last response it got announces no
next page. -/
def CompletesHonestly (h : History) (result : GitHubReconciliationResult) : Prop :=
  result.searchComplete = true → ∀ l, (listings h).getLast? = some l →
    ∀ response, l.answer = .ok response → announcesNext response.link = false

/-- The page of the last listing is the last page. -/
theorem Searched.last {owner repository : Str} {start : Option Str} {ls : List Listing}
    {pages : List GitHubDeliveryPage}
    (searched : Searched service attempt owner repository start ls pages) {l : Listing}
    (last : ls.getLast? = some l) :
    ∃ page, l.Got service page ∧ cursorAfter start pages = page.nextCursor ∧ pages ≠ [] := by
  have got := List.forall₂_reverse_iff.mpr searched.got
  rw [List.getLast?_eq_head?_reverse] at last
  cases hls : ls.reverse with
  | nil => rw [hls] at last; cases last
  | cons l' rest =>
      rw [hls] at last got
      cases last
      cases hpages : pages.reverse with
      | nil => rw [hpages] at got; cases got
      | cons page rest' =>
          rw [hpages] at got
          cases got with
          | cons first _ =>
              refine ⟨page, first, ?_, ?_⟩
              · rw [cursorAfter, List.getLast?_eq_head?_reverse, hpages]
                rfl
              · rintro rfl
                cases hpages

/-- The cursor of a page is the one extracted from its `Link` header. -/
theorem extractNextCursor_of_got {l : Listing} {page : GitHubDeliveryPage} {response : HttpResponse}
    (got : l.Got service page) (answered : l.answer = .ok response) :
    extractNextCursor response.link l.path = .ok page.nextCursor := by
  rw [Listing.Got, answered, listingOutcome, pageOfResponse] at got
  split_ifs at got with hunavailable hstatus
  split at got
  · split_ifs at got
  · next deliveries _ =>
      cases hextract : extractNextCursor response.link l.path with
      | error e => rw [hextract] at got; cases got
      | ok cursor => rw [hextract] at got; cases got; rfl

/-- **When a complete search tells the truth.**  For every search that returned,
from any cursor: it reports its end honestly if and only if its last response
announces no next page or leads the client to it. -/
theorem completesHonestly_iff {cursor : Option Str} {h : History}
    {result : GitHubReconciliationResult}
    (run : Trace (service.reconcile attempt cursor) h (.ret result)) :
    CompletesHonestly h result ↔
      ∀ l, (listings h).getLast? = some l → ∀ response, l.answer = .ok response →
        announcesNext response.link = false ∨ followsNext l.path response.link = true := by
  obtain ⟨-, -, owner, repository, start, pages, -, -, searched, concludes⟩ :=
    (reconcile_meets service attempt cursor).post_of_trace run rfl
  rw [List.nil_append] at searched
  -- the search is complete exactly when the last response leads nowhere
  have complete : ∀ l, (listings h).getLast? = some l → ∀ response, l.answer = .ok response →
      (result.searchComplete = true ↔ followsNext l.path response.link = false) := by
    intro l last response answered
    obtain ⟨page, got, stands, nonempty⟩ := searched.last last
    rw [followsNext_eq_of_extractNextCursor (extractNextCursor_of_got got answered), ← stands]
    rcases concludes.ending with ⟨complete, -, -, ends⟩ | ⟨incomplete, -, goes_on, -⟩
    · simp [complete, ends]
    · simpa [incomplete, Option.isSome_iff_ne_none] using goes_on nonempty
  constructor
  · intro honest l last response answered
    cases hfollows : followsNext l.path response.link with
    | true => exact .inr rfl
    | false =>
        exact .inl (honest ((complete l last response answered).mpr hfollows) l last response
          answered)
  · intro condition ended l last response answered
    rcases condition l last response answered with silent | follows
    · exact silent
    · rw [(complete l last response answered).mp ended] at follows
      cases follows

/-! ## A search that stops early -/

/-- An empty last page whose `Link` header is `link`. -/
def emptyPage (link : Option HeaderText) : HttpResponse where
  statusCode := 200
  link := link
  retryAfter := none
  xRatelimitRemaining := none
  content := [0x5B, 0x5D]

/-- The next page under the numeric path of the repository. -/
def numericPathLink : HeaderText :=
  ⟨"<https://api.github.com/repositories/1/hooks/3/deliveries?cursor=x>; rel=\"next\"", by decide⟩

/-- A world in which every page is `response`. -/
def answering (response : HttpResponse) : (c : Call) → c.Answer
  | .now => sampleNow
  | .uuid4 => sampleActionId
  | .httpGet .. | .httpPost _ => Except.ok response
  | .appendLeft _ => ()
  | .finalizeEntry _ => Except.error (.recoveryActionNotFound "Recovery action not found")
  | .insert entry => Except.ok entry
  | .updateInitiated .. => Except.ok none
  | .selectState _ => Except.ok none

/-- The run of one search in which every page is `response`. -/
abbrev searchOf (response : HttpResponse) :
    History × Except AppError GitHubReconciliationResult :=
  (onePageService.reconcile sampleAttempt none).run (answering response)

/-- The search is reported complete although its last response announces a next
page. -/
def endsEarly (h : History) (r : Except AppError GitHubReconciliationResult) : Bool :=
  match r, (listings h).getLast? with
  | .ok result, some ⟨_, _, .ok response⟩ => result.searchComplete && announcesNext response.link
  | _, _ => false

theorem not_honest_of_endsEarly {h : History} {r : Except AppError GitHubReconciliationResult}
    (early : endsEarly h r = true) : ∃ result, r = .ok result ∧ ¬ CompletesHonestly h result := by
  unfold endsEarly at early
  split at early
  · next result path cursor response last =>
      obtain ⟨complete, announced⟩ := Bool.and_eq_true_iff.mp early
      refine ⟨result, rfl, fun honest => ?_⟩
      have silent := honest complete _ last response rfl
      rw [announced] at silent
      cases silent
  · cases early

/-- GitHub announces the next page under the numeric path of the repository; the
search stops there and is reported complete. -/
theorem numeric_path_ends_early :
    ∃ h result, Trace (onePageService.reconcile sampleAttempt none) h (.ret result) ∧
      ¬ CompletesHonestly h result := by
  obtain ⟨rest, run, ended⟩ := Program.trace_run (answering (emptyPage (some numericPathLink)))
    (onePageService.reconcile sampleAttempt none)
  have early : endsEarly (searchOf (emptyPage (some numericPathLink))).1
      (searchOf (emptyPage (some numericPathLink))).2 = true := by decide +kernel
  obtain ⟨result, hresult, dishonest⟩ := not_honest_of_endsEarly early
  rw [show Program.run _ _ = searchOf (emptyPage (some numericPathLink)) from rfl] at run ended
  rw [hresult] at ended
  obtain rfl := Program.eq_ret_of_outcome ended
  exact ⟨_, result, run, dishonest⟩

theorem completesHonestly_sample :
    ∃ h result, result.searchComplete = true ∧ (listings h).length = 1 ∧
      (CompletesHonestly h result ↔
        ∀ l, (listings h).getLast? = some l → ∀ response, l.answer = .ok response →
          announcesNext response.link = false ∨ followsNext l.path response.link = true) := by
  obtain ⟨rest, run, ended⟩ := Program.trace_run (answering (emptyPage none))
    (onePageService.reconcile sampleAttempt none)
  rw [show Program.run _ _ = searchOf (emptyPage none) from rfl] at run ended
  have one : (listings (searchOf (emptyPage none)).1).length = 1 := by decide +kernel
  have complete : (searchOf (emptyPage none)).2.toOption.any (·.searchComplete) = true := by
    decide +kernel
  cases hresult : (searchOf (emptyPage none)).2 with
  | error e => rw [hresult] at complete; cases complete
  | ok result =>
      rw [hresult] at complete ended
      obtain rfl := Program.eq_ret_of_outcome ended
      exact ⟨_, result, complete, one, completesHonestly_iff run⟩

end WebhookMonitor
