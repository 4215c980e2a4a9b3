import WebhookMonitor.GitHub.LinkHeader

/-!
# Link headers written and read

A header in GitHub's form lists its links as `<target>; rel="relation"`, with commas
between them.  `extract_next_cursor` splits at every comma and semicolon before it
looks at the brackets, and both are legal in a URI.  So it does not see a link with
one of them in its target (`targetsIn_renderLinks`), and goes on to the next one.

`extracts_iff` says when it still returns the cursor of the first `next` link.
-/

namespace WebhookMonitor

open Python

/-! ## Links -/

/-- The characters of a token besides letters and digits (RFC 9110, section 5.6.2). -/
def tokenMarks : List ℕ :=
  [0x21, 0x23, 0x24, 0x25, 0x26, 0x27, 0x2A, 0x2B, 0x2D, 0x2E, 0x5E, 0x5F, 0x60, 0x7C, 0x7E]

def isTokenChar (c : CodePoint) : Bool :=
  isAsciiAlpha c || isDigit c || tokenMarks.contains c.val

/-- A link: a target that can stand in angle brackets, and a relation. -/
structure Link where
  target : Str
  relation : Str
  bracketable : CodePoint.ofChar '<' ∉ target ∧ CodePoint.ofChar '>' ∉ target
  token : relation ≠ [] ∧ ∀ c ∈ relation, isTokenChar c = true

/-- `<target>; rel="relation"`. -/
def Link.render (link : Link) : Str :=
  CodePoint.ofChar '<' :: (link.target ++ CodePoint.ofChar '>' :: CodePoint.ofChar ';' ::
    (Str.lit " rel=\"" ++ link.relation ++ Str.lit "\""))

/-- The links of a header, joined by `", "`. -/
def renderLinks (links : List Link) : Str := (Str.lit ", ").intercalate (links.map Link.render)

/-- The link leads to the next page. -/
def Link.isNext (link : Link) : Bool := link.relation = Str.lit "next"

/-- The target holds none of the separators. -/
def Link.isWhole (link : Link) : Bool :=
  !link.target.contains (CodePoint.ofChar ',') && !link.target.contains (CodePoint.ofChar ';')

/-! ## What the splitting does -/

/-- The characters that give a header its structure. -/
def separators : List CodePoint :=
  [CodePoint.ofChar ',', CodePoint.ofChar ';', CodePoint.ofChar '<', CodePoint.ofChar '>']

theorem mem_separators {c : CodePoint} : c ∈ separators ↔ c = CodePoint.ofChar ',' ∨
    c = CodePoint.ofChar ';' ∨ c = CodePoint.ofChar '<' ∨ c = CodePoint.ofChar '>' := by
  simp only [separators, List.mem_cons, List.not_mem_nil, or_false]

theorem not_isTokenChar {c : CodePoint} (separator : c ∈ separators) : isTokenChar c = false := by
  rcases mem_separators.mp separator with rfl | rfl | rfl | rfl <;> decide

/-- The section of a part, before its first semicolon. -/
def sectionOf (linkPart : Str) : Str := (linkPart.splitOn (CodePoint.ofChar ';')).headD []

theorem sectionOf_subset (linkPart : Str) : sectionOf linkPart ⊆ linkPart := by
  have mem : sectionOf linkPart ∈ linkPart.splitOn (CodePoint.ofChar ';') := by
    rw [sectionOf]
    cases pieces : linkPart.splitOn (CodePoint.ofChar ';') with
    | nil => exact absurd pieces (List.splitOn_ne_nil _ _)
    | cons piece rest => exact List.mem_cons_self
  exact subset_of_mem_splitOn mem

/-- A part without both brackets in its section has no target. -/
theorem nextTarget_eq_none {linkPart : Str}
    (unbracketed : CodePoint.ofChar '<' ∉ sectionOf linkPart ∨
      CodePoint.ofChar '>' ∉ sectionOf linkPart) : nextTarget linkPart = none := by
  rw [nextTarget]
  refine if_neg fun taken => ?_
  obtain ⟨taken, closes⟩ := Bool.and_eq_true_iff.mp taken
  obtain ⟨-, opens⟩ := Bool.and_eq_true_iff.mp taken
  have opened : CodePoint.ofChar '<' ∈ strip (sectionOf linkPart) :=
    (List.isPrefixOf_iff_prefix.mp opens).subset (by decide)
  have closed : CodePoint.ofChar '>' ∈ strip (sectionOf linkPart) :=
    (List.isSuffixOf_iff_suffix.mp closes).subset (by decide)
  rcases unbracketed with missing | missing
  · exact missing (strip_subset _ opened)
  · exact missing (strip_subset _ closed)

/-- The targets a client finds in a text. -/
def targetsIn (text : Str) : List Str :=
  (text.splitOn (CodePoint.ofChar ',')).filterMap nextTarget

theorem targetsIn_append (text later : Str) :
    targetsIn (text ++ CodePoint.ofChar ',' :: later) = targetsIn text ++ targetsIn later := by
  rw [targetsIn, List.splitOn_append_cons_self, List.filterMap_append]
  rfl

/-- No target where the opening bracket is missing. -/
theorem targetsIn_eq_nil {text : Str} (noOpen : CodePoint.ofChar '<' ∉ text) :
    targetsIn text = [] := by
  rw [targetsIn, List.filterMap_eq_nil_iff]
  intro linkPart mem
  exact nextTarget_eq_none
    (.inl fun opened => noOpen (subset_of_mem_splitOn mem (sectionOf_subset linkPart opened)))

/-- What is stripped from a bracketed text is the space before it. -/
theorem strip_bracketed {space target : Str} (blank : space = [] ∨ space = [CodePoint.ofChar ' ']) :
    strip (space ++ CodePoint.ofChar '<' :: (target ++ [CodePoint.ofChar '>'])) =
      CodePoint.ofChar '<' :: (target ++ [CodePoint.ofChar '>']) := by
  have inner : strip (CodePoint.ofChar '<' :: (target ++ [CodePoint.ofChar '>'])) =
      CodePoint.ofChar '<' :: (target ++ [CodePoint.ofChar '>']) := by
    have opens : isSpace (CodePoint.ofChar '<') = false := by decide
    have closes : isSpace (CodePoint.ofChar '>') = false := by decide
    rw [strip, stripOf, List.dropWhile_cons_of_neg (by rw [opens]; exact Bool.false_ne_true),
      ← List.cons_append, List.rdropWhile_concat_neg _ _ _
        (by rw [closes]; exact Bool.false_ne_true)]
  rcases blank with rfl | rfl
  · exact inner
  · rw [strip, stripOf, List.singleton_append,
      List.dropWhile_cons_of_pos (show isSpace (CodePoint.ofChar ' ') = true by decide)]
    exact inner

/-! ## One link -/

namespace Link

variable (link : Link)

/-- `rel="relation"`, as it stands after the semicolon. -/
def parameter : Str := Str.lit " rel=\"" ++ link.relation ++ Str.lit "\""

theorem render_eq : link.render = CodePoint.ofChar '<' :: (link.target ++ CodePoint.ofChar '>' ::
    CodePoint.ofChar ';' :: link.parameter) := rfl

theorem not_mem_parameter {c : CodePoint} (separator : c ∈ separators) : c ∉ link.parameter := by
  have literals : c ∉ Str.lit " rel=\"" ∧ c ∉ Str.lit "\"" := by
    rcases mem_separators.mp separator with rfl | rfl | rfl | rfl <;> decide
  have foreign := not_isTokenChar separator
  intro mem
  rcases List.mem_append.mp mem with mem | mem
  · rcases List.mem_append.mp mem with mem | mem
    · exact literals.1 mem
    · rw [link.token.2 c mem] at foreign
      cases foreign
  · exact literals.2 mem

/-- Its white space goes, the quotes stay. -/
theorem strip_parameter :
    strip link.parameter = Str.lit "rel=\"" ++ link.relation ++ Str.lit "\"" := by
  have first : isSpace (CodePoint.ofChar 'r') = false := by decide
  have last : isSpace (CodePoint.ofChar '"') = false := by decide
  have split : link.parameter = CodePoint.ofChar ' ' :: CodePoint.ofChar 'r' ::
      ((Str.lit "el=\"" ++ link.relation) ++ [CodePoint.ofChar '"']) := rfl
  rw [split, strip, stripOf,
    List.dropWhile_cons_of_pos (show isSpace (CodePoint.ofChar ' ') = true by decide),
    List.dropWhile_cons_of_neg (by rw [first]; exact Bool.false_ne_true), ← List.cons_append,
    List.rdropWhile_concat_neg _ _ _ (by rw [last]; exact Bool.false_ne_true)]
  rfl

theorem strip_parameter_iff :
    strip link.parameter = Str.lit "rel=\"next\"" ↔ link.isNext = true := by
  rw [strip_parameter, isNext, decide_eq_true_iff]
  have next :
      Str.lit "rel=\"next\"" = Str.lit "rel=\"" ++ Str.lit "next" ++ Str.lit "\"" := by decide
  rw [next]
  constructor
  · intro same
    exact List.append_cancel_left (List.append_cancel_right same)
  · intro same
    rw [same]

variable {link} {space : Str}

theorem not_mem_blank (blank : space = [] ∨ space = [CodePoint.ofChar ' ']) {c : CodePoint}
    (separator : c ∈ separators) : c ∉ space := by
  rcases blank with rfl | rfl
  · exact List.not_mem_nil
  · rcases mem_separators.mp separator with rfl | rfl | rfl | rfl <;> decide

theorem isWhole_of_comma (comma : CodePoint.ofChar ',' ∈ link.target) : link.isWhole = false := by
  rw [isWhole, List.contains_iff_mem.mpr comma]
  rfl

theorem isWhole_of_semicolon (semicolon : CodePoint.ofChar ';' ∈ link.target) :
    link.isWhole = false := by
  rw [isWhole, List.contains_iff_mem.mpr semicolon]
  exact Bool.and_false _

theorem isWhole_of_not_mem (comma : CodePoint.ofChar ',' ∉ link.target)
    (semicolon : CodePoint.ofChar ';' ∉ link.target) : link.isWhole = true := by
  rw [isWhole, Bool.and_eq_true, Bool.not_eq_true', Bool.not_eq_true']
  constructor
  · rw [← Bool.not_eq_true, List.contains_iff_mem]
    exact comma
  · rw [← Bool.not_eq_true, List.contains_iff_mem]
    exact semicolon

/-- What stands before the first of two halves of a target has no closing bracket. -/
theorem not_closed_before (blank : space = [] ∨ space = [CodePoint.ofChar ' '])
    {before : Str} (part : before ⊆ link.target) :
    CodePoint.ofChar '>' ∉ space ++ CodePoint.ofChar '<' :: before := by
  intro mem
  rcases List.mem_append.mp mem with mem | mem
  · exact not_mem_blank blank (by decide) mem
  · rcases List.mem_cons.mp mem with same | mem
    · exact absurd same (by decide)
    · exact link.bracketable.2 (part mem)

/-- A comma in the target cuts the link in pieces, and every piece lacks one of the
brackets. -/
theorem targetsIn_of_comma (blank : space = [] ∨ space = [CodePoint.ofChar ' '])
    (comma : CodePoint.ofChar ',' ∈ link.target) : targetsIn (space ++ link.render) = [] := by
  obtain ⟨before, after, split⟩ := List.append_of_mem comma
  have cut : space ++ link.render = (space ++ CodePoint.ofChar '<' :: before) ++
      CodePoint.ofChar ',' :: (after ++ CodePoint.ofChar '>' :: CodePoint.ofChar ';' ::
        link.parameter) := by
    rw [render_eq, split]
    simp only [List.append_assoc, List.cons_append]
  have first : before ⊆ link.target := by
    rw [split]
    exact List.subset_append_left _ _
  have second : ∀ c ∈ after, c ∈ link.target := by
    intro c mem
    rw [split]
    exact List.mem_append_right _ (List.mem_cons_of_mem _ mem)
  rw [cut, targetsIn_append, List.append_eq_nil_iff]
  constructor
  · rw [targetsIn, List.filterMap_eq_nil_iff]
    intro linkPart mem
    refine nextTarget_eq_none (.inr fun closed => ?_)
    exact not_closed_before blank first
      (subset_of_mem_splitOn mem (sectionOf_subset linkPart closed))
  · refine targetsIn_eq_nil fun opened => ?_
    rcases List.mem_append.mp opened with mem | mem
    · exact link.bracketable.1 (second _ mem)
    · simp only [List.mem_cons] at mem
      rcases mem with same | same | mem
      · exact absurd same (by decide)
      · exact absurd same (by decide)
      · exact link.not_mem_parameter (by decide) mem

/-- The commas of a rendered link are those of its target. -/
theorem comma_not_mem_render (blank : space = [] ∨ space = [CodePoint.ofChar ' '])
    (comma : CodePoint.ofChar ',' ∉ link.target) :
    CodePoint.ofChar ',' ∉ space ++ link.render := by
  rw [render_eq]
  intro mem
  rcases List.mem_append.mp mem with mem | mem
  · exact not_mem_blank blank (by decide) mem
  · rcases List.mem_cons.mp mem with same | mem
    · exact absurd same (by decide)
    · rcases List.mem_append.mp mem with mem | mem
      · exact comma mem
      · simp only [List.mem_cons] at mem
        rcases mem with same | same | mem
        · exact absurd same (by decide)
        · exact absurd same (by decide)
        · exact link.not_mem_parameter (by decide) mem

/-- With a semicolon in the target the section ends before the closing bracket. -/
theorem nextTarget_of_semicolon (blank : space = [] ∨ space = [CodePoint.ofChar ' '])
    (semicolon : CodePoint.ofChar ';' ∈ link.target) :
    nextTarget (space ++ link.render) = none := by
  obtain ⟨before, after, split⟩ := List.append_of_mem semicolon
  have cut : space ++ link.render = (space ++ CodePoint.ofChar '<' :: before) ++
      CodePoint.ofChar ';' :: (after ++ CodePoint.ofChar '>' :: CodePoint.ofChar ';' ::
        link.parameter) := by
    rw [render_eq, split]
    simp only [List.append_assoc, List.cons_append]
  have first : before ⊆ link.target := by
    rw [split]
    exact List.subset_append_left _ _
  have early : sectionOf (space ++ link.render) ⊆ space ++ CodePoint.ofChar '<' :: before := by
    rw [sectionOf, cut, List.splitOn_append_cons_self]
    have part := sectionOf_subset (space ++ CodePoint.ofChar '<' :: before)
    rw [sectionOf] at part
    cases pieces : (space ++ CodePoint.ofChar '<' :: before).splitOn (CodePoint.ofChar ';') with
    | nil => exact absurd pieces (List.splitOn_ne_nil _ _)
    | cons piece rest =>
        rw [pieces] at part
        exact part
  exact nextTarget_eq_none (.inr fun closed => not_closed_before blank first (early closed))

/-- Without one, the section is the target in its brackets and the parameter is the
one part after it. -/
theorem splitOn_render (blank : space = [] ∨ space = [CodePoint.ofChar ' '])
    (semicolon : CodePoint.ofChar ';' ∉ link.target) :
    (space ++ link.render).splitOn (CodePoint.ofChar ';') =
      [space ++ CodePoint.ofChar '<' :: (link.target ++ [CodePoint.ofChar '>']),
        link.parameter] := by
  have bracketed : space ++ link.render = (space ++ CodePoint.ofChar '<' ::
      (link.target ++ [CodePoint.ofChar '>'])) ++ CodePoint.ofChar ';' :: link.parameter := by
    rw [render_eq]
    simp only [List.append_assoc, List.cons_append, List.nil_append]
  have sectioned : (space ++ CodePoint.ofChar '<' :: (link.target ++
      [CodePoint.ofChar '>'])).splitOn (CodePoint.ofChar ';') =
      [space ++ CodePoint.ofChar '<' :: (link.target ++ [CodePoint.ofChar '>'])] := by
    refine List.splitOn_eq_singleton fun mem => ?_
    rcases List.mem_append.mp mem with mem | mem
    · exact not_mem_blank blank (by decide) mem
    · rcases List.mem_cons.mp mem with same | mem
      · exact absurd same (by decide)
      · rcases List.mem_append.mp mem with mem | mem
        · exact semicolon mem
        · exact absurd (List.mem_singleton.mp mem) (by decide)
  rw [bracketed, List.splitOn_append_cons_self, sectioned,
    List.splitOn_eq_singleton (link.not_mem_parameter (by decide)), List.singleton_append]

theorem nextTarget_of_not_semicolon (blank : space = [] ∨ space = [CodePoint.ofChar ' '])
    (semicolon : CodePoint.ofChar ';' ∉ link.target) :
    nextTarget (space ++ link.render) = if link.isNext then some link.target else none := by
  have related : ([link.parameter].any fun part => strip part = Str.lit "rel=\"next\"") =
      link.isNext := by
    rw [List.any_cons, List.any_nil, Bool.or_false, Bool.eq_iff_iff, decide_eq_true_iff]
    exact link.strip_parameter_iff
  have closes : endsWith (CodePoint.ofChar '<' :: (link.target ++ [CodePoint.ofChar '>'])) ">" =
      true := List.isSuffixOf_iff_suffix.mpr ⟨CodePoint.ofChar '<' :: link.target, rfl⟩
  have opens : startsWith (CodePoint.ofChar '<' :: (link.target ++ [CodePoint.ofChar '>'])) "<" =
      true := List.isPrefixOf_iff_prefix.mpr ⟨link.target ++ [CodePoint.ofChar '>'], rfl⟩
  rw [nextTarget, splitOn_render blank semicolon, List.tail_cons, List.headD_cons,
    strip_bracketed blank, related, opens, closes, Bool.and_true, Bool.and_true,
    List.drop_one, List.tail_cons, List.dropLast_concat]

/-- The target of a link is found when it is whole and the link leads to the next
page. -/
theorem targetsIn_render (blank : space = [] ∨ space = [CodePoint.ofChar ' ']) :
    targetsIn (space ++ link.render) =
      if link.isNext && link.isWhole then [link.target] else [] := by
  by_cases comma : CodePoint.ofChar ',' ∈ link.target
  · rw [targetsIn_of_comma blank comma, isWhole_of_comma comma, Bool.and_false,
      if_neg Bool.false_ne_true]
  -- without a comma the link is one piece
  rw [targetsIn, List.splitOn_eq_singleton (comma_not_mem_render blank comma)]
  by_cases semicolon : CodePoint.ofChar ';' ∈ link.target
  · rw [isWhole_of_semicolon semicolon, Bool.and_false, if_neg Bool.false_ne_true,
      List.filterMap_cons, nextTarget_of_semicolon blank semicolon, List.filterMap_nil]
  · rw [isWhole_of_not_mem comma semicolon, Bool.and_true, List.filterMap_cons,
      nextTarget_of_not_semicolon blank semicolon]
    cases link.isNext with
    | true => rfl
    | false => rfl

end Link

/-! ## The header -/

/-- The link is the next one, and the client sees it. -/
def Link.isSeen (link : Link) : Bool := link.isNext && link.isWhole

theorem renderLinks_cons_cons (link other : Link) (rest : List Link) :
    renderLinks (link :: other :: rest) =
      link.render ++ CodePoint.ofChar ',' ::
        ([CodePoint.ofChar ' '] ++ renderLinks (other :: rest)) := by
  rw [renderLinks, List.map_cons, List.map_cons, List.intercalate_cons_cons, List.append_assoc]
  rfl

/-- The targets in a header are those of the links the client sees. -/
theorem targetsIn_renderLinks {space : Str} (blank : space = [] ∨ space = [CodePoint.ofChar ' '])
    {links : List Link} (nonempty : links ≠ []) :
    targetsIn (space ++ renderLinks links) = (links.filter Link.isSeen).map Link.target := by
  induction links generalizing space with
  | nil => exact absurd rfl nonempty
  | cons link rest ih =>
      have one := @Link.targetsIn_render link space blank
      rw [← Link.isSeen] at one
      have here : (if link.isSeen = true then [link.target] else []) =
          ([link].filter Link.isSeen).map Link.target := by
        cases seen : link.isSeen <;> simp [seen]
      cases rest with
      | nil =>
          have single : renderLinks [link] = link.render := List.intercalate_singleton
          rw [single, one, here]
      | cons other rest =>
          rw [renderLinks_cons_cons, ← List.append_assoc, targetsIn_append, one,
            ih (.inr rfl) (List.cons_ne_nil _ _), here, ← List.map_append, ← List.filter_append]
          rfl

/-- The client reads the first link it sees. -/
theorem headerTarget_renderLinks {header : HeaderText} {links : List Link}
    (rendered : header.val = renderLinks links) :
    headerTarget (some header) = (links.find? Link.isSeen).map Link.target := by
  have targets : targetsIn header.val = (links.filter Link.isSeen).map Link.target := by
    rw [rendered]
    by_cases empty : links = []
    · rw [empty]
      have nothing : targetsIn [] = [] := targetsIn_eq_nil List.not_mem_nil
      exact nothing
    · exact targetsIn_renderLinks (.inl rfl) empty
  rw [headerTarget, Option.bind_some]
  rw [targetsIn] at targets
  rw [targets, List.head?_map, List.head?_filter]

/-! ## The cursor of the first next link -/

/-- The first non-empty `cursor` parameter of a target on the expected path of the
API. -/
def cursorIn (expectedPath target : Str) : Option Str :=
  (urlsplit target).bind fun parsed =>
    if parsed.scheme = Str.lit "https" ∧ parsed.netloc = Str.lit "api.github.com" ∧
        parsed.path = expectedPath then
      (queryValues parsed.query "cursor").head?
    else none

/-- The cursor the first next link leads to. -/
def linkedCursor (expectedPath : Str) (links : List Link) : Option Str :=
  (links.find? Link.isNext).bind fun link => cursorIn expectedPath link.target

/-- What the client makes of a target without a semicolon. -/
theorem cursorOfTarget_eq_ok {expectedPath target : Str} {cursor : Option Str}
    (plain : CodePoint.ofChar ';' ∉ target) :
    cursorOfTarget expectedPath target = .ok cursor ↔
      (urlsplit target).isSome = true ∧ cursorIn expectedPath target = cursor := by
  rw [cursorOfTarget, cursorIn, urlparse_eq_urlsplit plain]
  cases urlsplit target with
  | none =>
      constructor
      · intro extracted
        cases extracted
      · rintro ⟨parsed, -⟩
        cases parsed
  | some parsed =>
      rw [Option.bind_some]
      dsimp only
      by_cases here : parsed.scheme = Str.lit "https" ∧ parsed.netloc = Str.lit "api.github.com" ∧
          parsed.path = expectedPath
      · rw [if_pos here, if_neg (by tauto), Except.ok.injEq, Option.isSome_some, eq_self, true_and]
      · rw [if_neg here, if_pos (by tauto), Except.ok.injEq, Option.isSome_some, eq_self, true_and]

theorem Link.not_mem_of_isSeen {link : Link} (seen : link.isSeen = true) :
    CodePoint.ofChar ';' ∉ link.target := by
  obtain ⟨-, whole⟩ := Bool.and_eq_true_iff.mp seen
  obtain ⟨-, semicolon⟩ := Bool.and_eq_true_iff.mp whole
  intro mem
  rw [List.contains_iff_mem.mpr mem] at semicolon
  cases semicolon

/-- The link the client reads leads where the first next link leads. -/
def ReadsFirst (expectedPath : Str) (links : List Link) : Prop :=
  ∀ first, links.find? Link.isNext = some first →
    (∀ seen, links.find? Link.isSeen = some seen → (urlsplit seen.target).isSome = true ∧
      cursorIn expectedPath seen.target = cursorIn expectedPath first.target) ∧
    (links.find? Link.isSeen = none → cursorIn expectedPath first.target = none)

/-- When the first next link is whole, it is the one the client reads. -/
theorem readsFirst_of_isWhole {expectedPath : Str} {links : List Link}
    (whole : ∀ first, links.find? Link.isNext = some first →
      first.isWhole = true ∧ (urlsplit first.target).isSome = true) :
    ReadsFirst expectedPath links := by
  intro first found
  obtain ⟨isWhole, parsed⟩ := whole first found
  have seen : links.find? Link.isSeen = some first := by
    rw [List.find?_eq_some_iff_append] at found ⊢
    obtain ⟨next, before, after, split, others⟩ := found
    refine ⟨?_, before, after, split, fun other mem => ?_⟩
    · rw [Link.isSeen, next, isWhole]
      rfl
    · have := others other mem
      simp only [Bool.not_eq_true'] at this ⊢
      rw [Link.isSeen, this]
      rfl
  refine ⟨fun link same => ?_, fun none => ?_⟩
  · obtain rfl : first = link := Option.some.inj (seen.symm.trans same)
    exact ⟨parsed, rfl⟩
  · rw [seen] at none
    cases none

/-- The client extracts the cursor of the first next link exactly when the link it
reads leads there: the links with a comma or a semicolon in their target it does not
see, and a target that is no URL it does not survive. -/
theorem extracts_iff {links : List Link} {header : HeaderText}
    (rendered : header.val = renderLinks links) (expectedPath : Str) :
    extractNextCursor (some header) expectedPath = .ok (linkedCursor expectedPath links) ↔
      ReadsFirst expectedPath links := by
  rw [extractNextCursor_eq, headerTarget_renderLinks rendered, linkedCursor, ReadsFirst]
  cases seen : links.find? Link.isSeen with
  -- the client sees no next link
  | none =>
      rw [Option.map_none, Option.elim_none]
      cases next : links.find? Link.isNext with
      | none => exact ⟨fun _ _ found => (by cases found), fun _ => rfl⟩
      | some first =>
          rw [Option.bind_some]
          constructor
          · intro same first' found
            cases found
            exact ⟨nofun, fun _ => (Except.ok.inj same).symm⟩
          · intro reads
            rw [(reads first rfl).2 rfl]
  | some link =>
      -- a link it sees is a next link
      have isSeen := List.find?_some seen
      rw [Option.map_some, Option.elim_some, cursorOfTarget_eq_ok (Link.not_mem_of_isSeen isSeen)]
      cases next : links.find? Link.isNext with
      | none =>
          have isNext := List.find?_eq_none.mp next link (List.mem_of_find?_eq_some seen)
          exact absurd (Bool.and_eq_true_iff.mp isSeen).1 isNext
      | some first =>
          rw [Option.bind_some]
          constructor
          · rintro reads first' found
            cases found
            refine ⟨fun link' same => ?_, nofun⟩
            cases same
            exact reads
          · exact fun reads => (reads first rfl).1 link rfl

/-- A next link of the listing at `/p`. -/
def sampleLink (query : Str) (bracketable : CodePoint.ofChar '<' ∉ query ∧
    CodePoint.ofChar '>' ∉ query) : Link where
  target := Str.lit "https://api.github.com/p" ++ query
  relation := "next"
  bracketable := by
    constructor <;> rw [List.mem_append]
    · exact not_or.mpr ⟨by decide, bracketable.1⟩
    · exact not_or.mpr ⟨by decide, bracketable.2⟩
  token := by
    refine ⟨by decide, fun c mem => ?_⟩
    have letters : c = CodePoint.ofChar 'n' ∨ c = CodePoint.ofChar 'e' ∨ c = CodePoint.ofChar 'x' ∨
        c = CodePoint.ofChar 't' := by simpa [Str.lit] using mem
    rcases letters with rfl | rfl | rfl | rfl <;> decide

def plainLink : Link := sampleLink "?cursor=c" (by decide)

/-- A next link whose cursor holds a comma. -/
def commaLink : Link := sampleLink "?cursor=a,b" (by decide)

/-- The header of one link. -/
def headerOf (link : Link) (scalar : isScalar (renderLinks [link]) = true) : HeaderText :=
  ⟨renderLinks [link], scalar⟩

/-- The cursor of the plain link is read. -/
theorem extracts_iff_sample :
    extractNextCursor (some (headerOf plainLink (by decide))) "/p" =
      .ok (linkedCursor "/p" [plainLink]) := by
  refine (extracts_iff rfl "/p").mpr (readsFirst_of_isWhole fun first found => ?_)
  have next : [plainLink].find? Link.isNext = some plainLink := rfl
  obtain rfl : plainLink = first := Option.some.inj (next.symm.trans found)
  exact ⟨by decide, by decide⟩

/-- Where the link says `a,b` the client returns no cursor. -/
theorem commaLink_unseen :
    extractNextCursor (some (headerOf commaLink (by decide))) "/p" ≠
      .ok (linkedCursor "/p" [commaLink]) := by
  decide +kernel

end WebhookMonitor
