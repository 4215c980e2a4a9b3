import Mathlib.Data.List.SplitBy
import WebhookMonitor.Python.Json

/-!
# URLs

The parts of `urllib.parse` behind a request path and a `Link` header: `quote`
with no extra safe characters, `urlparse`, and `parse_qs` with its defaults; and
`urljoin` as far as the location of a well-known document needs it.

`urlparse` raises `ValueError` for brackets in the host that do not enclose an
IPv6 address, for text around them, and for a host with characters that compatibility
normalization turns into delimiters; this is `urllib.parse` of Python 3.12.9 and later.
-/

namespace Python

/-! ## Quoting -/

/-- The bytes `quote` leaves alone: letters, digits and `_.-~`. -/
def isUnreserved (b : UInt8) : Bool :=
  let n := b.toNat
  (0x41 ≤ n && n ≤ 0x5A) || (0x61 ≤ n && n ≤ 0x7A) || (0x30 ≤ n && n ≤ 0x39) ||
  n == 0x5F || n == 0x2E || n == 0x2D || n == 0x7E

/-- One hexadecimal digit in upper case. -/
def upperHexDigit (n : ℕ) : CodePoint := codePoint (if n < 10 then 0x30 + n else 0x37 + n)

/-- One byte as `quote` writes it. -/
def quoteByte (b : UInt8) : Str :=
  if isUnreserved b then [codePoint b.toNat]
  else [codePoint 0x25, upperHexDigit (b.toNat / 16), upperHexDigit (b.toNat % 16)]

/-- `quote(s, safe="")`; `none` is `UnicodeEncodeError`. -/
def quote (s : Str) : Option Str := (encodeUtf8 s).map fun bs => bs.flatMap quoteByte

/-- The byte of the two hexadecimal digits a text starts with. -/
def escapeByte : Str → Option UInt8
  | a :: b :: _ =>
      match hexValue a, hexValue b with
      | some x, some y => some (UInt8.ofNat (x * 16 + y))
      | _, _ => none
  | _ => none

/-- The bytes of an ASCII text with its percent escapes undone; `skip` code
points belong to the escape just read. -/
def unquoteFrom : ℕ → Str → Bytes
  | _, [] => []
  | skip + 1, _ :: rest => unquoteFrom skip rest
  | 0, c :: rest =>
      if c = '%' then
        match escapeByte rest with
        | some b => b :: unquoteFrom 2 rest
        | none => 0x25 :: unquoteFrom 0 rest
      else UInt8.ofNat c.val :: unquoteFrom 0 rest

/-- A run of ASCII text unquoted; other text stays as it is. -/
def unquoteRun (run : Str) : Str :=
  if isAscii run then (decodeUtf8 .replace (unquoteFrom 0 run)).getD [] else run

/-- `unquote(s)`: escapes are undone inside each run of ASCII characters, and
bytes that are not UTF-8 become U+FFFD. -/
def unquote (s : Str) : Str :=
  (s.splitBy fun a b => decide (a.val < 0x80) == decide (b.val < 0x80)).flatMap unquoteRun

theorem unquoteFrom_ne_nil {s : Str} (nonempty : s ≠ []) : unquoteFrom 0 s ≠ [] := by
  cases s with
  | nil => exact absurd rfl nonempty
  | cons c rest =>
      rw [unquoteFrom]
      split_ifs
      · cases escapeByte rest <;> exact List.cons_ne_nil _ _
      · exact List.cons_ne_nil _ _

theorem unquoteRun_spec {run : Str} (scalar : isScalar run = true) :
    isScalar (unquoteRun run) = true ∧ (run ≠ [] → unquoteRun run ≠ []) := by
  rw [unquoteRun]
  split_ifs with hascii
  · obtain ⟨s, hs, scalar', empty⟩ := decodeUtf8_replace (unquoteFrom 0 run)
    rw [hs, Option.getD_some]
    exact ⟨scalar', fun nonempty h => unquoteFrom_ne_nil nonempty (empty h)⟩
  · exact ⟨scalar, id⟩

/-- Unquoting keeps text free of surrogates, and leaves nothing empty. -/
theorem unquote_spec {s : Str} (scalar : isScalar s = true) :
    isScalar (unquote s) = true ∧ (s ≠ [] → unquote s ≠ []) := by
  rw [unquote]
  generalize hruns : (s.splitBy fun a b => decide (a.val < 0x80) == decide (b.val < 0x80)) = runs
  have flat : runs.flatten = s := by
    rw [← hruns]
    exact List.flatten_splitBy _ s
  have each : ∀ run ∈ runs, isScalar run = true := by
    intro run mem
    rw [isScalar_iff] at scalar ⊢
    intro c hc
    exact scalar c (flat ▸ List.mem_flatten.mpr ⟨run, mem, hc⟩)
  constructor
  · rw [isScalar_iff]
    intro c hc
    obtain ⟨run, mem, hc⟩ := List.mem_flatMap.mp hc
    exact isScalar_iff.mp (unquoteRun_spec (each run mem)).1 c hc
  · intro nonempty hnil
    rw [List.flatMap_eq_nil_iff] at hnil
    refine nonempty ?_
    rw [← flat, List.flatten_eq_nil_iff]
    intro run mem
    by_contra hrun
    exact (unquoteRun_spec (each run mem)).2 hrun (hnil run mem)

/-! ## Query strings -/

/-- One field of a query string: dropped when it has no value. -/
def queryField (field : Str) : Option (Str × Str) :=
  let plus := fun s : Str => s.map fun c =>
    if c = CodePoint.ofChar '+' then CodePoint.ofChar ' ' else c
  match splitAt '=' field with
  | (name, some value) =>
      if value = [] then none else some (unquote (plus name), unquote (plus value))
  | (_, none) => none

/-- `parse_qsl(query)`. -/
def parseQsl (query : Str) : List (Str × Str) :=
  (query.splitOn (CodePoint.ofChar '&')).filterMap queryField

/-- `parse_qs(query).get(name)`: the values of a field, in order. -/
def queryValues (query name : Str) : List Str :=
  ((parseQsl query).filter fun f => f.1 = name).map Prod.snd

theorem isScalar_plus {s : Str} (scalar : isScalar s = true) :
    isScalar (s.map fun c => if c = CodePoint.ofChar '+' then CodePoint.ofChar ' ' else c) =
      true := by
  rw [isScalar_iff]
  intro x hx
  obtain ⟨c, hc, rfl⟩ := List.mem_map.mp hx
  split_ifs
  · decide
  · exact isScalar_iff.mp scalar c hc

/-- The values of a field are not empty, and hold surrogates only if the query
does. -/
theorem queryValues_spec {query name value : Str} (scalar : isScalar query = true)
    (mem : value ∈ queryValues query name) : isScalar value = true ∧ value ≠ [] := by
  obtain ⟨⟨name', value'⟩, hfield, rfl⟩ := List.mem_map.mp mem
  obtain ⟨field, hpiece, hread⟩ := List.mem_filterMap.mp (List.mem_filter.mp hfield).1
  rw [queryField] at hread
  have part := List.Subset.trans (splitAt_snd_subset '=' field) (subset_of_mem_splitOn hpiece)
  cases hsplit : splitAt '=' field with
  | mk left right =>
      cases right with
      | none => simp [hsplit] at hread
      | some raw =>
          simp only [hsplit] at hread part
          split_ifs at hread with hempty
          cases hread
          obtain ⟨unquoted, kept⟩ := unquote_spec (isScalar_plus (isScalar_of_subset part scalar))
          exact ⟨unquoted, kept (by simpa using hempty)⟩

/-! ## IP addresses in brackets -/

/-- A decimal octet of an IPv4 address. -/
def isOctet (s : Str) : Bool :=
  s ≠ [] && s.all isDigit && s.length ≤ 3 &&
    (s = Str.lit "0" || s.head? ≠ some (CodePoint.ofChar '0')) &&
    ofDigits 10 (s.filterMap digitValue) ≤ 255

/-- `IPv4Address(s)` does not raise. -/
def isIPv4 (s : Str) : Bool :=
  let octets := s.splitOn (CodePoint.ofChar '.')
  octets.length = 4 && octets.all isOctet

/-- A group of an IPv6 address. -/
def isHextet (s : Str) : Bool :=
  s ≠ [] && s.all (fun c => (hexValue c).isSome) && s.length ≤ 4

/-- The colon-separated parts of an IPv6 address, an IPv4 suffix replaced by the
two groups it stands for. -/
def ipv6Parts (s : Str) : Option (List Str) :=
  let parts := s.splitOn (CodePoint.ofChar ':')
  let last := parts.getLastD []
  if parts.length < 3 then none
  else if CodePoint.ofChar '.' ∈ last then
    if isIPv4 last then some (parts.dropLast ++ [Str.lit "0", Str.lit "0"]) else none
  else some parts

/-- `IPv6Address(s)` does not raise. -/
def isIPv6 (s : Str) : Bool :=
  let parts := splitAt '%' s
  let scopeOk := match parts.2 with
    | none => true
    | some scope => scope ≠ [] && !scope.contains (CodePoint.ofChar '%')
  scopeOk && !s.contains (CodePoint.ofChar '/') &&
    match ipv6Parts parts.1 with
    | none => false
    | some parts =>
        let n := parts.length
        let gaps := (List.range n).filter fun i => 0 < i && i + 1 < n && parts.getD i [] = []
        let first := parts.headD []
        let last := parts.getLastD []
        n ≤ 9 &&
          match gaps with
          | [] => n = 8 && parts.all isHextet
          | [gap] =>
              let high := if first = [] then gap - 1 else gap
              let low := if last = [] then n - gap - 2 else n - gap - 1
              (first ≠ [] || high = 0) && (last ≠ [] || low = 0) && high + low ≤ 7 &&
                (parts.take high).all isHextet && (parts.drop (n - low)).all isHextet
          | _ => false

/-- A literal of a later IP version: `v`, hexadecimal digits, a point, more. -/
def isIPvFuture (host : Str) : Bool :=
  let tail := (host.drop 1).dropWhile fun c => (hexValue c).isSome
  (host.drop 1).head?.any (fun c => (hexValue c).isSome) &&
    tail.head? = some (CodePoint.ofChar '.') &&
    tail.drop 1 ≠ [] && !(tail.drop 1).contains (codePoint 0x0A)

/-- `_check_bracketed_host(hostname)` does not raise. -/
def isBracketedHost (host : Str) : Bool :=
  if host.head? = some (CodePoint.ofChar 'v') then isIPvFuture host else isIPv6 host

/-- `_check_bracketed_netloc(netloc)` does not raise: behind the last `@` a bracketed host
with nothing around it but a port.  Python has it from 3.12.9 on; before, only the text
between the brackets was looked at. -/
def isBracketedNetloc (netloc : Str) : Bool :=
  let hostAndPort := (netloc.splitOn (CodePoint.ofChar '@')).getLastD []
  let opened := splitAt '[' hostAndPort
  match opened.2 with
  | some bracketed =>
      let closed := splitAt ']' bracketed
      let port := closed.2.getD []
      opened.1 = [] && (port = [] || port.head? = some (CodePoint.ofChar ':')) &&
        isBracketedHost closed.1
  | none => isBracketedHost (splitAt ':' hostAndPort).1

/-- The brackets of a network location are balanced around an address. -/
def bracketsOk (netloc : Str) : Bool :=
  let opens := netloc.contains (CodePoint.ofChar '[')
  let closes := netloc.contains (CodePoint.ofChar ']')
  if opens != closes then false
  else if opens then isBracketedNetloc netloc
  else true

/-- The characters whose NFKC form contains one of `/?#@:`. -/
def hiddenDelimiters : List ℕ :=
  [0x2047, 0x2048, 0x2049, 0x2100, 0x2101, 0x2105, 0x2106, 0x2A74, 0xFE13, 0xFE16, 0xFE55, 0xFE56,
    0xFE5F, 0xFE6B, 0xFF03, 0xFF0F, 0xFF1A, 0xFF1F, 0xFF20]

def hidesDelimiter (netloc : Str) : Bool := netloc.any fun c => hiddenDelimiters.contains c.val

/-! ## Splitting -/

/-- The components of `urlparse` that are used here. -/
structure ParseResult where
  scheme : Str
  netloc : Str
  path : Str
  query : Str
  deriving DecidableEq

/-- A character of a URL scheme. -/
def isSchemeChar (c : CodePoint) : Bool :=
  let n := c.val
  (0x41 ≤ n && n ≤ 0x5A) || (0x61 ≤ n && n ≤ 0x7A) || isDigit c ||
  n == 0x2B || n == 0x2D || n == 0x2E

def isAsciiAlpha (c : CodePoint) : Bool :=
  (0x41 ≤ c.val && c.val ≤ 0x5A) || (0x61 ≤ c.val && c.val ≤ 0x7A)

/-- The scheme of a URL, lower-cased, and the rest. -/
def splitScheme (url : Str) : Str × Str :=
  match splitAt ':' url with
  | (scheme, some rest) =>
      if scheme.head?.any isAsciiAlpha && scheme.all isSchemeChar then (lower scheme, rest)
      else ([], url)
  | (_, none) => ([], url)

/-- The network location after `//`, and the rest. -/
def splitNetloc (url : Str) : Str × Str :=
  if Str.lit "//" <+: url then
    (url.drop 2).span fun c : CodePoint => c ≠ '/' ∧ c ≠ '?' ∧ c ≠ '#'
  else ([], url)

/-- The schemes whose last path segment may carry parameters. -/
def usesParams : List Str :=
  ["", "ftp", "hdl", "prospero", "http", "imap", "https", "shttp", "rtsp", "rtsps", "rtspu", "sip",
    "sips", "mms", "sftp", "tel"].map Str.lit

/-- A path without the parameters of its last segment. -/
def dropParams (path : Str) : Str :=
  let last := path.reverse.takeWhile (fun c : CodePoint => c ≠ '/')
  path.take (path.length - last.length) ++ (splitAt ';' last.reverse).1

/-- `urlparse(url)`; `none` is `ValueError`. -/
def urlparse (url : Str) : Option ParseResult :=
  let url := (url.dropWhile fun c => c.val ≤ 0x20).filter fun c =>
    c.val ≠ 0x09 ∧ c.val ≠ 0x0A ∧ c.val ≠ 0x0D
  let scheme := (splitScheme url).1
  let netloc := (splitNetloc (splitScheme url).2).1
  let rest := (splitAt '#' (splitNetloc (splitScheme url).2).2).1
  let path := (splitAt '?' rest).1
  let query := (splitAt '?' rest).2.getD []
  if bracketsOk netloc && !hidesDelimiter netloc then
    some ⟨scheme, netloc, if usesParams.contains scheme then dropParams path else path, query⟩
  else none

/-- The fragment of `urlparse(url)`, where it yields a result. -/
def urlFragment (url : Str) : Str :=
  let url := (url.dropWhile fun c => c.val ≤ 0x20).filter fun c =>
    c.val ≠ 0x09 ∧ c.val ≠ 0x0A ∧ c.val ≠ 0x0D
  (splitAt '#' (splitNetloc (splitScheme url).2).2).2.getD []

/-- `urlsplit(url)`: like `urlparse`, with the parameters left in the path. -/
def urlsplit (url : Str) : Option ParseResult :=
  let url := (url.dropWhile fun c => c.val ≤ 0x20).filter fun c =>
    c.val ≠ 0x09 ∧ c.val ≠ 0x0A ∧ c.val ≠ 0x0D
  let scheme := (splitScheme url).1
  let netloc := (splitNetloc (splitScheme url).2).1
  let rest := (splitAt '#' (splitNetloc (splitScheme url).2).2).1
  if bracketsOk netloc && !hidesDelimiter netloc then
    some ⟨scheme, netloc, (splitAt '?' rest).1, (splitAt '?' rest).2.getD []⟩
  else none

theorem splitScheme_snd_subset (url : Str) : (splitScheme url).2 ⊆ url := by
  have part := splitAt_snd_subset ':' url
  rw [splitScheme]
  cases hsplit : splitAt ':' url with
  | mk scheme rest =>
      cases rest with
      | none => exact List.Subset.refl url
      | some rest =>
          rw [hsplit] at part
          dsimp only
          split_ifs
          · exact part
          · exact List.Subset.refl url

theorem splitNetloc_snd_subset (url : Str) : (splitNetloc url).2 ⊆ url := by
  rw [splitNetloc]
  split_ifs
  · rw [List.span_eq_takeWhile_dropWhile]
    exact List.Subset.trans (List.dropWhile_suffix _).subset (List.drop_subset 2 url)
  · exact List.Subset.refl url

/-- The query of a URL is part of it. -/
theorem urlparse_query_subset {url : Str} {parsed : ParseResult} (h : urlparse url = some parsed) :
    parsed.query ⊆ url := by
  have query : parsed.query = (splitAt '?' (splitAt '#' (splitNetloc (splitScheme
      ((url.dropWhile fun c => c.val ≤ 0x20).filter fun c =>
        c.val ≠ 0x09 ∧ c.val ≠ 0x0A ∧ c.val ≠ 0x0D)).2).2).1).2.getD [] := by
    rw [urlparse] at h
    split_ifs at h <;> cases h <;> rfl
  rw [query]
  intro c hc
  have cleaned := splitScheme_snd_subset _
    (splitNetloc_snd_subset _ (splitAt_fst_subset _ _ (splitAt_snd_subset _ _ hc)))
  exact (List.dropWhile_suffix _).subset (List.mem_of_mem_filter cleaned)

/-- The path of a URL is part of it. -/
theorem urlsplit_path_subset {url : Str} {parsed : ParseResult} (h : urlsplit url = some parsed) :
    parsed.path ⊆ url := by
  rw [urlsplit] at h
  split_ifs at h
  cases h
  intro c hc
  have cleaned := splitScheme_snd_subset _
    (splitNetloc_snd_subset _ (splitAt_fst_subset _ _ (splitAt_fst_subset _ _ hc)))
  exact (List.dropWhile_suffix _).subset (List.mem_of_mem_filter cleaned)

/-- A path without a semicolon has no parameters. -/
theorem dropParams_eq_self {path : Str} (plain : CodePoint.ofChar ';' ∉ path) :
    dropParams path = path := by
  have whole : ∀ {s : Str}, CodePoint.ofChar ';' ∉ s → (splitAt ';' s).1 = s := by
    intro s missing
    induction s with
    | nil => rfl
    | cons c rest ih =>
        obtain ⟨other, missing⟩ := List.ne_and_not_mem_of_not_mem_cons missing
        rw [splitAt, if_neg (Ne.symm other), ih missing]
  obtain ⟨front, split⟩ : ∃ front, front ++ (path.reverse.takeWhile
      fun c : CodePoint => c ≠ CodePoint.ofChar '/').reverse = path := List.rtakeWhile_suffix _ _
  have missing : CodePoint.ofChar ';' ∉ (path.reverse.takeWhile
      fun c : CodePoint => c ≠ CodePoint.ofChar '/').reverse := by
    intro mem
    exact plain (split ▸ List.mem_append_right _ mem)
  have length := congrArg List.length split
  rw [List.length_append, List.length_reverse] at length
  rw [dropParams]
  rw [whole missing, ← length, Nat.add_sub_cancel]
  generalize path.reverse.takeWhile (fun c : CodePoint => c ≠ CodePoint.ofChar '/') = last at split
  rw [← split, List.take_left]

/-- On a URL without a semicolon the two parsers agree. -/
theorem urlparse_eq_urlsplit {url : Str} (plain : CodePoint.ofChar ';' ∉ url) :
    urlparse url = urlsplit url := by
  cases parsed : urlsplit url with
  | none =>
      rw [urlsplit] at parsed
      rw [urlparse]
      split_ifs at parsed with accepted
      exact if_neg accepted
  | some parts =>
      have path := dropParams_eq_self fun mem => plain (urlsplit_path_subset parsed mem)
      rw [urlsplit] at parsed
      rw [urlparse]
      split_ifs at parsed with accepted
      cases parsed
      rw [if_pos accepted]
      rw [path, ite_self]

/-! ## Joining -/

/-- The schemes of `uses_relative`; each of them is in `uses_netloc` too. -/
def usesRelative : List Str :=
  ["", "ftp", "http", "gopher", "nntp", "imap", "wais", "file", "https", "shttp", "mms", "prospero",
    "rtsp", "rtsps", "rtspu", "sftp", "svn", "svn+ssh", "ws", "wss"].map Str.lit

/-- Segments without the empty ones between the first and the last. -/
def dropEmptySegments (segments : List Str) : List Str :=
  segments.take 1 ++ ((segments.drop 1).dropLast.filter (· ≠ [])) ++
    (segments.drop 1).getLast?.toList

/-- The loop of `urljoin` over the segments, with the path resolved so far. -/
def resolveSegments : List Str → List Str → List Str
  | resolved, [] => resolved
  | resolved, segment :: rest =>
      if segment = Str.lit ".." then resolveSegments resolved.dropLast rest
      else if segment = Str.lit "." then resolveSegments resolved rest
      else resolveSegments (resolved ++ [segment]) rest

/-- The path of a directory joined with a relative path that does not end in dots. -/
def joinPaths (base path : Str) : Str :=
  let parts := base.splitOn (CodePoint.ofChar '/')
  let directory := if parts.getLastD [] = [] then parts else parts.dropLast
  let joined := [CodePoint.ofChar '/'].intercalate
    (resolveSegments [] (dropEmptySegments (directory ++ path.splitOn (CodePoint.ofChar '/'))))
  if joined = [] then "/" else joined

/-- `urlunsplit((scheme, netloc, path, "", ""))`. -/
def urlunsplit (scheme netloc path : Str) : Str :=
  let url :=
    if netloc ≠ [] then
      Str.lit "//" ++ netloc ++
        (if path ≠ [] ∧ !startsWith path "/" then Str.lit "/" ++ path else path)
    else if startsWith path "//" then Str.lit "//" ++ path
    else if scheme ≠ [] ∧ usesRelative.contains scheme ∧ (path = [] ∨ startsWith path "/") then
      Str.lit "//" ++ path
    else path
  if scheme ≠ [] then scheme ++ Str.lit ":" ++ url else url

/-- `urljoin(base, path)` for a non-empty base and a relative path: one that is not
empty, has no scheme, network location, parameters, query or fragment, does not
start with a slash and does not end in dots.  `none` is `ValueError`. -/
def urljoin (base path : Str) : Option Str :=
  (urlparse base).map fun parsed =>
    if usesRelative.contains parsed.scheme then
      urlunsplit parsed.scheme parsed.netloc (joinPaths parsed.path path)
    else path

end Python
