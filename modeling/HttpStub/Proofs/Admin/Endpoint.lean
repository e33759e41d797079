import Mathlib.Data.List.Induction
import HttpStub.Admin.Message
import HttpStub.Proofs.Url.Parsed

/-!
# The URL of a request

The path of a request is put behind that of the server, and the whole is read again like any other
path. The path of the server has been read once already, so it stays as it is but for the slashes at
its end. Behind it a path that is straight is only encoded: nothing in it is overlooked, taken for a
slash, or taken for a way back.
-/

namespace HttpStub.Admin

open Url (Segment)

/-- The root of the admin interface in a path. -/
def rootSegment : Segment := Request.root.toList

/-- What follows the root of the interface in a path: all but the slashes in front, behind one. -/
def behindRoot (path : List Char) : List Char :=
  match path.dropWhile (· = '/') with
  | [] => []
  | rest => '/' :: rest

/-- A path that is read as it is written: no backslash is taken for a slash, no character is
overlooked, and no piece between slashes is one or two dots, be they encoded or not. -/
structure IsStraight (path : List Char) : Prop where
  noBackslash : '\\' ∉ path
  isSeen : ∀ c ∈ path, Url.isUnseen c = false
  noDots : ∀ piece ∈ path.splitOn '/', Segment.isDot piece = false ∧ Segment.isDotDot piece = false

instance (path : List Char) : Decidable (IsStraight path) :=
  decidable_of_iff ('\\' ∉ path ∧ (path.all fun c => !Url.isUnseen c) = true ∧
      ∀ piece ∈ path.splitOn '/',
        Segment.isDot piece = false ∧ Segment.isDotDot piece = false) <| by
    simp only [List.all_eq_true, Bool.not_eq_true']
    exact ⟨fun h => ⟨h.1, h.2.1, h.2.2⟩, fun h => ⟨h.noBackslash, h.isSeen, h.noDots⟩⟩

namespace Client

/-- The path of the server, which those of all operations begin with. -/
def basePath (c : Client) : List Char :=
  withoutTrailingSlashes c.base.path.chars

end Client

/-! ## Paths below the root -/

namespace Client

/-- `Request.rooted` is the root with what `behindRoot` leaves of the path. -/
theorem toList_rooted_eq (path : String) :
    (Request.rooted path).toList = rootSegment ++ behindRoot path.toList := by
  unfold Request.rooted behindRoot
  cases path.toList.dropWhile (· = '/') with
  | nil => rfl
  | cons c cs => simp [rootSegment]

/-- `Request.rooted` puts a path without a slash in front behind the root as it is. -/
theorem toList_rooted {path : String} {c : Char} {cs : List Char}
    (h : path.toList = c :: cs) (hc : c ≠ '/') :
    (Request.rooted path).toList = rootSegment ++ '/' :: path.toList := by
  have hdrop : path.toList.dropWhile (· = '/') = path.toList := by simp [h, hc]
  rw [toList_rooted_eq, behindRoot, hdrop, h]

/-- Slashes in front of a path make no difference to `Request.rooted`. -/
theorem rooted_slashes (n : Nat) (path : String) :
    Request.rooted (String.ofList (List.replicate n '/') ++ path) = Request.rooted path := by
  have hslashes : ∀ c ∈ List.replicate n '/', decide (c = '/') = true := fun c hc => by
    simpa using List.eq_of_mem_replicate hc
  -- What is dropped in front of the path goes on into the path.
  have hdrop : (String.ofList (List.replicate n '/') ++ path).toList.dropWhile (· = '/') =
      path.toList.dropWhile (· = '/') := by
    rw [String.toList_append, String.toList_ofList, List.dropWhile_append_of_pos hslashes]
  rw [← String.toList_inj, toList_rooted_eq, toList_rooted_eq, behindRoot, behindRoot, hdrop]

/-- `Percent.encode` leaves the root as it is and encodes only the path behind it. -/
private theorem encode_rooted (path : List Char) :
    Url.Percent.encode Url.Percent.path (rootSegment ++ behindRoot path) =
      rootSegment ++
        match path.dropWhile (· = '/') with
        | [] => []
        | rest => '/' :: Url.Percent.encode Url.Percent.path rest := by
  have hroot : Url.Percent.encode Url.Percent.path rootSegment = rootSegment := by decide +kernel
  rw [Url.Percent.encode_append, hroot]
  unfold behindRoot
  cases path.dropWhile (· = '/') <;> rfl

end Client

/-! ## The path of the server -/

namespace Client

/-- One more slash at the end changes nothing for `withoutTrailingSlashes`. -/
private theorem withoutTrailingSlashes_append_slash (cs : List Char) :
    withoutTrailingSlashes (cs ++ ['/']) = withoutTrailingSlashes cs := by
  simp [withoutTrailingSlashes]

/-- `withoutTrailingSlashes` keeps any other character at the end, with all before it. -/
private theorem withoutTrailingSlashes_append {c : Char} (hc : c ≠ '/') (cs : List Char) :
    withoutTrailingSlashes (cs ++ [c]) = cs ++ [c] := by
  simp [withoutTrailingSlashes, hc]

/-- `withoutTrailingSlashes` takes the empty segments at the end of a path away. -/
private theorem withoutTrailingSlashes_segments {segments : List Segment}
    (h : ∀ s ∈ segments, '/' ∉ s) :
    ∃ front : List Segment, (∀ s ∈ front, s ∈ segments) ∧
      withoutTrailingSlashes (segments.flatMap ('/' :: ·)) = front.flatMap ('/' :: ·) := by
  induction segments using List.reverseRecOn with
  -- From the end: empty segments are only slashes, and the last segment that is not empty stops.
  | nil => exact ⟨[], by simp, rfl⟩
  | append_singleton segments s ih =>
    have hsegments : ∀ t ∈ segments, '/' ∉ t := fun t ht => h t (List.mem_append_left _ ht)
    cases s using List.reverseRecOn with
    | nil =>
      obtain ⟨front, hfront, hpath⟩ := ih hsegments
      refine ⟨front, fun t ht => List.mem_append_left _ (hfront t ht), ?_⟩
      rw [List.flatMap_append, List.flatMap_singleton, withoutTrailingSlashes_append_slash, hpath]
    | append_singleton t c _ =>
      have hc : c ≠ '/' := by
        rintro rfl
        exact h _ (List.mem_append_right _ List.mem_cons_self) (by simp)
      refine ⟨segments ++ [t ++ [c]], fun _ hs => hs, ?_⟩
      rw [List.flatMap_append, List.flatMap_singleton, ← List.cons_append, ← List.append_assoc,
        withoutTrailingSlashes_append hc]

/-- The path of the server is that of these segments. -/
structure HasFront (c : Client) (front : List Segment) : Prop where
  web : c.base.scheme.IsWeb
  hasSegments : ∃ list, c.base.path = .segments list
  isClean : ∀ s ∈ front, s.IsClean
  basePath_eq : c.basePath = front.flatMap ('/' :: ·)

/-- A client whose URL has been read `HasFront` for some segments. -/
theorem exists_hasFront {text : String} {c : Client} (h : Url.parse text = .ok c.base)
    (hweb : c.base.scheme.IsWeb) : ∃ front, c.HasFront front := by
  obtain ⟨segments, hpath, hclean⟩ := Url.exists_segments_of_parse h hweb
  -- Segments that have been read are clean, so there is no slash within them.
  obtain ⟨front, hfront, hslashes⟩ :=
    withoutTrailingSlashes_segments fun s hs => (hclean s hs).slash_notMem
  refine ⟨front, hweb, ⟨segments, hpath⟩, fun s hs => hclean s (hfront s hs), ?_⟩
  rw [basePath, hpath]
  exact hslashes

variable {c : Client} {front : List Segment}

/-- `Client.endpoint` differs from the URL of the server in its path only, which is read from the
text of both. -/
theorem endpoint_eq (hsegments : ∃ list, c.base.path = .segments list) (path : String) :
    c.endpoint path =
      { c.base with path := .ofText c.base.scheme (c.basePath ++ '/' :: path.toList) } := by
  obtain ⟨list, hlist⟩ := hsegments
  simp [endpoint, Url.setPath, basePath, hlist]

/-- The path of a request is put behind that of the server and walked along from there. -/
theorem HasFront.endpoint_path (h : c.HasFront front) {path : String} {more : List Segment}
    (hmore : ∀ s ∈ more, s.IsClean) {cs : List Char}
    (hpath : '/' :: path.toList = more.flatMap ('/' :: ·) ++ '/' :: cs) :
    (c.endpoint path).path = .segments (Url.Walk.onward c.base.scheme (front ++ more) cs) := by
  have hclean : ∀ s ∈ front ++ more, s.IsClean := fun s hs =>
    (List.mem_append.1 hs).elim (h.isClean s) (hmore s)
  rw [endpoint_eq h.hasSegments, h.basePath_eq, hpath, ← List.append_assoc, ← List.flatMap_append,
    Url.ofText_segments h.web hclean]

end Client

/-! ## Straight paths -/

namespace IsStraight

variable {path : List Char}

/-- The pieces of an `IsStraight` path are the same wherever a web URL is parted. -/
theorem splitOnP_eq (h : IsStraight path) {scheme : Url.Scheme} (hweb : scheme.IsWeb) :
    path.splitOnP scheme.isSeparator = path.splitOn '/' := by
  rw [List.splitOn_eq_splitOnP]
  -- A backslash would part a web path as well, but there is none.
  refine Url.splitOnP_congr fun c hc => ?_
  have hne : c ≠ '\\' := fun heq => h.noBackslash (heq ▸ hc)
  rw [hweb.isSeparator_eq, decide_eq_false hne, Bool.or_false, beq_eq_decide]

/-- `Segment.ofPiece` makes no segment of dots from a piece of a straight path. -/
theorem noDots_ofPiece (h : IsStraight path) {piece : List Char}
    (hpiece : piece ∈ path.splitOn '/') :
    (Segment.ofPiece piece).isDot = false ∧ (Segment.ofPiece piece).isDotDot = false := by
  rw [List.splitOn_eq_splitOnP] at hpiece
  have hsublist := (Url.sublist_of_mem_splitOnP hpiece).1
  have hseen : Url.seen piece = piece :=
    Segment.seen_eq_self fun c hc => h.isSeen c (hsublist.subset hc)
  rw [Segment.isDot_ofPiece, Segment.isDotDot_ofPiece, hseen]
  exact h.noDots piece hpiece

/-- A slash parts a path into two that are `IsStraight` if and only if the whole is. -/
theorem append_iff {front : List Char} :
    IsStraight (front ++ '/' :: path) ↔ IsStraight front ∧ IsStraight path := by
  -- The pieces of the whole are those of both parts.
  have hsplit : (front ++ '/' :: path).splitOn '/' = front.splitOn '/' ++ path.splitOn '/' :=
    List.splitOn_append_cons_self front path
  constructor
  · rintro ⟨hbackslash, hseen, hdots⟩
    rw [List.mem_append, List.mem_cons, not_or, not_or] at hbackslash
    rw [List.forall_mem_append, List.forall_mem_cons] at hseen
    rw [hsplit, List.forall_mem_append] at hdots
    exact ⟨⟨hbackslash.1, hseen.1, hdots.1⟩, ⟨hbackslash.2.2, hseen.2.2, hdots.2⟩⟩
  · rintro ⟨hfront, hpath⟩
    refine ⟨?_, ?_, ?_⟩
    · simp [hfront.noBackslash, hpath.noBackslash]
    · exact List.forall_mem_append.2
        ⟨hfront.isSeen, List.forall_mem_cons.2 ⟨by decide, hpath.isSeen⟩⟩
    · rw [hsplit]
      exact List.forall_mem_append.2 ⟨hfront.noDots, hpath.noDots⟩

/-- A path is still `IsStraight` without the slashes in front. -/
theorem dropWhile (h : IsStraight path) : IsStraight (path.dropWhile (· = '/')) := by
  induction path with
  | nil => exact h
  | cons c path ih =>
    by_cases hc : c = '/'
    · subst hc
      have hparts : IsStraight ([] ++ '/' :: path) := h
      simpa using ih (append_iff.1 hparts).2
    · simpa [hc] using h

/-- Behind the root a path is as `IsStraight` as before. -/
theorem rooted (h : IsStraight path) : IsStraight (rootSegment ++ behindRoot path) := by
  have hroot : IsStraight rootSegment := by decide +kernel
  have hrest := h.dropWhile
  unfold behindRoot
  -- Of a path that is nothing but slashes only the root is left.
  cases hdrop : path.dropWhile (· = '/') with
  | nil => simpa using hroot
  | cons c cs => exact append_iff.2 ⟨hroot, hdrop ▸ hrest⟩

end IsStraight

namespace Client

variable {c : Client} {front : List Segment}

/-- `Client.endpoint` encodes a straight path behind that of the server. -/
theorem HasFront.chars_endpoint (h : c.HasFront front) {path : String}
    (hpath : IsStraight path.toList) :
    (c.endpoint path).path.chars =
      c.basePath ++ '/' :: Url.Percent.encode Url.Percent.path path.toList := by
  have hpieces : ∀ p ∈ path.toList.splitOnP c.base.scheme.isSeparator,
      (Segment.ofPiece p).isDot = false ∧ (Segment.ofPiece p).isDotDot = false := by
    rw [hpath.splitOnP_eq h.web]
    exact fun p hp => hpath.noDots_ofPiece hp
  have hnone : ∀ s ∈ ([] : List Segment), s.IsClean := by simp
  -- No piece of the path goes back, so all of them become segments behind those of the server.
  rw [h.endpoint_path hnone rfl, List.append_nil, Url.Walk.onward_of_pieces h.web front hpieces,
    hpath.splitOnP_eq h.web, Url.Path.chars, List.flatMap_append, ← h.basePath_eq,
    Url.flatMap_ofPiece_splitOn, Segment.ofPiece, Segment.seen_eq_self hpath.isSeen]

/-- The URL of a request whose path is straight, for every client whose URL has been read from a
text and is one of the web. It is the URL of the client with another path: that of the client
without the slashes at its end and as it is otherwise, the root of the interface, and the path of
the request without the slashes in front, in which all characters of the set are encoded, a question
mark and a number sign among them, but neither percent signs nor slashes. Slashes at the end of the
first path and in front of the last one make no difference. -/
theorem endpoint_of_isStraight (text : String) (c : Client) (hbase : Url.parse text = .ok c.base)
    (hweb : c.base.scheme.name = "http" ∨ c.base.scheme.name = "https") (method path : String)
    (hpath : IsStraight path.toList) :
    let url := c.endpoint (Request.of method path).path
    url = { c.base with path := url.path } ∧
      url.path.chars = c.basePath ++ '/' :: (rootSegment ++
        match path.toList.dropWhile (· = '/') with
        | [] => []
        | rest => '/' :: Url.Percent.encode Url.Percent.path rest) ∧
      (Url.Percent.path '?' = true ∧ Url.Percent.path '#' = true ∧ Url.Percent.path '%' = false ∧
        Url.Percent.path '/' = false) ∧
      (∀ n, c.endpoint (Request.of method (String.ofList (List.replicate n '/') ++ path)).path =
        url) ∧
      ∀ (text' : String) (other : Client), Url.parse text' = .ok other.base →
        other.base = { c.base with path := other.base.path } → other.basePath = c.basePath →
          other.endpoint (Request.of method path).path = url := by
  intro url
  have hscheme : c.base.scheme.IsWeb := Url.Scheme.isWeb_of_name hweb
  obtain ⟨front, hfront⟩ := exists_hasFront hbase hscheme
  -- The URL depends on the path of the server only up to the slashes at its end.
  have hurl : url = { c.base with
      path := .ofText c.base.scheme (c.basePath ++ '/' :: (Request.of method path).path.toList) } :=
    endpoint_eq hfront.hasSegments _
  have hrooted : (Request.of method path).path.toList = rootSegment ++ behindRoot path.toList :=
    toList_rooted_eq path
  refine ⟨by rw [hurl], ?_, by decide, fun n => ?_, fun text' other hother hsame hbasePath => ?_⟩
  · have hstraight : IsStraight (Request.of method path).path.toList := hrooted ▸ hpath.rooted
    rw [hfront.chars_endpoint hstraight, hrooted, encode_rooted]
  · rw [Request.of, rooted_slashes]
    rfl
  · -- The paths of both are lists of segments, so they are read from the same text.
    have hotherWeb : other.base.scheme.IsWeb := by rw [hsame]; exact hscheme
    obtain ⟨_, hotherFront⟩ := exists_hasFront hother hotherWeb
    rw [hurl, endpoint_eq hotherFront.hasSegments, hbasePath, hsame]

/-- An escape in either path stays as it is, and a question mark does not begin a query. -/
theorem endpoint_of_isStraight_question :
    let base : Url := ⟨⟨"http"⟩, [], [], some (.ipv6 [0, 0, 0, 0, 0, 0, 0, 1]), some 8080,
      .segments ["w%20x".toList, [], []], some "q".toList, none⟩
    let c : Client := ⟨base, .empty, none⟩
    Url.parse "http://[::1]:8080/w%20x//?q" = .ok c.base ∧ c.base.scheme.name = "http" ∧
      IsStraight "//mappings/%2F?a b".toList ∧
      (c.endpoint (Request.of "GET" "//mappings/%2F?a b").path).path.chars =
        "/w%20x/__admin/mappings/%2F%3Fa%20b".toList := by
  intro base c
  have hbase : Url.parse "http://[::1]:8080/w%20x//?q" = .ok c.base := rfl
  have hpath : IsStraight "//mappings/%2F?a b".toList := by decide +kernel
  have h := endpoint_of_isStraight _ c hbase (.inl rfl) "GET" "//mappings/%2F?a b" hpath
  exact ⟨hbase, rfl, hpath, h.2.1.trans (by decide +kernel)⟩

end Client

end HttpStub.Admin
