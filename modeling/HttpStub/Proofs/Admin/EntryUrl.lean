import HttpStub.Admin.Exchange
import HttpStub.Proofs.Admin.Endpoint

/-!
# The URL of an entry

A rule or a request is deleted by its identity, which is put behind the path of its collection as it
is. The path is then read again like any other, so an identity that has separators or escapes in it,
that holds characters which are not seen, or that is made of dots, does not end up as one segment
that stands for it. All other identities do, and among these no two share a URL.
-/

namespace HttpStub.Admin

open Url (Segment)

variable {ρ : Type}

/-- The collections whose entries can be deleted one by one, by a `deletion`. -/
inductive Collection where
  /-- The rules. -/
  | mappings
  /-- The requests received. -/
  | requests
deriving DecidableEq

namespace Collection

/-- The name of a collection in a path, below `rootSegment`. -/
def name : Collection → Segment
  | .mappings => "mappings".toList
  | .requests => "requests".toList

/-- Deletes one entry, by `Operation.deleteStub` or `Operation.deleteRequest`. -/
def deletion (ρ : Type) : Collection → String → Operation ρ
  | .mappings, id => .deleteStub id
  | .requests, id => .deleteRequest id

/-- No two collections have the same `Collection.name`. -/
theorem name_inj {a b : Collection} : a.name = b.name ↔ a = b := by
  refine ⟨fun h => ?_, fun h => h ▸ rfl⟩
  cases a <;> cases b <;> first | rfl | exact absurd h (by decide)

end Collection

/-- The segments in front of the identity of an entry are `IsClean`. -/
private theorem Collection.isClean_of_mem {collection : Collection} :
    ∀ s ∈ [rootSegment, collection.name], s.IsClean := by
  cases collection <;> decide +kernel

/-- Nor is there a slash in any of them, or in what follows if that has none. -/
private theorem Collection.slash_notMem_of_mem {collection : Collection} {segment : Segment}
    (h : '/' ∉ segment) : ∀ s ∈ [rootSegment, collection.name, segment], '/' ∉ s := by
  intro s hs
  have hmem : s ∈ [rootSegment, collection.name] ++ [segment] := hs
  rw [List.mem_append, List.mem_singleton] at hmem
  obtain hs | rfl := hmem
  · exact (isClean_of_mem s hs).slash_notMem
  · exact h

/-- An identity that stands for itself in a path: it parts no segments, nothing in it is left out by
`Url.seen` or taken for an encoded byte, and it is not made of dots. -/
structure IsPlainId (id : List Char) : Prop where
  noSeparator : ∀ c ∈ id, c ≠ '/' ∧ c ≠ '\\'
  isSeen : ∀ c ∈ id, Url.isUnseen c = false
  noEscape : Url.Percent.hasEscape id = false
  notDot : id ≠ ['.']
  notDotDot : id ≠ ['.', '.']

instance (id : List Char) : Decidable (IsPlainId id) :=
  decidable_of_iff (id.all (fun c => c ≠ '/' && c ≠ '\\' && !Url.isUnseen c) = true ∧
      Url.Percent.hasEscape id = false ∧ id ≠ ['.'] ∧ id ≠ ['.', '.']) <| by
    simp only [List.all_eq_true, Bool.and_eq_true, decide_eq_true_eq, Bool.not_eq_true']
    exact ⟨fun h => ⟨fun c hc => (h.1 c hc).1, fun c hc => (h.1 c hc).2, h.2.1, h.2.2.1, h.2.2.2⟩,
      fun h => ⟨fun c hc => ⟨h.noSeparator c hc, h.isSeen c hc⟩, h.noEscape, h.notDot, h.notDotDot⟩⟩

namespace Client

/-- Where an operation is sent: the `endpoint` of its request. -/
def target (c : Client) (op : Operation ρ) : Url :=
  (c.message op.request none).url

/-- The `deletion` of an entry goes to the path of its collection and one segment more, which stands
for the identity of the entry. -/
def ReachesEntry (c : Client) (collection : Collection) (id : String) : Prop :=
  ∃ segment : Segment, '/' ∉ segment ∧
    Url.Percent.decode segment = Text.Utf8.encode id.toList ∧
    ∀ ρ : Type, (c.target (collection.deletion ρ id)).path.chars =
      c.basePath ++ [rootSegment, collection.name, segment].flatMap ('/' :: ·)

end Client

/-! ## Targets -/

namespace Client

variable {c : Client} {front : List Segment}

/-- The path of an operation is put behind that of the server and walked along by `Walk.onward` from
there. -/
private theorem HasFront.target_path (h : c.HasFront front) {op : Operation ρ} {more : List Segment}
    (hmore : ∀ s ∈ more, s.IsClean) {cs : List Char}
    (hpath : '/' :: op.request.path.toList = more.flatMap ('/' :: ·) ++ '/' :: cs) :
    (c.target op).path = .segments (Url.Walk.onward c.base.scheme (front ++ more) cs) :=
  h.endpoint_path hmore hpath

/-- The `target` of an operation of one client is told by its path. -/
private theorem HasFront.target_eq_iff (h : c.HasFront front) {op other : Operation ρ} :
    c.target op = c.target other ↔ (c.target op).path = (c.target other).path := by
  obtain ⟨list, hlist⟩ := h.hasSegments
  simp [target, message, endpoint, Url.setPath, hlist]

/-! ## The path of an entry -/

/-- The path of a `deletion` is that of the collection with the identity behind it, as it is. -/
theorem path_deletion (ρ : Type) (collection : Collection) (id : String) :
    '/' :: (collection.deletion ρ id).request.path.toList =
      [rootSegment, collection.name].flatMap ('/' :: ·) ++ '/' :: id.toList := by
  -- The texts of the two collections differ, but each begins with a letter, so a slash is put
  -- before it.
  have hentry : ∀ (start : String) (c : Char) (cs : List Char), start.toList = c :: cs → c ≠ '/' →
      (Request.rooted (start ++ id)).toList =
        rootSegment ++ '/' :: (start.toList ++ id.toList) := by
    intro start c cs hstart hc
    have htext : (start ++ id).toList = c :: (cs ++ id.toList) := by
      rw [String.toList_append, hstart, List.cons_append]
    rw [toList_rooted htext hc, String.toList_append]
  cases collection with
  | mappings =>
    have hpath := hentry "mappings/" 'm' "appings/".toList rfl (by decide)
    have hname : "mappings/".toList = Collection.mappings.name ++ ['/'] := rfl
    rw [hname] at hpath
    simpa [Collection.deletion, Operation.request, Request.of] using hpath
  | requests =>
    have hpath := hentry "requests/" 'r' "equests/".toList rfl (by decide)
    have hname : "requests/".toList = Collection.requests.name ++ ['/'] := rfl
    rw [hname] at hpath
    simpa [Collection.deletion, Operation.request, Request.of] using hpath

/-- A client goes along the identity by `Walk.onward` from the path of the collection. -/
private theorem HasFront.deletion_path (h : c.HasFront front) (collection : Collection)
    (id : String) :
    (c.target (collection.deletion ρ id)).path =
      .segments (Url.Walk.onward c.base.scheme (front ++ [rootSegment, collection.name])
        id.toList) :=
  h.target_path Collection.isClean_of_mem (path_deletion ρ collection id)

/-- `Segment.ofPiece` of a plain identity stands for it and is clean. -/
theorem isClean_of_isPlainId {id : List Char} (hid : IsPlainId id) :
    (Segment.ofPiece id).IsClean ∧
      Url.Percent.decode (Segment.ofPiece id) = Text.Utf8.encode id := by
  have hdecode : Url.Percent.decode (Segment.ofPiece id) = Text.Utf8.encode id := by
    rw [Segment.decode_ofPiece, Segment.seen_eq_self hid.isSeen,
      Url.Percent.decode_of_hasEscape_eq_false hid.noEscape]
  -- What is read as dots stands for dots, and so it is no plain identity.
  have hdot : (Segment.ofPiece id).isDot = false := by
    refine Bool.eq_false_iff.2 fun hdot => hid.notDot ?_
    rw [← Text.Utf8.encode_inj, ← hdecode, Segment.decode_of_isDot hdot]
  have hdots : (Segment.ofPiece id).isDotDot = false := by
    refine Bool.eq_false_iff.2 fun hdots => hid.notDotDot ?_
    rw [← Text.Utf8.encode_inj, ← hdecode, Segment.decode_of_isDotDot hdots]
  exact ⟨Segment.isClean_ofPiece hid.noSeparator hdot hdots, hdecode⟩

/-- `Walk.onward` reads a plain identity as one segment, which stands for it. -/
private theorem onward_of_isPlainId {scheme : Url.Scheme} (hweb : scheme.IsWeb) {id : List Char}
    (hid : IsPlainId id) (front : List Segment) :
    Url.Walk.onward scheme front id = front ++ [Segment.ofPiece id] ∧
      (Segment.ofPiece id).IsClean ∧
      Url.Percent.decode (Segment.ofPiece id) = Text.Utf8.encode id := by
  obtain ⟨hclean, hdecode⟩ := isClean_of_isPlainId hid
  have hseparator : ∀ c ∈ id, scheme.isSeparator c = false := fun c hc => by
    simpa [hweb.isSeparator_eq] using hid.noSeparator c hc
  -- There is nothing in the identity to split it at, and its segment is not made of dots.
  exact ⟨Url.Walk.onward_of_forall hweb front hseparator hclean.isDot hclean.isDotDot, hclean,
    hdecode⟩

/-- An identity that `Walk.onward` reads as one segment which stands for it is plain. -/
private theorem isPlainId_of_onward {scheme : Url.Scheme} (hweb : scheme.IsWeb) {id : List Char}
    {front : List Segment} {segment : Segment}
    (h : Url.Walk.onward scheme front id = front ++ [segment])
    (hdecode : Url.Percent.decode segment = Text.Utf8.encode id) : IsPlainId id := by
  rcases Url.Walk.segment_of_onward_eq hweb h with ⟨rfl, hne⟩ | ⟨p, hp, rfl, hdot, hdots⟩
  · -- The empty segment stands for nothing.
    have hnil : Url.Percent.decode [] = Text.Utf8.encode [] := rfl
    exact absurd (Text.Utf8.encode_inj.1 (hnil.symm.trans hdecode)).symm hne
  · obtain ⟨hsublist, hseparator⟩ := Url.sublist_of_mem_splitOnP hp
    rw [Segment.decode_ofPiece] at hdecode
    have hseen : (Url.seen p).Sublist p := List.filter_sublist
    -- No character may be missing in the piece, since bytes only get fewer.
    have hlength := Url.Percent.length_decode_le (Url.seen p)
    rw [hdecode] at hlength
    have hall : Url.seen p = id :=
      Text.Utf8.eq_of_sublist_of_length_le (hseen.trans hsublist) hlength
    obtain rfl : p = id := hsublist.eq_of_length_le (hall ▸ hseen.length_le)
    rw [hall] at hdecode
    refine ⟨fun c hc => ?_, fun c hc => ?_, (Url.Percent.decode_eq_encode_iff p).1 hdecode, ?_, ?_⟩
    · simpa [hweb.isSeparator_eq] using hseparator c hc
    · have hmem : c ∈ Url.seen p := hall.symm ▸ hc
      simpa using (List.mem_filter.1 hmem).2
    · rintro rfl
      exact absurd hdot (by decide)
    · rintro rfl
      exact absurd hdots (by decide)

/-- A client `ReachesEntry` if and only if the identity is plain. -/
private theorem HasFront.reachesEntry_iff (h : c.HasFront front) (collection : Collection)
    (id : String) : c.ReachesEntry collection id ↔ IsPlainId id.toList := by
  have hmore : ∀ s ∈ front ++ [rootSegment, collection.name], s.IsClean := fun s hs =>
    (List.mem_append.1 hs).elim (h.isClean s) (Collection.isClean_of_mem s)
  constructor
  · rintro ⟨segment, hslash, hdecode, hpath⟩
    -- The path is the same whatever is read from replies.
    replace hpath := hpath Empty
    rw [h.deletion_path, Url.Path.chars, h.basePath_eq, ← List.flatMap_append] at hpath
    have hclean := Url.Walk.isClean_onward h.web hmore id.toList
    have hnone : ∀ s ∈ front ++ [rootSegment, collection.name, segment], '/' ∉ s := fun s hs =>
      (List.mem_append.1 hs).elim (fun hs => (h.isClean s hs).slash_notMem)
        (Collection.slash_notMem_of_mem hslash s)
    -- Both sides are lists of segments without slashes, so the lists are the same.
    have hsegments :=
      (Url.flatMap_slash_inj (fun s hs => (hclean s hs).slash_notMem) hnone).1 hpath
    refine isPlainId_of_onward h.web (hsegments.trans ?_) hdecode
    simp
  · intro hid
    obtain ⟨honward, hclean, hdecode⟩ :=
      onward_of_isPlainId h.web hid (front ++ [rootSegment, collection.name])
    refine ⟨Segment.ofPiece id.toList, hclean.slash_notMem, hdecode, fun ρ => ?_⟩
    rw [h.deletion_path, honward, Url.Path.chars, h.basePath_eq, ← List.flatMap_append]
    simp

end Client

/-! ## Other operations -/

/-- The operations that always go to the same path, one of `fixedPaths`. -/
def Operation.isFixed : Operation ρ → Bool
  | .deleteStub _ | .getRequest _ | .deleteRequest _ | .call .. => false
  | _ => true

/-- The paths of the operations that are `Operation.isFixed`, below the root. -/
private def fixedPaths : List String :=
  ["mappings", "mappings/reset", "scenarios/reset", "requests", "requests/count", "requests/find",
    "requests/unmatched", "requests/remove", "recordings/start", "recordings/stop"]

/-- The operations that are `isFixed` have one of the `fixedPaths`. -/
private theorem Operation.mem_fixedPaths {op : Operation ρ} (h : op.isFixed = true) :
    op.request.path ∈ fixedPaths.map Request.rooted := by
  cases op with
  | deleteStub _ | getRequest _ | deleteRequest _ | call _ _ _ => cases h
  | _ => simp [fixedPaths, request, Request.of, Request.expecting]

/-- The path of such an operation is made of segments that are `IsClean`, the last of which has no
escape. -/
private theorem Operation.exists_segments {op : Operation ρ} (h : op.isFixed = true) :
    ∃ (front : List Segment) (last : Segment),
      '/' :: op.request.path.toList = (front ++ [last]).flatMap ('/' :: ·) ∧
      (∀ s ∈ front ++ [last], s.IsClean) ∧ Url.Percent.hasEscape last = false := by
  obtain ⟨path, hpath, hop⟩ := List.mem_map.1 (Operation.mem_fixedPaths h)
  rw [← hop]
  simp only [fixedPaths, List.mem_cons, List.not_mem_nil, or_false] at hpath
  obtain rfl | rfl | rfl | rfl | rfl | rfl | rfl | rfl | rfl | rfl := hpath
  · exact ⟨[rootSegment], "mappings".toList, rfl, by decide +kernel, rfl⟩
  · exact ⟨[rootSegment, "mappings".toList], "reset".toList, rfl, by decide +kernel, rfl⟩
  · exact ⟨[rootSegment, "scenarios".toList], "reset".toList, rfl, by decide +kernel, rfl⟩
  · exact ⟨[rootSegment], "requests".toList, rfl, by decide +kernel, rfl⟩
  · exact ⟨[rootSegment, "requests".toList], "count".toList, rfl, by decide +kernel, rfl⟩
  · exact ⟨[rootSegment, "requests".toList], "find".toList, rfl, by decide +kernel, rfl⟩
  · exact ⟨[rootSegment, "requests".toList], "unmatched".toList, rfl, by decide +kernel, rfl⟩
  · exact ⟨[rootSegment, "requests".toList], "remove".toList, rfl, by decide +kernel, rfl⟩
  · exact ⟨[rootSegment, "recordings".toList], "start".toList, rfl, by decide +kernel, rfl⟩
  · exact ⟨[rootSegment, "recordings".toList], "stop".toList, rfl, by decide +kernel, rfl⟩

namespace Client

variable {c : Client} {front : List Segment}

/-- The `deletion` of an entry of plain identity goes to its segment. -/
private theorem HasFront.deletion_path_of_isPlainId (h : c.HasFront front)
    (collection : Collection) {id : String} (hid : IsPlainId id.toList) :
    (c.target (collection.deletion ρ id)).path =
        .segments (front ++ [rootSegment, collection.name, Segment.ofPiece id.toList]) ∧
      Url.Percent.decode (Segment.ofPiece id.toList) = Text.Utf8.encode id.toList := by
  obtain ⟨honward, -, hdecode⟩ :=
    onward_of_isPlainId h.web hid (front ++ [rootSegment, collection.name])
  rw [h.deletion_path, honward]
  exact ⟨by simp, hdecode⟩

/-- Entries of plain identity do not share a `target`. -/
private theorem HasFront.deletion_target_inj (h : c.HasFront front) {a b : Collection}
    {id other : String} (hid : IsPlainId id.toList) (hother : IsPlainId other.toList)
    (htarget : c.target (a.deletion ρ id) = c.target (b.deletion ρ other)) :
    a = b ∧ id = other := by
  obtain ⟨hpath, hdecode⟩ := h.deletion_path_of_isPlainId a hid
  obtain ⟨hpath', hdecode'⟩ := h.deletion_path_of_isPlainId b hother
  rw [h.target_eq_iff, hpath, hpath'] at htarget
  simp only [Url.Path.segments.injEq, List.append_cancel_left_eq, List.cons.injEq, true_and,
    and_true] at htarget
  -- Equal segments stand for equal identities, since each stands for its own.
  obtain ⟨hname, hsegment⟩ := htarget
  rw [hsegment, hdecode'] at hdecode
  exact ⟨Collection.name_inj.1 hname, String.toList_inj.1 (Text.Utf8.encode_inj.1 hdecode).symm⟩

/-- An entry of plain identity shares its `target` with an operation only if the paths are the same.
-/
private theorem HasFront.deletion_target_eq_iff (h : c.HasFront front) (collection : Collection)
    {id : String} (hid : IsPlainId id.toList) {op : Operation ρ} (hop : op.isFixed = true) :
    c.target (collection.deletion ρ id) = c.target op ↔
      (collection.deletion ρ id).request.path = op.request.path := by
  constructor
  · intro htarget
    obtain ⟨hpath, hdecode⟩ := h.deletion_path_of_isPlainId collection hid
    obtain ⟨init, last, htext, hclean, hescape⟩ := Operation.exists_segments hop
    have hinit : ∀ s ∈ init, s.IsClean := fun s hs => hclean s (List.mem_append_left _ hs)
    have hlast : last.IsClean := hclean last (List.mem_append_right _ List.mem_cons_self)
    have hsplit : '/' :: op.request.path.toList = init.flatMap ('/' :: ·) ++ '/' :: last := by
      rw [htext, List.flatMap_append, List.flatMap_singleton]
    have honward := h.target_path hinit hsplit
    rw [Url.Walk.onward_of_forall h.web _ (hlast.isSeparator_eq_false _)
      (by rw [hlast.ofPiece_eq]; exact hlast.isDot)
      (by rw [hlast.ofPiece_eq]; exact hlast.isDotDot), hlast.ofPiece_eq] at honward
    rw [h.target_eq_iff, hpath, honward, Url.Path.segments.injEq, List.append_assoc,
      List.append_cancel_left_eq] at htarget
    -- The last segment of the operation stands for itself, so it is the identity.
    have hparts : [rootSegment, collection.name] = init ∧ [Segment.ofPiece id.toList] = [last] :=
      List.append_inj' htarget rfl
    obtain ⟨rfl, hsegment⟩ := hparts
    rw [List.singleton_inj] at hsegment
    rw [hsegment, Url.Percent.decode_of_hasEscape_eq_false hescape] at hdecode
    rw [Text.Utf8.encode_inj.1 hdecode, List.flatMap_append, List.flatMap_singleton,
      ← path_deletion] at htext
    exact (String.toList_inj.1 (List.cons.inj htext).2).symm
  · intro hpath
    rw [target, target, message, message, hpath]

/-- The path of the `deletion` of an entry of plain identity is that of other segments only if these
are its own. -/
private theorem deletion_request_path_eq_iff (collection : Collection) {id : String}
    (hid : IsPlainId id.toList) {op : Operation ρ} {segments : List Segment}
    (hop : '/' :: op.request.path.toList = segments.flatMap ('/' :: ·))
    (hsegments : ∀ s ∈ segments, '/' ∉ s) :
    (collection.deletion ρ id).request.path = op.request.path ↔
      [rootSegment, collection.name, id.toList] = segments := by
  have hslash : '/' ∉ id.toList := fun hmem => (hid.noSeparator '/' hmem).1 rfl
  have hpath : '/' :: (collection.deletion ρ id).request.path.toList =
      [rootSegment, collection.name, id.toList].flatMap ('/' :: ·) := by
    rw [path_deletion]
    simp
  rw [← Url.flatMap_slash_inj (Collection.slash_notMem_of_mem hslash) hsegments, ← hpath, ← hop,
    List.cons_inj_right, String.toList_inj]

/-- To `perform` the deletion of an entry is to send one message, without a body. -/
theorem perform_deletion (ρ : Type) (c : Client) (link : Link) (collection : Collection)
    (id : String) :
    let message := c.message (collection.deletion ρ id).request none
    (c.perform link (collection.deletion ρ id)).sent =
        (if (link message).reachesServer then [message] else []) ∧
      message.method = "DELETE" ∧ message.url = c.target (collection.deletion ρ id) := by
  cases collection <;> exact ⟨rfl, rfl, rfl⟩

/-- Where the deletion of an entry goes, for every client whose URL has been read from a text and
is one of the web. The entry is reached if and only if its identity is plain. If so, no other entry
of plain identity is reached by the same URL, and no operation of a fixed path has this URL unless
that path is the path of the entry: never the ones that delete all entries, and the one that brings
back the first rules if "reset" is the identity of a rule. -/
theorem deletion_reaches_iff (ρ : Type) (text : String) (c : Client)
    (hbase : Url.parse text = .ok c.base)
    (hweb : c.base.scheme.name = "http" ∨ c.base.scheme.name = "https") (collection : Collection)
    (id : String) :
    (∀ link : Link,
        let message := c.message (collection.deletion ρ id).request none
        (c.perform link (collection.deletion ρ id)).sent =
            (if (link message).reachesServer then [message] else []) ∧
          message.method = "DELETE" ∧ message.url = c.target (collection.deletion ρ id)) ∧
      (c.ReachesEntry collection id ↔ IsPlainId id.toList) ∧
      (IsPlainId id.toList →
        (∀ (other : Collection) (id' : String), IsPlainId id'.toList →
          c.target (collection.deletion ρ id) = c.target (other.deletion ρ id') →
            collection = other ∧ id = id') ∧
        (∀ op : Operation ρ, op.isFixed = true →
          (c.target (collection.deletion ρ id) = c.target op ↔
            (collection.deletion ρ id).request.path = op.request.path)) ∧
        c.target (collection.deletion ρ id) ≠ c.target (.clear : Operation ρ) ∧
        c.target (collection.deletion ρ id) ≠ c.target (.deleteAllRequests : Operation ρ) ∧
        (c.target (collection.deletion ρ id) = c.target (.reset : Operation ρ) ↔
          collection = .mappings ∧ id = "reset")) := by
  have hscheme : c.base.scheme.IsWeb := Url.Scheme.isWeb_of_name hweb
  obtain ⟨front, hfront⟩ := exists_hasFront hbase hscheme
  refine ⟨fun link => perform_deletion ρ c link collection id,
    hfront.reachesEntry_iff collection id, fun hid => ⟨?_, ?_, ?_, ?_, ?_⟩⟩
  · intro other id' hother htarget
    exact hfront.deletion_target_inj hid hother htarget
  · intro op hop
    exact hfront.deletion_target_eq_iff collection hid hop
  · -- The path of all entries is one segment short.
    have hclear : '/' :: (Operation.clear : Operation ρ).request.path.toList =
        [rootSegment, Collection.mappings.name].flatMap ('/' :: ·) := by
      simp only [Operation.request]
      rfl
    rw [Ne, hfront.deletion_target_eq_iff collection hid rfl,
      deletion_request_path_eq_iff collection hid hclear (by decide)]
    simp
  · have hall : '/' :: (Operation.deleteAllRequests : Operation ρ).request.path.toList =
        [rootSegment, Collection.requests.name].flatMap ('/' :: ·) := by
      simp only [Operation.request]
      rfl
    rw [Ne, hfront.deletion_target_eq_iff collection hid rfl,
      deletion_request_path_eq_iff collection hid hall (by decide)]
    simp
  · have hreset : '/' :: (Operation.reset : Operation ρ).request.path.toList =
        [rootSegment, Collection.mappings.name, "reset".toList].flatMap ('/' :: ·) := by
      simp only [Operation.request]
      rfl
    rw [hfront.deletion_target_eq_iff collection hid rfl,
      deletion_request_path_eq_iff collection hid hreset (by decide), List.cons_inj_right,
      List.cons.injEq, List.singleton_inj, Collection.name_inj, String.toList_inj]

/-- A percent sign, a question mark and a space in an identity are no obstacles. -/
theorem deletion_reaches_iff_question :
    let base : Url := ⟨⟨"http"⟩, [], [], some (.ipv6 [0, 0, 0, 0, 0, 0, 0, 1]), some 8080,
      .segments ["w".toList, []], none, none⟩
    let c : Client := ⟨base, .empty, none⟩
    Url.parse "http://[::1]:8080/w/" = .ok c.base ∧ c.base.scheme.name = "http" ∧
      IsPlainId "100%?  ".toList ∧ c.ReachesEntry .mappings "100%?  " := by
  intro base c
  have hbase : Url.parse "http://[::1]:8080/w/" = .ok c.base := rfl
  have hid : IsPlainId "100%?  ".toList := by decide
  have h := deletion_reaches_iff Empty "http://[::1]:8080/w/" c hbase (.inl rfl) .mappings "100%?  "
  exact ⟨hbase, rfl, hid, h.2.1.2 hid⟩

-- An identity of dots leads elsewhere.
example :
    let base : Url := ⟨⟨"http"⟩, [], [], some (.ipv6 [0, 0, 0, 0, 0, 0, 0, 1]), none,
      .segments [], none, none⟩
    let c : Client := ⟨base, .empty, none⟩
    c.target (.deleteStub "../requests" : Operation Empty) =
      c.target (.deleteAllRequests : Operation Empty) := by
  decide +kernel

end Client

/-! ## Identities of rules -/

/-- The characters that an identity which is not `IsPlainId` has at least one of. -/
private def dubious : List Char := ['/', '\\', '\t', '\n', '\r', '%', '.']

/-- An identity without any of the `dubious` characters is plain. -/
private theorem isPlainId_of_forall {id : List Char} (h : ∀ c ∈ id, c ∉ dubious) :
    IsPlainId id where
  noSeparator c hc := by
    have hne := h c hc
    simp only [dubious, List.mem_cons, not_or] at hne
    exact ⟨hne.1, hne.2.1⟩
  isSeen c hc := by
    have hne := h c hc
    simp only [dubious, List.mem_cons, not_or] at hne
    simp [Url.isUnseen, hne]
  noEscape := Url.Percent.hasEscape_eq_false_of_notMem fun hmem => h '%' hmem (by decide)
  notDot := by
    rintro rfl
    exact h '.' (by decide) (by decide)
  notDotDot := by
    rintro rfl
    exact h '.' (by decide) (by decide)

/-- `Uuid.hexDigits` are hexadecimal digits. -/
private theorem mem_hexDigits {count n : Nat} {c : Char} (h : c ∈ Uuid.hexDigits count n) :
    ∃ digit < 16, c = Nat.digitChar digit := by
  induction count generalizing n with
  | zero => simp [Uuid.hexDigits] at h
  | succ count ih =>
    simp only [Uuid.hexDigits, List.mem_append, List.mem_singleton] at h
    obtain h | h := h
    · exact ih h
    · exact ⟨_, Nat.mod_lt _ (by decide), h⟩

/-- `Uuid.text` is written in hexadecimal digits and hyphens. -/
theorem mem_text {u : Uuid} {c : Char} (h : c ∈ u.text.toList) :
    c = '-' ∨ ∃ digit < 16, c = Nat.digitChar digit := by
  have hhex : ∀ {count n : Nat}, c ∈ Uuid.hexDigits count n →
      c = '-' ∨ ∃ digit < 16, c = Nat.digitChar digit := fun hc => .inr (mem_hexDigits hc)
  simp only [Uuid.text, String.toList_ofList, List.mem_append, List.mem_cons, or_assoc] at h
  obtain h | h | h | h | h | h | h | h | h := h
  all_goals first | exact hhex h | exact .inl h

/-- The identity that a rule is given is plain: none of the `dubious` characters is in a
`Uuid.text`. -/
theorem isPlainId_text (u : Uuid) : IsPlainId u.text.toList := by
  refine isPlainId_of_forall fun c hc => ?_
  have hdigit : ∀ digit < 16, Nat.digitChar digit ∉ dubious := by decide
  obtain rfl | ⟨digit, hlt, rfl⟩ := mem_text hc
  · decide
  · exact hdigit digit hlt

/-- So the deletion of a rule always reaches the rule, as `ReachesEntry` has it. -/
theorem Client.reachesEntry_rule {text : String} {c : Client} (hbase : Url.parse text = .ok c.base)
    (hweb : c.base.scheme.name = "http" ∨ c.base.scheme.name = "https") (rule : StubRule) :
    c.ReachesEntry .mappings rule.id.text := by
  obtain ⟨front, hfront⟩ := exists_hasFront hbase (Url.Scheme.isWeb_of_name hweb)
  exact (hfront.reachesEntry_iff .mappings rule.id.text).2 (isPlainId_text rule.id)

end HttpStub.Admin
