import HttpStub.Proofs.Url.PercentDecoding
import HttpStub.Url.Basic

/-!
# Walks along a path

The segments of a path that has been walked along are clean: nothing in them would be encoded again,
no slash stands in them and none is a dot or two. So a path put behind clean segments is walked
along from these, whatever it does afterwards: every later segment is that of one of its pieces, or
the empty one that stays where the path ends in dots.
-/

namespace HttpStub.Url

/-- The schemes of the web, by `Scheme.isSpecial`, whose paths are not those of local files. -/
structure Scheme.IsWeb (scheme : Scheme) : Prop where
  special : scheme.isSpecial = true
  notFile : scheme.isFile = false

/-- The schemes of these two names are `Scheme.IsWeb`. -/
theorem Scheme.isWeb_of_name {scheme : Scheme} (h : scheme.name = "http" ∨ scheme.name = "https") :
    scheme.IsWeb := by
  obtain ⟨name⟩ := scheme
  obtain rfl | rfl := h <;> exact ⟨by decide, by decide⟩

/-- In a path of the web `Scheme.isSeparator` takes backslashes for slashes. -/
theorem Scheme.IsWeb.isSeparator_eq {scheme : Scheme} (h : scheme.IsWeb) (c : Char) :
    scheme.isSeparator c = (decide (c = '/') || decide (c = '\\')) := by
  simp [isSeparator, h.special]

/-! ## Characters of a segment -/

/-- The characters that may stand in a segment as they are, so that `Percent.path` spares them. -/
def isSegmentChar (c : Char) : Bool :=
  !Percent.path c && c ≠ '/' && c ≠ '\\'

/-- The three conditions of `isSegmentChar`. -/
theorem isSegmentChar_iff {c : Char} :
    isSegmentChar c = true ↔ Percent.path c = false ∧ c ≠ '/' ∧ c ≠ '\\' := by
  simp [isSegmentChar, and_assoc]

/-- What `isUnseen` would be encoded if it were seen. -/
theorem isUnseen_eq_false_of_path {c : Char} (h : Percent.path c = false) : isUnseen c = false := by
  refine Bool.eq_false_iff.2 fun hunseen => ?_
  simp only [isUnseen, Bool.or_eq_true, decide_eq_true_eq] at hunseen
  -- Only tab and the ends of lines are not seen, and all of them are encoded.
  obtain (rfl | rfl) | rfl := hunseen <;> exact absurd h (by decide)

/-- The set `Percent.path` leaves percent signs and hexadecimal digits as they are. -/
theorem Percent.sparesEscapes_path : Percent.SparesEscapes Percent.path :=
  ⟨by decide, fun _ _ hc => Percent.of_hexValue? (p := fun c _ => path c = false) (by decide) hc⟩

/-- What `Percent.encodeByte` writes may stand in a segment. -/
private theorem isSegmentChar_encodeByte (b : UInt8) :
    ∀ c ∈ Percent.encodeByte b, isSegmentChar c = true := by
  have hdigit : ∀ n < 16, isSegmentChar (Percent.hexDigit n) = true := by decide
  have hlt := b.toNat_lt
  intro c hc
  simp only [Percent.encodeByte, List.mem_cons, List.not_mem_nil, or_false] at hc
  obtain rfl | rfl | rfl := hc
  · decide
  · exact hdigit _ (by omega)
  · exact hdigit _ (by omega)

/-- What `Percent.encodeChar` makes for a path has no slashes but those it had before. -/
private theorem isSegmentChar_encodeChar {c : Char} (hc : c ≠ '/' ∧ c ≠ '\\') :
    ∀ d ∈ Percent.encodeChar Percent.path c, isSegmentChar d = true := by
  intro d hd
  unfold Percent.encodeChar at hd
  split at hd
  · obtain ⟨b, -, hb⟩ := List.mem_flatMap.1 hd
    exact isSegmentChar_encodeByte b d hb
  · rename_i hpath
    obtain rfl := List.mem_singleton.1 hd
    exact isSegmentChar_iff.2 ⟨Bool.eq_false_iff.2 hpath, hc⟩

namespace Segment

/-- The segment is kept as it is on a walk: `Segment.ofPiece` leaves it, and it is no dots. -/
structure IsClean (s : Segment) : Prop where
  chars : ∀ c ∈ s, isSegmentChar c = true
  isDot : s.isDot = false
  isDotDot : s.isDotDot = false

instance (s : Segment) : Decidable s.IsClean :=
  decidable_of_iff (s.all isSegmentChar = true ∧ s.isDot = false ∧ s.isDotDot = false)
    ⟨fun h => ⟨List.all_eq_true.1 h.1, h.2.1, h.2.2⟩,
      fun h => ⟨List.all_eq_true.2 h.chars, h.isDot, h.isDotDot⟩⟩

/-- The empty segment is `IsClean`. -/
theorem isClean_nil : IsClean [] := by decide

/-- No slash stands in a segment that is `IsClean`. -/
theorem IsClean.slash_notMem {s : Segment} (h : s.IsClean) : '/' ∉ s := fun hs =>
  (isSegmentChar_iff.1 (h.chars _ hs)).2.1 rfl

/-- No `Scheme.isSeparator` of any scheme stands in a clean segment. -/
theorem IsClean.isSeparator_eq_false {s : Segment} (h : s.IsClean) (scheme : Scheme) :
    ∀ c ∈ s, scheme.isSeparator c = false := by
  intro c hc
  obtain ⟨-, hslash, hbackslash⟩ := isSegmentChar_iff.1 (h.chars c hc)
  simp [Scheme.isSeparator, hslash, hbackslash]

/-- A text without unseen characters is `seen` as it is. -/
theorem seen_eq_self {cs : List Char} (h : ∀ c ∈ cs, isUnseen c = false) : seen cs = cs := by
  refine List.filter_eq_self.2 fun c hc => ?_
  rw [h c hc]
  rfl

/-- A clean segment is the segment that `ofPiece` makes of it. -/
theorem IsClean.ofPiece_eq {s : Segment} (h : s.IsClean) : ofPiece s = s := by
  have hpath : ∀ c ∈ s, Percent.path c = false := fun c hc => (isSegmentChar_iff.1 (h.chars c hc)).1
  rw [ofPiece, seen_eq_self fun c hc => isUnseen_eq_false_of_path (hpath c hc),
    Percent.encode_of_forall hpath]

/-- A segment of `ofPiece` is clean if its piece has no separators and it is not made of dots. -/
theorem isClean_ofPiece {piece : List Char} (h : ∀ c ∈ piece, c ≠ '/' ∧ c ≠ '\\')
    (hdot : (ofPiece piece).isDot = false) (hdots : (ofPiece piece).isDotDot = false) :
    (ofPiece piece).IsClean := by
  refine ⟨fun c hc => ?_, hdot, hdots⟩
  obtain ⟨d, hd, hcd⟩ := List.mem_flatMap.1 hc
  exact isSegmentChar_encodeChar (h d (List.mem_filter.1 hd).1) c hcd

/-- The segment of a piece stands for what is `seen` of the piece. -/
theorem decode_ofPiece (piece : List Char) :
    Percent.decode (ofPiece piece) = Percent.decode (seen piece) :=
  Percent.decode_encode Percent.sparesEscapes_path _

/-! ## Dots -/

/-- Only the capital letters become other characters by `Char.toLower`. -/
private theorem toLower_eq_self_or (c : Char) :
    c.toLower = c ∨ ∃ n < 26, c = Char.ofNat (65 + n) := by
  unfold Char.toLower
  split
  · rename_i h
    have hlow : 65 ≤ c.toNat := h.1
    have hhigh : c.toNat ≤ 90 := h.2
    refine Or.inr ⟨c.toNat - 65, by omega, ?_⟩
    rw [show 65 + (c.toNat - 65) = c.toNat by omega, Char.ofNat_toNat]
  · exact Or.inl rfl

/-- A character whose `Char.toLower` is no letter is that character itself. -/
private theorem eq_of_toLower_eq {c d : Char} (hd : d.isLower = false) (h : c.toLower = d) :
    c = d := by
  rcases toLower_eq_self_or c with hself | ⟨n, hn, rfl⟩
  · rw [← hself, h]
  · -- A capital letter becomes a small one, and this character is none.
    have hlower : ∀ n < 26, (Char.ofNat (65 + n)).toLower.isLower = true := by decide
    rw [← h, hlower n hn] at hd
    cases hd

/-- Two characters are an `e` in lower case. -/
private theorem eq_of_toLower_eq_e {c : Char} (h : c.toLower = 'e') : c = 'e' ∨ c = 'E' := by
  rcases toLower_eq_self_or c with hself | ⟨n, hn, rfl⟩
  · exact Or.inl (hself ▸ h)
  · have hcapital : ∀ n < 26, (Char.ofNat (65 + n)).toLower = 'e' →
        Char.ofNat (65 + n) = 'E' := by decide
    exact Or.inr (hcapital n hn h)

/-- The spellings of a dot in lower case, as `Segment.isDot` knows them. -/
private def dotSpellings : List (List Char) := [['.'], ['%', '2', 'e']]

/-- With both cases of the letter there are three ways to write a dot, as `dotSpellings` are
compared in lower case. -/
private theorem cases_of_mem_dotSpellings {s : Segment} (h : s.map Char.toLower ∈ dotSpellings) :
    s = ['.'] ∨ s = ['%', '2', 'e'] ∨ s = ['%', '2', 'E'] := by
  simp only [dotSpellings, List.mem_cons, List.not_mem_nil, or_false] at h
  rcases h with h | h
  · obtain ⟨c, rest, rfl, hc, hrest⟩ := List.map_eq_cons_iff.1 h
    rw [List.map_eq_nil_iff.1 hrest, eq_of_toLower_eq (by decide) hc]
    exact Or.inl rfl
  · obtain ⟨a, rest, rfl, ha, hrest⟩ := List.map_eq_cons_iff.1 h
    obtain ⟨b, rest, rfl, hb, hrest⟩ := List.map_eq_cons_iff.1 hrest
    obtain ⟨c, rest, rfl, hc, hrest⟩ := List.map_eq_cons_iff.1 hrest
    rw [List.map_eq_nil_iff.1 hrest, eq_of_toLower_eq (by decide) ha,
      eq_of_toLower_eq (by decide) hb]
    rcases eq_of_toLower_eq_e hc with rfl | rfl
    · exact Or.inr (Or.inl rfl)
    · exact Or.inr (Or.inr rfl)

/-- However a dot is written, `Percent.decode` finds that it stands for a dot. -/
theorem decode_of_isDot {s : Segment} (h : s.isDot = true) :
    Percent.decode s = Text.Utf8.encode ['.'] := by
  -- Only the spelling in lower case is asked for, so the case has to be brought back.
  have hspelling : s.map Char.toLower ∈ dotSpellings := List.contains_iff_mem.1 h
  obtain rfl | rfl | rfl := cases_of_mem_dotSpellings hspelling <;> decide

/-- However two dots are written for `Segment.isDotDot`, `Percent.decode` gives two dots. -/
theorem decode_of_isDotDot {s : Segment} (h : s.isDotDot = true) :
    Percent.decode s = Text.Utf8.encode ['.', '.'] := by
  have hspellings : ∃ a ∈ dotSpellings, ∃ b ∈ dotSpellings, s.map Char.toLower = a ++ b := by
    -- Each of the four spellings of two dots is one dot behind another.
    simp only [isDotDot, List.contains_iff_mem, List.mem_cons, List.not_mem_nil, or_false] at h
    obtain h | h | h | h := h
    · exact ⟨['.'], by decide, ['.'], by decide, h⟩
    · exact ⟨['.'], by decide, ['%', '2', 'e'], by decide, h⟩
    · exact ⟨['%', '2', 'e'], by decide, ['.'], by decide, h⟩
    · exact ⟨['%', '2', 'e'], by decide, ['%', '2', 'e'], by decide, h⟩
  obtain ⟨a, ha, b, hb, hab⟩ := hspellings
  obtain ⟨first, second, rfl, rfl, rfl⟩ := List.map_eq_append_iff.1 hab
  obtain rfl | rfl | rfl := cases_of_mem_dotSpellings ha <;>
    obtain rfl | rfl | rfl := cases_of_mem_dotSpellings hb <;> decide

/-- The digits that `Percent.escaped?` takes for a dot. -/
private theorem escaped?_eq_dot {cs rest : List Char}
    (h : Percent.escaped? cs = some (0x2E, rest)) :
    ∃ e, (e = 'e' ∨ e = 'E') ∧ cs = '2' :: e :: rest := by
  -- Only where two digits follow is anything taken.
  match cs with
  | [] => cases h
  | [x] => cases h
  | x :: y :: ds =>
    rw [Percent.escaped?] at h
    split at h
    · rename_i a b hx hy
      obtain ⟨hbyte, rfl⟩ := Prod.mk.inj (Option.some.inj h)
      have ha : a < 16 ∧ (a = 2 → x = '2') :=
        Percent.of_hexValue? (p := fun x a => a < 16 ∧ (a = 2 → x = '2')) (by decide) hx
      have hb : b < 16 ∧ (b = 14 → y = 'e' ∨ y = 'E') :=
        Percent.of_hexValue? (p := fun y b => b < 16 ∧ (b = 14 → y = 'e' ∨ y = 'E')) (by decide) hy
      have hvalue : a * 16 + b = 0x2E := by
        have hmod := congrArg UInt8.toNat hbyte
        simp only [UInt8.toNat_ofNat'] at hmod
        rw [Nat.mod_eq_of_lt (by omega)] at hmod
        simpa using hmod
      rw [ha.2 (by omega)]
      exact ⟨y, hb.2 (by omega), rfl⟩
    · cases h

/-- What stands for a dot and more by `Percent.decode` begins with one of the `dotSpellings`. -/
private theorem exists_dot {cs : List Char} {bytes : List UInt8}
    (h : Percent.decode cs = 0x2E :: bytes) :
    ∃ dot rest, dot.map Char.toLower ∈ dotSpellings ∧ cs = dot ++ rest ∧
      Percent.decode rest = bytes := by
  cases cs with
  | nil => cases h
  | cons c cs =>
    by_cases hc : c = '%'
    · subst hc
      rw [Percent.decode_percent] at h
      cases hescaped : Percent.escaped? cs with
      | none =>
        -- The sign stands for itself, and it is no dot.
        rw [hescaped] at h
        exact absurd (List.cons.inj h).1 (by decide)
      | some e =>
        -- The two digits are those of a dot, in either case of the letter.
        obtain ⟨b, rest⟩ := e
        rw [hescaped] at h
        obtain ⟨rfl, hrest⟩ := List.cons.inj h
        obtain ⟨e, he, rfl⟩ := escaped?_eq_dot hescaped
        refine ⟨['%', '2', e], rest, ?_, rfl, hrest⟩
        obtain rfl | rfl := he <;> decide
    · rw [Percent.decode_cons_of_ne hc] at h
      have hbyte : String.utf8EncodeChar c ++ Percent.decode cs =
          String.utf8EncodeChar '.' ++ bytes := h
      obtain ⟨rfl, hrest⟩ := Text.Utf8.encodeChar_append_inj.1 hbyte
      exact ⟨['.'], cs, by decide, rfl, hrest⟩

/-- Nothing but what `isDot` stands for a dot. -/
theorem isDot_iff_decode {s : Segment} :
    s.isDot = true ↔ Percent.decode s = Text.Utf8.encode ['.'] := by
  refine ⟨decode_of_isDot, fun h => ?_⟩
  have hbyte : Percent.decode s = 0x2E :: [] := h
  obtain ⟨dot, rest, hdot, rfl, hrest⟩ := exists_dot hbyte
  rw [Percent.decode_eq_nil_iff.1 hrest, List.append_nil]
  exact List.contains_iff_mem.2 hdot

/-- Nothing but what `isDotDot` stands for two dots. -/
theorem isDotDot_iff_decode {s : Segment} :
    s.isDotDot = true ↔ Percent.decode s = Text.Utf8.encode ['.', '.'] := by
  refine ⟨decode_of_isDotDot, fun h => ?_⟩
  have hbytes : Percent.decode s = 0x2E :: 0x2E :: [] := h
  obtain ⟨first, behind, hfirst, rfl, hbehind⟩ := exists_dot hbytes
  obtain ⟨second, rest, hsecond, rfl, hrest⟩ := exists_dot hbehind
  rw [Percent.decode_eq_nil_iff.1 hrest, List.append_nil]
  -- One dot behind another is one of the spellings of two dots.
  have hall : ∀ a ∈ dotSpellings, ∀ b ∈ dotSpellings, a ++ b ∈
      [['.', '.'], ['.', '%', '2', 'e'], ['%', '2', 'e', '.'], ['%', '2', 'e', '%', '2', 'e']] := by
    decide
  rw [isDotDot, List.contains_iff_mem, List.map_append]
  exact hall _ hfirst _ hsecond

/-- The segment of a piece is a dot if what is `seen` of the piece is one. -/
theorem isDot_ofPiece (piece : List Char) : (ofPiece piece).isDot = isDot (seen piece) := by
  rw [Bool.eq_iff_iff, isDot_iff_decode, isDot_iff_decode, decode_ofPiece]

/-- The same for two dots, which `isDotDot` finds. -/
theorem isDotDot_ofPiece (piece : List Char) :
    (ofPiece piece).isDotDot = isDotDot (seen piece) := by
  rw [Bool.eq_iff_iff, isDotDot_iff_decode, isDotDot_iff_decode, decode_ofPiece]

end Segment

/-! ## Pieces of a text -/

/-- A piece of `List.splitOnP` is part of the text and has no separators in it. -/
theorem sublist_of_mem_splitOnP {isSep : Char → Bool} {piece cs : List Char}
    (h : piece ∈ cs.splitOnP isSep) : piece.Sublist cs ∧ ∀ c ∈ piece, isSep c = false := by
  -- Induction on the text: a separator starts a new piece, and any other character goes to the
  -- first one.
  induction cs generalizing piece with
  | nil =>
    rw [List.splitOnP_nil, List.mem_singleton] at h
    subst h
    exact ⟨List.Sublist.slnil, by simp⟩
  | cons c cs ih =>
    rw [List.splitOnP_cons_eq_if_modifyHead] at h
    split at h
    · rcases List.mem_cons.1 h with rfl | h
      · exact ⟨List.nil_sublist _, by simp⟩
      · exact ⟨(ih h).1.cons c, (ih h).2⟩
    · rename_i hc
      obtain ⟨first, rest, hsplit⟩ := List.exists_cons_of_ne_nil (List.splitOnP_ne_nil isSep cs)
      rw [hsplit] at h ih
      rcases List.mem_cons.1 h with rfl | h
      · obtain ⟨hsublist, hfirst⟩ := ih List.mem_cons_self
        refine ⟨hsublist.cons_cons c, fun d hd => ?_⟩
        rcases List.mem_cons.1 hd with rfl | hd
        · exact Bool.eq_false_iff.2 hc
        · exact hfirst d hd
      · obtain ⟨hsublist, hpiece⟩ := ih (List.mem_cons_of_mem _ h)
        exact ⟨hsublist.cons c, hpiece⟩

/-- For `List.splitOnP` only the characters that are there part the text. -/
theorem splitOnP_congr {isSep isSep' : Char → Bool} {cs : List Char}
    (h : ∀ c ∈ cs, isSep c = isSep' c) : cs.splitOnP isSep = cs.splitOnP isSep' := by
  induction cs with
  | nil => rfl
  | cons c cs ih =>
    rw [List.splitOnP_cons_eq_if_modifyHead, List.splitOnP_cons_eq_if_modifyHead,
      h c List.mem_cons_self, ih fun d hd => h d (List.mem_cons_of_mem _ hd)]

/-- What stands one behind the other `Segment.ofPiece` encodes one behind the other. -/
theorem Segment.ofPiece_append (piece more : List Char) :
    ofPiece (piece ++ more) = ofPiece piece ++ ofPiece more := by
  rw [ofPiece, seen, List.filter_append, Percent.encode_append]
  rfl

/-- A text that is encoded piece by piece, by `Segment.ofPiece`, is encoded as a whole. -/
theorem flatMap_ofPiece_splitOn (cs : List Char) :
    ((cs.splitOn '/').map Segment.ofPiece).flatMap ('/' :: ·) = '/' :: Segment.ofPiece cs := by
  induction cs with
  | nil => rfl
  | cons c cs ih =>
    rw [List.splitOn_cons_eq_if_modifyHead, ← List.singleton_append (l := cs),
      Segment.ofPiece_append]
    by_cases hc : c = '/'
    · subst hc
      -- A slash is kept by encoding, so it parts the text before and after.
      have hkept : Segment.ofPiece ['/'] = ['/'] := by decide
      rw [if_pos (by simp), List.map_cons, List.flatMap_cons, ih, hkept]
      rfl
    · obtain ⟨first, rest, hsplit⟩ := List.exists_cons_of_ne_nil (List.splitOn_ne_nil '/' cs)
      rw [hsplit, List.map_cons, List.flatMap_cons, List.cons_append, List.cons_inj_right] at ih
      -- The character goes to the first piece.
      rw [if_neg (by simpa using hc), hsplit, List.modifyHead_cons, List.map_cons,
        List.flatMap_cons, ← List.singleton_append (l := first), Segment.ofPiece_append,
        List.cons_append, List.append_assoc, ih]

/-- A text that segments stand in front of, each behind a slash as `Path.chars` has them, begins
with a slash. -/
theorem exists_slash_cons (front : List Segment) (cs : List Char) :
    ∃ rest, front.flatMap ('/' :: ·) ++ '/' :: cs = '/' :: rest := by
  cases front with
  | nil => exact ⟨_, rfl⟩
  | cons s front => exact ⟨_, rfl⟩

/-- Segments without separators in them are the first pieces that `List.splitOnP` finds in a text
that begins with them. -/
theorem splitOnP_segments {isSep : Char → Bool} (hslash : isSep '/' = true)
    {front : List Segment} (hfront : ∀ s ∈ front, ∀ c ∈ s, isSep c = false) (cs : List Char) :
    (front.flatMap ('/' :: ·) ++ '/' :: cs).tail.splitOnP isSep =
      front ++ cs.splitOnP isSep := by
  induction front with
  | nil => rfl
  | cons s front ih =>
    have hs := hfront s List.mem_cons_self
    have hrest := ih fun t ht => hfront t (List.mem_cons_of_mem _ ht)
    -- Behind the first segment the text goes on with a slash.
    obtain ⟨rest, hcons⟩ := exists_slash_cons front cs
    rw [hcons, List.tail_cons] at hrest
    rw [List.flatMap_cons, List.cons_append, List.cons_append, List.tail_cons, List.append_assoc,
      hcons, List.splitOnP_append_cons_of_forall_mem hs '/' hslash, hrest, List.cons_append]

/-- Segments without slashes can be told from their text, which `Path.chars` gives. -/
theorem flatMap_slash_inj {segments others : List Segment} (h : ∀ s ∈ segments, '/' ∉ s)
    (h' : ∀ s ∈ others, '/' ∉ s) :
    segments.flatMap ('/' :: ·) = others.flatMap ('/' :: ·) ↔ segments = others := by
  refine ⟨fun heq => ?_, fun heq => heq ▸ rfl⟩
  have hne : ∀ {l : List Segment}, (∀ s ∈ l, '/' ∉ s) →
      ∀ s ∈ l, ∀ c ∈ s, decide (c = '/') = false := by
    intro l hl s hs c hc
    exact decide_eq_false fun hslash => hl s hs (hslash ▸ hc)
  -- The segments are the pieces of their text, but for one that is empty behind the last slash.
  have hpieces : (segments.flatMap ('/' :: ·) ++ ['/']).tail.splitOnP (· = '/') =
      segments ++ [].splitOnP (· = '/') := splitOnP_segments rfl (hne h) []
  rw [heq, splitOnP_segments rfl (hne h') []] at hpieces
  exact List.append_cancel_right hpieces.symm

/-! ## Steps of a walk -/

namespace Walk

variable {scheme : Scheme}

/-- On the web `step` goes back, stays, or puts the segment of the piece at the end. -/
private theorem step_eq (hweb : scheme.IsWeb) (w : Walk) (piece : List Char) :
    step scheme w piece =
      if (Segment.ofPiece piece).isDotDot then w.back
      else if (Segment.ofPiece piece).isDot then w
      else w.push (Segment.ofPiece piece) := by
  simp [step, hweb.notFile]

/-- With `step` the segments stay clean. -/
private theorem isClean_step (hweb : scheme.IsWeb) {w : Walk} {piece : List Char}
    (hpiece : ∀ c ∈ piece, scheme.isSeparator c = false)
    (hw : ∀ s ∈ w.segments, s.IsClean) : ∀ s ∈ (step scheme w piece).segments, s.IsClean := by
  have hslash : ∀ c ∈ piece, c ≠ '/' ∧ c ≠ '\\' := fun c hc => by
    simpa [hweb.isSeparator_eq] using hpiece c hc
  intro s hs
  -- Going back takes a segment off, or none at a drive. Staying changes nothing. Only the third
  -- case adds a segment, which has no separators in it since its piece has none.
  rw [step_eq hweb] at hs
  split at hs
  · unfold back at hs
    split at hs
    · exact hw s hs
    · exact hw s ((List.dropLast_sublist _).subset hs)
  · rename_i hdots
    split at hs
    · exact hw s hs
    · rename_i hdot
      rcases List.mem_append.1 hs with hs | hs
      · exact hw s hs
      · obtain rfl := List.mem_singleton.1 hs
        exact Segment.isClean_ofPiece hslash (Bool.eq_false_iff.2 hdot) (Bool.eq_false_iff.2 hdots)

/-- With any number of steps of `Walk.step` the segments stay clean. -/
private theorem isClean_foldl_step (hweb : scheme.IsWeb) {pieces : List (List Char)}
    (hpieces : ∀ p ∈ pieces, ∀ c ∈ p, scheme.isSeparator c = false) {w : Walk}
    (hw : ∀ s ∈ w.segments, s.IsClean) :
    ∀ s ∈ (pieces.foldl (step scheme) w).segments, s.IsClean := by
  -- Induction on the pieces, with the segments so far as the state.
  induction pieces generalizing w with
  | nil => exact hw
  | cons p pieces ih =>
    exact ih (fun q hq => hpieces q (List.mem_cons_of_mem _ hq))
      (isClean_step hweb (hpieces p List.mem_cons_self) hw)

/-- Beyond the first ones, a segment after `step` was there before or is that of the piece. -/
private theorem mem_drop_step (hweb : scheme.IsWeb) {w : Walk} {piece : List Char} {n : Nat}
    {s : Segment} (hs : s ∈ (step scheme w piece).segments.drop n) :
    s ∈ w.segments.drop n ∨
      s = Segment.ofPiece piece ∧ s.isDot = false ∧ s.isDotDot = false := by
  -- The cases of `step` again; a segment that is dropped at the end was one of those before.
  rw [step_eq hweb] at hs
  split at hs
  · unfold back at hs
    split at hs
    · exact Or.inl hs
    · simp only [List.dropLast_eq_take, List.drop_take] at hs
      exact Or.inl (List.mem_of_mem_take hs)
  · rename_i hdots
    split at hs
    · exact Or.inl hs
    · rename_i hdot
      simp only [push, List.drop_append] at hs
      rcases List.mem_append.1 hs with hs | hs
      · exact Or.inl hs
      · obtain rfl := List.mem_singleton.1 (List.mem_of_mem_drop hs)
        exact Or.inr ⟨rfl, Bool.eq_false_iff.2 hdot, Bool.eq_false_iff.2 hdots⟩

/-- Beyond the first ones, a segment after some steps was there before or is that of a piece; see
`mem_drop_step`. -/
private theorem mem_drop_foldl_step (hweb : scheme.IsWeb) {pieces : List (List Char)} {w : Walk}
    {n : Nat} {s : Segment} (hs : s ∈ (pieces.foldl (step scheme) w).segments.drop n) :
    s ∈ w.segments.drop n ∨
      (∃ p ∈ pieces, s = Segment.ofPiece p) ∧ s.isDot = false ∧ s.isDotDot = false := by
  -- Induction on the pieces: the segment was added by the first step or by a later one.
  induction pieces generalizing w with
  | nil => exact Or.inl hs
  | cons p pieces ih =>
    rcases ih hs with hs | ⟨⟨q, hq, rfl⟩, hplain⟩
    · rcases mem_drop_step hweb hs with hs | ⟨rfl, hplain⟩
      · exact Or.inl hs
      · exact Or.inr ⟨⟨p, List.mem_cons_self, rfl⟩, hplain⟩
    · exact Or.inr ⟨⟨q, List.mem_cons_of_mem _ hq, rfl⟩, hplain⟩

/-! ## Walks behind clean segments -/

/-- Whether the last piece of a text is made of dots, so that `Walk.along` leaves an empty segment.
-/
def endsInDots (scheme : Scheme) (text : List Char) : Bool :=
  ((text.splitOnP scheme.isSeparator).getLast?.map Segment.ofPiece).any fun s =>
    s.isDot || s.isDotDot

/-- The segments after `Walk.step` has gone along a text behind those that are there, with the empty
one that dots leave at the end. -/
def onward (scheme : Scheme) (front : List Segment) (text : List Char) : List Segment :=
  let walked := (text.splitOnP scheme.isSeparator).foldl (step scheme) ⟨front, false⟩
  if endsInDots scheme text then walked.segments ++ [[]] else walked.segments

/-- A path that begins with clean segments keeps them in `along`, and its rest is walked along
behind them. -/
theorem segments_along_onward (hweb : scheme.IsWeb) {front : List Segment}
    (hfront : ∀ s ∈ front, s.IsClean) (cs : List Char) :
    (along scheme (front.flatMap ('/' :: ·) ++ '/' :: cs).tail).segments =
      onward scheme front cs := by
  have hslash : scheme.isSeparator '/' = true := by simp [Scheme.isSeparator]
  have hpieces := splitOnP_segments hslash
    (fun s hs => (hfront s hs).isSeparator_eq_false scheme) cs
  -- Along the clean segments the walk only puts each of them at the end.
  have hwalked : front.foldl (step scheme) start = ⟨front, false⟩ := by
    have hplain : ∀ s ∈ front, (Segment.ofPiece s).isDot = false ∧
        (Segment.ofPiece s).isDotDot = false := fun s hs => by
      rw [(hfront s hs).ofPiece_eq]
      exact ⟨(hfront s hs).isDot, (hfront s hs).isDotDot⟩
    have hmap : front.map Segment.ofPiece = front.map id :=
      List.map_congr_left fun s hs => (hfront s hs).ofPiece_eq
    rw [foldl_step_of_forall hweb.notFile hplain, hmap, List.map_id]
    rfl
  have hlast : (front ++ cs.splitOnP scheme.isSeparator).getLast? =
      (cs.splitOnP scheme.isSeparator).getLast? := by
    rw [List.getLast?_append, List.getLast?_eq_some_getLast (List.splitOnP_ne_nil _ _)]
    rfl
  simp only [along, onward, endsInDots, hpieces, hlast, List.foldl_append, hwalked, hweb.notFile,
    Bool.false_eq_true, if_false, apply_ite Walk.segments]
  rfl

/-- The segments of `onward` are clean if those in front are. -/
theorem isClean_onward (hweb : scheme.IsWeb) {front : List Segment}
    (hfront : ∀ s ∈ front, s.IsClean) (cs : List Char) :
    ∀ s ∈ onward scheme front cs, s.IsClean := by
  -- The pieces have no separators in them, so `isClean_foldl_step` applies.
  have hpieces : ∀ p ∈ cs.splitOnP scheme.isSeparator, ∀ c ∈ p, scheme.isSeparator c = false :=
    fun p hp => (sublist_of_mem_splitOnP hp).2
  have hwalked := isClean_foldl_step hweb hpieces (w := ⟨front, false⟩) hfront
  intro s hs
  unfold onward at hs
  split at hs
  · rcases List.mem_append.1 hs with hs | hs
    · exact hwalked s hs
    · obtain rfl := List.mem_singleton.1 hs
      exact Segment.isClean_nil
  · exact hwalked s hs

/-- A text none of whose pieces is dots adds the segments of all of them to `onward`. -/
theorem onward_of_pieces (hweb : scheme.IsWeb) (front : List Segment) {cs : List Char}
    (hpieces : ∀ p ∈ cs.splitOnP scheme.isSeparator,
      (Segment.ofPiece p).isDot = false ∧ (Segment.ofPiece p).isDotDot = false) :
    onward scheme front cs = front ++ (cs.splitOnP scheme.isSeparator).map Segment.ofPiece := by
  -- The last piece is no dots like all others, so no empty segment is added.
  have hends : endsInDots scheme cs = false := by
    rw [endsInDots, List.getLast?_eq_some_getLast (List.splitOnP_ne_nil _ _)]
    obtain ⟨hdot, hdots⟩ := hpieces _ (List.getLast_mem (List.splitOnP_ne_nil _ _))
    simp [hdot, hdots]
  simp only [onward, hends, Bool.false_eq_true, if_false, foldl_step_of_forall hweb.notFile hpieces]

/-- A text of one piece that is no dots adds the segment of this piece to `onward`. -/
theorem onward_of_forall (hweb : scheme.IsWeb) (front : List Segment) {cs : List Char}
    (hcs : ∀ c ∈ cs, scheme.isSeparator c = false) (hdot : (Segment.ofPiece cs).isDot = false)
    (hdots : (Segment.ofPiece cs).isDotDot = false) :
    onward scheme front cs = front ++ [Segment.ofPiece cs] := by
  have hone : cs.splitOnP scheme.isSeparator = [cs] := List.splitOnP_eq_singleton hcs
  rw [onward_of_pieces hweb front (by simp [hone, hdot, hdots]), hone, List.map_singleton]

/-- If `onward` adds just one segment, this is that of a piece of the text, which then is no dots,
or it is the empty one behind dots. -/
theorem segment_of_onward_eq (hweb : scheme.IsWeb) {front : List Segment} {cs : List Char}
    {segment : Segment} (h : onward scheme front cs = front ++ [segment]) :
    (segment = [] ∧ cs ≠ []) ∨
      ∃ p ∈ cs.splitOnP scheme.isSeparator, segment = Segment.ofPiece p ∧
        segment.isDot = false ∧ segment.isDotDot = false := by
  unfold onward at h
  split at h
  · rename_i hends
    -- The text ends in dots, so it is not empty, and what it adds is the empty segment behind them.
    have hsegment : [[]] = [segment] := (List.append_inj' h rfl).2
    refine Or.inl ⟨(List.singleton_inj.1 hsegment).symm, ?_⟩
    rintro rfl
    have hempty : endsInDots scheme [] = false := by
      rw [endsInDots, List.splitOnP_nil]
      decide
    rw [hempty] at hends
    cases hends
  · have hmem : segment ∈ ((cs.splitOnP scheme.isSeparator).foldl (step scheme)
        ⟨front, false⟩).segments.drop front.length := by
      rw [h, List.drop_left]
      exact List.mem_singleton.2 rfl
    rcases mem_drop_foldl_step hweb hmem with hfront | ⟨⟨p, hp, hsegment⟩, hplain⟩
    · rw [List.drop_length] at hfront
      cases hfront
    · exact Or.inr ⟨p, hp, hsegment, hplain⟩

end Walk

/-- The path that `Path.ofText` makes of a text that begins with clean segments. -/
theorem ofText_segments {scheme : Scheme} (hweb : scheme.IsWeb) {front : List Segment}
    (hfront : ∀ s ∈ front, s.IsClean) (cs : List Char) :
    Path.ofText scheme (front.flatMap ('/' :: ·) ++ '/' :: cs) =
      .segments (Walk.onward scheme front cs) := by
  rw [← Walk.segments_along_onward hweb hfront cs]
  obtain ⟨rest, hcons⟩ := exists_slash_cons front cs
  -- The slash in front is the root, and not part of any piece.
  have hroot : Path.withoutRoot scheme ('/' :: rest) = rest := by
    have htake : takeSeen? ('/' :: rest) = some ('/', rest) := rfl
    simp [Path.withoutRoot, htake, Scheme.isSeparator]
  rw [hcons, List.tail_cons, Path.ofText, if_neg (by simp), hroot]

end HttpStub.Url
