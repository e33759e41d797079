import Mathlib.Logic.Basic
import HttpStub.Matcher.Build

/-!
# The meaning of matchers

A matcher is a predicate on the values that a request has under one name. How a single value is
compared is left open by a `Reading`; connectives, negation and lists of matchers mean the same in
every reading. A reading is standard if equality, containment and beginnings are what their names
say.

Putting a text in front of a matcher moves the comparisons by equality behind that text but leaves
those by containment where they are, so these are about the text as well. They cannot tell the
difference if what they look for is clear of the text: no occurrence begins within it.
-/

namespace HttpStub

/-- How single values are compared, and how they are checked by a schema. -/
structure Reading where
  value : Strategy → String → List String → String → Prop
  schema : String → Option SchemaVersion → String → Prop

/-- Equality, containment and beginnings are what their names say. -/
structure Reading.Standard (R : Reading) : Prop where
  equalTo : ∀ text v, R.value .equalTo text [] v ↔ v = text
  contains : ∀ text v, R.value .contains text [] v ↔ text.toList <:+: v.toList
  doesNotContain : ∀ text v, R.value .doesNotContain text [] v ↔ ¬ text.toList <:+: v.toList
  startsWith : ∀ start v,
    R.value .matching ("^" ++ Pattern.escape start) [] v ↔ start.toList <+: v.toList

/-- The reading in which every comparison has the text in front. -/
def Reading.prepended (R : Reading) (word : String) : Reading where
  value strategy text flags := R.value strategy (Matcher.prependValue word strategy text) flags
  schema := R.schema

/-- Whether a comparison looks for a part of the value. -/
def Strategy.isContainment : Strategy → Bool
  | .contains | .doesNotContain => true
  | _ => false

/-- The reading of what stands behind a text: containment is asked of the text and the value
together, all else of the value alone. -/
def Reading.behind (R : Reading) (word : String) : Reading where
  value strategy text flags v :=
    R.value strategy text flags (if strategy.isContainment then word ++ v else v)
  schema := R.schema

namespace Matcher

variable {R : Reading}

mutual

/-- Whether the matcher accepts the values. A comparison asks for some value to pass, a list of
matchers for its pairing with the values or with some of them. -/
def accepts (R : Reading) : Matcher → List String → Prop
  | .leaf strategy text flags, vs => ∃ v ∈ vs, R.value strategy text flags v
  | .absent, vs => vs = []
  | .joined .and first rest, vs => accepts R first vs ∧ allAccept R rest vs
  | .joined .or first rest, vs => accepts R first vs ∨ anyAccepts R rest vs
  | .negated operand, vs => ¬ accepts R operand vs
  | .values .hasExactly matchers, vs => ∃ ordered, ordered.Perm vs ∧ acceptInTurn R matchers ordered
  | .values .includes matchers, vs => acceptSome R matchers vs
  | .schema source version, vs => ∃ v ∈ vs, R.schema source version v

/-- All of the matchers accept the values. -/
def allAccept (R : Reading) : List Matcher → List String → Prop
  | [], _ => True
  | m :: ms, vs => accepts R m vs ∧ allAccept R ms vs

/-- One of the matchers accepts the values. -/
def anyAccepts (R : Reading) : List Matcher → List String → Prop
  | [], _ => False
  | m :: ms, vs => accepts R m vs ∨ anyAccepts R ms vs

/-- The first matcher accepts the first value alone, the second one the second value, and so on to
the end of both lists. -/
def acceptInTurn (R : Reading) : List Matcher → List String → Prop
  | [], [] => True
  | m :: ms, v :: vs => accepts R m [v] ∧ acceptInTurn R ms vs
  | [], _ :: _ | _ :: _, [] => False

/-- Each of the matchers accepts some value alone. -/
def acceptSome (R : Reading) : List Matcher → List String → Prop
  | [], _ => True
  | m :: ms, vs => (∃ v ∈ vs, accepts R m [v]) ∧ acceptSome R ms vs

end

/-- A comparison accepts a single value if the reading lets it pass. -/
@[simp] theorem accepts_leaf_singleton (strategy : Strategy) (text : String) (flags : List String)
    (v : String) :
    (leaf strategy text flags).accepts R [v] ↔ R.value strategy text flags v := by
  simp [accepts]

/-- `acceptInTurn` pairs as many values as there are matchers. -/
theorem length_eq_of_acceptInTurn {ms : List Matcher} {vs : List String}
    (h : acceptInTurn R ms vs) : vs.length = ms.length := by
  induction ms generalizing vs with
  | nil =>
    cases vs with
    | nil => rfl
    | cons v vs => simp [acceptInTurn] at h
  | cons m ms ih =>
    cases vs with
    | nil => simp [acceptInTurn] at h
    | cons v vs =>
      rw [acceptInTurn] at h
      simp [ih h.2]

/-- `hasExactly` wants as many values as there are matchers. -/
theorem length_eq_of_accepts_hasExactly {ms : List Matcher} {vs : List String}
    (h : (hasExactly ms).accepts R vs) : vs.length = ms.length := by
  rw [hasExactly, accepts] at h
  obtain ⟨ordered, hperm, hordered⟩ := h
  -- The values are paired in some other order, which has as many of them.
  rw [← hperm.length_eq, length_eq_of_acceptInTurn hordered]

/-- In a standard reading `startsWith` accepts the values that begin with the text. -/
theorem startsWith_accepts_singleton (hR : R.Standard) (start v : String) :
    (startsWith start).accepts R [v] ↔ start.toList <+: v.toList := by
  rw [startsWith, matching, accepts_leaf_singleton, hR.startsWith]

/-! ## Change of reading -/

mutual

/-- The matcher is made of comparisons with the property by connectives and negation. -/
def IsMadeOf (p : Strategy → String → List String → Prop) : Matcher → Prop
  | .leaf strategy text flags => p strategy text flags
  | .joined _ first rest => IsMadeOf p first ∧ AreMadeOf p rest
  | .negated operand => IsMadeOf p operand
  | .absent | .values _ _ | .schema _ _ => False

/-- The matchers are all made so. -/
def AreMadeOf (p : Strategy → String → List String → Prop) : List Matcher → Prop
  | [] => True
  | m :: ms => IsMadeOf p m ∧ AreMadeOf p ms

end

section Change

variable {p : Strategy → String → List String → Prop} {S : Reading} {v w : String}

mutual

/-- Two readings, each of a value of its own, agree on a matcher if they agree on the comparisons it
`IsMadeOf`. -/
theorem accepts_congr
    (h : ∀ strategy text flags, p strategy text flags →
      (R.value strategy text flags v ↔ S.value strategy text flags w)) :
    (m : Matcher) → m.IsMadeOf p → (m.accepts R [v] ↔ m.accepts S [w])
  -- Structural induction over comparisons, connectives and negation; `IsMadeOf` rules out the other
  -- matchers.
  | .leaf strategy text flags, hm => by
    rw [accepts_leaf_singleton, accepts_leaf_singleton, h strategy text flags hm]
  | .joined .and first rest, hm => by
    rw [accepts, accepts, accepts_congr h first hm.1, allAccept_congr h rest hm.2]
  | .joined .or first rest, hm => by
    rw [accepts, accepts, accepts_congr h first hm.1, anyAccepts_congr h rest hm.2]
  | .negated operand, hm => by rw [accepts, accepts, accepts_congr h operand hm]

/-- `accepts_congr` for `allAccept`, the operands that have to accept together. -/
theorem allAccept_congr
    (h : ∀ strategy text flags, p strategy text flags →
      (R.value strategy text flags v ↔ S.value strategy text flags w)) :
    (ms : List Matcher) → AreMadeOf p ms → (allAccept R ms [v] ↔ allAccept S ms [w])
  | [], _ => Iff.rfl
  | m :: ms, hms => by
    rw [allAccept, allAccept, accepts_congr h m hms.1, allAccept_congr h ms hms.2]

/-- `accepts_congr` for `anyAccepts`, the operands one of which has to accept. -/
theorem anyAccepts_congr
    (h : ∀ strategy text flags, p strategy text flags →
      (R.value strategy text flags v ↔ S.value strategy text flags w)) :
    (ms : List Matcher) → AreMadeOf p ms → (anyAccepts R ms [v] ↔ anyAccepts S ms [w])
  | [], _ => Iff.rfl
  | m :: ms, hms => by
    rw [anyAccepts, anyAccepts, accepts_congr h m hms.1, anyAccepts_congr h ms hms.2]

end

end Change

/-! ## A text in front -/

section Prepend

variable {p : Strategy → String → List String → Prop} {v : String}

mutual

/-- A matcher rewritten by `prepend` is, in any reading, the matcher itself in the reading that has
the text in front of its comparisons. -/
theorem accepts_prepend (word : String) : (m : Matcher) → m.IsMadeOf p →
    ((m.prepend word).accepts R [v] ↔ m.accepts (R.prepended word) [v])
  -- `prepend` goes down to the comparisons as `accepts` does, so both sides unfold in step.
  | .leaf strategy text flags, _ => by
    rw [prepend, accepts_leaf_singleton, accepts_leaf_singleton]
    rfl
  | .joined .and first rest, hm => by
    rw [prepend, accepts, accepts, accepts_prepend word first hm.1,
      allAccept_prependList word rest hm.2]
  | .joined .or first rest, hm => by
    rw [prepend, accepts, accepts, accepts_prepend word first hm.1,
      anyAccepts_prependList word rest hm.2]
  | .negated operand, hm => by rw [prepend, accepts, accepts, accepts_prepend word operand hm]

/-- `accepts_prepend` for `allAccept`, the operands that have to accept together. -/
theorem allAccept_prependList (word : String) : (ms : List Matcher) → AreMadeOf p ms →
    (allAccept R (prependList word ms) [v] ↔ allAccept (R.prepended word) ms [v])
  | [], _ => Iff.rfl
  | m :: ms, hms => by
    rw [prependList, allAccept, allAccept, accepts_prepend word m hms.1,
      allAccept_prependList word ms hms.2]

/-- `accepts_prepend` for `anyAccepts`, the operands one of which has to accept. -/
theorem anyAccepts_prependList (word : String) : (ms : List Matcher) → AreMadeOf p ms →
    (anyAccepts R (prependList word ms) [v] ↔ anyAccepts (R.prepended word) ms [v])
  | [], _ => Iff.rfl
  | m :: ms, hms => by
    rw [prependList, anyAccepts, anyAccepts, accepts_prepend word m hms.1,
      anyAccepts_prependList word ms hms.2]

end

end Prepend

/-- A comparison by equality or containment without flags. -/
def isTokenTest (strategy : Strategy) (_text : String) (flags : List String) : Prop :=
  (strategy = .equalTo ∨ strategy.isContainment = true) ∧ flags = []

/-- Equality moves behind the text, containment does not: with the text before the value,
`Reading.prepended` and `Reading.behind` agree on these tests. -/
private theorem prepended_iff_behind (hR : R.Standard) (word v : String) {strategy : Strategy}
    {text : String} {flags : List String} (h : isTokenTest strategy text flags) :
    (R.prepended word).value strategy text flags (word ++ v) ↔
      (R.behind word).value strategy text flags v := by
  obtain ⟨hstrategy, rfl⟩ := h
  cases strategy with
  | equalTo =>
    have hbehind : (R.behind word).value .equalTo text [] v ↔ v = text := hR.equalTo text v
    have hprepended : (R.prepended word).value .equalTo text [] (word ++ v) ↔
        word ++ v = word ++ text := hR.equalTo (word ++ text) (word ++ v)
    rw [hprepended, hbehind, String.append_right_inj]
  | contains => exact Iff.rfl
  | doesNotContain => exact Iff.rfl
  | _ => simp [Strategy.isContainment] at hstrategy

/-- Of what begins with the text, a matcher with the text in front accepts what the matcher accepts
of the rest, if containment is asked of the text as well as `Reading.behind` does. -/
theorem accepts_prepend_append (hR : R.Standard) {m : Matcher} (hm : m.IsMadeOf isTokenTest)
    (word v : String) :
    (m.prepend word).accepts R [word ++ v] ↔ m.accepts (R.behind word) [v] :=
  (accepts_prepend word m hm).trans
    (accepts_congr (fun _ _ _ h => prepended_iff_behind hR word v h) m hm)

/-! ## Texts clear of the one in front -/

/-- No occurrence of the text begins within the word, whatever follows it. -/
def IsClear (word text : List Char) : Prop :=
  text = [] ∨
    (¬ text <:+: word ∧ ∀ start rest, start ≠ [] → text = start ++ rest → ¬ start <:+ word)

/-- Behind the word only what is found in the rest is found, if and only if the text `IsClear` of
the word. -/
theorem isClear_iff {word text : List Char} :
    IsClear word text ↔ ∀ v, text <:+: word ++ v ↔ text <:+: v := by
  constructor
  · rintro (rfl | ⟨hword, hstart⟩) v
    · simp
    · rw [List.infix_append_iff_ne_nil]
      constructor
      · -- An occurrence lies in the word, or in the rest, or it begins in the word and ends in the
        -- rest.
        rintro (h | h | ⟨start, rest, hne, -, rfl, hsuffix, -⟩)
        · exact absurd h hword
        · exact h
        · exact absurd hsuffix (hstart start rest hne rfl)
      · exact fun h => Or.inr (Or.inl h)
  · intro h
    by_cases hnil : text = []
    · exact Or.inl hnil
    · refine Or.inr ⟨fun hword => hnil ?_, fun start rest hne htext hsuffix => ?_⟩
      · have hfound := (h []).1 (by rwa [List.append_nil])
        exact List.infix_nil.1 hfound
      · -- What completes the occurrence that begins in the word is too short to hold the text.
        have hfound : text <:+: rest := by
          refine (h rest).1 ?_
          obtain ⟨front, rfl⟩ := hsuffix
          rw [htext, List.append_assoc]
          exact List.infix_append_right
        have hlength := hfound.length_le
        have hpos := List.length_pos_iff.2 hne
        rw [htext, List.length_append] at hlength
        omega

/-- A text is `IsClear` of words that do not have its first character. -/
theorem isClear_cons {word : List Char} {c : Char} (hc : c ∉ word) (cs : List Char) :
    IsClear word (c :: cs) := by
  refine Or.inr ⟨fun h => hc (h.subset List.mem_cons_self), fun start rest hne htext hsuffix => ?_⟩
  cases start with
  | nil => exact hne rfl
  | cons d start =>
    obtain ⟨rfl, -⟩ := List.cons.inj htext
    exact hc (hsuffix.subset List.mem_cons_self)

/-- An equality, or containment of a text clear of the word. -/
def isClearTest (word : String) (strategy : Strategy) (text : String) (flags : List String) :
    Prop :=
  isTokenTest strategy text flags ∧
    (strategy.isContainment = true → IsClear word.toList text.toList)

/-- `Reading.behind` looks for a text in the word and the value together. -/
private theorem behind_contains (hR : R.Standard) (word text v : String) :
    (R.behind word).value .contains text [] v ↔ text.toList <:+: word.toList ++ v.toList := by
  rw [← String.toList_append]
  exact hR.contains text (word ++ v)

/-- So it does where it must not find the text. -/
private theorem behind_doesNotContain (hR : R.Standard) (word text v : String) :
    (R.behind word).value .doesNotContain text [] v ↔
      ¬ text.toList <:+: word.toList ++ v.toList := by
  rw [← String.toList_append]
  exact hR.doesNotContain text (word ++ v)

/-- `Reading.behind` is not another reading for texts that are clear of the word. -/
private theorem behind_iff (hR : R.Standard) (word v : String) {strategy : Strategy}
    {text : String} {flags : List String} (h : isClearTest word strategy text flags) :
    (R.behind word).value strategy text flags v ↔ R.value strategy text flags v := by
  obtain ⟨⟨hstrategy, rfl⟩, hclear⟩ := h
  cases strategy with
  -- Equality is asked of the value alone in either reading.
  | equalTo => exact Iff.rfl
  | contains => rw [behind_contains hR, hR.contains, isClear_iff.1 (hclear rfl)]
  | doesNotContain =>
    rw [behind_doesNotContain hR, hR.doesNotContain, isClear_iff.1 (hclear rfl)]
  | _ => simp [Strategy.isContainment] at hstrategy

/-- A matcher that only looks for texts that are `IsClear` of the word accepts the same `behind` it.
-/
theorem accepts_behind_iff (hR : R.Standard) {word : String} {m : Matcher}
    (hm : m.IsMadeOf (isClearTest word)) (v : String) :
    m.accepts (R.behind word) [v] ↔ m.accepts R [v] :=
  accepts_congr (fun _ _ _ h => behind_iff hR word v h) m hm

/-- A single search for a text accepts the same `behind` a word only if the text is `IsClear` of the
word. -/
theorem isClear_iff_accepts (hR : R.Standard) (word text : String) {strategy : Strategy}
    (h : strategy.isContainment = true) :
    IsClear word.toList text.toList ↔
      ∀ v, (leaf strategy text []).accepts (R.behind word) [v] ↔
        (leaf strategy text []).accepts R [v] := by
  have hstring : (∀ v : String, text.toList <:+: word.toList ++ v.toList ↔
      text.toList <:+: v.toList) ↔ IsClear word.toList text.toList := by
    refine ⟨fun hv => isClear_iff.2 fun v => ?_, fun hclear v => isClear_iff.1 hclear v.toList⟩
    have hofList := hv (String.ofList v)
    rwa [String.toList_ofList] at hofList
  cases strategy with
  | contains =>
    simp only [accepts_leaf_singleton, behind_contains hR, hR.contains]
    exact hstring.symm
  | doesNotContain =>
    simp only [accepts_leaf_singleton, behind_doesNotContain hR, hR.doesNotContain, not_iff_not]
    exact hstring.symm
  | _ => cases h

end Matcher

/-! ## A standard reading -/

namespace Pattern

/-- What `escapeChar` makes of a character is told from what follows it. -/
theorem escapeChar_append_inj {c d : Char} {cs ds : List Char}
    (h : escapeChar c ++ cs = escapeChar d ++ ds) : c = d ∧ cs = ds := by
  have hslash : '\\' ∈ metacharacters := by decide
  unfold escapeChar at h
  split at h <;> split at h
  · simpa using h
  · -- A backslash never stands for itself.
    rename_i hd
    obtain rfl : '\\' = d := (List.cons.inj h).1
    exact absurd hslash hd
  · rename_i hc _
    obtain rfl : c = '\\' := (List.cons.inj h).1
    exact absurd hslash hc
  · simpa using h

/-- Characters are told from what `escapeChar` makes of them one after the other. -/
private theorem flatMap_escapeChar_inj {cs ds : List Char}
    (h : cs.flatMap escapeChar = ds.flatMap escapeChar) : cs = ds := by
  have hne : ∀ (c : Char) (rest : List Char), escapeChar c ++ rest ≠ [] := fun c rest => by
    unfold escapeChar
    split <;> simp
  induction cs generalizing ds with
  | nil =>
    cases ds with
    | nil => rfl
    | cons d ds => exact absurd h.symm (hne d _)
  | cons c cs ih =>
    cases ds with
    | nil => exact absurd h (hne c _)
    | cons d ds =>
      rw [List.flatMap_cons, List.flatMap_cons] at h
      -- The first units are equal, so the characters are, and the rest is the rest of both.
      obtain ⟨rfl, htail⟩ := escapeChar_append_inj h
      rw [ih htail]

/-- `escape` makes different patterns of different texts. -/
theorem escape_inj {s t : String} : escape s = escape t ↔ s = t := by
  refine ⟨fun h => String.toList_inj.1 (flatMap_escapeChar_inj ?_), fun h => h ▸ rfl⟩
  rw [← toList_escape, ← toList_escape, h]

end Pattern

/-- Knows equality, containment and beginnings, and accepts nothing else. -/
def Reading.literal : Reading where
  value strategy text flags v :=
    flags = [] ∧
      match strategy with
      | .equalTo => v = text
      | .contains => text.toList <:+: v.toList
      | .doesNotContain => ¬ text.toList <:+: v.toList
      | .matching => ∃ start, text = "^" ++ Pattern.escape start ∧ start.toList <+: v.toList
      | _ => False
  schema _ _ _ := False

/-- `Reading.literal` is a standard reading, so there are such readings. -/
theorem Reading.standard_literal : Reading.literal.Standard where
  equalTo text v := by simp [literal]
  contains text v := by simp [literal]
  doesNotContain text v := by simp [literal]
  startsWith start v := by
    simp only [literal, true_and]
    constructor
    · -- Another beginning with the same pattern is the same beginning.
      rintro ⟨start', hstart, hprefix⟩
      have hescape : Pattern.escape start = Pattern.escape start' := by
        have hlist := congrArg String.toList hstart
        rw [String.toList_append, String.toList_append, List.append_cancel_left_eq] at hlist
        exact String.toList_inj.1 hlist
      rwa [Pattern.escape_inj.1 hescape]
    · exact fun hprefix => ⟨start, rfl, hprefix⟩

end HttpStub
