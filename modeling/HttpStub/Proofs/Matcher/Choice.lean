import HttpStub.Proofs.Matcher.Meaning
import HttpStub.Proofs.Matcher.Prepend
import HttpStub.Request.Basic

/-!
# A text in front of a choice

A regular expression may be a choice: plain texts with bars between them, behind an anchor or not.
Where it is about whole values, it accepts these texts and no others.

A bar binds weaker than the characters beside it. A text that is put behind the anchor of a choice
stands in front of the first text only, and so the rewritten choice accepts, of the values that
begin with the word, the first text behind the word and whichever of the other texts have the word
in front already. It describes what the choice described behind the word if the choice is of one
text only, and if no other text begins with the word it does so only then.
-/

namespace HttpStub

namespace Pattern

/-- The characters that are no plain text in a regular expression. -/
def operators : List Char :=
  ['\\', '.', '+', '*', '?', '(', ')', '|', '[', ']', '\x7b', '\x7d', '^', '$']

/-- All of the text is taken literally: it has none of the `operators`. -/
def IsPlain (text : String) : Prop :=
  ∀ c ∈ text.toList, c ∉ operators

instance (text : String) : Decidable (IsPlain text) :=
  decidable_of_iff (text.toList.all fun c => !operators.contains c) (by simp [IsPlain])

/-- A plain text has none of the `operators`. -/
theorem IsPlain.notMem {text : String} {c : Char} (h : IsPlain text) (hc : c ∈ operators) :
    c ∉ text.toList :=
  fun hmem => h c hmem hc

/-- Two plain texts are plain behind one another. -/
theorem IsPlain.append {s t : String} (hs : IsPlain s) (ht : IsPlain t) : IsPlain (s ++ t) := by
  intro c hc
  rw [String.toList_append, List.mem_append] at hc
  exact hc.elim (hs c) (ht c)

/-- A choice of plain texts, behind an anchor or not. -/
structure Choice where
  /-- Whether the choice stands behind an anchor. -/
  isAnchored : Bool
  first : String
  others : List String
  /-- No text has a bar or another operator. -/
  arePlain : ∀ text ∈ first :: others, IsPlain text

namespace Choice

/-- What is to be chosen from: the `first` text and the `others`. -/
def texts (c : Choice) : List String :=
  c.first :: c.others

/-- The `texts` with a bar between each two of them. -/
def body (c : Choice) : String :=
  "|".intercalate c.texts

/-- How the choice is written: its `body`, with the anchor in front if it is anchored. -/
def pattern (c : Choice) : String :=
  if c.isAnchored then "^" ++ c.body else c.body

/-! ## Reading a choice -/

/-- What is in none of the texts and is no bar is nowhere between the bars. -/
private theorem notMem_intercalate {d : Char} (hbar : d ≠ '|') {texts : List String}
    (h : ∀ text ∈ texts, d ∉ text.toList) : d ∉ ("|".intercalate texts).toList := by
  -- By induction on the texts; only behind a first one there is a bar.
  induction texts with
  | nil => simp
  | cons text texts ih =>
    have htext : d ∉ text.toList := h text List.mem_cons_self
    have hrest := ih fun t ht => h t (List.mem_cons_of_mem _ ht)
    cases texts with
    | nil => simpa using htext
    | cons t texts =>
      rw [String.intercalate_cons_cons, String.toList_append, String.toList_append, List.mem_append,
        List.mem_append, not_or, not_or]
      exact ⟨⟨htext, by simpa using hbar⟩, hrest⟩

/-- The anchor of a `pattern` is the only one: behind it stands the `body`. -/
theorem unanchored_pattern (c : Choice) : unanchored c.pattern = c.body := by
  unfold pattern
  split
  · -- The anchor that was put in front is the one that is taken off.
    apply String.toList_inj.1
    rw [toList_unanchored, String.toList_append]
    rfl
  · -- Without an anchor the body begins with a plain text, and no anchor is plain.
    have hcaret : '^' ∉ c.body.toList :=
      notMem_intercalate (by decide) fun text htext => (c.arePlain text htext).notMem (by decide)
    have hhead : c.body.toList.head? ≠ some '^' := fun h => hcaret (List.mem_of_head? h)
    rcases unanchored_spec c.body with ⟨hhead', -⟩ | ⟨-, hbody⟩
    · exact absurd hhead' hhead
    · exact hbody.symm

/-- The bars tell the texts of a `body` apart. -/
theorem splitOn_body (c : Choice) : c.body.toList.splitOn '|' = c.texts.map String.toList := by
  -- No text has a bar of its own.
  have hbars : ∀ l ∈ c.texts.map String.toList, '|' ∉ l := by
    intro l hl
    obtain ⟨text, htext, rfl⟩ := List.mem_map.1 hl
    exact (c.arePlain text htext).notMem (by decide)
  have hchars : c.body.toList = ['|'].intercalate (c.texts.map String.toList) :=
    String.toList_intercalate
  rw [hchars, List.splitOn_intercalate '|' hbars (by simp [texts])]

/-- A `pattern` is that of one choice at most, but for the anchor. -/
theorem texts_eq_of_pattern_eq {c d : Choice} (h : c.pattern = d.pattern) : c.texts = d.texts := by
  have hmap : c.texts.map String.toList = d.texts.map String.toList := by
    rw [← splitOn_body, ← splitOn_body, ← unanchored_pattern, ← unanchored_pattern, h]
  exact (List.map_inj_right fun _ _ => String.toList_inj.1).1 hmap

/-! ## A text behind the anchor -/

/-- The choice with a word in front of its first text, as `prepend_pattern` finds it. -/
def behind (c : Choice) (word : String) (hword : IsPlain word) : Choice where
  isAnchored := true
  first := word ++ c.first
  others := c.others
  arePlain := by
    obtain ⟨hfirst, hothers⟩ := List.forall_mem_cons.1 c.arePlain
    exact List.forall_mem_cons.2 ⟨hword.append hfirst, hothers⟩

/-- What `Pattern.prepend` puts behind the anchor stands in front of the first text. -/
theorem prepend_pattern (c : Choice) {word : String} (hword : IsPlain word) :
    prepend word c.pattern = (c.behind word hword).pattern := by
  -- Joining the texts leaves the front of the first one as it is.
  have hbody : (c.behind word hword).body = word ++ c.body :=
    String.intercalate_cons_append
  rw [prepend_eq_append, unanchored_pattern, pattern, hbody, String.append_assoc]
  rfl

/-- What the choice `behind` a word has that begins with the word: its first text, and the other
ones that have the word themselves. -/
theorem append_mem_texts_behind {c : Choice} {word : String} (hword : IsPlain word) (t : String) :
    word ++ t ∈ (c.behind word hword).texts ↔ t = c.first ∨ word ++ t ∈ c.others := by
  simp [texts, behind, String.append_right_inj]

end Choice

end Pattern

open Pattern (IsPlain Choice)

/-! ## Choices of whole values -/

/-- With these flags a regular expression is about the whole value: a choice matches its texts. -/
structure Reading.Whole (R : Reading) (flags : List String) : Prop where
  matching : ∀ (c : Choice) v, R.value .matching c.pattern flags v ↔ v ∈ c.texts
  doesNotMatch : ∀ (c : Choice) v, R.value .doesNotMatch c.pattern flags v ↔ v ∉ c.texts

/-- Knows choices of whole values and no other regular expressions; see `Reading.whole_choices`. -/
def Reading.choices : Reading where
  value strategy text _ v :=
    match strategy with
    | .matching => ∃ c : Choice, c.pattern = text ∧ v ∈ c.texts
    | .doesNotMatch => ¬ ∃ c : Choice, c.pattern = text ∧ v ∈ c.texts
    | _ => False
  schema _ _ _ := False

/-- In `Reading.choices` regular expressions are about whole values, with any flags. -/
theorem Reading.whole_choices (flags : List String) : Reading.choices.Whole flags := by
  -- A pattern may be written for two choices, but not with different texts.
  have hone : ∀ (c : Choice) v, (∃ d : Choice, d.pattern = c.pattern ∧ v ∈ d.texts) ↔
      v ∈ c.texts := by
    intro c v
    refine ⟨fun ⟨d, hpattern, hv⟩ => ?_, fun hv => ⟨c, rfl, hv⟩⟩
    rwa [← Choice.texts_eq_of_pattern_eq hpattern]
  exact ⟨hone, fun c v => not_congr (hone c v)⟩

/-- The words of an `AuthScheme` are plain. -/
theorem RequestPattern.AuthScheme.isPlain_word (scheme : AuthScheme) : IsPlain scheme.word := by
  cases scheme <;> decide

namespace Matcher

open RequestPattern (AuthScheme)

variable {R : Reading} {flags : List String}

/-- With a word in front, a choice wants the word in front of its first text alone, as
`append_mem_texts_behind` has it. -/
private theorem accepts_prepend_choice (hR : R.Whole flags) (c : Choice) {word : String}
    (hword : IsPlain word) (t : String) :
    ((leaf .matching c.pattern flags).prepend word).accepts R [word ++ t] ↔
      t = c.first ∨ word ++ t ∈ c.others := by
  have hvalue : prependValue word .matching c.pattern = (c.behind word hword).pattern :=
    c.prepend_pattern hword
  rw [prepend, accepts_leaf_singleton, hvalue, hR.matching, Choice.append_mem_texts_behind]

/-- The negated comparison rejects what `matching` accepts. -/
private theorem accepts_prepend_choice_iff_not (hR : R.Whole flags) (c : Choice) {word : String}
    (hword : IsPlain word) (v : String) :
    ((leaf .doesNotMatch c.pattern flags).prepend word).accepts R [v] ↔
      ¬ ((leaf .matching c.pattern flags).prepend word).accepts R [v] := by
  have hvalue : prependValue word .matching c.pattern = (c.behind word hword).pattern :=
    c.prepend_pattern hword
  have hvalue' : prependValue word .doesNotMatch c.pattern = (c.behind word hword).pattern :=
    c.prepend_pattern hword
  rw [prepend, prepend, accepts_leaf_singleton, accepts_leaf_singleton, hvalue, hvalue',
    hR.matching, hR.doesNotMatch]

/-- A choice none of whose other texts begins with the word is moved `behind` it as a whole only if
it has no other texts. -/
private theorem forall_iff_eq_first {c : Choice} {word : String}
    (hothers : ∀ text ∈ c.others, ¬ word.toList <+: text.toList) :
    (∀ t, (t = c.first ∨ word ++ t ∈ c.others) ↔ t ∈ c.texts) ↔
      ∀ text ∈ c.others, text = c.first := by
  -- Where no other text begins with the word, behind the word only the first text is left.
  have hnone : ∀ t, word ++ t ∉ c.others := by
    intro t hmem
    refine hothers _ hmem ?_
    rw [String.toList_append]
    exact List.prefix_append _ _
  constructor
  · -- If all other texts are the first one, there is only that to choose.
    intro h text htext
    -- The word and another text is none of the texts, so only the first text is moved.
    exact ((h text).2 (List.mem_cons_of_mem _ htext)).resolve_right (hnone text)
  · intro h t
    simp only [hnone t, or_false, Choice.texts, List.mem_cons]
    exact ⟨.inl, fun ht => ht.elim id (h t)⟩

/-- What a choice describes once the word of a scheme stands in front of it, where regular
expressions are about whole values. Behind the word only the first text is accepted, and of the
other texts those that are the word and the value already; the negated comparison rejects just
these. So the choice is not moved behind the word unless its other texts add nothing: where none of
them begins with the word, unless each of them is the first text. -/
theorem prepend_choice_accepts_iff (R : Reading) (flags : List String) (hR : R.Whole flags)
    (scheme : AuthScheme) (c : Choice) :
    let moved (strategy : Strategy) := (leaf strategy c.pattern flags).prepend scheme.word
    (∀ t, ((moved .matching).accepts R [scheme.word ++ t] ↔
        t = c.first ∨ scheme.word ++ t ∈ c.others) ∧
      ((moved .doesNotMatch).accepts R [scheme.word ++ t] ↔
        ¬ (t = c.first ∨ scheme.word ++ t ∈ c.others))) ∧
      ((∀ text ∈ c.others, ¬ scheme.word.toList <+: text.toList) →
        ((∀ t, (moved .matching).accepts R [scheme.word ++ t] ↔
            (leaf .matching c.pattern flags).accepts R [t]) ↔
          ∀ text ∈ c.others, text = c.first) ∧
        ((∀ t, (moved .doesNotMatch).accepts R [scheme.word ++ t] ↔
            ¬ (leaf .matching c.pattern flags).accepts R [t]) ↔
          ∀ text ∈ c.others, text = c.first)) := by
  intro moved
  have hword := scheme.isPlain_word
  have hmoved : ∀ t, (moved .matching).accepts R [scheme.word ++ t] ↔
      t = c.first ∨ scheme.word ++ t ∈ c.others :=
    accepts_prepend_choice hR c hword
  have hnegated : ∀ t, (moved .doesNotMatch).accepts R [scheme.word ++ t] ↔
      ¬ (t = c.first ∨ scheme.word ++ t ∈ c.others) := by
    intro t
    rw [← hmoved t]
    exact accepts_prepend_choice_iff_not hR c hword _
  refine ⟨fun t => ⟨hmoved t, hnegated t⟩, fun hothers => ?_⟩
  -- Both comparisons come down to whether the first text is all there is to choose.
  simp only [hmoved, hnegated, not_iff_not, accepts_leaf_singleton, hR.matching]
  exact ⟨forall_iff_eq_first hothers, forall_iff_eq_first hothers⟩

/-- Behind its word a bearer token may be the first of two texts but not the second. -/
theorem prepend_choice_accepts_iff_second :
    let c : Choice := ⟨false, "a", ["b"], by decide⟩
    Reading.choices.Whole [] ∧ c.pattern = "a|b" ∧
      (∀ text ∈ c.others, ¬ AuthScheme.bearer.word.toList <+: text.toList) ∧
      (matching "a|b").accepts .choices ["b"] ∧
      ((matching "a|b").prepend AuthScheme.bearer.word).accepts .choices ["Bearer a"] ∧
      ¬ ((matching "a|b").prepend AuthScheme.bearer.word).accepts .choices ["Bearer b"] := by
  intro c
  have hR := Reading.whole_choices []
  have hpattern : c.pattern = "a|b" := by decide
  obtain ⟨hmoved, -⟩ := prepend_choice_accepts_iff .choices [] hR .bearer c
  -- The first text is moved behind the word, and the second one is left without it.
  simp only [hpattern] at hmoved
  have hsecond : (matching "a|b").accepts .choices ["b"] := by
    rw [matching, accepts_leaf_singleton, ← hpattern, hR.matching]
    decide
  refine ⟨hR, hpattern, by decide, hsecond, (hmoved "a").1.2 (.inl rfl), fun h => ?_⟩
  exact absurd ((hmoved "b").1.1 h) (by decide)

end Matcher

end HttpStub
