import HttpStub.Matcher.Build

/-!
# Texts in front of a matcher

`prepend` rewrites values and nothing else. What it leaves as it is is the `skeleton` of a matcher,
in which every value that can have a text in front of it is blank; what it rewrites are the `texts`,
those values from left to right, each with its strategy. The two determine the matcher.

Rewriting is an action of texts on matchers: one text after another is their concatenation at once.
For regular expressions this rests on the anchor, of which one is taken off and one put on, so that
two rewritings leave one anchor and not two.
-/

namespace HttpStub

namespace Pattern

/-! ## Anchors -/

/-- A pattern less one leading anchor, if there is one, as `withoutAnchor` takes it off. -/
def unanchored (value : String) : String :=
  String.ofList (withoutAnchor value.toList)

/-- The characters of `unanchored`. -/
theorem toList_unanchored (value : String) :
    (unanchored value).toList = withoutAnchor value.toList :=
  String.toList_ofList

/-- Where no anchor stands at the start, `withoutAnchor` takes nothing off. -/
theorem withoutAnchor_of_head?_ne {cs : List Char} (h : cs.head? ≠ some '^') :
    withoutAnchor cs = cs := by
  -- Another first character, or none, is left where it is.
  unfold withoutAnchor
  split
  · exact absurd rfl h
  · rfl

/-- Just one anchor is taken off by `unanchored`, and only at the start. -/
theorem unanchored_spec (value : String) :
    value.toList.head? = some '^' ∧ value = "^" ++ unanchored value ∨
      value.toList.head? ≠ some '^' ∧ value = unanchored value := by
  by_cases h : value.toList.head? = some '^'
  · obtain ⟨cs, hcs⟩ := List.head?_eq_some_iff.1 h
    -- The characters are put together again from the anchor and the rest.
    have hrest : ("^" ++ unanchored value).toList = value.toList := by
      rw [String.toList_append, toList_unanchored, hcs]
      rfl
    exact .inl ⟨h, (String.toList_inj.1 hrest).symm⟩
  · have hsame : (unanchored value).toList = value.toList := by
      rw [toList_unanchored, withoutAnchor_of_head?_ne h]
    exact .inr ⟨h, (String.toList_inj.1 hsame).symm⟩

/-- As texts, `Pattern.prepend` puts an anchor and the text in front of the pattern `unanchored`. -/
theorem prepend_eq_append (text value : String) :
    prepend text value = "^" ++ text ++ unanchored value := by
  apply String.toList_inj.1
  -- Both sides are compared as characters.
  rw [prepend, String.toList_ofList, String.toList_append, String.toList_append,
    toList_unanchored]
  rfl

/-- The anchor that `Pattern.prepend` puts on is the one that `unanchored` takes off. -/
theorem unanchored_prepend (text value : String) :
    unanchored (prepend text value) = text ++ unanchored value := by
  apply String.toList_inj.1
  -- Only the first anchor is taken off, and that is the new one.
  rw [toList_unanchored, prepend, String.toList_ofList, String.toList_append, toList_unanchored]
  rfl

/-- One text after another is put in front like their concatenation, with one anchor. -/
theorem prepend_prepend (before text value : String) :
    prepend before (prepend text value) = prepend (before ++ text) value := by
  rw [prepend_eq_append before, unanchored_prepend, prepend_eq_append (before ++ text)]
  simp only [String.append_assoc]

end Pattern

namespace Matcher

/-! ## Rewriting values -/

mutual

/-- Rewrites the value of every comparison that is reached through joined and negated matchers. -/
def mapValues (f : Strategy → String → String) : Matcher → Matcher
  | .leaf strategy value flags => .leaf strategy (f strategy value) flags
  | .joined op first rest => .joined op (mapValues f first) (mapValuesList f rest)
  | .negated operand => .negated (mapValues f operand)
  | .absent => .absent
  | .values strategy matchers => .values strategy matchers
  | .schema source version => .schema source version

/-- Rewrites the values in a list of matchers with `mapValues`. -/
def mapValuesList (f : Strategy → String → String) : List Matcher → List Matcher
  | [] => []
  | m :: ms => mapValues f m :: mapValuesList f ms

end

section mapValues

variable (f g : Strategy → String → String)

/-- In a list each matcher is rewritten by `mapValues`. -/
theorem mapValuesList_eq_map (ms : List Matcher) : mapValuesList f ms = ms.map (mapValues f) := by
  induction ms with
  | nil => rfl
  | cons m ms ih => rw [mapValuesList, ih, List.map_cons]

mutual

/-- `mapValues` twice is `mapValues` with the composition. -/
theorem mapValues_mapValues : (m : Matcher) →
    (m.mapValues g).mapValues f = m.mapValues fun strategy value => f strategy (g strategy value)
  | .leaf .. | .absent | .values .. | .schema .. => rfl
  | .joined op first rest => by
    simp only [mapValues, mapValues_mapValues first, mapValuesList_mapValuesList rest]
  | .negated operand => by simp only [mapValues, mapValues_mapValues operand]

/-- `mapValues_mapValues` for a list of matchers. -/
theorem mapValuesList_mapValuesList : (ms : List Matcher) →
    mapValuesList f (mapValuesList g ms) =
      mapValuesList (fun strategy value => f strategy (g strategy value)) ms
  | [] => rfl
  | m :: ms => by
    simp only [mapValuesList, mapValues_mapValues m, mapValuesList_mapValuesList ms]

end

/-- Whether `join` lets a node take in another matcher does not depend on values. -/
theorem mapValues_join (op : Connective) (m other : Matcher) :
    (m.join op other).mapValues f = (m.mapValues f).join op (other.mapValues f) := by
  cases m with
  | joined op' first rest =>
    by_cases h : op' = op
    · simp [join, mapValues, mapValuesList_eq_map, h]
    · simp [join, mapValues, mapValuesList, h]
  | _ => rfl

end mapValues

mutual

/-- A text in front of a matcher, by `prepend`, is one way to rewrite its values. -/
theorem prepend_eq_mapValues (text : String) : (m : Matcher) →
    m.prepend text = m.mapValues (prependValue text)
  | .leaf .. | .absent | .values .. | .schema .. => rfl
  | .joined op first rest => by
    rw [prepend, mapValues, prepend_eq_mapValues text first, prependList_eq_mapValuesList text rest]
  | .negated operand => by rw [prepend, mapValues, prepend_eq_mapValues text operand]

/-- `prepend_eq_mapValues` for a list of matchers. -/
theorem prependList_eq_mapValuesList (text : String) : (ms : List Matcher) →
    prependList text ms = mapValuesList (prependValue text) ms
  | [] => rfl
  | m :: ms => by
    rw [prependList, mapValuesList, prepend_eq_mapValues text m,
      prependList_eq_mapValuesList text ms]

end

/-! ## The skeleton and the texts -/

end Matcher

/-- Whether a text can stand in front of the value, which is a literal one, by `isEquality`, or a
regular expression, by `isRegex`. -/
def Strategy.takesText (strategy : Strategy) : Bool :=
  strategy.isEquality || strategy.isRegex

namespace Matcher

/-- Leaves out a value that a text can stand in front of. -/
def blank (strategy : Strategy) (value : String) : String :=
  if strategy.takesText then "" else value

/-- The matcher with every value `blank` that a text can stand in front of. -/
def skeleton (m : Matcher) : Matcher :=
  m.mapValues blank

mutual

/-- The values that a text can stand in front of, from left to right, with their strategies. -/
def texts : Matcher → List (Strategy × String)
  | .leaf strategy value _ => if strategy.takesText then [(strategy, value)] else []
  | .joined _ first rest => texts first ++ textsList rest
  | .negated operand => texts operand
  | .absent | .values .. | .schema .. => []

/-- The `texts` of a list of matchers. -/
def textsList : List Matcher → List (Strategy × String)
  | [] => []
  | m :: ms => texts m ++ textsList ms

end

mutual

/-- Among the `texts` each value is rewritten for its own strategy, and none comes or goes. -/
theorem texts_mapValues (f : Strategy → String → String) : (m : Matcher) →
    (m.mapValues f).texts = m.texts.map fun text => (text.1, f text.1 text.2)
  | .leaf strategy value flags => by
    -- A blank value may be among the texts or not; rewriting does not change its strategy.
    simp only [mapValues, texts]
    split <;> rfl
  | .joined op first rest => by
    rw [mapValues, texts, texts, List.map_append, texts_mapValues f first,
      textsList_mapValuesList f rest]
  | .negated operand => by rw [mapValues, texts, texts, texts_mapValues f operand]
  | .absent | .values .. | .schema .. => rfl

/-- `texts_mapValues` for a list of matchers. -/
theorem textsList_mapValuesList (f : Strategy → String → String) : (ms : List Matcher) →
    textsList (mapValuesList f ms) = (textsList ms).map fun text => (text.1, f text.1 text.2)
  | [] => rfl
  | m :: ms => by
    rw [mapValuesList, textsList, textsList, List.map_append, texts_mapValues f m,
      textsList_mapValuesList f ms]

end

mutual

/-- Matchers of one `skeleton` take equally many texts off a list, and are equal if these are. -/
theorem eq_of_skeleton_eq {n : Matcher} {xs ys : List (Strategy × String)} : (m : Matcher) →
    m.skeleton = n.skeleton → m.texts ++ xs = n.texts ++ ys → m = n ∧ xs = ys
  | .leaf strategy value flags, hs, ht => by
    cases n with
    | leaf strategy' value' flags' =>
      obtain ⟨rfl, hvalue, rfl⟩ := Matcher.leaf.inj hs
      -- The value is among the texts, or it is in the skeleton.
      by_cases htakes : strategy.takesText = true
      · rw [texts, texts, if_pos htakes, if_pos htakes] at ht
        obtain ⟨hpair, hxs⟩ := List.cons.inj ht
        rw [(Prod.mk.inj hpair).2]
        exact ⟨rfl, hxs⟩
      · rw [texts, texts, if_neg htakes, if_neg htakes] at ht
        rw [blank, blank, if_neg htakes, if_neg htakes] at hvalue
        rw [hvalue]
        exact ⟨rfl, ht⟩
    | _ => simp [skeleton, mapValues] at hs
  | .joined op first rest, hs, ht => by
    cases n with
    | joined op' first' rest' =>
      obtain ⟨rfl, hfirst, hrest⟩ := Matcher.joined.inj hs
      rw [texts, texts, List.append_assoc, List.append_assoc] at ht
      obtain ⟨rfl, hmore⟩ := eq_of_skeleton_eq first hfirst ht
      obtain ⟨rfl, hxs⟩ := eq_of_skeletonList_eq rest hrest hmore
      exact ⟨rfl, hxs⟩
    | _ => simp [skeleton, mapValues] at hs
  | .negated operand, hs, ht => by
    cases n with
    | negated operand' =>
      obtain ⟨rfl, hxs⟩ := eq_of_skeleton_eq operand (Matcher.negated.inj hs) ht
      exact ⟨rfl, hxs⟩
    | _ => simp [skeleton, mapValues] at hs
  | .absent, hs, ht | .values .., hs, ht | .schema .., hs, ht => by
    -- These have no texts, and are their own skeletons.
    cases n with
    | leaf | joined | negated => simp [skeleton, mapValues] at hs
    | _ => exact ⟨hs, ht⟩

/-- The same for lists of matchers, which take off the texts of all their matchers. -/
theorem eq_of_skeletonList_eq {ns : List Matcher} {xs ys : List (Strategy × String)} :
    (ms : List Matcher) →
    mapValuesList blank ms = mapValuesList blank ns →
    textsList ms ++ xs = textsList ns ++ ys → ms = ns ∧ xs = ys
  | [], hs, ht => by
    cases ns with
    | nil => exact ⟨rfl, ht⟩
    | cons n ns => cases hs
  | m :: ms, hs, ht => by
    cases ns with
    | nil => cases hs
    | cons n ns =>
      obtain ⟨hm, hms⟩ := List.cons.inj hs
      rw [textsList, textsList, List.append_assoc, List.append_assoc] at ht
      obtain ⟨rfl, hmore⟩ := eq_of_skeleton_eq m hm ht
      obtain ⟨rfl, hxs⟩ := eq_of_skeletonList_eq ms hms hmore
      exact ⟨rfl, hxs⟩

end

mutual

/-- The strategy of each of the `texts` is one whose value a text can stand in front of. -/
theorem takesText_of_mem_texts {text : Strategy × String} : (m : Matcher) → text ∈ m.texts →
    text.1.takesText = true
  | .leaf strategy value flags, h => by
    -- The value of a comparison is listed only under this very condition.
    rw [texts] at h
    split at h
    · rename_i htakes
      rw [List.mem_singleton.1 h]
      exact htakes
    · cases h
  | .joined op first rest, h => by
    rw [texts, List.mem_append] at h
    cases h with
    | inl h => exact takesText_of_mem_texts first h
    | inr h => exact takesText_of_mem_textsList rest h
  | .negated operand, h => takesText_of_mem_texts operand h
  | .absent, h | .values .., h | .schema .., h => by cases h

/-- `takesText_of_mem_texts` for a list of matchers. -/
theorem takesText_of_mem_textsList {text : Strategy × String} : (ms : List Matcher) →
    text ∈ textsList ms → text.1.takesText = true
  | [], h => by cases h
  | m :: ms, h => by
    rw [textsList, List.mem_append] at h
    cases h with
    | inl h => exact takesText_of_mem_texts m h
    | inr h => exact takesText_of_mem_textsList ms h

end

/-- The `skeleton` and the `texts` determine a matcher. -/
theorem ext_iff_skeleton_texts {m n : Matcher} :
    n = m ↔ n.skeleton = m.skeleton ∧ n.texts = m.texts := by
  constructor
  · rintro rfl
    exact ⟨rfl, rfl⟩
  · rintro ⟨hs, ht⟩
    -- Nothing stands behind the texts of the whole matchers.
    have happend : n.texts ++ [] = m.texts ++ ([] : List (Strategy × String)) := by rw [ht]
    exact (eq_of_skeleton_eq n hs happend).1

/-! ## Putting texts in front -/

/-- `prependValue` puts a text in front of the value of one comparison behind the text before it. -/
theorem prependValue_prependValue (before text : String) (strategy : Strategy) (value : String) :
    prependValue before strategy (prependValue text strategy value) =
      prependValue (before ++ text) strategy value := by
  unfold prependValue
  -- A value is literal, or a regular expression, or left alone.
  by_cases hequality : strategy.isEquality = true
  · simp only [hequality, if_true, String.append_assoc]
  · by_cases hregex : strategy.isRegex = true
    · simp only [hequality, hregex, if_true]
      exact Pattern.prepend_prepend before text value
    · simp only [hequality, hregex, Bool.false_eq_true, if_false]

/-- One text after another is put in front of a matcher like their concatenation. -/
theorem prepend_prepend (before text : String) (m : Matcher) :
    (m.prepend text).prepend before = m.prepend (before ++ text) := by
  simp only [prepend_eq_mapValues, mapValues_mapValues, prependValue_prependValue]

example : (((matching "^c").or (contains "^c")).prepend "b").prepend "^a" =
    any (matching "^^abc") [contains "^c"] := by decide

/-- Of texts put in front by `prepend` one after another, the last one comes first. -/
theorem foldl_prepend (first : String) (more : List String) (m : Matcher) :
    (first :: more).foldl (fun m text => m.prepend text) m =
      m.prepend (String.join (first :: more).reverse) := by
  induction more generalizing first m with
  | nil => simp [String.join]
  | cons second more ih =>
    -- The first text is put in front of the matcher, and the induction is for all matchers.
    have hstep : (first :: second :: more).foldl (fun m text => m.prepend text) m =
        ((second :: more).foldl (fun m text => m.prepend text) (m.prepend first)) := rfl
    rw [hstep, ih, prepend_prepend]
    simp [String.join_append, String.append_assoc]

/-- A text in front of a matcher leaves its `skeleton` as it is. -/
theorem skeleton_prepend (text : String) (m : Matcher) :
    (m.prepend text).skeleton = m.skeleton := by
  rw [skeleton, skeleton, prepend_eq_mapValues, mapValues_mapValues]
  -- A value that takes a text is blank before and after; no other value is rewritten.
  congr 1
  funext strategy value
  cases strategy <;> rfl

/-- The text once `before` stands in front of it, as `prependValue` rewrites it. -/
def prepended (before : String) (text : Strategy × String) : Strategy × String :=
  (text.1, if text.1.isEquality then before ++ text.2
    else "^" ++ before ++ Pattern.unanchored text.2)

/-- Each of the `texts` is a literal value or a regular expression, and `prepend` rewrites it as
that. -/
theorem texts_prepend (before : String) (m : Matcher) :
    (m.prepend before).texts = m.texts.map (prepended before) := by
  rw [prepend_eq_mapValues, texts_mapValues]
  apply List.map_congr_left
  intro text htext
  have htakes := takesText_of_mem_texts m htext
  rw [Strategy.takesText, Bool.or_eq_true] at htakes
  rw [prepended, prependValue]
  -- What is no literal value among the texts is a regular expression.
  by_cases hequality : text.1.isEquality = true
  · rw [if_pos hequality, if_pos hequality]
  · have hregex : text.1.isRegex = true := htakes.resolve_left hequality
    rw [if_neg hequality, if_neg hequality, if_pos hregex, Pattern.prepend_eq_append]

/-- Texts in front of matchers. One text after another is their concatenation at once, so that
however many there are, each literal value has all of them in front and each regular expression has
them behind the one anchor it is left with. A text goes through connectives and negations to the
operands, also where joining takes an operand into a node. Nothing but the texts is rewritten: the
skeleton stays, and with the rewritten texts it makes the matcher what it is. -/
theorem prepend_acts (m a b : Matcher) (rest : List Matcher) (p q : String) (more : List String) :
    (m.prepend q).prepend p = m.prepend (p ++ q) ∧
      (q :: more).foldl (fun m text => m.prepend text) m =
        m.prepend (String.join (q :: more).reverse) ∧
      (a.or b).prepend p = (a.prepend p).or (b.prepend p) ∧
      (a.and b).prepend p = (a.prepend p).and (b.prepend p) ∧
      a.not.prepend p = (a.prepend p).not ∧
      (any a rest).prepend p = any (a.prepend p) (rest.map (prepend p)) ∧
      (all a rest).prepend p = all (a.prepend p) (rest.map (prepend p)) ∧
      (∀ n, n = m.prepend p ↔ n.skeleton = m.skeleton ∧ n.texts = m.texts.map fun text =>
        (text.1, if text.1.isEquality then p ++ text.2
          else "^" ++ p ++ Pattern.unanchored text.2)) ∧
      (m.texts.all fun text => text.1.isEquality || text.1.isRegex) = true ∧
      ∀ value, (Pattern.unanchored ("^" ++ p ++ Pattern.unanchored value) =
          p ++ Pattern.unanchored value) ∧
        (value.toList.head? = some '^' ∧ value = "^" ++ Pattern.unanchored value ∨
          value.toList.head? ≠ some '^' ∧ value = Pattern.unanchored value) := by
  have hjoin : ∀ op, (a.join op b).prepend p = (a.prepend p).join op (b.prepend p) := by
    intro op
    simp only [prepend_eq_mapValues, mapValues_join]
  have hjoined : ∀ op, (joined op a rest).prepend p =
      .joined op (a.prepend p) (rest.map (prepend p)) := by
    intro op
    rw [prepend, prependList_eq_map]
  have hext : ∀ n, n = m.prepend p ↔
      n.skeleton = m.skeleton ∧ n.texts = m.texts.map (prepended p) := by
    intro n
    rw [ext_iff_skeleton_texts, skeleton_prepend, texts_prepend]
  refine ⟨prepend_prepend p q m, foldl_prepend q more m, hjoin .or, hjoin .and, rfl, hjoined .or,
    hjoined .and, hext, ?_, ?_⟩
  · rw [List.all_eq_true]
    intro text htext
    exact takesText_of_mem_texts m htext
  · intro value
    have hprepend := Pattern.unanchored_prepend p value
    rw [Pattern.prepend_eq_append] at hprepend
    exact ⟨hprepend, Pattern.unanchored_spec value⟩

end Matcher

end HttpStub
