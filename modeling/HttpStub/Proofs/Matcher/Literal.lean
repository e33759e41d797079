import HttpStub.Proofs.Matcher.Meaning
import HttpStub.Proofs.Matcher.Prepend
import HttpStub.Request.Basic

/-!
# Beginnings, taken literally

The pattern for a beginning is an anchor and a text of units, each of which stands for one
character: a metacharacter behind a backslash, or a character that is none. A text splits into units
in one way only, because a backslash never stands for itself, so the pattern tells the beginning.
Two rewritings meet in it: a beginning is escaped, and what is put in front of a pattern is not.
They agree on the words in front of credentials, and on all texts without a metacharacter.
-/

namespace HttpStub

namespace Pattern

/-! ## Units -/

/-- The texts that stand for one character. -/
inductive IsCharUnit : List Char → Prop where
  | escaped {c : Char} (h : c ∈ metacharacters) : IsCharUnit ['\\', c]
  | plain {c : Char} (h : c ∉ metacharacters) : IsCharUnit [c]

/-- The text is made up of these units, from left to right. -/
structure IsSplit (units : List (List Char)) (text : String) : Prop where
  isUnit : ∀ unit ∈ units, IsCharUnit unit
  flatten_eq : units.flatten = text.toList

/-- `escapeChar` makes one unit of a character. -/
theorem isCharUnit_escapeChar (c : Char) : IsCharUnit (escapeChar c) := by
  unfold escapeChar
  split
  · exact .escaped ‹_›
  · exact .plain ‹_›

/-- The unit that `escapeChar` makes ends in the character. -/
theorem getLast?_escapeChar (c : Char) : (escapeChar c).getLast? = some c := by
  unfold escapeChar
  split <;> rfl

/-- Every unit is what `escapeChar` makes of some character. -/
theorem IsCharUnit.exists_escapeChar {unit : List Char} (h : IsCharUnit unit) :
    ∃ c, unit = escapeChar c := by
  cases h with
  | @escaped c h => exact ⟨c, (if_pos h).symm⟩
  | @plain c h => exact ⟨c, (if_neg h).symm⟩

/-- No unit is empty. -/
theorem IsCharUnit.ne_nil {unit : List Char} (h : IsCharUnit unit) : unit ≠ [] := by
  cases h <;> simp

/-- No unit goes on where another one ends. -/
theorem IsCharUnit.append_inj {unit other cs ds : List Char} (h : IsCharUnit unit)
    (hother : IsCharUnit other) (heq : unit ++ cs = other ++ ds) : unit = other ∧ cs = ds := by
  obtain ⟨c, rfl⟩ := h.exists_escapeChar
  obtain ⟨d, rfl⟩ := hother.exists_escapeChar
  obtain ⟨rfl, hrest⟩ := escapeChar_append_inj heq
  exact ⟨rfl, hrest⟩

/-- Units are told from the text that they make up. -/
theorem eq_of_flatten_eq {units others : List (List Char)} (h : ∀ unit ∈ units, IsCharUnit unit)
    (hothers : ∀ unit ∈ others, IsCharUnit unit) (heq : units.flatten = others.flatten) :
    units = others := by
  induction units generalizing others with
  | nil =>
    cases others with
    | nil => rfl
    | cons other others =>
      -- No unit is empty, so a text that is made up of some is not.
      have hnil : other = [] := (List.append_eq_nil_iff.1 heq.symm).1
      exact absurd hnil (hothers other List.mem_cons_self).ne_nil
  | cons unit units ih =>
    cases others with
    | nil =>
      have hnil : unit = [] := (List.append_eq_nil_iff.1 heq).1
      exact absurd hnil (h unit List.mem_cons_self).ne_nil
    | cons other others =>
      obtain ⟨hunit, hunits⟩ := List.forall_mem_cons.1 h
      obtain ⟨hother, hmore⟩ := List.forall_mem_cons.1 hothers
      -- Neither of the two first units goes on where the other one ends.
      obtain ⟨rfl, hrest⟩ := hunit.append_inj hother heq
      rw [ih hunits hmore hrest]

/-- A text splits into units in one way at most. -/
theorem IsSplit.unique {units others : List (List Char)} {text : String} (h : IsSplit units text)
    (hothers : IsSplit others text) : others = units :=
  eq_of_flatten_eq hothers.isUnit h.isUnit (hothers.flatten_eq.trans h.flatten_eq.symm)

/-- `escape` splits into what `escapeChar` makes of the characters. -/
theorem isSplit_escape (s : String) : IsSplit (s.toList.map escapeChar) (escape s) where
  isUnit := List.forall_mem_map.2 fun c _ => isCharUnit_escapeChar c
  flatten_eq := by rw [toList_escape, List.flatMap_def]

/-- Each unit of `isSplit_escape` ends in the character that it stands for. -/
theorem filterMap_getLast?_escape (cs : List Char) :
    (cs.map escapeChar).filterMap List.getLast? = cs := by
  have hlast : List.getLast? ∘ escapeChar = some := funext getLast?_escapeChar
  rw [List.filterMap_map, hlast, List.filterMap_some]

/-! ## Texts that are their own units -/

/-- `escapeChar` makes no text shorter. -/
theorem length_le_flatMap_escapeChar (cs : List Char) :
    cs.length ≤ (cs.flatMap escapeChar).length := by
  induction cs with
  | nil => exact Nat.le_refl 0
  | cons c cs ih =>
    have hunit : 1 ≤ (escapeChar c).length :=
      List.length_pos_iff.2 (isCharUnit_escapeChar c).ne_nil
    rw [List.flatMap_cons, List.length_append, List.length_cons]
    omega

/-- Characters stay as they are if and only if none of them is a metacharacter. -/
theorem flatMap_escapeChar_eq_self_iff {cs : List Char} :
    cs.flatMap escapeChar = cs ↔ ∀ c ∈ cs, c ∉ metacharacters := by
  induction cs with
  | nil => simp
  | cons c cs ih =>
    rw [List.flatMap_cons, List.forall_mem_cons, ← ih]
    by_cases hc : c ∈ metacharacters
    · -- A backslash makes the text longer, and nothing makes it shorter again.
      have hlength := length_le_flatMap_escapeChar cs
      refine iff_of_false (fun heq => ?_) fun h => h.1 hc
      have hlonger := congrArg List.length heq
      simp only [escapeChar, if_pos hc, List.length_append, List.length_cons,
        List.length_nil] at hlonger
      omega
    · simp [escapeChar, hc]

/-- `escape` leaves a text as it is if and only if the text has no metacharacter. -/
theorem escape_eq_self_iff {s : String} :
    escape s = s ↔ ∀ c ∈ s.toList, c ∉ metacharacters := by
  rw [← flatMap_escapeChar_eq_self_iff, ← toList_escape, String.toList_inj]

end Pattern

namespace Matcher

open RequestPattern (AuthScheme)

/-- `prepend` puts its text between the anchor and the units of `startsWith`. -/
theorem prepend_startsWith (word s : String) :
    (startsWith s).prepend word = matching ("^" ++ (word ++ Pattern.escape s)) := by
  -- The only character in front of the units is the anchor.
  have hunanchored : Pattern.unanchored ("^" ++ Pattern.escape s) = Pattern.escape s := by
    apply String.toList_inj.1
    rw [Pattern.toList_unanchored, String.toList_append]
    rfl
  have hprepend : (startsWith s).prepend word =
      matching (Pattern.prepend word ("^" ++ Pattern.escape s)) := rfl
  rw [hprepend, Pattern.prepend_eq_append, hunanchored, String.append_assoc]

/-- `startsWith` makes different matchers of different beginnings. -/
theorem startsWith_inj {s t : String} : startsWith s = startsWith t ↔ s = t := by
  refine ⟨fun h => ?_, fun h => h ▸ rfl⟩
  have hvalue : "^" ++ Pattern.escape s = "^" ++ Pattern.escape t := (Matcher.leaf.inj h).2.1
  exact Pattern.escape_inj.1 ((String.append_right_inj "^").1 hvalue)

/-- What `prepend` puts in front is not escaped, so it makes a longer beginning if `escape` would
not have changed it. -/
theorem prepend_startsWith_eq_iff {word s : String} :
    (startsWith s).prepend word = startsWith (word ++ s) ↔
      ∀ c ∈ word.toList, c ∉ Pattern.metacharacters := by
  rw [← Pattern.escape_eq_self_iff, prepend_startsWith, startsWith, Pattern.escape_append]
  -- Both patterns end in the units of `s`, so they are equal if the word is its own units.
  constructor
  · intro h
    have hvalue : "^" ++ (word ++ Pattern.escape s) =
        "^" ++ (Pattern.escape word ++ Pattern.escape s) := (Matcher.leaf.inj h).2.1
    rw [String.append_right_inj, String.append_left_inj] at hvalue
    exact hvalue.symm
  · intro h
    rw [h]

/-- The words of an `AuthScheme` have no metacharacter. -/
private theorem notMem_metacharacters_of_mem_word (scheme : AuthScheme) :
    ∀ c ∈ scheme.word.toList, c ∉ Pattern.metacharacters := by
  have hall : (scheme.word.toList.all fun c => !Pattern.metacharacters.contains c) = true := by
    cases scheme <;> rfl
  intro c hc
  simpa using List.all_eq_true.1 hall c hc

/-- The matcher for a beginning takes it literally. Its pattern is an anchor and a text that splits
into units in one way only, and the last characters of the units are the beginning; so beginnings
are told from their matchers, and one behind another is written as one text behind the other. With a
text in front the matcher is that for the longer beginning, if and only if that text has no
metacharacter. The words in front of credentials have none. -/
theorem startsWith_is_literal (s : String) :
    (startsWith s = leaf .matching ("^" ++ Pattern.escape s) [] ∧
      ∃ units, Pattern.IsSplit units (Pattern.escape s) ∧
        units.filterMap List.getLast? = s.toList ∧
        ∀ others, Pattern.IsSplit others (Pattern.escape s) → others = units) ∧
    (∀ t, startsWith s = startsWith t ↔ s = t) ∧
    (∀ t, Pattern.escape (s ++ t) = Pattern.escape s ++ Pattern.escape t) ∧
    (∀ word, (startsWith s).prepend word = startsWith (word ++ s) ↔
      ∀ c ∈ word.toList, c ∉ Pattern.metacharacters) ∧
    ∀ scheme : AuthScheme,
      (startsWith s).prepend scheme.word = startsWith (scheme.word ++ s) := by
  have hsplit := Pattern.isSplit_escape s
  refine ⟨⟨rfl, _, hsplit, Pattern.filterMap_getLast?_escape s.toList, fun others => hsplit.unique⟩,
    fun t => startsWith_inj, fun t => Pattern.escape_append s t,
    fun word => prepend_startsWith_eq_iff, fun scheme => prepend_startsWith_eq_iff.2 ?_⟩
  exact notMem_metacharacters_of_mem_word scheme

end Matcher

end HttpStub
