import HttpStub.Proofs.Matcher.Meaning
import HttpStub.Request.Multipart

/-!
# The name of a part

The name of a part stands in quotes in one of its headers, and behind it may stand the name of a
file. A pattern that asks for a name looks for a short text with the name in quotes, wherever it may
stand in the header. In a header with a name only it stands nowhere else than at the name. With a
file name it may also stand at the file, whose parameter has a name that ends alike, or lie across
the two: where the name of the part ends like the text begins, and what is between both parameters
is the name that is asked for.
-/

namespace HttpStub

/-! ## Texts in quotes -/

section Quotes

variable {front name text rest xs ys : List Char}

/-- A text without quotes ends at the first quote, so another quote stands there or behind it. -/
theorem eq_or_exists_of_append_quote (htext : '"' ∉ text)
    (h : xs ++ '"' :: ys = text ++ '"' :: rest) :
    (xs = text ∧ ys = rest) ∨ ∃ gap, xs = text ++ '"' :: gap ∧ rest = gap ++ '"' :: ys := by
  -- By induction on the text, character by character until one side comes to its quote.
  induction text generalizing xs with
  | nil =>
    cases xs with
    | nil => exact Or.inl ⟨rfl, (List.cons.inj h).2⟩
    | cons c xs =>
      obtain ⟨rfl, hrest⟩ := List.cons.inj h
      exact Or.inr ⟨xs, rfl, hrest.symm⟩
  | cons t text ih =>
    obtain ⟨ht, htail⟩ := not_or.1 (List.mem_cons.not.1 htext)
    cases xs with
    -- The text has no quote of its own.
    | nil => exact absurd (List.cons.inj h).1 ht
    | cons c xs =>
      obtain ⟨rfl, hxs⟩ := List.cons.inj h
      obtain ⟨rfl, hrest⟩ | ⟨gap, rfl, hrest⟩ := ih htail hxs
      · exact Or.inl ⟨rfl, hrest⟩
      · exact Or.inr ⟨gap, rfl, hrest⟩

/-- Up to the first quote of a text there is one name only, by `eq_or_exists_of_append_quote`. -/
theorem append_quote_prefix_iff (hname : '"' ∉ name) (htext : '"' ∉ text) :
    name ++ ['"'] <+: text ++ '"' :: rest ↔ name = text := by
  constructor
  · rintro ⟨back, h⟩
    have hquotes : name ++ '"' :: back = text ++ '"' :: rest := by simpa using h
    obtain ⟨heq, -⟩ | ⟨gap, hgap, -⟩ := eq_or_exists_of_append_quote htext hquotes
    · exact heq
    · -- A quote that stands later is a character of the name.
      exact absurd (hgap ▸ by simp) hname
  · rintro rfl
    exact ⟨rest, by simp⟩

/-- A name in quotes behind some text is found at the first quote, or it is found behind it. -/
theorem quoted_infix_iff (hfront : '"' ∉ front) (htext : '"' ∉ text) :
    front ++ '"' :: (name ++ ['"']) <:+: text ++ '"' :: rest ↔
      (front <:+ text ∧ name ++ ['"'] <+: rest) ∨ front ++ '"' :: (name ++ ['"']) <:+: rest := by
  constructor
  · rintro ⟨before, back, h⟩
    have hquotes : (before ++ front) ++ '"' :: (name ++ ['"'] ++ back) = text ++ '"' :: rest := by
      simpa using h
    obtain ⟨heq, hback⟩ | ⟨gap, hgap, hback⟩ := eq_or_exists_of_append_quote htext hquotes
    · -- The quote of the name is the first one, so the front ends the text.
      exact Or.inl ⟨⟨before, heq⟩, ⟨back, hback⟩⟩
    · -- The front has no quote, so all of it stands behind the first one.
      have hbehind : front <:+ gap := by
        obtain ⟨more, -, hmore⟩ | ⟨more, -, hmore⟩ := List.append_eq_append_iff.1 hgap
        · exact absurd (hmore ▸ by simp) hfront
        · cases more with
          | nil =>
            rw [List.nil_append] at hmore
            exact absurd (hmore ▸ List.mem_cons_self) hfront
          | cons c more => exact ⟨more, (List.cons.inj hmore).2.symm⟩
      obtain ⟨more, rfl⟩ := hbehind
      exact Or.inr ⟨more, back, by simp [hback]⟩
  · rintro (⟨⟨before, rfl⟩, back, rfl⟩ | h)
    · exact ⟨before, back, by simp⟩
    · exact h.trans (List.suffix_append_of_suffix (List.suffix_cons _ _)).isInfix

/-- Where a text ends with the front and a value in quotes follows it, the name is found if it is
the value, across the end of the value, or behind it: `quoted_infix_iff` at either quote of the
value. -/
theorem quoted_infix_value_iff {value : List Char} (hfront : '"' ∉ front) (hname : '"' ∉ name)
    (htext : '"' ∉ text) (hvalue : '"' ∉ value) (hends : front <:+ text) :
    front ++ '"' :: (name ++ ['"']) <:+: text ++ '"' :: (value ++ '"' :: rest) ↔
      name = value ∨ (front <:+ value ∧ name ++ ['"'] <+: rest) ∨
        front ++ '"' :: (name ++ ['"']) <:+: rest := by
  rw [quoted_infix_iff hfront htext, quoted_infix_iff hfront hvalue,
    append_quote_prefix_iff hname hvalue, and_iff_right hends]

/-- Behind the last quote there is nothing to be found. -/
theorem quoted_infix_last_value_iff {value : List Char} (hfront : '"' ∉ front) (hname : '"' ∉ name)
    (htext : '"' ∉ text) (hvalue : '"' ∉ value) (hends : front <:+ text) :
    front ++ '"' :: (name ++ ['"']) <:+: text ++ '"' :: (value ++ ['"']) ↔ name = value := by
  rw [quoted_infix_value_iff hfront hname htext hvalue hends]
  simp

end Quotes

namespace MultipartPattern

open Matcher

variable {R : Reading}

/-! ## Headers -/

/-- The header of a part with a name, and with the name of a file if there is one; what `nameHeader`
is compared with. -/
def disposition (name : String) (file : Option String) : String :=
  "form-data; name=\"" ++ name ++ "\"" ++ file.elim "" fun file => "; filename=\"" ++ file ++ "\""

/-- The quotes of `disposition`, and the texts in front of, between and behind them. -/
theorem toList_disposition (name : String) (file : Option String) :
    (disposition name file).toList =
      "form-data; name=".toList ++ '"' :: (name.toList ++ '"' ::
        file.elim [] fun file => "; filename=".toList ++ '"' :: (file.toList ++ ['"'])) := by
  have hname : "form-data; name=\"".toList = "form-data; name=".toList ++ ['"'] := rfl
  have hfile : "; filename=\"".toList = "; filename=".toList ++ ['"'] := rfl
  have hquote : "\"".toList = ['"'] := rfl
  have hempty : "".toList = [] := rfl
  unfold disposition
  -- The texts are cut at their quotes, and the rest is where appended texts are bracketed.
  cases file <;>
    simp only [Option.elim_none, Option.elim_some, String.toList_append, hname, hfile,
      hquote, hempty, List.append_assoc, List.cons_append, List.nil_append]

/-- The `nameMatcher` looks for the name in quotes, behind the name of its parameter. -/
theorem nameMatcher_accepts_iff
    (hR : ∀ text v, R.value .contains text [] v ↔ text.toList <:+: v.toList) (name v : String) :
    (nameMatcher name).accepts R [v] ↔
      "name=".toList ++ '"' :: (name.toList ++ ['"']) <:+: v.toList := by
  have hfront : "name=\"".toList = "name=".toList ++ ['"'] := rfl
  have hback : "\"".toList = ['"'] := rfl
  rw [nameMatcher, contains, accepts_leaf_singleton, hR, String.toList_append,
    String.toList_append, hfront, hback, List.append_assoc, List.append_assoc,
    List.singleton_append]

/-- The matcher that asks for a name accepts a header without a file if and only if it gives this
name. With a file it accepts all headers of parts of this name, and further those of files of this
name, and those in which the text that is looked for lies across both parameters. -/
theorem stored_name_accepts_iff (R : Reading)
    (hR : ∀ text v, R.value .contains text [] v ↔ text.toList <:+: v.toList) (p : MultipartPattern)
    (name part file : String) (hname : '"' ∉ name.toList) (hpart : '"' ∉ part.toList)
    (hfile : '"' ∉ file.toList) :
    ∃ stored, (p.apply (.name name)).headers.get? nameHeader = some stored ∧
      (stored.accepts R [disposition part none] ↔ part = name) ∧
      (stored.accepts R [disposition part (some file)] ↔
        part = name ∨ file = name ∨
          (name = "; filename=" ∧ "name=".toList <:+ part.toList)) := by
  have hkey : '"' ∉ "name=".toList := by decide
  have hstart : '"' ∉ "form-data; name=".toList := by decide
  have hbetween : '"' ∉ "; filename=".toList := by decide
  -- Both parameters have names that end with the one that is looked for.
  have hstartEnds : "name=".toList <:+ "form-data; name=".toList := by decide
  have hbetweenEnds : "name=".toList <:+ "; filename=".toList := by decide
  refine ⟨nameMatcher name, ?_, ?_, ?_⟩
  · -- The header of the name is one that `apply` puts in.
    rw [apply, Dict.get?_insert, if_pos rfl]
  · rw [nameMatcher_accepts_iff hR, toList_disposition, Option.elim_none,
      quoted_infix_last_value_iff hkey hname hstart hpart hstartEnds, String.toList_inj]
    exact eq_comm
  · -- At the first value, across both, or at the second.
    have hplaces : (nameMatcher name).accepts R [disposition part (some file)] ↔
        name = part ∨ ("name=".toList <:+ part.toList ∧ name = "; filename=") ∨ name = file := by
      rw [nameMatcher_accepts_iff hR, toList_disposition, Option.elim_some,
        quoted_infix_value_iff hkey hname hstart hpart hstartEnds,
        quoted_infix_last_value_iff hkey hname hbetween hfile hbetweenEnds,
        append_quote_prefix_iff hname hbetween, String.toList_inj, String.toList_inj,
        String.toList_inj]
    rw [hplaces]
    grind

/-- A part is taken for another one for the name of its file, or for a name that ends like the text
that is looked for. -/
theorem stored_name_accepts_iff_wrongPart :
    (∃ stored, (empty.apply (.name "a")).headers.get? nameHeader = some stored ∧
      ¬ stored.accepts .literal ["form-data; name=\"b\""] ∧
      stored.accepts .literal ["form-data; name=\"b\"; filename=\"a\""]) ∧
    ∃ stored, (empty.apply (.name "; filename=")).headers.get? nameHeader = some stored ∧
      stored.accepts .literal ["form-data; name=\"surname=\"; filename=\"b\""] := by
  have hR := Reading.standard_literal.contains
  constructor
  · obtain ⟨stored, hstored, hnone, hsome⟩ := stored_name_accepts_iff .literal hR empty
      "a" "b" "a" (by decide) (by decide) (by decide)
    exact ⟨stored, hstored, fun h => absurd (hnone.1 h) (by decide), hsome.2 (Or.inr (Or.inl rfl))⟩
  · obtain ⟨stored, hstored, -, hsome⟩ := stored_name_accepts_iff .literal hR empty
      "; filename=" "surname=" "b" (by decide) (by decide) (by decide)
    exact ⟨stored, hstored, hsome.2 (Or.inr (Or.inr ⟨rfl, by decide⟩))⟩

end MultipartPattern

end HttpStub
