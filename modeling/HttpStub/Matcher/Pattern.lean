import HttpStub.Matcher.Basic

/-!
# Patterns

Texts that a regular expression takes literally, and matchers moved behind a fixed text. `prepend`
makes of a matcher of a value one of the same value with a text in front of it: literal values get
the text in front, regular expressions get it behind their anchor, joined and negated matchers pass
it on to their operands, and all others stay as they are.
-/

namespace HttpStub

namespace Pattern

/-- The characters that `escapeChar` puts a backslash in front of. -/
def metacharacters : List Char :=
  ['\\', '.', '+', '*', '?', '(', ')', '|', '[', ']', '\x7b', '\x7d', '^', '$', '#', '&', '-', '~']

/-- One character, taken literally by a regular expression. -/
def escapeChar (c : Char) : List Char :=
  if c ∈ metacharacters then ['\\', c] else [c]

/-- A text, taken literally: `escapeChar` for each character. -/
def escape (s : String) : String :=
  String.ofList (s.toList.flatMap escapeChar)

/-- `escape` goes character by character. -/
theorem toList_escape (s : String) : (escape s).toList = s.toList.flatMap escapeChar :=
  String.toList_ofList

/-- So two texts are escaped one behind the other. -/
theorem escape_append (s t : String) : escape (s ++ t) = escape s ++ escape t := by
  have h : (escape (s ++ t)).toList = (escape s ++ escape t).toList := by
    rw [String.toList_append, toList_escape, toList_escape, toList_escape, String.toList_append,
      List.flatMap_append]
  exact String.toList_inj.1 h

/-- The characters behind one leading anchor, if there is one. -/
def withoutAnchor : List Char → List Char
  | '^' :: cs => cs
  | cs => cs

/-- An anchored pattern with a text behind its anchor. The text is not escaped. -/
def prepend (text value : String) : String :=
  String.ofList ('^' :: text.toList ++ withoutAnchor value.toList)

end Pattern

namespace Matcher

/-- The value of a comparison once `text` stands in front of what it describes. -/
def prependValue (text : String) (strategy : Strategy) (value : String) : String :=
  -- Other comparisons look for a part of the value, which stays where it is.
  if strategy.isEquality then text ++ value
  else if strategy.isRegex then Pattern.prepend text value
  else value

mutual

/-- The matcher of the same values with `text` in front. -/
def prepend (text : String) : Matcher → Matcher
  | .leaf strategy value flags => .leaf strategy (prependValue text strategy value) flags
  | .joined op first rest => .joined op (prepend text first) (prependList text rest)
  | .negated operand => .negated (prepend text operand)
  -- These are not about one text, so there is nothing to put in front of.
  | .absent => .absent
  | .values strategy matchers => .values strategy matchers
  | .schema source version => .schema source version

/-- The matchers of a list, each with `text` in front by `prepend`. -/
def prependList (text : String) : List Matcher → List Matcher
  | [] => []
  | m :: ms => prepend text m :: prependList text ms

end

/-- `prependList` puts the text in front of each matcher. -/
theorem prependList_eq_map (text : String) (ms : List Matcher) :
    prependList text ms = ms.map (prepend text) := by
  induction ms with
  | nil => rfl
  | cons m ms ih => simp [prependList, ih]

end Matcher

end HttpStub
