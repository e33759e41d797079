import HttpStub.Matcher.Chain

/-!
# The truth of matchers

Once it is known which comparisons hold, every matcher is true or false: joined matchers as their
connective says of all operands, a negation as its operand is not. A chain of links then has the
truth value that the same connectives and negations make of the values of its parts. That a node
takes in further operands in place of being wrapped makes no difference to this, because `and` and
`or` are associative, and no node takes in operands of another connective or those of a negation.
-/

namespace HttpStub

/-- What a `Connective` makes of two truth values. -/
def Connective.truth : Connective → Bool → Bool → Bool
  | .and, a, b => a && b
  | .or, a, b => a || b

namespace Matcher

mutual

/-- Whether a matcher holds, where `val` tells it of all matchers that are neither joined nor
negated. -/
def truth (val : Matcher → Bool) : Matcher → Bool
  | .joined .and first rest => truth val first && allTrue val rest
  | .joined .or first rest => truth val first || someTrue val rest
  | .negated operand => !truth val operand
  | .leaf strategy value flags => val (.leaf strategy value flags)
  | .absent => val .absent
  | .values strategy matchers => val (.values strategy matchers)
  | .schema source version => val (.schema source version)

/-- Whether all of the matchers hold, as `truth` has it. -/
def allTrue (val : Matcher → Bool) : List Matcher → Bool
  | [] => true
  | m :: ms => truth val m && allTrue val ms

/-- Whether one of the matchers holds, as `truth` has it. -/
def someTrue (val : Matcher → Bool) : List Matcher → Bool
  | [] => false
  | m :: ms => truth val m || someTrue val ms

end

variable (val : Matcher → Bool)

/-- `allTrue` asks `truth` of all the matchers. -/
theorem allTrue_eq_all (ms : List Matcher) : allTrue val ms = ms.all (truth val) := by
  induction ms with
  | nil => rfl
  | cons m ms ih => rw [allTrue, ih, List.all_cons]

/-- `someTrue` asks `truth` of any of the matchers. -/
theorem someTrue_eq_any (ms : List Matcher) : someTrue val ms = ms.any (truth val) := by
  induction ms with
  | nil => rfl
  | cons m ms ih => rw [someTrue, ih, List.any_cons]

/-- Matchers joined by `and` hold if all operands do. -/
theorem truth_joined_and (first : Matcher) (rest : List Matcher) :
    (joined .and first rest).truth val = (first :: rest).all (truth val) := by
  rw [truth, allTrue_eq_all, List.all_cons]

/-- Matchers joined by `or` hold if some operand does. -/
theorem truth_joined_or (first : Matcher) (rest : List Matcher) :
    (joined .or first rest).truth val = (first :: rest).any (truth val) := by
  rw [truth, someTrue_eq_any, List.any_cons]

/-- Another operand at the end of a node counts like one joined to the node from outside: `and` and
`or` are associative. -/
theorem truth_joined_append (op : Connective) (first : Matcher) (rest : List Matcher)
    (other : Matcher) :
    (joined op first (rest ++ [other])).truth val =
      op.truth ((joined op first rest).truth val) (other.truth val) := by
  cases op with
  -- The operands are asked one after the other, and the last of them is the one that is added.
  | and =>
    rw [truth_joined_and, truth_joined_and, ← List.cons_append, List.all_append]
    simp [Connective.truth]
  | or =>
    rw [truth_joined_or, truth_joined_or, ← List.cons_append, List.any_append]
    simp [Connective.truth]

/-- A new node of two operands has the `Connective.truth` of their truth values. -/
theorem truth_joined_singleton (op : Connective) (m other : Matcher) :
    (joined op m [other]).truth val = op.truth (m.truth val) (other.truth val) := by
  cases op <;> simp [truth, allTrue, someTrue, Connective.truth]

/-- `join` is the connective of the truth values, whether the operand is taken in or wrapped. -/
theorem truth_join (op : Connective) (m other : Matcher) :
    (m.join op other).truth val = op.truth (m.truth val) (other.truth val) := by
  cases m with
  | joined op' first rest =>
    rw [join]
    -- A node of the same connective takes the operand in, any other one is wrapped.
    by_cases h : op' = op
    · rw [if_pos h, h, truth_joined_append]
    · rw [if_neg h, truth_joined_singleton]
  -- Anything but a node is wrapped together with the operand.
  | _ => exact truth_joined_singleton val op _ other

/-! ## Chains -/

/-- What a `Step` makes of the truth value before it. -/
def Step.truth (before : Bool) : Step → Bool
  | .and other => before && other.truth val
  | .or other => before || other.truth val
  | .not => !before
  | .andInto other => other.truth val && before
  | .orInto other => other.truth val || before
  | .rewrap => before

/-- `Step.apply` makes of a matcher what `Step.truth` makes of its truth value. -/
theorem truth_apply (m : Matcher) (step : Step) :
    (step.apply m).truth val = step.truth val (m.truth val) := by
  -- Each link is one of the connectives or the negation; a conversion changes nothing.
  cases step with
  | and other => exact truth_join val .and m other
  | or other => exact truth_join val .or m other
  | not => rw [Step.apply, Matcher.not, truth, Step.truth]
  | andInto other => exact truth_join val .and other m
  | orInto other => exact truth_join val .or other m
  | rewrap => rfl

/-- A chain has the truth value that its links make of the truth value of its start, one after the
other; so for all matchers `or` and `and` are what they say, however the operands are arranged. -/
theorem truth_chain (m : Matcher) (steps : List Step) :
    (m.chain steps).truth val = steps.foldl (Step.truth val) (m.truth val) ∧
      (∀ a b : Matcher, (a.or b).truth val = (a.truth val || b.truth val)) ∧
      ∀ a b : Matcher, (a.and b).truth val = (a.truth val && b.truth val) := by
  refine ⟨?_, truth_join val .or, truth_join val .and⟩
  -- The first link makes another start, so the induction is for all starts.
  induction steps generalizing m with
  | nil => rfl
  | cons step steps ih =>
    have hchain : m.chain (step :: steps) = (step.apply m).chain steps := rfl
    rw [hchain, ih, truth_apply, List.foldl_cons]

end Matcher

end HttpStub
