import HttpStub.Matcher.Basic

/-!
# Chains of matchers

`join` puts another operand behind a matcher: a node of the same connective takes it in, any other
matcher becomes the first operand of a new node. So a chain under one connective is one flat node,
and an argument is never taken apart.
-/

namespace HttpStub.Matcher

/-- Joins another matcher to this one under a `Connective`. -/
def join (op : Connective) (m other : Matcher) : Matcher :=
  match m with
  -- Only the left side is flattened.
  | .joined op' first rest =>
    if op' = op then .joined op first (rest ++ [other]) else .joined op m [other]
  | m => .joined op m [other]

/-- Both matchers accept: `join` by `Connective.and`. -/
def and (m other : Matcher) : Matcher :=
  join .and m other

/-- One of the matchers accepts: `join` by `Connective.or`. -/
def or (m other : Matcher) : Matcher :=
  join .or m other

/-- The matcher does not accept. Two negations are not taken for none. -/
def not (m : Matcher) : Matcher :=
  .negated m

/-- One link of a chain. -/
inductive Step where
  /-- Joins another matcher by `Matcher.and`. -/
  | and (other : Matcher)
  /-- Joins another matcher by `Matcher.or`. -/
  | or (other : Matcher)
  /-- Negates all that is there, by `Matcher.not`. -/
  | not
  /-- The other matcher takes in this one by `Matcher.and`. -/
  | andInto (other : Matcher)
  /-- The other matcher takes in this one by `Matcher.or`. -/
  | orInto (other : Matcher)
  /-- The node is taken out of the matcher and put back. -/
  | rewrap
deriving DecidableEq

/-- What a link makes of the matcher before it. -/
def Step.apply (m : Matcher) : Step → Matcher
  | .and other => m.and other
  | .or other => m.or other
  | .not => m.not
  | .andInto other => other.and m
  | .orInto other => other.or m
  | .rewrap => m

/-- The links applied one after the other by `Step.apply`. -/
def chain (m : Matcher) (steps : List Step) : Matcher :=
  steps.foldl Step.apply m

/-- The steps behind go on from where those in front lead. -/
@[simp] theorem chain_append (m : Matcher) (steps more : List Step) :
    m.chain (steps ++ more) = (m.chain steps).chain more :=
  List.foldl_append

end HttpStub.Matcher
