import HttpStub.Json.Basic
import HttpStub.Matcher.Strategy

/-!
# Matchers

A matcher describes the values that a part of a request may have: a single comparison, the absence
of the value, matchers joined by a connective or negated, a list of matchers for a repeated
parameter, or a schema. Joined matchers have at least one operand and a negation has exactly one,
by their types.
-/

namespace HttpStub

/-- Joins matchers. -/
inductive Connective where
  /-- All operands have to accept. -/
  | and
  /-- Some operand has to. -/
  | or
deriving DecidableEq

/-- The key joined matchers are written under. -/
def Connective.tag : Connective → String
  | .and => "and"
  | .or => "or"

/-- What a value has to be like. The functions of `Matcher.equalTo` and its like make them. -/
inductive Matcher where
  /-- A single comparison by a `Strategy`; each flag is a further key of its object. -/
  | leaf (strategy : Strategy) (value : String) (flags : List String)
  /-- The value is not there. -/
  | absent
  /-- Operands under a `Connective`, the first of which is always there. -/
  | joined (op : Connective) (first : Matcher) (rest : List Matcher)
  /-- The operand does not accept. -/
  | negated (operand : Matcher)
  /-- Matchers for the values of a repeated parameter, compared by a `MultiStrategy`. -/
  | values (strategy : MultiStrategy) (matchers : List Matcher)
  /-- The value is valid by a schema, which is the text of one. -/
  | schema (source : String) (version : Option SchemaVersion)

namespace Matcher

mutual

/-- Decides equality of matchers, constructor by constructor: the type is nested, so nothing derives
it. -/
def decEq : (a b : Matcher) → Decidable (a = b)
  | .leaf s v fs, .leaf t w gs =>
    if h : s = t ∧ v = w ∧ fs = gs then isTrue (by simp [h])
    else isFalse (by simpa using h)
  | .absent, .absent => isTrue rfl
  | .joined o m ms, .joined p n ns =>
    if ho : o = p then
      match decEq m n, decEqList ms ns with
      | isTrue h, isTrue t => isTrue (by rw [ho, h, t])
      | isFalse h, _ => isFalse (fun e => h (Matcher.joined.inj e).2.1)
      | _, isFalse t => isFalse (fun e => t (Matcher.joined.inj e).2.2)
    else isFalse (fun e => ho (Matcher.joined.inj e).1)
  | .negated m, .negated n =>
    match decEq m n with
    | isTrue h => isTrue (by rw [h])
    | isFalse h => isFalse (fun e => h (Matcher.negated.inj e))
  | .values s ms, .values t ns =>
    if hs : s = t then
      match decEqList ms ns with
      | isTrue h => isTrue (by rw [hs, h])
      | isFalse h => isFalse (fun e => h (Matcher.values.inj e).2)
    else isFalse (fun e => hs (Matcher.values.inj e).1)
  | .schema s v, .schema t w =>
    if h : s = t ∧ v = w then isTrue (by simp [h]) else isFalse (by simpa using h)
  | .leaf .., .absent | .leaf .., .joined .. | .leaf .., .negated _ | .leaf .., .values ..
  | .leaf .., .schema .. | .absent, .leaf .. | .absent, .joined .. | .absent, .negated _
  | .absent, .values .. | .absent, .schema .. | .joined .., .leaf .. | .joined .., .absent
  | .joined .., .negated _ | .joined .., .values .. | .joined .., .schema .. | .negated _, .leaf ..
  | .negated _, .absent | .negated _, .joined .. | .negated _, .values .. | .negated _, .schema ..
  | .values .., .leaf .. | .values .., .absent | .values .., .joined .. | .values .., .negated _
  | .values .., .schema .. | .schema .., .leaf .. | .schema .., .absent | .schema .., .joined ..
  | .schema .., .negated _ | .schema .., .values .. => isFalse (by simp)

/-- Decides equality of lists of matchers by `decEq`. -/
def decEqList : (a b : List Matcher) → Decidable (a = b)
  | [], [] => isTrue rfl
  | [], _ :: _ | _ :: _, [] => isFalse (by simp)
  | m :: ms, n :: ns =>
    match decEq m n, decEqList ms ns with
    | isTrue h, isTrue t => isTrue (by rw [h, t])
    | isFalse h, _ => isFalse (fun e => h (List.cons.inj e).1)
    | _, isFalse t => isFalse (fun e => t (List.cons.inj e).2)

end

instance : DecidableEq Matcher := decEq

mutual

/-- A matcher as a document: one object, keyed by the strategy or connective. -/
def toJson : Matcher → Json
  | .leaf strategy value flags =>
    .object ((strategy.tag, .string value) :: flags.map fun flag => (flag, .bool true))
  -- Absence has no text to compare with, so the strategy itself is the flag.
  | .absent => .object [(Strategy.absent.tag, .bool true)]
  | .joined op first rest => .object [(op.tag, .array (toJson first :: listToJson rest))]
  | .negated operand => .object [("not", toJson operand)]
  | .values strategy matchers => .object [(strategy.tag, .array (listToJson matchers))]
  -- Without a version this is the object of a comparison with the same strategy.
  | .schema source version =>
    .object ((Strategy.matchesJsonSchema.tag, .string source) ::
      Json.member? "schemaVersion" (fun v => .string v.tag) version)

/-- The documents that `toJson` makes of a list of matchers. -/
def listToJson : List Matcher → List Json
  | [] => []
  | m :: ms => toJson m :: listToJson ms

end

end Matcher

end HttpStub
