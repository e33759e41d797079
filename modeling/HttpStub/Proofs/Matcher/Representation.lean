import Mathlib.Data.Set.List
import HttpStub.Matcher.Build

/-!
# Nodes of matchers

A matcher is looked at node by node: an operator with its operands, or a comparison with its
strategy, text and flags. As data, nodes can be ill-formed. A negation may have no operand or two,
a connective none, and a comparison may lack its strategy although it is not the one that stands for
absence. The operations on matchers are defined on nodes as well, without any such guarantee.

`Reachable` nodes are those that the operations make. They are the nodes of matchers, no more and no
fewer, so every one of them is proper at every depth, and each is written in the form of its kind.
-/

namespace HttpStub

/-- What a node with operands says of them. -/
inductive Operator where
  | and
  | or
  | not
deriving DecidableEq

/-- The key an operator is written under. -/
def Operator.tag : Operator → String
  | .and => "and"
  | .or => "or"
  | .not => "not"

/-- The operator that a connective is. -/
def Connective.operator : Connective → Operator
  | .and => .and
  | .or => .or

/-- No `Connective` is a negation. -/
theorem Connective.operator_ne_not (op : Connective) : op.operator ≠ .not := by
  cases op <;> decide

/-- Different connectives are different operators. -/
theorem Connective.operator_inj {op op' : Connective} :
    op.operator = op'.operator ↔ op = op' := by
  cases op <;> cases op' <;> decide

/-- A connective is written under one key as `Connective` and as `Operator`. -/
theorem Connective.tag_operator (op : Connective) : op.operator.tag = op.tag := by
  cases op <;> rfl

/-- A matcher as it is looked at from outside. -/
inductive Node where
  | text (strategy : Option Strategy) (value : String) (flags : List String)
  | logical (operator : Operator) (operands : List Node)
  | values (strategy : MultiStrategy) (matchers : List Node)
  | schema (source : String) (version : Option SchemaVersion)

namespace Node

/-! ## Operations on nodes -/

/-- The value is not there. -/
def absent : Node :=
  .text none "" [Strategy.absent.tag]

/-- Puts another node behind this one under an operator. A node of the operator takes it in, unless
the operator is a negation. It is what `Matcher.join` does, on nodes. -/
def combine (op : Operator) : Node → Node → Node
  | .logical op' operands, other =>
    if op ≠ .not ∧ op' = op then .logical op' (operands ++ [other])
    else .logical op [.logical op' operands, other]
  | node, other =>
    -- Whatever is not `and` counts as `or` here.
    if op = .and then .logical .and [node, other] else .logical .or [node, other]

mutual

/-- The node of the same values with `text` in front, by `Matcher.prependValue`. -/
def prepend (text : String) : Node → Node
  | .text (some strategy) value flags =>
    .text (some strategy) (Matcher.prependValue text strategy value) flags
  | .text none value flags => .text none value flags
  | .logical op operands => .logical op (prependList text operands)
  | .values strategy matchers => .values strategy matchers
  | .schema source version => .schema source version

/-- The nodes of a list, each with `text` in front. -/
def prependList (text : String) : List Node → List Node
  | [] => []
  | n :: ns => prepend text n :: prependList text ns

end

mutual

/-- A node as a document. A negation of one operand is written without a list. -/
def toJson : Node → Json
  | .text (some strategy) value flags =>
    .object ((strategy.tag, .string value) :: flags.map fun flag => (flag, .bool true))
  | .text none _ flags => .object (flags.map fun flag => (flag, .bool true))
  | .logical .not [operand] => .object [(Operator.not.tag, toJson operand)]
  -- With one operand a negation has been written already.
  | .logical op operands => .object [(op.tag, .array (listToJson operands))]
  | .values strategy matchers => .object [(strategy.tag, .array (listToJson matchers))]
  | .schema source version =>
    .object ((Strategy.matchesJsonSchema.tag, .string source) ::
      Json.member? "schemaVersion" (fun v => .string v.tag) version)

/-- The documents of a list of nodes. -/
def listToJson : List Node → List Json
  | [] => []
  | n :: ns => toJson n :: listToJson ns

end

mutual

/-- All nodes at every depth, from the top. -/
def nodes : Node → List Node
  | .text strategy value flags => [.text strategy value flags]
  | .logical op operands => .logical op operands :: listNodes operands
  | .values strategy matchers => .values strategy matchers :: listNodes matchers
  | .schema source version => [.schema source version]

/-- All nodes of a list of nodes. -/
def listNodes : List Node → List Node
  | [] => []
  | n :: ns => nodes n ++ listNodes ns

end

/-- In a list each node is written by `toJson`. -/
theorem listToJson_eq_map (ns : List Node) : listToJson ns = ns.map toJson := by
  induction ns with
  | nil => rfl
  | cons n ns ih => rw [listToJson, ih, List.map_cons]

/-- A node is the first of its own `nodes`. -/
theorem mem_nodes_self (t : Node) : t ∈ t.nodes := by
  cases t <;> simp [nodes]

/-- The nodes that operations on matchers make, and the parts of these. All other ways to make a
matcher come down to one of these: they choose the strategy, the text and the flags. -/
inductive Reachable : Node → Prop where
  | text (strategy : Strategy) (value : String) (flags : List String) :
      Reachable (.text (some strategy) value flags)
  | absent : Reachable absent
  | schema (source : String) (version : Option SchemaVersion) : Reachable (.schema source version)
  | values (strategy : MultiStrategy) {matchers : List Node}
      (h : ∀ n ∈ matchers, Reachable n) : Reachable (.values strategy matchers)
  | joined (op : Connective) {first : Node} {rest : List Node} (hfirst : Reachable first)
      (hrest : ∀ n ∈ rest, Reachable n) : Reachable (.logical op.operator (first :: rest))
  | negated {operand : Node} (h : Reachable operand) : Reachable (.logical .not [operand])
  | combine (op : Connective) {n other : Node} (h : Reachable n) (hother : Reachable other) :
      Reachable (combine op.operator n other)
  | prepend (text : String) {n : Node} (h : Reachable n) : Reachable (n.prepend text)
  | part {n part : Node} (h : Reachable n) (hpart : part ∈ n.nodes) : Reachable part

/-- What a node has to be like, its operands apart: a negation has one operand, a connective at
least one, and a comparison without a strategy stands for absence. -/
def IsProper : Node → Prop
  | .logical .not operands => operands.length = 1
  | .logical .and operands | .logical .or operands => operands ≠ []
  | .text none value flags => value = "" ∧ flags = ["absent"]
  | .text (some _) _ _ | .values _ _ | .schema _ _ => True

end Node

/-! ## The nodes of matchers -/

namespace Matcher

mutual

/-- A matcher as a node. -/
def node : Matcher → Node
  | .leaf strategy value flags => .text (some strategy) value flags
  | .absent => .absent
  | .joined op first rest => .logical op.operator (node first :: nodeList rest)
  | .negated operand => .logical .not [node operand]
  | .values strategy matchers => .values strategy (nodeList matchers)
  | .schema source version => .schema source version

/-- The matchers of a list as nodes. -/
def nodeList : List Matcher → List Node
  | [] => []
  | m :: ms => node m :: nodeList ms

end

/-- In a list each matcher becomes its `node`. -/
theorem nodeList_eq_map (ms : List Matcher) : nodeList ms = ms.map node := by
  induction ms with
  | nil => rfl
  | cons m ms ih => rw [nodeList, ih, List.map_cons]

/-- A matcher that `join` makes has the node that `combine` makes. -/
theorem node_join (op : Connective) (m other : Matcher) :
    (m.join op other).node = m.node.combine op.operator other.node := by
  cases m with
  | joined op' first rest =>
    -- A connective is no negation, so both sides ask only whether the two are the same.
    simp only [join, node, Node.combine, Connective.operator_inj, op.operator_ne_not, ne_eq,
      not_false_eq_true, true_and]
    by_cases h : op' = op
    · simp [h, node, nodeList_eq_map]
    · simp [h, node, nodeList]
  | negated operand =>
    cases op <;> rfl
  | _ => cases op <;> rfl

mutual

/-- `Matcher.prepend` is `Node.prepend` on the nodes. -/
theorem node_prepend (text : String) : (m : Matcher) →
    (m.prepend text).node = m.node.prepend text
  | .leaf .. => rfl
  | .absent => rfl
  | .joined op first rest => by
    simp only [prepend, node, Node.prepend, Node.prependList, node_prepend text first,
      nodeList_prependList text rest]
  | .negated operand => by
    simp only [prepend, node, Node.prepend, Node.prependList, node_prepend text operand]
  | .values .. => rfl
  | .schema .. => rfl

/-- `node_prepend` for a list of matchers. -/
theorem nodeList_prependList (text : String) : (ms : List Matcher) →
    nodeList (prependList text ms) = Node.prependList text (nodeList ms)
  | [] => rfl
  | m :: ms => by
    simp only [prependList, nodeList, Node.prependList, node_prepend text m,
      nodeList_prependList text ms]

end

mutual

/-- A matcher is written as its `node` is. -/
theorem toJson_node : (m : Matcher) → m.node.toJson = m.toJson
  | .leaf .. => rfl
  | .absent => rfl
  | .joined op first rest => by
    simp only [node, toJson, ← toJson_node first, ← listToJson_nodeList rest]
    cases op <;> rfl
  | .negated operand => by
    simp only [node, toJson, ← toJson_node operand]
    rfl
  | .values strategy matchers => by
    simp only [node, Node.toJson, toJson, listToJson_nodeList matchers]
  | .schema .. => rfl

/-- `toJson_node` for a list of matchers. -/
theorem listToJson_nodeList : (ms : List Matcher) →
    Node.listToJson (nodeList ms) = listToJson ms
  | [] => rfl
  | m :: ms => by
    simp only [nodeList, Node.listToJson, listToJson, toJson_node m, listToJson_nodeList ms]

end

mutual

/-- The `nodes` of the node of a matcher are nodes of matchers. -/
theorem exists_of_mem_nodes : (m : Matcher) → ∀ n ∈ m.node.nodes, ∃ part : Matcher, part.node = n
  | .leaf strategy value flags => by
    simp only [node, Node.nodes, List.mem_singleton]
    rintro n rfl
    exact ⟨leaf strategy value flags, rfl⟩
  | .absent => by
    simp only [node, Node.absent, Node.nodes, List.mem_singleton]
    rintro n rfl
    exact ⟨absent, rfl⟩
  | .joined op first rest => by
    simp only [node, Node.nodes, Node.listNodes, List.mem_cons, List.mem_append]
    rintro n (rfl | hn | hn)
    · exact ⟨joined op first rest, rfl⟩
    · exact exists_of_mem_nodes first n hn
    · exact exists_of_mem_listNodes rest n hn
  | .negated operand => by
    simp only [node, Node.nodes, Node.listNodes, List.append_nil, List.mem_cons]
    rintro n (rfl | hn)
    · exact ⟨negated operand, rfl⟩
    · exact exists_of_mem_nodes operand n hn
  | .values strategy matchers => by
    simp only [node, Node.nodes, List.mem_cons]
    rintro n (rfl | hn)
    · exact ⟨values strategy matchers, rfl⟩
    · exact exists_of_mem_listNodes matchers n hn
  | .schema source version => by
    simp only [node, Node.nodes, List.mem_singleton]
    rintro n rfl
    exact ⟨schema source version, rfl⟩

/-- `exists_of_mem_nodes` for a list of matchers. -/
theorem exists_of_mem_listNodes : (ms : List Matcher) →
    ∀ n ∈ Node.listNodes (nodeList ms), ∃ part : Matcher, part.node = n
  | [] => by simp [nodeList, Node.listNodes]
  | m :: ms => by
    simp only [nodeList, Node.listNodes, List.mem_append]
    rintro n (hn | hn)
    · exact exists_of_mem_nodes m n hn
    · exact exists_of_mem_listNodes ms n hn

end

/-- The node of a matcher `IsProper`: the type of matchers leaves no other choice. -/
theorem isProper_node (m : Matcher) : m.node.IsProper := by
  cases m with
  | joined op first rest => cases op <;> simp [node, Connective.operator, Node.IsProper]
  | negated operand => rfl
  | absent => exact ⟨rfl, rfl⟩
  | _ => trivial

/-- Nodes that are each the node of some matcher are `nodeList` of a list of matchers. -/
private theorem exists_nodeList {ns : List Node} (h : ∀ n ∈ ns, ∃ m : Matcher, m.node = n) :
    ∃ ms, nodeList ms = ns := by
  -- A list over the range of a function is a mapped list.
  have hrange : ns ∈ Set.range (List.map node) := by
    rw [Set.range_list_map]
    exact h
  obtain ⟨ms, hms⟩ := hrange
  exact ⟨ms, by rw [nodeList_eq_map, hms]⟩

end Matcher

namespace Node

/-- What is `Reachable` is the node of a matcher. -/
theorem Reachable.exists_matcher {t : Node} (h : Reachable t) : ∃ m : Matcher, m.node = t := by
  -- Induction on how the node is made. Operations on nodes of matchers are those on the matchers,
  -- and a part of such a node is one as well.
  induction h with
  | text strategy value flags => exact ⟨.leaf strategy value flags, rfl⟩
  | absent => exact ⟨.absent, rfl⟩
  | schema source version => exact ⟨.schema source version, rfl⟩
  | values strategy _ ih =>
    obtain ⟨ms, rfl⟩ := Matcher.exists_nodeList ih
    exact ⟨.values strategy ms, rfl⟩
  | joined op _ _ ihfirst ihrest =>
    obtain ⟨first, rfl⟩ := ihfirst
    obtain ⟨rest, rfl⟩ := Matcher.exists_nodeList ihrest
    exact ⟨.joined op first rest, rfl⟩
  | negated _ ih =>
    obtain ⟨operand, rfl⟩ := ih
    exact ⟨.negated operand, rfl⟩
  | combine op _ _ ih ihother =>
    obtain ⟨m, rfl⟩ := ih
    obtain ⟨other, rfl⟩ := ihother
    exact ⟨m.join op other, Matcher.node_join op m other⟩
  | prepend text _ ih =>
    obtain ⟨m, rfl⟩ := ih
    exact ⟨m.prepend text, Matcher.node_prepend text m⟩
  | part _ hpart ih =>
    obtain ⟨m, rfl⟩ := ih
    exact Matcher.exists_of_mem_nodes m _ hpart

/-- Any operands that are `Reachable` can be joined, if there is one. -/
theorem Reachable.joined_of_ne_nil (op : Connective) {operands : List Node} (h : operands ≠ [])
    (hoperands : ∀ n ∈ operands, Reachable n) : Reachable (.logical op.operator operands) := by
  obtain ⟨first, rest, rfl⟩ := List.exists_cons_of_ne_nil h
  obtain ⟨hfirst, hrest⟩ := List.forall_mem_cons.1 hoperands
  exact .joined op hfirst hrest

mutual

/-- A node that `IsProper` at every depth is `Reachable`. -/
theorem reachable_of_isProper : (t : Node) → (∀ n ∈ t.nodes, n.IsProper) → Reachable t
  | .text (some strategy) value flags, _ => .text strategy value flags
  | .text none value flags, h => by
    -- Absence is the only proper comparison without a strategy.
    obtain ⟨rfl, rfl⟩ := h _ List.mem_cons_self
    exact .absent
  | .schema source version, _ => .schema source version
  | .values strategy matchers, h =>
    .values strategy (reachable_of_areProper matchers fun n hn => h n (List.mem_cons_of_mem _ hn))
  | .logical op operands, h => by
    have hoperands := reachable_of_areProper operands fun n hn => h n (List.mem_cons_of_mem _ hn)
    have htop := h _ List.mem_cons_self
    -- That the node itself is proper gives the number of operands.
    cases op with
    | not =>
      obtain ⟨operand, rfl⟩ := List.length_eq_one_iff.1 htop
      exact .negated (hoperands operand List.mem_cons_self)
    | and => exact .joined_of_ne_nil .and htop hoperands
    | or => exact .joined_of_ne_nil .or htop hoperands

/-- `reachable_of_isProper` for a list of nodes. -/
theorem reachable_of_areProper : (ns : List Node) → (∀ n ∈ listNodes ns, n.IsProper) →
    ∀ n ∈ ns, Reachable n
  | [], _ => by simp
  | n :: ns, h => by
    rw [listNodes, List.forall_mem_append] at h
    rw [List.forall_mem_cons]
    exact ⟨reachable_of_isProper n h.1, reachable_of_areProper ns h.2⟩

end

/-- The node of a matcher is `Reachable`, however the matcher was made. -/
theorem reachable_node (m : Matcher) : Reachable m.node := by
  refine reachable_of_isProper m.node fun n hn => ?_
  obtain ⟨part, rfl⟩ := m.exists_of_mem_nodes n hn
  exact part.isProper_node

/-! ## On the wire -/

/-- A node under a connective is written as a list of its operands, however many there are. -/
theorem toJson_joined (op : Connective) (operands : List Node) :
    (logical op.operator operands).toJson = .object [(op.tag, .array (operands.map toJson))] := by
  rw [← listToJson_eq_map, ← op.tag_operator]
  cases op <;> rfl

/-- No node that is `Reachable` is written as an empty object. -/
theorem Reachable.exists_toJson_eq {t : Node} (h : Reachable t) :
    ∃ member members, t.toJson = .object (member :: members) := by
  obtain ⟨m, rfl⟩ := h.exists_matcher
  rw [Matcher.toJson_node]
  cases m <;> exact ⟨_, _, rfl⟩

/-- A negation that is `Reachable` is written with an object under its key. -/
theorem Reachable.toJson_not {operands : List Node} (h : Reachable (.logical .not operands)) :
    ∃ members, (logical .not operands).toJson = .object [("not", .object members)] := by
  obtain ⟨m, hm⟩ := h.exists_matcher
  -- A negation of a matcher has one operand, which can be made as a part of it.
  have hproper : (logical .not operands).IsProper := hm ▸ m.isProper_node
  obtain ⟨operand, rfl⟩ := List.length_eq_one_iff.1 hproper
  have hmem : operand ∈ (logical .not [operand]).nodes :=
    List.mem_cons_of_mem _ (List.mem_append_left _ operand.mem_nodes_self)
  have hoperand : Reachable operand := h.part hmem
  obtain ⟨member, members, hjson⟩ := hoperand.exists_toJson_eq
  exact ⟨member :: members, by rw [toJson, hjson]; rfl⟩

/-- A node can be made by operations on matchers if and only if it is proper at every depth, and if
and only if it is the node of a matcher, which is then written in the same way. At every depth a
node of a matcher is written as an object that is not empty, a negation with an object under its key
and joined matchers with a list that is not empty. -/
theorem reachable_iff_isProper (t : Node) :
    (Reachable t ↔ ∀ n ∈ t.nodes, n.IsProper) ∧
      (Reachable t ↔ ∃ m : Matcher, m.node = t ∧ m.toJson = t.toJson) ∧
      (Reachable t → ∀ n ∈ t.nodes,
        (∃ member members, n.toJson = .object (member :: members)) ∧
          (∀ operands, n = .logical .not operands →
            ∃ members, n.toJson = .object [("not", .object members)]) ∧
          ∀ (op : Connective) (operands : List Node), n = .logical op.operator operands →
            operands ≠ [] ∧ n.toJson = .object [(op.tag, .array (operands.map toJson))]) := by
  -- Every part is reachable itself, so it is the node of a matcher.
  have hproper : Reachable t → ∀ n ∈ t.nodes, n.IsProper := fun h n hn => by
    obtain ⟨m, rfl⟩ := (h.part hn).exists_matcher
    exact m.isProper_node
  refine ⟨⟨hproper, reachable_of_isProper t⟩, ⟨fun h => ?_, ?_⟩, fun h n hn => ?_⟩
  · obtain ⟨m, rfl⟩ := h.exists_matcher
    exact ⟨m, rfl, m.toJson_node.symm⟩
  · rintro ⟨m, rfl, -⟩
    exact reachable_node m
  · -- A part can be made as well, so what holds at the top holds at every depth.
    have hpart := h.part hn
    refine ⟨hpart.exists_toJson_eq, ?_, ?_⟩
    · rintro operands rfl
      exact hpart.toJson_not
    · rintro op operands rfl
      have hoperands := hproper h _ hn
      refine ⟨?_, toJson_joined op operands⟩
      cases op <;> exact hoperands

end Node

end HttpStub
