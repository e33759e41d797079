import HttpStub.Matcher.Build
import HttpStub.Proofs.Json.Keys
import HttpStub.Proofs.Matcher.Representation

/-!
# Repeated keys of matchers

A comparison is written as one object, with its strategy and its flags as keys, and nothing keeps a
flag from being given twice. Nothing else in a matcher repeats a key. The functions that make
matchers give flags of their own choice except where JSON is compared, so a matcher made by them
repeats a key if and only if one flag of that comparison was given twice.
-/

namespace HttpStub

/-! ## Nodes -/

namespace Node

/-- The keys of a comparison: its strategy, if it has one, and its flags. -/
def tags (strategy : Option Strategy) (flags : List String) : List String :=
  (strategy.map Strategy.tag).toList ++ flags

/-- The node is a comparison, and two of its keys are the same. -/
def RepeatsTag : Node → Prop
  | .text strategy _ flags => ¬(tags strategy flags).Nodup
  | .logical .. | .values .. | .schema .. => False

/-- Flags hold nothing but `true`, so no key is repeated within a flag. -/
theorem not_membersRepeat_flags (flags : List String) :
    ¬Json.MembersRepeat (flags.map fun flag => (flag, .bool true)) := by
  rw [Json.membersRepeat_map]
  rintro ⟨flag, -, h⟩
  cases h

/-- A comparison is written as an object under its `tags`, so it repeats a key if these do. -/
theorem repeatsKey_text (strategy : Option Strategy) (value : String) (flags : List String) :
    (toJson (.text strategy value flags)).RepeatsKey ↔ ¬(tags strategy flags).Nodup := by
  -- The keys of the flags are the flags themselves.
  have hflags : (flags.map fun flag => (flag, Json.bool true)).map Prod.fst = flags := by
    rw [List.map_map]
    exact List.map_id flags
  cases strategy with
  | none =>
    rw [toJson, Json.repeatsKey_object_iff, or_iff_left (not_membersRepeat_flags flags), hflags]
    rfl
  | some strategy =>
    have hmembers : ¬Json.MembersRepeat
        ((strategy.tag, .string value) :: flags.map fun flag => (flag, .bool true)) := by
      rw [Json.membersRepeat_cons]
      rintro (h | h)
      · cases h
      · exact not_membersRepeat_flags flags h
    rw [toJson, Json.repeatsKey_object_iff, or_iff_left hmembers, List.map_cons, hflags]
    rfl

/-- The operands of a `logical` node are written as the items of an array, or in its place if a
negation has just one. The operator is the only key. -/
theorem repeatsKey_logical (op : Operator) (operands : List Node) :
    (toJson (.logical op operands)).RepeatsKey ↔ ∃ n ∈ operands, n.toJson.RepeatsKey := by
  have hmany : ∀ key, (Json.object [(key, .array (listToJson operands))]).RepeatsKey ↔
      ∃ n ∈ operands, n.toJson.RepeatsKey := by
    intro key
    rw [Json.repeatsKey_singleton, Json.repeatsKey_array_iff, listToJson_eq_map]
    simp
  cases op with
  | and => exact hmany _
  | or => exact hmany _
  | not =>
    -- Only a negation of just one operand is written without brackets.
    rcases operands with _ | ⟨operand, _ | ⟨second, more⟩⟩
    · exact hmany _
    · rw [toJson, Json.repeatsKey_singleton]
      simp
    · exact hmany _

mutual

/-- A node repeats a key if and only if it has a comparison somewhere that does. -/
theorem repeatsKey_toJson : (n : Node) →
    (n.toJson.RepeatsKey ↔ ∃ part ∈ n.nodes, part.RepeatsTag)
  | .text strategy value flags => by
    rw [repeatsKey_text, nodes]
    simp [RepeatsTag]
  | .logical op operands => by
    rw [repeatsKey_logical, repeatsKey_listToJson operands, nodes, List.exists_mem_cons_iff]
    exact (or_iff_right id).symm
  | .values strategy matchers => by
    rw [toJson, Json.repeatsKey_singleton, Json.repeatsKey_array_iff, listToJson_eq_map, nodes,
      List.exists_mem_cons_iff, ← repeatsKey_listToJson matchers]
    simp [RepeatsTag]
  | .schema source version => by
    -- The version is left out or stands under a key of its own.
    have hkeys : Json.KeysWithin [Strategy.matchesJsonSchema.tag, "schemaVersion"]
        ((Strategy.matchesJsonSchema.tag, .string source) ::
          Json.member? "schemaVersion" (fun v => .string v.tag) version) :=
      (Json.keysWithin_member? ..).cons _
    rw [toJson, Json.repeatsKey_object_of_keysWithin hkeys (by decide), nodes]
    simp [RepeatsTag]

/-- `Node.repeatsKey_toJson` for a list of nodes. -/
theorem repeatsKey_listToJson : (ns : List Node) →
    ((∃ n ∈ ns, n.toJson.RepeatsKey) ↔ ∃ part ∈ listNodes ns, part.RepeatsTag)
  | [] => by simp [listNodes]
  | n :: ns => by
    rw [List.exists_mem_cons_iff, listNodes, repeatsKey_toJson n, repeatsKey_listToJson ns]
    simp only [List.mem_append, or_and_right, exists_or]

end

end Node

/-! ## Matchers -/

namespace Matcher

/-- Somewhere in the matcher is a comparison two of whose keys are the same. -/
def RepeatsTag (m : Matcher) : Prop :=
  ∃ part ∈ m.node.nodes, part.RepeatsTag

/-- A matcher is written as its node is. -/
theorem repeatsKey_toJson (m : Matcher) : m.toJson.RepeatsKey ↔ m.RepeatsTag := by
  rw [← toJson_node, Node.repeatsKey_toJson]
  rfl

/-- For `Matcher.RepeatsTag` only the keys of comparisons count, not what else they hold. -/
theorem repeatsTag_iff_exists_text {m : Matcher} :
    m.RepeatsTag ↔ ∃ strategy value flags, Node.text strategy value flags ∈ m.node.nodes ∧
      ¬(Node.tags strategy flags).Nodup := by
  constructor
  · rintro ⟨part, hpart, h⟩
    cases part with
    | text strategy value flags => exact ⟨strategy, value, flags, hpart, h⟩
    | logical | values | schema => cases h
  · rintro ⟨strategy, value, flags, hpart, h⟩
    exact ⟨_, hpart, h⟩

/-- A node that is no comparison `RepeatsTag` where one of its operands does. -/
theorem exists_part_iff {n : Node} (h : ¬n.RepeatsTag) (ms : List Matcher) :
    (∃ part ∈ n :: Node.listNodes (nodeList ms), part.RepeatsTag) ↔ ∃ m ∈ ms, m.RepeatsTag := by
  rw [List.exists_mem_cons_iff, or_iff_right h, ← Node.repeatsKey_listToJson, nodeList_eq_map]
  simp [toJson_node, repeatsKey_toJson]

/-- A `leaf` repeats a key if its strategy and flags, as keys, are not all different. -/
theorem repeatsTag_leaf {strategy : Strategy} {value : String} {flags : List String} :
    (leaf strategy value flags).RepeatsTag ↔ ¬(strategy.tag :: flags).Nodup := by
  simp [RepeatsTag, node, Node.nodes, Node.RepeatsTag, Node.tags]

/-- The matcher `absent` has one key. -/
@[simp] theorem not_repeatsTag_absent : ¬absent.RepeatsTag := by
  simp [RepeatsTag, node, Node.absent, Node.nodes, Node.RepeatsTag, Node.tags]

/-- A `schema` has no comparison in it. -/
@[simp] theorem not_repeatsTag_schema (source : String) (version : Option SchemaVersion) :
    ¬(schema source version).RepeatsTag := by
  simp [RepeatsTag, node, Node.nodes, Node.RepeatsTag]

/-- A `joined` matcher repeats a key if one of its operands does. -/
@[simp] theorem repeatsTag_joined {op : Connective} {first : Matcher} {rest : List Matcher} :
    (joined op first rest).RepeatsTag ↔ ∃ m ∈ first :: rest, m.RepeatsTag := by
  rw [RepeatsTag, node, Node.nodes]
  exact exists_part_iff id (first :: rest)

/-- A `negated` matcher repeats a key if its operand does. -/
@[simp] theorem repeatsTag_negated {operand : Matcher} :
    operand.negated.RepeatsTag ↔ operand.RepeatsTag := by
  -- A single operand is a list of one.
  have hone : (∃ m ∈ [operand], m.RepeatsTag) ↔ operand.RepeatsTag := by simp
  rw [← hone, RepeatsTag, node, Node.nodes]
  exact exists_part_iff id [operand]

/-- A matcher of `values` repeats a key if one of the matchers in it does. -/
@[simp] theorem repeatsTag_values {strategy : MultiStrategy} {ms : List Matcher} :
    (values strategy ms).RepeatsTag ↔ ∃ m ∈ ms, m.RepeatsTag := by
  rw [RepeatsTag, node, Node.nodes]
  exact exists_part_iff id ms

/-- A matcher that `join` puts to another one is not taken apart, and neither gets lost. -/
theorem repeatsTag_join {op : Connective} {m other : Matcher} :
    (m.join op other).RepeatsTag ↔ m.RepeatsTag ∨ other.RepeatsTag := by
  cases m with
  | joined op' first rest =>
    by_cases h : op' = op
    · -- The other matcher is one more operand.
      simp [join, h, or_and_right, exists_or, or_assoc]
    · -- Both are the operands of a new node.
      simp [join, h]
  | _ => simp [join]

mutual

/-- A text in front of a matcher, by `prepend`, changes no keys. -/
theorem repeatsTag_prepend (text : String) : (m : Matcher) →
    ((m.prepend text).RepeatsTag ↔ m.RepeatsTag)
  | .leaf .. => by rw [prepend, repeatsTag_leaf, repeatsTag_leaf]
  | .joined op first rest => by
    rw [prepend, repeatsTag_joined, repeatsTag_joined, List.exists_mem_cons_iff,
      List.exists_mem_cons_iff, repeatsTag_prepend text first, repeatsTag_prependList text rest]
  | .negated operand => by
    rw [prepend, repeatsTag_negated, repeatsTag_negated, repeatsTag_prepend text operand]
  | .absent | .values .. | .schema .. => Iff.rfl

/-- The same for a list of matchers. -/
theorem repeatsTag_prependList (text : String) : (ms : List Matcher) →
    ((∃ m ∈ prependList text ms, m.RepeatsTag) ↔ ∃ m ∈ ms, m.RepeatsTag)
  | [] => Iff.rfl
  | m :: ms => by
    rw [prependList, List.exists_mem_cons_iff, List.exists_mem_cons_iff, repeatsTag_prepend text m,
      repeatsTag_prependList text ms]

end

/-! ## Matchers made by functions -/

/-- The functions that make a comparison with one text, and choose the flags themselves. -/
def textComparisons : List (String → Matcher) :=
  [equalTo, equalToIgnoreCase, matching, notMatching, contains, notContains, startsWith, equalToXml,
    matchingXPath, matchingJsonPath]

/-- The matcher is made by functions, and these lists of flags are given where JSON is compared by
`equalToJson` or `equalToData`. -/
inductive Made : Matcher → List (List EqualFlag) → Prop where
  | text {make : String → Matcher} (h : make ∈ textComparisons) (value : String) :
      Made (make value) []
  | absent : Made absent []
  | equalToJson (json : String) (flags : List EqualFlag) : Made (equalToJson json flags) [flags]
  | equalToData {data : Data} {flags : List EqualFlag} {m : Matcher}
      (h : equalToData data flags = .ok m) : Made m [flags]
  | matchesSchema (schema : String) (version : SchemaVersion) :
      Made (matchesSchema schema version) []
  | matchesCheckedSchema {schema : String} {version : SchemaVersion} {m : Matcher}
      (h : matchesCheckedSchema schema version = .ok m) : Made m []
  | and {m other : Matcher} {given more : List (List EqualFlag)} (hm : Made m given)
      (hother : Made other more) : Made (m.and other) (given ++ more)
  | or {m other : Matcher} {given more : List (List EqualFlag)} (hm : Made m given)
      (hother : Made other more) : Made (m.or other) (given ++ more)
  | not {m : Matcher} {given : List (List EqualFlag)} (h : Made m given) : Made m.not given
  | all {first : Matcher} {rest : List Matcher} {given : Matcher → List (List EqualFlag)}
      (h : ∀ m ∈ first :: rest, Made m (given m)) :
      Made (all first rest) ((first :: rest).flatMap given)
  | any {first : Matcher} {rest : List Matcher} {given : Matcher → List (List EqualFlag)}
      (h : ∀ m ∈ first :: rest, Made m (given m)) :
      Made (any first rest) ((first :: rest).flatMap given)
  | hasExactly {ms : List Matcher} {given : Matcher → List (List EqualFlag)}
      (h : ∀ m ∈ ms, Made m (given m)) : Made (hasExactly ms) (ms.flatMap given)
  | includes {ms : List Matcher} {given : Matcher → List (List EqualFlag)}
      (h : ∀ m ∈ ms, Made m (given m)) : Made (includes ms) (ms.flatMap given)
  /-- Credentials behind a word are made so. -/
  | prepend (text : String) {m : Matcher} {given : List (List EqualFlag)} (h : Made m given) :
      Made (m.prepend text) given

/-- Different flags are written as different keys. -/
theorem EqualFlag.tag_injective : Function.Injective EqualFlag.tag := by
  intro a b h
  cases a <;> cases b <;> first | rfl | exact absurd h (by decide)

/-- A comparison of `equalToJson` repeats a key if a flag was given twice. -/
theorem repeatsTag_equalToJson {json : String} {flags : List EqualFlag} :
    (equalToJson json flags).RepeatsTag ↔ ¬flags.Nodup := by
  -- No flag is written like the strategy.
  have hmem : Strategy.equalToJson.tag ∉ flags.map EqualFlag.tag := by
    rw [List.mem_map]
    rintro ⟨flag, -, h⟩
    cases flag <;> exact absurd h (by decide)
  rw [equalToJson, repeatsTag_leaf, List.nodup_cons, and_iff_right hmem,
    List.nodup_map_iff EqualFlag.tag_injective]

/-- The functions of `textComparisons` give no flag twice. -/
theorem not_repeatsTag_of_mem_textComparisons {make : String → Matcher}
    (h : make ∈ textComparisons) (value : String) : ¬(make value).RepeatsTag := by
  simp only [textComparisons, List.mem_cons, List.not_mem_nil, or_false] at h
  obtain rfl | rfl | rfl | rfl | rfl | rfl | rfl | rfl | rfl | rfl := h
  all_goals
    intro hrepeats
    exact (repeatsTag_leaf.1 hrepeats) (by decide)

/-- Data that can be written is compared by `equalToJson`, with the same flags. -/
theorem exists_of_equalToData {data : Data} {flags : List EqualFlag} {m : Matcher}
    (h : equalToData data flags = .ok m) : ∃ json, m = equalToJson json flags := by
  unfold equalToData at h
  split at h
  · exact ⟨_, (Except.ok.inj h).symm⟩
  · cases h

/-- A schema that passes the check is compared as by `matchesSchema`. -/
theorem eq_of_matchesCheckedSchema {schema : String} {version : SchemaVersion} {m : Matcher}
    (h : matchesCheckedSchema schema version = .ok m) : m = matchesSchema schema version := by
  unfold matchesCheckedSchema at h
  split at h
  · exact (Except.ok.inj h).symm
  · cases h

/-- If each matcher of a list repeats a key just where a flag was given twice for it, the list does
so for all flags together. -/
private theorem exists_repeatsTag_iff {ms : List Matcher} {given : Matcher → List (List EqualFlag)}
    (h : ∀ m ∈ ms, (m.RepeatsTag ↔ ∃ flags ∈ given m, ¬flags.Nodup)) :
    (∃ m ∈ ms, m.RepeatsTag) ↔ ∃ flags ∈ ms.flatMap given, ¬flags.Nodup := by
  constructor
  · rintro ⟨m, hm, hrepeats⟩
    obtain ⟨flags, hflags, hdup⟩ := (h m hm).1 hrepeats
    exact ⟨flags, List.mem_flatMap.2 ⟨m, hm, hflags⟩, hdup⟩
  · rintro ⟨flags, hflags, hdup⟩
    obtain ⟨m, hm, hmem⟩ := List.mem_flatMap.1 hflags
    exact ⟨m, hm, (h m hm).2 ⟨flags, hmem, hdup⟩⟩

/-- A matcher that is `Made` by functions repeats a key if and only if a flag was given twice. -/
theorem Made.repeatsTag_iff {m : Matcher} {given : List (List EqualFlag)} (h : Made m given) :
    m.RepeatsTag ↔ ∃ flags ∈ given, ¬flags.Nodup := by
  -- Induction on how the matcher is made. Lists of flags are only ever joined, so a flag that was
  -- given twice stays in one of them.
  induction h with
  | text h value => simp [not_repeatsTag_of_mem_textComparisons h value]
  | absent => simp
  | equalToJson json flags => simp [repeatsTag_equalToJson]
  | equalToData h =>
    obtain ⟨json, rfl⟩ := exists_of_equalToData h
    simp [repeatsTag_equalToJson]
  | matchesSchema schema version => simp [Matcher.matchesSchema]
  | matchesCheckedSchema h =>
    rw [eq_of_matchesCheckedSchema h]
    simp [Matcher.matchesSchema]
  -- Joining loses neither operand, so the flags of both are there.
  | and hm hother ihm ihother =>
    rw [Matcher.and, repeatsTag_join, ihm, ihother]
    simp [or_and_right, exists_or]
  | or hm hother ihm ihother =>
    rw [Matcher.or, repeatsTag_join, ihm, ihother]
    simp [or_and_right, exists_or]
  | not h ih => rw [Matcher.not, repeatsTag_negated, ih]
  | all h ih => rw [Matcher.all, repeatsTag_joined, exists_repeatsTag_iff ih]
  | any h ih => rw [Matcher.any, repeatsTag_joined, exists_repeatsTag_iff ih]
  | hasExactly h ih => rw [Matcher.hasExactly, repeatsTag_values, exists_repeatsTag_iff ih]
  | includes h ih => rw [Matcher.includes, repeatsTag_values, exists_repeatsTag_iff ih]
  | prepend text h ih => rw [repeatsTag_prepend, ih]

/-- All of the matchers are made by functions. -/
def AreMade (ms : List Matcher) : Prop :=
  ∀ m ∈ ms, ∃ given, Made m given

/-- The flags that were given for matchers can be chosen for all of them at once. -/
theorem AreMade.exists_given {ms : List Matcher} (h : AreMade ms) :
    ∃ given : Matcher → List (List EqualFlag), ∀ m ∈ ms, Made m (given m) := by
  choose! given hgiven using h
  exact ⟨given, hgiven⟩

/-- One of the matchers repeats a key if and only if a flag was given twice for one of them. -/
theorem AreMade.exists_repeatsTag_iff {ms : List Matcher} (h : AreMade ms) :
    (∃ m ∈ ms, m.RepeatsTag) ↔ ∃ m ∈ ms, ∃ given, Made m given ∧ ∃ flags ∈ given, ¬flags.Nodup := by
  constructor
  · rintro ⟨m, hm, hrepeats⟩
    obtain ⟨given, hgiven⟩ := h m hm
    exact ⟨m, hm, given, hgiven, hgiven.repeatsTag_iff.1 hrepeats⟩
  · rintro ⟨m, hm, given, hgiven, hflags⟩
    exact ⟨m, hm, hgiven.repeatsTag_iff.2 hflags⟩

end Matcher

end HttpStub
