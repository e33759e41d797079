import HttpStub.Matcher.Basic
import HttpStub.Proofs.Json.Whole

/-!
# The wire format of matchers

A comparison with a schema and a schema without a version are written alike. In the `normal` form
of a matcher every such comparison, at any depth, has become a schema. Matchers are written alike if
and only if they have the same normal form, so nothing else about a matcher is lost on the wire.
-/

namespace HttpStub

/-! ## Tags -/

/-- Each `Strategy` has a key of its own. -/
theorem Strategy.tag_inj {s t : Strategy} : s.tag = t.tag ↔ s = t := by
  refine ⟨fun h => ?_, fun h => h ▸ rfl⟩
  cases s <;> cases t <;> first | rfl | exact absurd h (by decide)

/-- Each `Connective` has a key of its own. -/
theorem Connective.tag_inj {op op' : Connective} : op.tag = op'.tag ↔ op = op' := by
  refine ⟨fun h => ?_, fun h => h ▸ rfl⟩
  cases op <;> cases op' <;> first | rfl | exact absurd h (by decide)

/-- Each `MultiStrategy` has a key of its own. -/
theorem MultiStrategy.tag_inj {s t : MultiStrategy} : s.tag = t.tag ↔ s = t := by
  refine ⟨fun h => ?_, fun h => h ▸ rfl⟩
  cases s <;> cases t <;> first | rfl | exact absurd h (by decide)

/-- Each `SchemaVersion` has a name of its own. -/
theorem SchemaVersion.tag_inj {v w : SchemaVersion} : v.tag = w.tag ↔ v = w := by
  refine ⟨fun h => ?_, fun h => h ▸ rfl⟩
  cases v <;> cases w <;> first | rfl | exact absurd h (by decide)

/-- A list of matchers under the key of a `MultiStrategy` is never taken for operands. -/
theorem Connective.tag_ne (op : Connective) (s : MultiStrategy) : op.tag ≠ s.tag := by
  cases op <;> cases s <;> decide

namespace Matcher

/-! ## Normal form -/

mutual

/-- The matcher with every comparison with a schema, if it has no flags, in the form of a schema
without a version. -/
def normal : Matcher → Matcher
  | .leaf strategy value flags =>
    if strategy = .matchesJsonSchema ∧ flags = [] then .schema value none
    else .leaf strategy value flags
  | .absent => .absent
  | .joined op first rest => .joined op (normal first) (normalList rest)
  | .negated operand => .negated (normal operand)
  | .values strategy matchers => .values strategy (normalList matchers)
  | .schema source version => .schema source version

/-- The matchers of a list in `normal` form. -/
def normalList : List Matcher → List Matcher
  | [] => []
  | m :: ms => normal m :: normalList ms

end

/-- The one pair of matchers that `toJson` writes alike. -/
theorem normal_schemaLeaf (source : String) :
    (leaf .matchesJsonSchema source []).normal = (schema source none).normal := by
  simp [normal]

mutual

/-- `toJson` writes the `normal` form as it writes the matcher. -/
theorem toJson_normal : (m : Matcher) → m.normal.toJson = m.toJson
  | .leaf strategy value flags => by
    rw [normal]
    -- Only a comparison with a schema changes its form, and not what is written for it.
    split
    · rename_i h
      obtain ⟨rfl, rfl⟩ := h
      rfl
    · rfl
  | .absent => rfl
  | .joined op first rest => by
    simp only [normal, toJson, toJson_normal first, listToJson_normalList rest]
  | .negated operand => by simp only [normal, toJson, toJson_normal operand]
  | .values strategy matchers => by simp only [normal, toJson, listToJson_normalList matchers]
  | .schema _ _ => rfl

/-- The same of a list of matchers. -/
theorem listToJson_normalList : (ms : List Matcher) → listToJson (normalList ms) = listToJson ms
  | [] => rfl
  | m :: ms => by simp only [normalList, listToJson, toJson_normal m, listToJson_normalList ms]

end

/-! ## Unique readability -/

/-- What stands under the first key of a matcher, as `toJson` writes it. -/
private inductive Shape where
  /-- A text, as of a comparison or a schema. -/
  | text
  /-- A truth value, as of `absent`. -/
  | flag
  /-- A list, as of operands or of matchers for several values. -/
  | list
  /-- A document, as of what is negated. -/
  | operand

/-- The `Shape` of a matcher, by its constructor. -/
private def shape : Matcher → Shape
  | .leaf .. | .schema .. => .text
  | .absent => .flag
  | .joined .. | .values .. => .list
  | .negated _ => .operand

/-- The `Shape` of a matcher, read off the document. -/
private def shape? : Json → Option Shape
  | .object ((_, .string _) :: _) => some .text
  | .object ((_, .bool _) :: _) => some .flag
  | .object ((_, .array _) :: _) => some .list
  | .object ((_, .object _) :: _) => some .operand
  | _ => none

/-- `shape?` reads the `shape` of a matcher off what `toJson` writes. -/
private theorem shape?_toJson (m : Matcher) : shape? m.toJson = some m.shape := by
  cases m with
  | leaf strategy value flags => rfl
  | absent => rfl
  | joined op first rest => rfl
  -- A matcher of any kind is written as an object.
  | negated operand => cases operand <;> rfl
  | values strategy matchers => rfl
  | schema source version => rfl

/-- Matchers that `toJson` writes alike have the same `shape`. -/
private theorem shape_eq_of_toJson_eq {m n : Matcher} (h : m.toJson = n.toJson) :
    m.shape = n.shape := by
  have hshape := congrArg shape? h
  rwa [shape?_toJson, shape?_toJson, Option.some.injEq] at hshape

/-- Flags are told from one another by their keys, which is all that `toJson` writes of them. -/
private theorem flags_inj {flags others : List String}
    (h : flags.map (fun flag => (flag, Json.bool true)) =
      others.map (fun flag => (flag, Json.bool true))) : flags = others := by
  have hkeys := congrArg (List.map Prod.fst) h
  simpa [List.map_map, Function.comp_def] using hkeys

/-- Only a schema without a version is written as a comparison is. -/
private theorem eq_of_leaf_eq_schema {strategy : Strategy} {value source : String}
    {flags : List String} {version : Option SchemaVersion}
    (h : (leaf strategy value flags).toJson = (schema source version).toJson) :
    strategy = .matchesJsonSchema ∧ value = source ∧ flags = [] ∧ version = none := by
  simp only [toJson, Json.object.injEq, List.cons.injEq, Prod.mk.injEq, Json.string.injEq,
    Strategy.tag_inj] at h
  obtain ⟨⟨hstrategy, hvalue⟩, hrest⟩ := h
  -- Behind the text of a comparison stand its flags, behind that of a schema its version.
  cases version with
  | none => exact ⟨hstrategy, hvalue, by simpa [Json.member?] using hrest, rfl⟩
  | some v =>
    -- A flag stands for true, a version is a string.
    cases flags <;> simp [Json.member?] at hrest

/-- Schemas are told apart by source and version, as `toJson` writes both. -/
private theorem schema_inj {source source' : String} {version version' : Option SchemaVersion}
    (h : (schema source version).toJson = (schema source' version').toJson) :
    source = source' ∧ version = version' := by
  simp only [toJson, Json.object.injEq, List.cons.injEq, Prod.mk.injEq, Json.string.injEq,
    true_and] at h
  refine ⟨h.1, ?_⟩
  -- A version is there on both sides or on neither.
  cases version <;> cases version' <;> simp_all [Json.member?, SchemaVersion.tag_inj]

mutual

/-- Matchers that `toJson` writes alike have the same `normal` form. -/
theorem normal_eq_of_toJson_eq : (m n : Matcher) → m.toJson = n.toJson → m.normal = n.normal
  -- By induction on the first matcher and cases on the second. Constructors of different shape are
  -- never written alike; those of one shape are compared member by member.
  | .leaf strategy value flags, n, h => by
    cases n with
    | leaf strategy' value' flags' =>
      simp only [toJson, Json.object.injEq, List.cons.injEq, Prod.mk.injEq, Json.string.injEq,
        Strategy.tag_inj] at h
      obtain ⟨⟨rfl, rfl⟩, hflags⟩ := h
      rw [flags_inj hflags]
    | schema source version =>
      obtain ⟨rfl, rfl, rfl, rfl⟩ := eq_of_leaf_eq_schema h
      exact normal_schemaLeaf value
    | _ => cases shape_eq_of_toJson_eq h
  | .absent, n, h => by
    cases n with
    | absent => rfl
    | _ => cases shape_eq_of_toJson_eq h
  | .joined op first rest, n, h => by
    cases n with
    | joined op' first' rest' =>
      simp only [toJson, Json.object.injEq, List.cons.injEq, Prod.mk.injEq, Json.array.injEq,
        Connective.tag_inj, and_true] at h
      obtain ⟨rfl, hfirst, hrest⟩ := h
      rw [normal, normal, normal_eq_of_toJson_eq first first' hfirst,
        normalList_eq_of_listToJson_eq rest rest' hrest]
    -- Both have a list under their key, and only the key tells them apart.
    | values strategy matchers =>
      simp only [toJson, Json.object.injEq, List.cons.injEq, Prod.mk.injEq] at h
      exact absurd h.1.1 (Connective.tag_ne op strategy)
    | _ => cases shape_eq_of_toJson_eq h
  | .negated operand, n, h => by
    cases n with
    | negated operand' =>
      simp only [toJson, Json.object.injEq, List.cons.injEq, Prod.mk.injEq, true_and,
        and_true] at h
      rw [normal, normal, normal_eq_of_toJson_eq operand operand' h]
    | _ => cases shape_eq_of_toJson_eq h
  | .values strategy matchers, n, h => by
    cases n with
    | values strategy' matchers' =>
      simp only [toJson, Json.object.injEq, List.cons.injEq, Prod.mk.injEq, Json.array.injEq,
        MultiStrategy.tag_inj, and_true] at h
      obtain ⟨rfl, hmatchers⟩ := h
      rw [normal, normal, normalList_eq_of_listToJson_eq matchers matchers' hmatchers]
    | joined op first rest =>
      simp only [toJson, Json.object.injEq, List.cons.injEq, Prod.mk.injEq] at h
      exact absurd h.1.1.symm (Connective.tag_ne op strategy)
    | _ => cases shape_eq_of_toJson_eq h
  | .schema source version, n, h => by
    cases n with
    | schema source' version' =>
      obtain ⟨rfl, rfl⟩ := schema_inj h
      rfl
    | leaf strategy value flags =>
      obtain ⟨rfl, rfl, rfl, rfl⟩ := eq_of_leaf_eq_schema h.symm
      exact (normal_schemaLeaf _).symm
    | _ => cases shape_eq_of_toJson_eq h

/-- The same of lists of matchers. -/
theorem normalList_eq_of_listToJson_eq : (ms ns : List Matcher) →
    listToJson ms = listToJson ns → normalList ms = normalList ns
  | [], [], _ => rfl
  | [], _ :: _, h => by simp [listToJson] at h
  | _ :: _, [], h => by simp [listToJson] at h
  | m :: ms, n :: ns, h => by
    simp only [listToJson, List.cons.injEq] at h
    rw [normalList, normalList, normal_eq_of_toJson_eq m n h.1,
      normalList_eq_of_listToJson_eq ms ns h.2]

end

/-- Matchers are written alike if and only if they have the same `normal` form. -/
theorem toJson_eq_iff {m n : Matcher} : m.toJson = n.toJson ↔ m.normal = n.normal := by
  refine ⟨normal_eq_of_toJson_eq m n, fun h => ?_⟩
  rw [← toJson_normal m, ← toJson_normal n, h]

/-! ## Numbers -/

mutual

/-- `toJson` writes no numbers. -/
theorem isWhole_toJson : (m : Matcher) → m.toJson.isWhole = true
  | .leaf strategy value flags => by
    rw [toJson, Json.isWhole_object, Json.membersWhole_cons, Json.isWhole_string, Bool.true_and,
      Json.membersWhole_iff]
    -- Each flag is the key of a truth value.
    intro e he
    obtain ⟨flag, -, rfl⟩ := List.mem_map.1 he
    rfl
  | .absent => rfl
  | .joined op first rest => by
    simp [toJson, Json.isWhole, Json.areWhole, isWhole_toJson first, areWhole_listToJson rest]
  | .negated operand => by simp [toJson, isWhole_toJson operand]
  | .values strategy matchers => by simp [toJson, Json.isWhole, areWhole_listToJson matchers]
  | .schema source version => by cases version <;> rfl

/-- The same of a list of matchers. -/
theorem areWhole_listToJson : (ms : List Matcher) → Json.areWhole (listToJson ms) = true
  | [] => rfl
  | m :: ms => by simp [listToJson, Json.areWhole, isWhole_toJson m, areWhole_listToJson ms]

end

end Matcher

end HttpStub
