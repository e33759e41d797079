import Mathlib.Data.List.Nodup
import HttpStub.Proofs.Json.Source.Keys

/-!
# Objects of optional members

An object whose members stand under keys of a fixed list, in its order and some of them left out,
repeats no key of its own, so a key is repeated within the value of a member or nowhere. What is in
canonical form repeats no key at any depth.
-/

namespace HttpStub

/-- Keys that are `Entries.Ascending` are distinct. -/
theorem Entries.Ascending.nodup {α : Type} {entries : List (String × α)}
    (h : Entries.Ascending entries) : (entries.map Prod.fst).Nodup := by
  rw [List.Nodup, List.pairwise_map]
  apply h.imp
  -- An equal key would be less than itself.
  intro a b hlt heq
  rw [heq] at hlt
  exact String.lt_irrefl _ hlt

/-- The values of a dictionary, in the order of their keys, as its `entries` are. -/
def Dict.values {α : Type} (d : Dict α) : List α :=
  d.entries.map Prod.snd

/-- Some of the `Dict.values` has a property if some entry has it in its value. -/
theorem Dict.exists_mem_values_iff {α : Type} {d : Dict α} {p : α → Prop} :
    (∃ a ∈ d.values, p a) ↔ ∃ e ∈ d.entries, p e.2 := by
  constructor
  · rintro ⟨a, ha, h⟩
    obtain ⟨e, he, rfl⟩ := List.mem_map.1 ha
    exact ⟨e, he, h⟩
  · rintro ⟨e, he, h⟩
    exact ⟨e.2, List.mem_map_of_mem he, h⟩

namespace Json

/-- The members stand under some of these keys, in their order and each of them once. -/
def KeysWithin (keys : List String) (members : List (String × Json)) : Prop :=
  (members.map Prod.fst).Sublist keys

/-- Members behind others repeat a key within a value if either do, as `MembersRepeat` has it. -/
@[simp] theorem membersRepeat_append {members others : List (String × Json)} :
    MembersRepeat (members ++ others) ↔ MembersRepeat members ∨ MembersRepeat others := by
  induction members with
  | nil => simp
  | cons m members ih =>
    obtain ⟨key, j⟩ := m
    rw [List.cons_append, membersRepeat_cons, membersRepeat_cons, ih, or_assoc]

/-- Members that are written from a list are among `MembersRepeat` if some of its items is written
with a repeated key. -/
theorem membersRepeat_map {α : Type} {key : α → String} {write : α → Json} {xs : List α} :
    MembersRepeat (xs.map fun x => (key x, write x)) ↔ ∃ x ∈ xs, (write x).RepeatsKey := by
  simp [MembersRepeat]

/-- Under distinct keys only the values count: an object repeats a key if `MembersRepeat` holds of
its members. -/
theorem repeatsKey_object_of_nodup {members : List (String × Json)}
    (h : (members.map Prod.fst).Nodup) : (object members).RepeatsKey ↔ MembersRepeat members := by
  rw [repeatsKey_object_iff]
  exact or_iff_right (not_not_intro h)

/-- If the keys of a fixed list are distinct, so are those of members `KeysWithin` it. -/
theorem repeatsKey_object_of_keysWithin {keys : List String} {members : List (String × Json)}
    (h : KeysWithin keys members) (hkeys : keys.Nodup) :
    (object members).RepeatsKey ↔ MembersRepeat members :=
  repeatsKey_object_of_nodup (hkeys.sublist h)

/-- An `object` of one member repeats a key if the value of the member does. -/
theorem repeatsKey_singleton {key : String} {j : Json} :
    (object [(key, j)]).RepeatsKey ↔ j.RepeatsKey := by
  have hkeys : ([(key, j)].map Prod.fst).Nodup := List.nodup_singleton key
  rw [repeatsKey_object_of_nodup hkeys]
  simp

/-! ## Optional members -/

section Members

variable {α : Type} (key : String) (write : α → Json)

variable {key} in
/-- A member in front uses the first key of the list for `KeysWithin`. -/
theorem KeysWithin.cons {keys : List String} {members : List (String × Json)}
    (h : KeysWithin keys members) (j : Json) : KeysWithin (key :: keys) ((key, j) :: members) :=
  List.Sublist.cons_cons key h

/-- Members of two objects stand under the keys of the first list and then under those of the
second. -/
theorem KeysWithin.append {keys more : List String} {members others : List (String × Json)}
    (h : KeysWithin keys members) (hothers : KeysWithin more others) :
    KeysWithin (keys ++ more) (members ++ others) := by
  -- The keys of the members are two sublists, one behind the other.
  rw [KeysWithin, List.map_append]
  exact List.Sublist.append h hothers

/-- What `member?` writes stands under its key or is left out. -/
theorem keysWithin_member? (a : Option α) : KeysWithin [key] (member? key write a) := by
  -- A member that is left out has no key at all.
  cases a with
  | none => exact List.nil_sublist _
  | some x => exact List.Sublist.refl _

/-- What `listMember` writes stands under its key or is left out. -/
theorem keysWithin_listMember (items : List α) : KeysWithin [key] (listMember key write items) := by
  cases items with
  | nil => exact List.nil_sublist _
  | cons x xs => exact List.Sublist.refl _

/-- What `dictMember` writes stands under its key or is left out. -/
theorem keysWithin_dictMember (d : Dict α) : KeysWithin [key] (dictMember key write d) := by
  unfold dictMember
  split
  · exact List.nil_sublist _
  · exact List.Sublist.refl _

variable {key write}

/-- What `member?` writes repeats a key if the value does, should there be one. -/
@[simp] theorem membersRepeat_member? {a : Option α} :
    MembersRepeat (member? key write a) ↔ ∃ x ∈ a, (write x).RepeatsKey := by
  cases a <;> simp [member?]

/-- What `listMember` writes repeats a key if one of the items does. -/
@[simp] theorem membersRepeat_listMember {items : List α} :
    MembersRepeat (listMember key write items) ↔ ∃ x ∈ items, (write x).RepeatsKey := by
  cases items with
  | nil => simp [listMember]
  | cons x xs => simp [listMember, repeatsKey_array_iff]

/-- The keys of a dictionary are distinct already, so `ofDict` repeats a key only within a value. -/
theorem repeatsKey_ofDict {d : Dict α} :
    (ofDict write d).RepeatsKey ↔ ∃ a ∈ d.values, (write a).RepeatsKey := by
  -- Writing the values leaves the keys as they are.
  have hkeys : ((d.entries.map fun e => (e.1, write e.2)).map Prod.fst).Nodup := by
    rw [List.map_map]
    exact d.ascending.nodup
  rw [ofDict, repeatsKey_object_of_nodup hkeys, membersRepeat_map, Dict.exists_mem_values_iff]

/-- What `dictMember` writes repeats a key if one of the values does. -/
@[simp] theorem membersRepeat_dictMember {d : Dict α} :
    MembersRepeat (dictMember key write d) ↔ ∃ a ∈ d.values, (write a).RepeatsKey := by
  unfold dictMember
  split
  · rename_i hempty
    -- An empty dictionary has no member and no values.
    have hnil : d.entries = [] := List.isEmpty_iff.1 hempty
    simp [Dict.values, hnil]
  · simp [repeatsKey_ofDict]

end Members

/-! ## Canonical form -/

mutual

/-- `Json.canonical` repeats no key. -/
theorem not_repeatsKey_canonical : (j : Json) → ¬j.canonical.RepeatsKey
  | .null | .bool _ | .number _ | .string _ => nofun
  | .array items => by
    rw [canonical, repeatsKey_array_iff]
    -- A repetition would be within an item.
    rintro ⟨j, hj, h⟩
    exact not_repeatsKey_of_mem_canonicalItems items j hj h
  | .object members => by
    -- Sorting makes the keys of the object distinct, so a repetition would be within a value.
    have hkeys := (Entries.ascending_sort (canonicalMembers members)).nodup
    rw [canonical, repeatsKey_object_of_nodup hkeys]
    rintro ⟨m, hm, h⟩
    exact not_repeatsKey_of_mem_canonicalMembers members m (Entries.mem_of_mem_sort hm) h

/-- No item of a canonical form repeats a key. -/
theorem not_repeatsKey_of_mem_canonicalItems : (items : List Json) →
    ∀ j ∈ canonicalItems items, ¬j.RepeatsKey
  | [] => nofun
  | j :: js => by
    rw [canonicalItems, List.forall_mem_cons]
    exact ⟨not_repeatsKey_canonical j, not_repeatsKey_of_mem_canonicalItems js⟩

/-- No value of a member of a canonical form repeats a key. -/
theorem not_repeatsKey_of_mem_canonicalMembers : (members : List (String × Json)) →
    ∀ m ∈ canonicalMembers members, ¬m.2.RepeatsKey
  | [] => nofun
  | (_, j) :: ms => by
    rw [canonicalMembers, List.forall_mem_cons]
    exact ⟨not_repeatsKey_canonical j, not_repeatsKey_of_mem_canonicalMembers ms⟩

end

/-- A `Value` is in canonical form, so it repeats no key. -/
theorem Value.not_repeatsKey (v : Value) : ¬v.json.RepeatsKey := by
  rw [← v.isCanonical]
  exact not_repeatsKey_canonical v.json

end Json

end HttpStub
