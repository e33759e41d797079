import HttpStub.Data
import HttpStub.Json.Basic

/-!
# Whole documents

A document is whole if every number in it is an integer of 64 bits, and it nests as deep as brackets
are open at a time in its text. Both are measured by recursion on the document. Taking the canonical
form neither brings in a number nor opens a bracket, and of the members under one key it keeps the
last.
-/

namespace HttpStub

namespace Entries

variable {α : Type}

/-- An entry after several insertions was inserted or was there before; see `mem_insert`. -/
private theorem mem_foldl_insert {entries start : List (String × α)} {e : String × α}
    (h : e ∈ entries.foldl (fun sorted entry => insert entry.1 entry.2 sorted) start) :
    e ∈ entries ∨ e ∈ start := by
  -- Induction on the entries that are inserted, for every start.
  induction entries generalizing start with
  | nil => exact Or.inr h
  | cons head rest ih =>
    rw [List.foldl_cons] at h
    rcases ih h with h | h
    · exact Or.inl (List.mem_cons_of_mem _ h)
    · rcases mem_insert h with rfl | h
      · exact Or.inl List.mem_cons_self
      · exact Or.inr h

/-- Sorting by `Entries.sort` brings in no entries. -/
theorem mem_of_mem_sort {entries : List (String × α)} {e : String × α} (h : e ∈ sort entries) :
    e ∈ entries := by
  rcases mem_foldl_insert h with h | h
  · exact h
  · cases h

/-- An entry under a new key is added by `Entries.insert` to the others. -/
private theorem insert_perm {key : String} {value : α} {entries : List (String × α)}
    (h : ∀ e ∈ entries, e.1 ≠ key) : (insert key value entries).Perm ((key, value) :: entries) := by
  -- By induction on the entries that the new one comes past.
  induction entries with
  | nil => exact List.Perm.refl _
  | cons head rest ih =>
    obtain ⟨k, v⟩ := head
    have hne : key ≠ k := fun he => h (k, v) List.mem_cons_self he.symm
    unfold insert
    split
    · exact List.Perm.refl _
    · exact ((ih fun e he => h e (List.mem_cons_of_mem _ he)).cons _).trans (List.Perm.swap _ _ _)

/-- Insertions of entries under new keys, all of them different, only add these entries, as
`insert_perm` says of one. -/
private theorem foldl_insert_perm {entries start : List (String × α)}
    (h : ((entries ++ start).map Prod.fst).Nodup) :
    (entries.foldl (fun sorted entry => insert entry.1 entry.2 sorted) start).Perm
      (entries ++ start) := by
  -- Induction on the entries, for every start whose keys are different from theirs.
  induction entries generalizing start with
  | nil => exact List.Perm.refl _
  | cons head rest ih =>
    obtain ⟨k, v⟩ := head
    rw [List.cons_append, List.map_cons, List.nodup_cons] at h
    have hnew : ∀ e ∈ start, e.1 ≠ k := fun e he hk =>
      h.1 (List.mem_map.2 ⟨e, List.mem_append_right _ he, hk⟩)
    have hperm : (rest ++ insert k v start).Perm ((k, v) :: (rest ++ start)) :=
      ((insert_perm hnew).append_left rest).trans List.perm_middle
    refine (ih ?_).trans hperm
    rw [(hperm.map Prod.fst).nodup_iff, List.map_cons, List.nodup_cons]
    exact h

/-- Where no key is repeated, `Entries.sort` keeps all entries. -/
theorem sort_perm {entries : List (String × α)} (h : (entries.map Prod.fst).Nodup) :
    (sort entries).Perm entries := by
  -- Sorting begins with no entries at all.
  have hperm := @foldl_insert_perm α entries [] (by rwa [List.append_nil])
  rwa [List.append_nil] at hperm

/-- What `List.lookup` finds after several insertions is the last value inserted under the key, and
else what was there. -/
private theorem lookup_foldl_insert (key : String) (entries start : List (String × α)) :
    List.lookup key (entries.foldl (fun sorted entry => insert entry.1 entry.2 sorted) start) =
      (List.lookup key entries.reverse).or (List.lookup key start) := by
  -- Later insertions hide earlier ones, so the lookup goes through the entries from their end.
  induction entries generalizing start with
  | nil => simp
  | cons head rest ih =>
    obtain ⟨k, v⟩ := head
    rw [List.foldl_cons, ih, lookup_insert, List.reverse_cons, List.lookup_append, Option.or_assoc]
    by_cases h : key = k <;> simp [lookup_cons, h]

/-- Under each key the last of its entries is found by `List.lookup` in the sorted ones. -/
theorem lookup_sort (key : String) (entries : List (String × α)) :
    List.lookup key (sort entries) = List.lookup key entries.reverse := by
  rw [sort, lookup_foldl_insert]
  simp

/-- A map over the values is seen through `List.lookup`. -/
theorem lookup_map {β : Type} (f : α → β) (key : String) (entries : List (String × α)) :
    List.lookup key (entries.map fun e => (e.1, f e.2)) = (List.lookup key entries).map f := by
  -- By induction on the entries; their keys are what they were.
  induction entries with
  | nil => rfl
  | cons head rest ih =>
    obtain ⟨k, v⟩ := head
    rw [List.map_cons, lookup_cons, lookup_cons]
    split
    · rfl
    · exact ih

end Entries

namespace Json

/-! ## Numbers -/

mutual

/-- Every number of the document is an integer that `Data.fitsWord` admits. -/
def isWhole : Json → Bool
  | .number (.int n) => Data.fitsWord n
  | .number (.float _) => false
  | .array items => areWhole items
  | .object members => membersWhole members
  | .null | .bool _ | .string _ => true

/-- The items are whole, each by `isWhole`. -/
def areWhole : List Json → Bool
  | [] => true
  | j :: js => isWhole j && areWhole js

/-- The values of the members are whole, each by `isWhole`. -/
def membersWhole : List (String × Json) → Bool
  | [] => true
  | (_, j) :: ms => isWhole j && membersWhole ms

end

/-- Items are whole if each of them is. -/
theorem areWhole_iff {js : List Json} : areWhole js = true ↔ ∀ j ∈ js, j.isWhole = true := by
  -- By induction on the items, as `areWhole` goes along them.
  induction js with
  | nil => simp [areWhole]
  | cons j js ih => simp [areWhole, ih]

/-- `membersWhole` says that the value of each member is whole. -/
theorem membersWhole_iff {ms : List (String × Json)} :
    membersWhole ms = true ↔ ∀ m ∈ ms, m.2.isWhole = true := by
  induction ms with
  | nil => simp [membersWhole]
  | cons m ms ih => obtain ⟨k, j⟩ := m; simp [membersWhole, ih]

/-- No members hold no number. -/
@[simp] theorem membersWhole_nil : membersWhole [] = true := rfl

/-- `membersWhole` goes through the value of the first member and then through the other members. -/
@[simp] theorem membersWhole_cons (key : String) (j : Json) (ms : List (String × Json)) :
    membersWhole ((key, j) :: ms) = (j.isWhole && membersWhole ms) := rfl

/-- `membersWhole` of members behind others asks for both. -/
@[simp] theorem membersWhole_append (ms others : List (String × Json)) :
    membersWhole (ms ++ others) = (membersWhole ms && membersWhole others) := by
  induction ms with
  | nil => rfl
  | cons m ms ih =>
    obtain ⟨key, j⟩ := m
    simp [ih, Bool.and_assoc]

/-- An object is whole if its members are. -/
@[simp] theorem isWhole_object (ms : List (String × Json)) :
    (Json.object ms).isWhole = membersWhole ms := rfl

/-- A string holds no number. -/
@[simp] theorem isWhole_string (s : String) : (Json.string s).isWhole = true := rfl

/-- A natural number below two to the power of 64 is whole as `Json.nat`. -/
theorem isWhole_nat {n : Nat} (hn : n < UInt64.size) : (Json.nat n).isWhole = true := by
  have hsize : UInt64.size = 0x10000000000000000 := rfl
  -- Both ends of the range are compared as integers.
  simp only [nat, isWhole, Data.fitsWord, Bool.and_eq_true, decide_eq_true_eq]
  omega

section Members

variable {α : Type} {write : α → Json} (key : String)

/-- What `member?` writes is whole if the value is, should there be one. -/
theorem membersWhole_member? {a : Option α} (h : ∀ x ∈ a, (write x).isWhole = true) :
    membersWhole (member? key write a) = true := by
  cases a with
  | none => rfl
  | some x => simp [member?, h x rfl]

/-- An optional text holds no number. -/
theorem membersWhole_member?_string (s : Option String) :
    membersWhole (member? key .string s) = true :=
  membersWhole_member? key fun _ _ => rfl

/-- What `listMember` writes is whole if all of the items are. -/
theorem membersWhole_listMember {items : List α} (h : ∀ x ∈ items, (write x).isWhole = true) :
    membersWhole (listMember key write items) = true := by
  cases items with
  -- An empty list is left out.
  | nil => rfl
  | cons x xs =>
    have hitems : areWhole ((x :: xs).map write) = true := by
      refine areWhole_iff.2 fun j hj => ?_
      obtain ⟨y, hy, rfl⟩ := List.mem_map.1 hj
      exact h y hy
    simpa [listMember, isWhole] using hitems

/-- What `dictMember` writes is whole if all of the values are. -/
theorem membersWhole_dictMember {d : Dict α} (h : ∀ e ∈ d.entries, (write e.2).isWhole = true) :
    membersWhole (dictMember key write d) = true := by
  unfold dictMember
  split
  · rfl
  · simp only [membersWhole_cons, membersWhole_nil, Bool.and_true, ofDict, isWhole_object]
    refine membersWhole_iff.2 fun m hm => ?_
    obtain ⟨e, he, rfl⟩ := List.mem_map.1 hm
    exact h e he

end Members

/-! ## Brackets -/

mutual

/-- How many brackets are open at a time in the text of the document, at most. -/
def nesting : Json → Nat
  | .array items => nestingItems items + 1
  | .object members => nestingMembers members + 1
  | .null | .bool _ | .number _ | .string _ => 0

/-- How many brackets are open at a time within an item. -/
def nestingItems : List Json → Nat
  | [] => 0
  | j :: js => max (nesting j) (nestingItems js)

/-- How many brackets are open at a time within the value of a member. -/
def nestingMembers : List (String × Json) → Nat
  | [] => 0
  | (_, j) :: ms => max (nesting j) (nestingMembers ms)

end

/-- Items keep within a depth if the `nesting` of each of them does. -/
theorem nestingItems_le_iff {js : List Json} {depth : Nat} :
    nestingItems js ≤ depth ↔ ∀ j ∈ js, j.nesting ≤ depth := by
  induction js with
  | nil => simp [nestingItems]
  | cons j js ih => rw [nestingItems, Nat.max_le, ih, List.forall_mem_cons]

/-- Members keep within a depth if the `nesting` of the value of each of them does. -/
theorem nestingMembers_le_iff {ms : List (String × Json)} {depth : Nat} :
    nestingMembers ms ≤ depth ↔ ∀ m ∈ ms, m.2.nesting ≤ depth := by
  induction ms with
  | nil => simp [nestingMembers]
  | cons m ms ih => obtain ⟨k, j⟩ := m; rw [nestingMembers, Nat.max_le, ih, List.forall_mem_cons]

/-! ## Canonical form -/

mutual

/-- `Json.canonical` has no numbers but those of the document. -/
theorem isWhole_canonical : (j : Json) → j.isWhole = true → j.canonical.isWhole = true
  | .null, _ => rfl
  | .bool _, _ => rfl
  -- A number stands as it is.
  | .number _, h => h
  | .string _, _ => rfl
  | .array js, h => areWhole_canonicalItems js h
  | .object ms, h => by
    -- The members of the canonical form are sorted ones, and sorting brings in none.
    rw [canonical, isWhole_object, membersWhole_iff]
    exact fun m hm => membersWhole_iff.1 (membersWhole_canonicalMembers ms h) m
      (Entries.mem_of_mem_sort hm)

/-- `isWhole_canonical` for the items of an array. -/
theorem areWhole_canonicalItems : (js : List Json) → areWhole js = true →
    areWhole (canonicalItems js) = true
  | [], _ => rfl
  | j :: js, h => by
    simp only [areWhole, Bool.and_eq_true] at h
    simp only [canonicalItems, areWhole, isWhole_canonical j h.1, areWhole_canonicalItems js h.2,
      Bool.and_self]

/-- `isWhole_canonical` for the members of an object. -/
theorem membersWhole_canonicalMembers : (ms : List (String × Json)) → membersWhole ms = true →
    membersWhole (canonicalMembers ms) = true
  | [], _ => rfl
  | (_, j) :: ms, h => by
    simp only [membersWhole, Bool.and_eq_true] at h
    simp only [canonicalMembers, membersWhole, isWhole_canonical j h.1,
      membersWhole_canonicalMembers ms h.2, Bool.and_self]

end

mutual

/-- `Json.canonical` opens no brackets but those of the document. -/
theorem nesting_canonical_le : (j : Json) → j.canonical.nesting ≤ j.nesting
  | .null | .bool _ | .number _ | .string _ => Nat.le_refl _
  -- Items stay in their order.
  | .array js => Nat.succ_le_succ (nestingItems_canonicalItems_le js)
  | .object ms => by
    -- The brackets of the object are counted on both sides.
    refine Nat.succ_le_succ (nestingMembers_le_iff.2 fun m hm => ?_)
    exact nestingMembers_le_iff.1 (nestingMembers_canonicalMembers_le ms) m
      (Entries.mem_of_mem_sort hm)

/-- `nesting_canonical_le` for the items of an array. -/
theorem nestingItems_canonicalItems_le : (js : List Json) →
    nestingItems (canonicalItems js) ≤ nestingItems js
  | [] => Nat.le_refl _
  | j :: js => by
    have hj := nesting_canonical_le j
    have hjs := nestingItems_canonicalItems_le js
    simp only [canonicalItems, nestingItems]
    omega

/-- `nesting_canonical_le` for the members of an object. -/
theorem nestingMembers_canonicalMembers_le : (ms : List (String × Json)) →
    nestingMembers (canonicalMembers ms) ≤ nestingMembers ms
  | [] => Nat.le_refl _
  | (_, j) :: ms => by
    have hj := nesting_canonical_le j
    have hms := nestingMembers_canonicalMembers_le ms
    simp only [canonicalMembers, nestingMembers]
    omega

end

/-- `Json.canonical` has under each key of an object the last of its members. -/
theorem lookup_canonical {ms sorted : List (String × Json)}
    (h : (Json.object ms).canonical = .object sorted) (key : String) :
    List.lookup key sorted = (List.lookup key ms.reverse).map canonical := by
  obtain rfl : Entries.sort (canonicalMembers ms) = sorted := Json.object.inj h
  rw [Entries.lookup_sort, canonicalMembers_eq_map, ← List.map_reverse, Entries.lookup_map]

end Json

end HttpStub
