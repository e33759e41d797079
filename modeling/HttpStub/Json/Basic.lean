import HttpStub.Dict
import HttpStub.Json.Number

/-!
# JSON documents and values

A `Json` is a document as it is written: members in their order, repeated keys included. Its
`canonical` form lists members by increasing key and keeps the last of repeated ones. A `Value` is a
document that is its own canonical form, which is what a reader of the text gets to see.
-/

namespace HttpStub

/-- A document, member order and repeated keys included. `Json.text` writes it, `Json.parse` reads
it. -/
inductive Json where
  | null
  | bool (b : Bool)
  /-- A number, an integer or a double. -/
  | number (n : Json.Number)
  /-- A string, with all escapes decoded. -/
  | string (s : String)
  /-- Items in their order. -/
  | array (items : List Json)
  /-- Members in their order, any of which may repeat a key. -/
  | object (members : List (String × Json))

namespace Json

/-- A natural number as a document. -/
def nat (n : Nat) : Json :=
  .number (.int n)

/-- An integer as a document. -/
def int (n : Int) : Json :=
  .number (.int n)

/-- A double as a document: what is no finite number is `Json.null`. -/
def ofFloat (x : Float) : Json :=
  if x.isFinite then .number (.float x) else .null

/-- Strings as an array. -/
def strings (texts : List String) : Json :=
  .array (texts.map .string)

/-- A dictionary as an object, in the order of its keys. -/
def ofDict {α : Type} (write : α → Json) (d : Dict α) : Json :=
  .object (d.entries.map fun e => (e.1, write e.2))

/-- The member `key` as `write` gives it, or nothing where the value is absent. -/
def member? {α : Type} (key : String) (write : α → Json) : Option α → List (String × Json)
  | none => []
  | some a => [(key, write a)]

/-- The member `key` holding a list, left out when the list is empty. -/
def listMember {α : Type} (key : String) (write : α → Json) : List α → List (String × Json)
  | [] => []
  | items => [(key, .array (items.map write))]

/-- The member `key` holding a dictionary by `ofDict`, left out when the dictionary is empty. -/
def dictMember {α : Type} (key : String) (write : α → Json) (d : Dict α) : List (String × Json) :=
  if d.isEmpty then [] else [(key, ofDict write d)]

/-! ## Equality -/

mutual

/-- Decides equality of documents, constructor by constructor: the type is nested, so nothing
derives it. -/
def decEq : (a b : Json) → Decidable (a = b)
  | .null, .null => isTrue rfl
  | .bool a, .bool b => if h : a = b then isTrue (h ▸ rfl) else isFalse (by simpa using h)
  | .number a, .number b => if h : a = b then isTrue (h ▸ rfl) else isFalse (by simpa using h)
  | .string a, .string b => if h : a = b then isTrue (h ▸ rfl) else isFalse (by simpa using h)
  | .array a, .array b =>
    match decEqItems a b with
    | isTrue h => isTrue (h ▸ rfl)
    | isFalse h => isFalse (by simpa using h)
  | .object a, .object b =>
    match decEqMembers a b with
    | isTrue h => isTrue (h ▸ rfl)
    | isFalse h => isFalse (by simpa using h)
  | .null, .bool _ | .null, .number _ | .null, .string _ | .null, .array _ | .null, .object _
  | .bool _, .null | .bool _, .number _ | .bool _, .string _ | .bool _, .array _
  | .bool _, .object _ | .number _, .null | .number _, .bool _ | .number _, .string _
  | .number _, .array _ | .number _, .object _ | .string _, .null | .string _, .bool _
  | .string _, .number _ | .string _, .array _ | .string _, .object _ | .array _, .null
  | .array _, .bool _ | .array _, .number _ | .array _, .string _ | .array _, .object _
  | .object _, .null | .object _, .bool _ | .object _, .number _ | .object _, .string _
  | .object _, .array _ => isFalse (by simp)

/-- Decides equality of the items of two arrays by `decEq`. -/
def decEqItems : (a b : List Json) → Decidable (a = b)
  | [], [] => isTrue rfl
  | [], _ :: _ | _ :: _, [] => isFalse (by simp)
  | x :: xs, y :: ys =>
    match decEq x y, decEqItems xs ys with
    | isTrue h, isTrue t => isTrue (h ▸ t ▸ rfl)
    | isFalse h, _ => isFalse (fun e => h (List.cons.inj e).1)
    | _, isFalse t => isFalse (fun e => t (List.cons.inj e).2)

/-- Decides equality of the members of two objects by `decEq`. -/
def decEqMembers : (a b : List (String × Json)) → Decidable (a = b)
  | [], [] => isTrue rfl
  | [], _ :: _ | _ :: _, [] => isFalse (by simp)
  | (k, x) :: xs, (l, y) :: ys =>
    if hk : k = l then
      match decEq x y, decEqMembers xs ys with
      | isTrue h, isTrue t => isTrue (hk ▸ h ▸ t ▸ rfl)
      | isFalse h, _ => isFalse (fun e => h (Prod.mk.inj (List.cons.inj e).1).2)
      | _, isFalse t => isFalse (fun e => t (List.cons.inj e).2)
    else isFalse (fun e => hk (Prod.mk.inj (List.cons.inj e).1).1)

end

instance : DecidableEq Json := decEq

mutual

/-- Sameness of documents where doubles are compared as numbers, by `Number.same`. -/
def same : Json → Json → Bool
  | .number a, .number b => a.same b
  | .array a, .array b => sameItems a b
  | .object a, .object b => sameMembers a b
  | .null, .null => true
  | .bool a, .bool b => a == b
  | .string a, .string b => a == b
  | _, _ => false

/-- Item by item `same`. -/
def sameItems : List Json → List Json → Bool
  | [], [] => true
  | x :: xs, y :: ys => same x y && sameItems xs ys
  | _, _ => false

/-- Member by member `same`, in order. -/
def sameMembers : List (String × Json) → List (String × Json) → Bool
  | [], [] => true
  | (k, x) :: xs, (l, y) :: ys => k == l && same x y && sameMembers xs ys
  | _, _ => false

end

/-! ## Canonical form -/

mutual

/-- Members by increasing key at every depth, the last of repeated ones, by `Entries.sort`. -/
def canonical : Json → Json
  | .array items => .array (canonicalItems items)
  | .object members => .object (Entries.sort (canonicalMembers members))
  | .null => .null
  | .bool b => .bool b
  | .number n => .number n
  | .string s => .string s

/-- The `canonical` forms of the items. -/
def canonicalItems : List Json → List Json
  | [] => []
  | j :: js => canonical j :: canonicalItems js

/-- The `canonical` forms of the members' values, the members themselves in their order. -/
def canonicalMembers : List (String × Json) → List (String × Json)
  | [] => []
  | (k, j) :: ms => (k, canonical j) :: canonicalMembers ms

end

/-- `canonicalItems` takes the canonical form of each item. -/
theorem canonicalItems_eq_map (items : List Json) : canonicalItems items = items.map canonical := by
  induction items with
  | nil => rfl
  | cons j js ih => simp [canonicalItems, ih]

/-- `canonicalMembers` takes the canonical form of each value, under the same key. -/
theorem canonicalMembers_eq_map (members : List (String × Json)) :
    canonicalMembers members = members.map fun m => (m.1, canonical m.2) := by
  induction members with
  | nil => rfl
  | cons m ms ih => obtain ⟨k, j⟩ := m; simp [canonicalMembers, ih]

/-- `Entries.insert` commutes with a map over the values. -/
theorem map_insert (f : Json → Json) (key : String) (j : Json) (members : List (String × Json)) :
    (Entries.insert key j members).map (fun m => (m.1, f m.2)) =
      Entries.insert key (f j) (members.map fun m => (m.1, f m.2)) := by
  induction members with
  | nil => rfl
  | cons m ms ih =>
    obtain ⟨k, v⟩ := m
    simp only [Entries.insert, List.map_cons]
    split
    · rfl
    · split
      · rfl
      · -- The key goes further in, past a first key that a map keeps as it is.
        rw [List.map_cons, ih]

/-- So do many insertions. -/
theorem map_foldl_insert (f : Json → Json) (members start : List (String × Json)) :
    (members.foldl (fun acc m => Entries.insert m.1 m.2 acc) start).map (fun m => (m.1, f m.2)) =
      (members.map fun m => (m.1, f m.2)).foldl (fun acc m => Entries.insert m.1 m.2 acc)
        (start.map fun m => (m.1, f m.2)) := by
  induction members generalizing start with
  | nil => rfl
  | cons m ms ih => rw [List.foldl_cons, ih, map_insert]; rfl

/-- `Entries.sort` commutes with a map over the values. -/
theorem map_sort (f : Json → Json) (members : List (String × Json)) :
    (Entries.sort members).map (fun m => (m.1, f m.2)) =
      Entries.sort (members.map fun m => (m.1, f m.2)) :=
  map_foldl_insert f members []

mutual

/-- The canonical form of a document is its own canonical form. -/
theorem canonical_canonical : (j : Json) → j.canonical.canonical = j.canonical
  | .array items => by simp only [canonical, canonicalItems_canonicalItems items]
  | .object members => by
    simp only [canonical]
    -- The values are canonical already, and what has been sorted stays as it is.
    rw [canonicalMembers_eq_map, map_sort, ← canonicalMembers_eq_map,
      canonicalMembers_canonicalMembers members,
      Entries.sort_of_ascending (Entries.ascending_sort _)]
  | .null => rfl
  | .bool _ => rfl
  | .number _ => rfl
  | .string _ => rfl

/-- So is that of each item. -/
theorem canonicalItems_canonicalItems : (items : List Json) →
    canonicalItems (canonicalItems items) = canonicalItems items
  | [] => rfl
  | j :: js => by
    simp only [canonicalItems, canonical_canonical j, canonicalItems_canonicalItems js]

/-- So is that of each member. -/
theorem canonicalMembers_canonicalMembers : (members : List (String × Json)) →
    canonicalMembers (canonicalMembers members) = canonicalMembers members
  | [] => rfl
  | (_, j) :: ms => by
    simp only [canonicalMembers, canonical_canonical j, canonicalMembers_canonicalMembers ms]

end

/-- A JSON value: a document in canonical form. -/
structure Value where
  json : Json
  isCanonical : json.canonical = json
deriving DecidableEq

/-- The value that a document describes. -/
def toValue (j : Json) : Value :=
  ⟨j.canonical, canonical_canonical j⟩

end Json

end HttpStub
