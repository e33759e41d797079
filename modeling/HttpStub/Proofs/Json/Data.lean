import HttpStub.Data
import HttpStub.Proofs.Json.Whole

/-!
# Documents handed over as data

A document is data as well, and both ways of writing data can be taken with it. Where all numbers
are integers of 64 bits neither of them fails: `Data.document?` gives back the document as it
stands, `Data.valueJson?` its canonical form, though it puts the members of an object in one by one.
-/

namespace HttpStub.Json

mutual

/-- The document as data, with every number of the kind it has. -/
def toData : Json → Data
  | .null => .null
  | .bool b => .bool b
  | .number (.int n) => .integer n
  | .number (.float x) => .float x
  | .string s => .string s
  | .array items => .sequence (itemsToData items)
  | .object members => .map (membersToData members)

/-- The items of an array as data, each by `toData`. -/
def itemsToData : List Json → List Data
  | [] => []
  | j :: js => toData j :: itemsToData js

/-- The members of an object as entries of a map, in their order. -/
def membersToData : List (String × Json) → List (Data.Key × Data)
  | [] => []
  | (key, j) :: ms => (.string key, toData j) :: membersToData ms

end

/-! ## In order -/

mutual

/-- `Data.document?` gives back the document that `toData` hands over. -/
theorem document?_toData : (j : Json) → j.isWhole = true → j.toData.document? = .ok j
  | .null, _ => rfl
  | .bool _, _ => rfl
  | .number (.int _), _ => rfl
  -- A number in floating point is not whole.
  | .number (.float _), h => by cases h
  | .string _, _ => rfl
  | .array js, h => by
    simp only [toData, Data.document?, documentItems?_itemsToData js h]
    rfl
  -- Maps keep their order here, so nothing is sorted.
  | .object ms, h => by
    simp only [toData, Data.document?, documentMembers?_membersToData ms h]
    rfl

/-- The same of the items of an array, with `itemsToData`. -/
theorem documentItems?_itemsToData : (js : List Json) → areWhole js = true →
    Data.documentItems? (itemsToData js) = .ok js
  | [], _ => rfl
  | j :: js, h => by
    simp only [areWhole, Bool.and_eq_true] at h
    simp only [itemsToData, Data.documentItems?, document?_toData j h.1,
      documentItems?_itemsToData js h.2]
    rfl

/-- The same of the members of an object, whose order and repeated keys stay. -/
theorem documentMembers?_membersToData : (ms : List (String × Json)) → membersWhole ms = true →
    Data.documentMembers? (membersToData ms) = .ok ms
  | [], _ => rfl
  | (_, j) :: ms, h => by
    simp only [membersWhole, Bool.and_eq_true] at h
    simp only [membersToData, Data.documentMembers?, Data.Key.name?, document?_toData j h.1,
      documentMembers?_membersToData ms h.2]
    rfl

end

/-! ## By name -/

mutual

/-- `Data.valueJson?` gives the canonical form of the document that `toData` hands over. -/
theorem valueJson?_toData : (j : Json) → j.isWhole = true → j.toData.valueJson? = .ok j.canonical
  | .null, _ => rfl
  | .bool _, _ => rfl
  -- Only here the range counts: the value has no integers beyond 64 bits.
  | .number (.int n), h => by
    rw [toData, Data.valueJson?, if_pos (show Data.fitsWord n = true from h)]
    rfl
  | .number (.float _), h => by cases h
  | .string _, _ => rfl
  | .array js, h => by
    simp only [toData, Data.valueJson?, valueItems?_itemsToData js h]
    rfl
  | .object ms, h => by
    simp only [toData, Data.valueJson?, valueMembers?_membersToData ms h []]
    rfl

/-- The same of the items of an array, with `canonicalItems`. -/
theorem valueItems?_itemsToData : (js : List Json) → areWhole js = true →
    Data.valueItems? (itemsToData js) = .ok (canonicalItems js)
  | [], _ => rfl
  | j :: js, h => by
    simp only [areWhole, Bool.and_eq_true] at h
    simp only [itemsToData, Data.valueItems?, valueJson?_toData j h.1,
      valueItems?_itemsToData js h.2]
    rfl

/-- `Data.valueMembers?` puts the canonical members into those gathered before, one after the other.
-/
theorem valueMembers?_membersToData : (ms : List (String × Json)) → membersWhole ms = true →
    (gathered : List (String × Json)) → Data.valueMembers? gathered (membersToData ms) =
      .ok ((canonicalMembers ms).foldl (fun sorted m => Entries.insert m.1 m.2 sorted) gathered)
  | [], _, _ => rfl
  | (_, j) :: ms, h, _ => by
    simp only [membersWhole, Bool.and_eq_true] at h
    simp only [membersToData, Data.valueMembers?, Data.Key.name?, valueJson?_toData j h.1]
    -- The first member is gathered, and the others are put in behind it.
    exact valueMembers?_membersToData ms h.2 _

end

end HttpStub.Json
