import HttpStub.Proofs.Json.Keys
import HttpStub.Proofs.Json.Members

/-!
# Places in a document

A path of keys leads from an object to one of its members and on from there, so it names at most one
place in a document. Where no key is repeated, the value of a document has the same places as the
document itself, and at each of them the value of what stands there.
-/

namespace HttpStub.Json

/-- What stands at the end of a path of keys, if the document has such a place. -/
def find? : Json → List String → Option Json
  | j, [] => some j
  | .object members, key :: path => (List.lookup key members).bind fun j => j.find? path
  | _, _ :: _ => none

/-- At the end of the path the document has this, or nothing, and its value has the value of it. -/
def Tells (j : Json) (path : List String) (found : Option Json) : Prop :=
  j.find? path = found ∧ j.toValue.json.find? path = found.map canonical

/-- The empty path leads to the document itself, whatever it is. -/
@[simp] theorem find?_nil (j : Json) : j.find? [] = some j := by
  cases j <;> rfl

/-- `find?` goes on below the first member under the first key. -/
@[simp] theorem find?_object (members : List (String × Json)) (key : String)
    (path : List String) :
    (object members).find? (key :: path) =
      (List.lookup key members).bind fun j => j.find? path := rfl

/-- Without repeated keys, `find?` finds in the canonical form the canonical form of what it finds
in the document. -/
theorem find?_canonical {j : Json} (h : ¬j.RepeatsKey) (path : List String) :
    j.canonical.find? path = (j.find? path).map canonical := by
  induction path generalizing j with
  | nil => rw [find?_nil, find?_nil, Option.map_some]
  | cons key path ih =>
    cases j with
    | object members =>
      obtain ⟨sorted, hsorted⟩ : ∃ sorted, (object members).canonical = .object sorted := ⟨_, rfl⟩
      have hkeys : (members.map Prod.fst).Nodup := not_not.1 fun hrepeated => h (.here hrepeated)
      -- What is found below a member has no repeated key either, or the object had one.
      have hmember := lookup_canonical_of_nodup hsorted hkeys key
      rw [hsorted, find?_object, find?_object, hmember]
      cases hget : List.lookup key members with
      | none => rfl
      | some value =>
        have hmem : (key, value) ∈ members := Entries.mem_of_lookup_eq_some hget
        exact ih fun hvalue => h (.member hmem hvalue)
    | _ => rfl

/-- The document and its value have a place if and only if something is told there. -/
theorem Tells.isSome_find? {j document : Json} {path : List String} {found : Option Json}
    (h : j.Tells path found) (hdocument : document ∈ [j, j.toValue.json]) :
    (document.find? path).isSome = found.isSome := by
  rcases List.mem_pair.1 hdocument with rfl | rfl
  · rw [h.1]
  · rw [h.2, Option.isSome_map]

/-- A document without repeated keys `Tells` at each path what `find?` finds in it. -/
theorem tells_of_not_repeatsKey {j : Json} (h : ¬j.RepeatsKey) (path : List String) :
    j.Tells path (j.find? path) :=
  ⟨rfl, find?_canonical h path⟩

end HttpStub.Json
