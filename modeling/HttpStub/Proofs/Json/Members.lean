import HttpStub.Json.Basic
import HttpStub.Proofs.Json.Whole

/-!
# Optional members

A part that has not been set has no member, so an object is looked at key by key: under the key of a
part stands what that part was written as, and nothing if it is not there. What is found under a key
determines the part as far as the writing of its values determines them. This is stated with a
function `f` that keeps what the writing keeps of a value.
-/

namespace HttpStub

/-- The dictionary of the images under the same keys, in the order of `entries`. -/
def Dict.map {α β : Type} (f : α → β) (d : Dict α) : Dict β where
  entries := d.entries.map fun e => (e.1, f e.2)
  ascending := by
    rw [Entries.Ascending, List.pairwise_map]
    exact d.ascending

namespace Dict

variable {α β : Type}

/-- The entries of `Dict.map f d` are those of `d` with `f` applied to their values. -/
theorem entries_map (f : α → β) (d : Dict α) :
    (d.map f).entries = d.entries.map fun e => (e.1, f e.2) := rfl

/-- `Dict.map` keeps whether a dictionary is empty, so `dictMember` leaves out the same ones. -/
theorem isEmpty_map (f : α → β) (d : Dict α) : (d.map f).isEmpty = d.isEmpty := by
  simp [isEmpty, entries_map]

/-- Dictionaries with the same `entries` are equal. -/
theorem ext_entries {d e : Dict α} (h : d.entries = e.entries) : d = e := by
  cases d
  cases e
  cases h
  rfl

end Dict

namespace Entries

variable {α : Type} {key : String}

/-- A value that `List.lookup` finds belongs to one of the entries. -/
theorem mem_of_lookup_eq_some {entries : List (String × α)} {value : α}
    (h : entries.lookup key = some value) : (key, value) ∈ entries := by
  obtain ⟨front, back, rfl, -⟩ := List.lookup_eq_some_iff.1 h
  exact List.mem_append_cons_self

/-- What has no entry under a key for `List.lookup` has none from behind either. -/
theorem lookup_reverse_eq_none {entries : List (String × α)} (h : List.lookup key entries = none) :
    List.lookup key entries.reverse = none := by
  rw [List.lookup_eq_none_iff] at h ⊢
  exact fun e he => h e (List.mem_reverse.1 he)

/-- Where no key is repeated, it does not matter from which end `List.lookup` goes. -/
theorem lookup_reverse_of_nodup {entries : List (String × α)}
    (h : (entries.map Prod.fst).Nodup) :
    List.lookup key entries.reverse = List.lookup key entries := by
  -- By induction on the entries, which are looked up from behind.
  induction entries with
  | nil => rfl
  | cons head rest ih =>
    obtain ⟨k, v⟩ := head
    obtain ⟨hk, hrest⟩ := List.nodup_cons.1 h
    rw [List.reverse_cons, List.lookup_append, ih hrest]
    by_cases hkey : key = k
    · subst hkey
      have hnone : List.lookup key rest = none := by
        refine List.lookup_eq_none_iff.2 fun e he => bne_iff_ne.2 fun heq => hk ?_
        exact List.mem_map.2 ⟨e, he, heq.symm⟩
      -- The last entry under the key is the head itself: there is none in the rest.
      rw [hnone]
      simp
    · simp [lookup_cons, hkey]

end Entries

namespace Json

variable {α β : Type} {write : α → Json} {f : α → β} {key k : String}

/-! ## Keys -/

/-- What `member?` writes for a part is found under its key, and nothing if the part is not there.
-/
@[simp] theorem lookup_member? (a : Option α) :
    List.lookup key (member? key write a) = a.map write := by
  cases a <;> simp [member?]

/-- What `dictMember` writes for a dictionary is found under its key, and nothing if it is empty. -/
@[simp] theorem lookup_dictMember (d : Dict α) :
    List.lookup key (dictMember key write d) =
      if d.isEmpty then none else some (ofDict write d) := by
  -- An empty dictionary is left out.
  unfold dictMember
  split <;> simp

/-- Under other keys `member?` writes nothing. -/
@[simp] theorem lookup_member?_of_ne (h : k ≠ key) (a : Option α) :
    List.lookup k (member? key write a) = none := by
  cases a <;> simp [member?, Entries.lookup_cons, h]

/-- Under other keys `listMember` writes nothing. -/
@[simp] theorem lookup_listMember_of_ne (h : k ≠ key) (items : List α) :
    List.lookup k (listMember key write items) = none := by
  cases items <;> simp [listMember, Entries.lookup_cons, h]

/-- Under other keys `dictMember` writes nothing. -/
@[simp] theorem lookup_dictMember_of_ne (h : k ≠ key) (d : Dict α) :
    List.lookup k (dictMember key write d) = none := by
  unfold dictMember
  split <;> simp [Entries.lookup_cons, h]

/-- Where no key is repeated, `Json.canonical` puts under a key the canonical form of the member's
value. -/
theorem lookup_canonical_of_nodup {members sorted : List (String × Json)}
    (h : (object members).canonical = .object sorted) (hkeys : (members.map Prod.fst).Nodup)
    (key : String) : List.lookup key sorted = (List.lookup key members).map canonical := by
  rw [lookup_canonical h, Entries.lookup_reverse_of_nodup hkeys]

/-! ## Writing through a map -/

/-- If `write` writes values as their images, `member?` writes a part as its image. -/
theorem member?_map {f : α → α} (h : ∀ x, write (f x) = write x) (a : Option α) :
    member? key write (a.map f) = member? key write a := by
  cases a <;> simp [member?, h]

/-- The same of the items that `listMember` writes. -/
theorem listMember_map {f : α → α} (h : ∀ x, write (f x) = write x) (items : List α) :
    listMember key write (items.map f) = listMember key write items := by
  cases items <;> simp [listMember, h]

/-- The same of the values that `dictMember` writes. -/
theorem dictMember_map {f : α → α} (h : ∀ x, write (f x) = write x) (d : Dict α) :
    dictMember key write (d.map f) = dictMember key write d := by
  simp [dictMember, ofDict, Dict.isEmpty_map, Dict.entries_map, Function.comp_def, h]

/-- `ofDict` writes by increasing key, so its object is canonical if the values in it are. -/
theorem canonical_ofDict (h : ∀ x, (write x).canonical = write x) (d : Dict α) :
    (ofDict write d).canonical = ofDict write d := by
  have hentries : canonicalMembers (d.map write).entries = (d.map write).entries := by
    simp [canonicalMembers_eq_map, Dict.entries_map, h]
  -- The entries are in order already, so sorting them changes nothing.
  have hsorted := Entries.sort_of_ascending (d.map write).ascending
  rw [ofDict, ← Dict.entries_map, canonical, hentries, hsorted]

/-! ## Reading off a member -/

/-- Where `member?` puts the same under the key, the parts have the same image under `f`. -/
theorem map_eq_of_lookup_member? (hwrite : ∀ x y, write x = write y → f x = f y) {a b : Option α}
    (h : List.lookup key (member? key write a) = List.lookup key (member? key write b)) :
    a.map f = b.map f := by
  cases a with
  | none => cases b <;> simp_all [member?]
  | some x =>
    cases b with
    -- A member that is there differs from one that is left out.
    | none => simp [member?] at h
    | some y =>
      have hxy : write x = write y := by simpa [member?, Entries.lookup_cons] using h
      rw [Option.map_some, Option.map_some, hwrite x y hxy]

/-- Lists whose items are written alike have the same images, item by item. -/
private theorem map_eq_of_map_eq {α β γ : Type} {f : α → β} {g : α → γ}
    (hg : ∀ x y, g x = g y → f x = f y) {xs ys : List α} (h : xs.map g = ys.map g) :
    xs.map f = ys.map f := by
  induction xs generalizing ys with
  | nil => cases ys <;> simp_all
  | cons x xs ih =>
    cases ys with
    | nil => simp at h
    | cons y ys =>
      simp only [List.map_cons, List.cons.injEq] at h
      rw [List.map_cons, List.map_cons, hg x y h.1, ih h.2]

/-- Where `listMember` puts the same under the key, the items have the same images. -/
theorem map_eq_of_lookup_listMember (hwrite : ∀ x y, write x = write y → f x = f y) {xs ys : List α}
    (h : List.lookup key (listMember key write xs) = List.lookup key (listMember key write ys)) :
    xs.map f = ys.map f := by
  -- A list that is left out differs from one that is written.
  cases xs with
  | nil => cases ys <;> simp_all [listMember]
  | cons x xs =>
    cases ys with
    | nil => simp [listMember] at h
    | cons y ys =>
      refine map_eq_of_map_eq hwrite ?_
      simpa [listMember, Entries.lookup_cons] using h

/-- Where `dictMember` puts the same under the key, the dictionaries have the same images. -/
theorem map_eq_of_lookup_dictMember (hwrite : ∀ x y, write x = write y → f x = f y) {d e : Dict α}
    (h : List.lookup key (dictMember key write d) = List.lookup key (dictMember key write e)) :
    d.map f = e.map f := by
  -- An empty dictionary is told from others by its missing member.
  have hentries : (d.entries.map fun x => (x.1, write x.2)) =
      e.entries.map fun x => (x.1, write x.2) := by
    obtain ⟨entries, _⟩ := d
    obtain ⟨others, _⟩ := e
    cases entries <;> cases others <;>
      simp_all [dictMember, ofDict, Dict.isEmpty]
  refine Dict.ext_entries ?_
  rw [Dict.entries_map, Dict.entries_map]
  refine map_eq_of_map_eq (fun x y hxy => ?_) hentries
  obtain ⟨hkey, hvalue⟩ := Prod.mk.inj hxy
  rw [hkey, hwrite x.2 y.2 hvalue]

end Json

end HttpStub
