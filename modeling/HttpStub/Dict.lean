/-!
# Dictionaries in key order

Objects on the wire list their members by increasing key, and a second value for a key replaces the
first. `Entries` holds the operations on plain association lists, `Dict` is the type whose entries
are always strictly increasing, so two dictionaries with the same lookups are equal.
-/

namespace HttpStub

namespace Entries

variable {α : Type}

/-- Puts `value` under `key`, in key order, in the place of an earlier value. -/
def insert (key : String) (value : α) : List (String × α) → List (String × α)
  | [] => [(key, value)]
  | (k, v) :: rest =>
    if key < k then (key, value) :: (k, v) :: rest
    else if key = k then (key, value) :: rest
    else (k, v) :: insert key value rest

/-- The entries in key order, put in one by one with `insert`; of a repeated key the last value
stays. -/
def sort (entries : List (String × α)) : List (String × α) :=
  entries.foldl (fun sorted entry => insert entry.1 entry.2 sorted) []

/-- Keys increase strictly from entry to entry. -/
def Ascending (entries : List (String × α)) : Prop :=
  entries.Pairwise (fun a b => a.1 < b.1)

/-- `List.lookup` on a first entry, as a choice between equal and different keys. -/
theorem lookup_cons (key k : String) (v : α) (rest : List (String × α)) :
    ((k, v) :: rest).lookup key = if key = k then some v else rest.lookup key := by
  by_cases h : key = k
  · rw [h, List.lookup_cons_self, if_pos rfl]
  · rw [List.lookup_cons, beq_eq_false_iff_ne.2 h, if_neg h]

/-- An entry after an `insert` is the new one or one that was there. -/
theorem mem_insert {key : String} {value : α} {entries : List (String × α)} {e : String × α}
    (h : e ∈ insert key value entries) : e = (key, value) ∨ e ∈ entries := by
  -- By induction on the entries that the new one comes past.
  induction entries with
  | nil => simpa [insert] using h
  | cons head rest ih =>
    obtain ⟨k, v⟩ := head
    unfold insert at h
    split at h
    · simpa using h
    · split at h
      · rcases List.mem_cons.1 h with h | h
        · exact Or.inl h
        · exact Or.inr (List.mem_cons_of_mem _ h)
      · rcases List.mem_cons.1 h with h | h
        · exact Or.inr (h ▸ List.mem_cons_self)
        · exact (ih h).imp id (List.mem_cons_of_mem _)

/-- `insert` keeps the keys increasing. -/
theorem ascending_insert (key : String) (value : α) {entries : List (String × α)}
    (h : Ascending entries) : Ascending (insert key value entries) := by
  induction entries with
  | nil => simp [insert, Ascending]
  | cons head rest ih =>
    obtain ⟨k, v⟩ := head
    obtain ⟨hhead, hrest⟩ := List.pairwise_cons.1 h
    unfold insert
    split
    · rename_i hlt
      refine List.pairwise_cons.2 ⟨fun e he => ?_, h⟩
      rcases List.mem_cons.1 he with rfl | he
      · -- The new key is below the first one, and so below all others.
        exact hlt
      · exact String.lt_trans hlt (hhead e he)
    · rename_i hnlt
      split
      · rename_i heq
        subst heq
        exact List.pairwise_cons.2 ⟨hhead, hrest⟩
      · rename_i hne
        refine List.pairwise_cons.2 ⟨fun e he => ?_, ih hrest⟩
        -- The first key stays in front, since the new one is neither below it nor equal to it.
        rcases mem_insert he with rfl | he
        · exact Std.lt_of_le_of_ne (String.not_lt.1 hnlt) (Ne.symm hne)
        · exact hhead e he

/-- So do many insertions, as those of `sort`. -/
theorem ascending_foldl_insert (entries : List (String × α)) {start : List (String × α)}
    (h : Ascending start) :
    Ascending (entries.foldl (fun sorted entry => insert entry.1 entry.2 sorted) start) := by
  -- By induction on the entries, whatever there is to start with.
  induction entries generalizing start with
  | nil => exact h
  | cons e rest ih => exact ih (ascending_insert e.1 e.2 h)

/-- `sort` leaves the keys increasing. -/
theorem ascending_sort (entries : List (String × α)) : Ascending (sort entries) :=
  ascending_foldl_insert entries List.Pairwise.nil

/-- `insert` appends a key beyond all others. -/
theorem insert_eq_append {key : String} {value : α} {entries : List (String × α)}
    (h : ∀ e ∈ entries, e.1 < key) : insert key value entries = entries ++ [(key, value)] := by
  induction entries with
  | nil => rfl
  | cons head rest ih =>
    obtain ⟨k, v⟩ := head
    have hk : k < key := h (k, v) List.mem_cons_self
    have hnlt : ¬ key < k := fun hlt => String.lt_irrefl _ (String.lt_trans hk hlt)
    have hne : key ≠ k := fun he => String.lt_irrefl _ (he ▸ hk)
    -- Neither of the two other places is one for a greater key.
    unfold insert
    rw [if_neg hnlt, if_neg hne, ih (fun e he => h e (List.mem_cons_of_mem _ he))]
    rfl

/-- Entries that increase, and lie beyond those before, are appended one by one by `insert`. -/
theorem foldl_insert_eq_append (entries : List (String × α)) {start : List (String × α)}
    (h : Ascending (start ++ entries)) :
    entries.foldl (fun sorted entry => insert entry.1 entry.2 sorted) start = start ++ entries := by
  -- By induction on the entries, with those that have been appended as the start.
  induction entries generalizing start with
  | nil => simp
  | cons e rest ih =>
    have hlast : ∀ x ∈ start, x.1 < e.1 := fun x hx =>
      (List.pairwise_append.1 h).2.2 x hx e List.mem_cons_self
    rw [List.foldl_cons, insert_eq_append hlast, ih (by simpa using h)]
    simp

/-- `sort` leaves entries that already increase as they are. -/
theorem sort_of_ascending {entries : List (String × α)} (h : Ascending entries) :
    sort entries = entries := by
  have h0 : Ascending ([] ++ entries) := by simpa using h
  -- Each entry lies beyond those before, and is appended.
  simpa [sort] using foldl_insert_eq_append entries h0

/-- What `List.lookup` finds after an `insert` is the new value under its key, and else what was
there. -/
theorem lookup_insert (key k : String) (value : α) (entries : List (String × α)) :
    List.lookup k (insert key value entries) =
      if k = key then some value else entries.lookup k := by
  induction entries with
  | nil => exact lookup_cons ..
  | cons head rest ih =>
    obtain ⟨l, v⟩ := head
    unfold insert
    split
    · exact lookup_cons ..
    · split
      · rename_i heq
        subst heq
        -- The old entry of the key is gone, and no other lookup comes past it.
        by_cases h : k = key <;> simp [lookup_cons, h]
      · rename_i hne
        by_cases hl : k = l
        · simp [hl, Ne.symm hne]
        · simp [lookup_cons, hl, ih]

/-- `List.lookup` finds nothing under a key below all others. -/
theorem lookup_eq_none_of_forall_lt {key : String} {entries : List (String × α)}
    (h : ∀ e ∈ entries, key < e.1) : entries.lookup key = none := by
  induction entries with
  | nil => rfl
  | cons head rest ih =>
    have hne : key ≠ head.1 := fun he => String.lt_irrefl _ (he ▸ h head List.mem_cons_self)
    rw [lookup_cons, if_neg hne, ih fun e he => h e (List.mem_cons_of_mem _ he)]

/-- `List.lookup` finds nothing under a key below the first one of `Ascending` entries. -/
theorem lookup_eq_none_of_lt {key k : String} {v : α} {rest : List (String × α)} (h : key < k)
    (hasc : Ascending ((k, v) :: rest)) : List.lookup key ((k, v) :: rest) = none := by
  refine lookup_eq_none_of_forall_lt fun e he => ?_
  rcases List.mem_cons.1 he with rfl | he
  · exact h
  · exact String.lt_trans h ((List.pairwise_cons.1 hasc).1 e he)

/-- Entries in key order are determined by what `List.lookup` finds under each key. -/
theorem eq_of_lookup_eq {entries others : List (String × α)} (h : Ascending entries)
    (h' : Ascending others) (heq : ∀ key, entries.lookup key = others.lookup key) :
    entries = others := by
  -- By induction on one list; what is found under its first key tells the first entry of the other.
  induction entries generalizing others with
  | nil =>
    cases others with
    | nil => rfl
    | cons head rest =>
      obtain ⟨l, w⟩ := head
      simpa using heq l
  | cons head rest ih =>
    obtain ⟨k, v⟩ := head
    cases others with
    | nil => simpa [lookup_cons] using heq k
    | cons head' rest' =>
      obtain ⟨l, w⟩ := head'
      obtain ⟨hhead, hrest⟩ := List.pairwise_cons.1 h
      obtain ⟨hhead', hrest'⟩ := List.pairwise_cons.1 h'
      -- The smaller of the first keys would be found on its own side only.
      have hnlt : ¬ k < l := fun hlt => by
        have hk := heq k
        rw [lookup_eq_none_of_lt hlt h'] at hk
        simp at hk
      have hngt : ¬ l < k := fun hlt => by
        have hl := heq l
        rw [lookup_eq_none_of_lt hlt h] at hl
        simp at hl
      obtain rfl : k = l := String.le_antisymm (String.not_lt.1 hngt) (String.not_lt.1 hnlt)
      have hv : v = w := by simpa [lookup_cons] using heq k
      have htail : rest = rest' := by
        refine ih hrest hrest' fun key => ?_
        by_cases hkey : key = k
        · subst hkey
          rw [lookup_eq_none_of_forall_lt hhead, lookup_eq_none_of_forall_lt hhead']
        · simpa [lookup_cons, hkey] using heq key
      rw [hv, htail]

end Entries

/-- A finite map from names to values, kept in increasing order of the names, so `get?` tells all of
it. -/
structure Dict (α : Type) where
  /-- The entries in key order. -/
  entries : List (String × α)
  /-- No key is repeated, and each stands before the greater ones. -/
  ascending : Entries.Ascending entries
deriving DecidableEq

namespace Dict

variable {α β : Type}

/-- The dictionary without entries, under whose keys `get?` finds nothing. -/
def empty : Dict α := ⟨[], List.Pairwise.nil⟩

/-- Puts `value` under `key`; an earlier value of that key is gone. -/
def insert (d : Dict α) (key : String) (value : α) : Dict α :=
  ⟨Entries.insert key value d.entries, Entries.ascending_insert key value d.ascending⟩

/-- The pairs put in one after the other with `insert`. -/
def ofList (pairs : List (String × α)) : Dict α :=
  ⟨Entries.sort pairs, Entries.ascending_sort pairs⟩

/-- The value under `key`, as `List.lookup` finds it. -/
def get? (d : Dict α) (key : String) : Option α :=
  d.entries.lookup key

/-- Whether there is no entry at all. -/
def isEmpty (d : Dict α) : Bool :=
  d.entries.isEmpty

/-- The keys in increasing order. -/
def keys (d : Dict α) : List String :=
  d.entries.map Prod.fst

/-- `get?` finds the new value under its key, and else what it found before. -/
theorem get?_insert (d : Dict α) (key k : String) (value : α) :
    (d.insert key value).get? k = if k = key then some value else d.get? k :=
  Entries.lookup_insert key k value d.entries

/-- Dictionaries in which `get?` finds the same under every key are equal. -/
theorem ext_get? {d e : Dict α} (h : ∀ key, d.get? key = e.get? key) : d = e := by
  cases d with
  | mk entries ascending =>
    cases e with
    | mk others ascending' =>
      obtain rfl := Entries.eq_of_lookup_eq ascending ascending' h
      rfl

/-- Of two values that `insert` puts under one key the later one stays. -/
theorem insert_insert (d : Dict α) (key : String) (value value' : α) :
    (d.insert key value).insert key value' = d.insert key value' := by
  refine ext_get? fun k => ?_
  by_cases h : k = key <;> simp [get?_insert, h]

/-- Values under different keys may be put in by `insert` in either order. -/
theorem insert_comm (d : Dict α) {key key' : String} (value value' : α) (hne : key ≠ key') :
    (d.insert key value).insert key' value' = (d.insert key' value').insert key value := by
  refine ext_get? fun k => ?_
  -- Under each of the keys there is one value, whichever was put in first.
  by_cases h : k = key
  · subst h
    simp [get?_insert, hne]
  · simp [get?_insert, h]

/-- `ofList` makes of the entries of a dictionary the dictionary. -/
theorem ofList_entries (d : Dict α) : ofList d.entries = d := by
  cases d with
  | mk entries ascending => simp [ofList, Entries.sort_of_ascending ascending]

end Dict

end HttpStub
