import HttpStub.Journal.Codec
import Mathlib.Data.List.Nodup

/-!
# Putting fields into a record

The members of an object are put into a record one after the other. What comes out in the end does
not depend on their order: a record comes out exactly if every key is readable, no field is met
twice, and each field holds what the member of its name holds, or what it held before if there is no
such member. Where the members come from does not matter here; `key?` and `value?` tell what they
are.
-/

namespace HttpStub

namespace Field

variable {σ μ : Type}

/-- Fields are told apart by their names, putting one of them leaves the others as they are, and all
of them together are the whole record. -/
structure Lawful (fields : List (Field σ)) : Prop where
  names : (fields.map Field.name).Nodup
  get_set : ∀ f ∈ fields, ∀ s a, f.get (f.set s a) = a
  get_set_ne : ∀ f ∈ fields, ∀ g ∈ fields, g.name ≠ f.name → ∀ s a, g.get (f.set s a) = g.get s
  ext : ∀ s t, (∀ f ∈ fields, f.get s = f.get t) → s = t

namespace Lawful

variable {fields : List (Field σ)} {f g : Field σ}

/-- A field is known by its name among fields that are `Lawful`. -/
theorem eq_of_name (h : Lawful fields) (hf : f ∈ fields) (hg : g ∈ fields)
    (hname : f.name = g.name) : f = g :=
  List.inj_on_of_nodup_map h.names hf hg hname

/-- `List.find?` by the name of a field of the record finds that field. -/
theorem find?_name (h : Lawful fields) (hf : f ∈ fields) :
    fields.find? (fun g => g.name = f.name) = some f := by
  cases hfind : fields.find? fun g => g.name = f.name with
  | none =>
    have hne := List.find?_eq_none.1 hfind f hf
    exact absurd (decide_eq_true rfl) hne
  | some g =>
    have hname : g.name = f.name := by simpa using List.find?_some hfind
    rw [h.eq_of_name (List.mem_of_find?_eq_some hfind) hf hname]

/-- What was put into a field first is gone when `Field.set` comes again. -/
theorem set_set (h : Lawful fields) (hf : f ∈ fields) (s : σ) (a b : f.α) :
    f.set (f.set s a) b = f.set s b := by
  -- Both records agree on the field itself and on all others.
  refine h.ext _ _ fun g hg => ?_
  by_cases hname : g.name = f.name
  · obtain rfl := h.eq_of_name hg hf hname
    rw [h.get_set g hg, h.get_set g hg]
  · rw [h.get_set_ne f hf g hg hname, h.get_set_ne f hf g hg hname, h.get_set_ne f hf g hg hname]

/-- `Field.set` of two fields may come in either order. -/
theorem set_comm (h : Lawful fields) (hf : f ∈ fields) (hg : g ∈ fields) (hne : g.name ≠ f.name)
    (s : σ) (a : f.α) (b : g.α) : g.set (f.set s a) b = f.set (g.set s b) a := by
  refine h.ext _ _ fun k hk => ?_
  by_cases hkf : k.name = f.name
  · obtain rfl := h.eq_of_name hk hf hkf
    rw [h.get_set_ne g hg k hk hne.symm, h.get_set k hk, h.get_set k hk]
  · by_cases hkg : k.name = g.name
    · obtain rfl := h.eq_of_name hk hg hkg
      rw [h.get_set k hk, h.get_set_ne f hf k hk hne, h.get_set k hk]
    · rw [h.get_set_ne g hg k hk hkg, h.get_set_ne f hf k hk hkf, h.get_set_ne f hf k hk hkf,
        h.get_set_ne g hg k hk hkg]

end Lawful

section Members

variable (fields : List (Field σ)) (key? : μ → Option String)
  (value? : (f : Field σ) → μ → Option f.α)

/-- Puts a member into the field that its key names, if there is one and it has not been met. -/
def put? (state : σ × List String) (m : μ) : Option (σ × List String) :=
  (key? m).bind fun key =>
    match fields.find? fun f => f.name = key with
    | none => some state
    | some f =>
      if key ∈ state.2 then none
      else (value? f m).map fun a => (f.set state.1 a, key :: state.2)

/-- The record that members make of another one. -/
def putAll? (s : σ) (ms : List μ) : Option σ :=
  (ms.foldlM (put? fields key? value?) (s, [])).map Prod.fst

/-- The members whose key is this name. -/
def named (name : String) (ms : List μ) : List μ :=
  ms.filter fun m => key? m = some name

/-- What members of its name make of a field: none of them leaves it as it was in `s`, and more than
one of them is too much. -/
def Holds (s v : σ) (f : Field σ) : List μ → Prop
  | [] => f.get v = f.get s
  | [m] => value? f m = some (f.get v)
  | _ :: _ :: _ => False

variable {fields key? value?} {f : Field σ} {m : μ} {s v : σ} {seen : List String}

/-- A member of the name is the first of those `named` so. -/
theorem named_cons_of_eq {name : String} (h : key? m = some name) (ms : List μ) :
    named key? name (m :: ms) = m :: named key? name ms := by
  simp [named, h]

/-- A member of another name is not among those `named` so. -/
theorem named_cons_of_ne {name : String} (h : key? m ≠ some name) (ms : List μ) :
    named key? name (m :: ms) = named key? name ms := by
  simp [named, h]

/-- The key that names a field names no other one. -/
private theorem key_ne_of_ne {g : Field σ} (hkey : key? m = some f.name) (hname : g.name ≠ f.name) :
    key? m ≠ some g.name :=
  hkey.trans_ne fun h => hname (Option.some.inj h).symm

/-- With a first member, `Holds` asks for no other one and for its value. -/
theorem holds_cons_iff {ms : List μ} :
    Holds value? s v f (m :: ms) ↔ ms = [] ∧ value? f m = some (f.get v) := by
  cases ms <;> simp [Holds]

/-- Only the field itself counts for `Holds`. -/
theorem holds_congr {t w : σ} (hbefore : f.get s = f.get t) (hafter : f.get v = f.get w)
    {ms : List μ} : Holds value? s v f ms ↔ Holds value? t w f ms := by
  match ms with
  | [] => simp [Holds, hbefore, hafter]
  | [m] => simp [Holds, hafter]
  | _ :: _ :: _ => rfl

/-- The order of the members does not count for `Holds`, as there is at most one. -/
theorem Holds.perm {ms ms' : List μ} (h : Holds value? s v f ms) (hperm : ms.Perm ms') :
    Holds value? s v f ms' := by
  -- With two members or more nothing was held.
  match ms with
  | [] => rwa [List.nil_perm.1 hperm]
  | [m] => rwa [← List.singleton_perm.1 hperm]
  | _ :: _ :: _ => exact h.elim

/-- A member that no field is named after is passed over by `put?`. -/
theorem put?_of_unknown {key : String} (hkey : key? m = some key)
    (hne : ∀ f ∈ fields, f.name ≠ key) (state : σ × List String) :
    put? fields key? value? state m = some state := by
  have hfind : fields.find? (fun f => f.name = key) = none := by simpa using hne
  simp [put?, hkey, hfind]

/-- A member of a field's name is put there by `put?`, unless the field has been met. -/
theorem put?_of_known (hlawful : Lawful fields) (hf : f ∈ fields) (hkey : key? m = some f.name)
    (state : σ × List String) :
    put? fields key? value? state m =
      if f.name ∈ state.2 then none
      else (value? f m).map fun a => (f.set state.1 a, f.name :: state.2) := by
  simp [put?, hkey, hlawful.find?_name hf]

/-- Every field holds what is said of it, if it is not met again. -/
private def AllHold (fields : List (Field σ)) (key? : μ → Option String)
    (value? : (f : Field σ) → μ → Option f.α) (s v : σ) (seen : List String) (ms : List μ) : Prop :=
  ∀ f ∈ fields, (f.name ∈ seen → named key? f.name ms = []) ∧
    Holds value? s v f (named key? f.name ms)

/-- A member of another name changes nothing about `AllHold`. -/
private theorem allHold_cons_of_unknown {ms : List μ}
    (hne : ∀ f ∈ fields, key? m ≠ some f.name) :
    AllHold fields key? value? s v seen (m :: ms) ↔ AllHold fields key? value? s v seen ms := by
  refine forall₂_congr fun f hf => ?_
  rw [named_cons_of_ne (hne f hf)]

/-- A field that is met is put into the record, and counts as met from then on. -/
private theorem allHold_cons_of_known (hlawful : Lawful fields) (hf : f ∈ fields)
    (hkey : key? m = some f.name) (hseen : f.name ∉ seen) {a : f.α} (ha : value? f m = some a)
    {ms : List μ} :
    AllHold fields key? value? s v seen (m :: ms) ↔
      AllHold fields key? value? (f.set s a) v (f.name :: seen) ms := by
  refine forall₂_congr fun g hg => ?_
  -- The field itself now holds the value, so no other member may name it; all other fields are left
  -- alone.
  by_cases hname : g.name = f.name
  · obtain rfl := hlawful.eq_of_name hg hf hname
    rw [named_cons_of_eq hkey, holds_cons_iff, ha, Option.some.injEq]
    constructor
    · rintro ⟨-, hms, hget⟩
      simp [hms, Holds, hlawful.get_set g hg, hget]
    · rintro ⟨hms, hholds⟩
      have hnil := hms List.mem_cons_self
      rw [hnil, Holds, hlawful.get_set g hg] at hholds
      exact ⟨fun h => absurd h hseen, hnil, hholds.symm⟩
  · rw [named_cons_of_ne (key_ne_of_ne hkey hname),
      holds_congr (hlawful.get_set_ne f hf g hg hname s a) rfl]
    simp [hname]

/-- What a run of `put?` makes of a record: a record comes out exactly if every key is readable and
every field holds what is said of it. -/
private theorem foldlM_put?_eq_some_iff (hlawful : Lawful fields) (ms : List μ) :
    (ms.foldlM (put? fields key? value?) (s, seen)).map Prod.fst = some v ↔
      (∀ m ∈ ms, (key? m).isSome) ∧ AllHold fields key? value? s v seen ms := by
  -- Induction on the members. The names that have been met are part of the state, since they decide
  -- whether a member is refused.
  induction ms generalizing s seen with
  | nil =>
    simp only [List.foldlM_nil, Option.pure_def, Option.map_some, Option.some.injEq,
      List.not_mem_nil, false_implies, implies_true, true_and, AllHold, named, List.filter_nil,
      Holds]
    exact ⟨fun h f _ => h ▸ rfl, fun h => hlawful.ext _ _ fun f hf => (h f hf).symm⟩
  | cons m ms ih =>
    rw [List.foldlM_cons, List.forall_mem_cons]
    cases hkey : key? m with
    | none => simp [put?, hkey]
    | some key =>
      by_cases hknown : ∃ f ∈ fields, f.name = key
      · obtain ⟨f, hf, rfl⟩ := hknown
        rw [put?_of_known hlawful hf hkey]
        -- The member is refused if the field has been met, or if it has no value for it.
        by_cases hseen : f.name ∈ seen
        · rw [if_pos hseen]
          simp only [Option.bind_eq_bind, Option.bind_none, Option.map_none, reduceCtorEq,
            false_iff]
          rintro ⟨-, hall⟩
          have hnil := (hall f hf).1 hseen
          rw [named_cons_of_eq hkey] at hnil
          cases hnil
        · rw [if_neg hseen]
          cases hvalue : value? f m with
          | none =>
            simp only [Option.map_none, Option.bind_eq_bind, Option.bind_none, reduceCtorEq,
              false_iff]
            rintro ⟨-, hall⟩
            have hholds := (hall f hf).2
            rw [named_cons_of_eq hkey, holds_cons_iff, hvalue] at hholds
            cases hholds.2
          | some a =>
            simp only [Option.map_some, Option.bind_eq_bind, Option.bind_some, Option.isSome_some,
              true_and]
            rw [ih, allHold_cons_of_known hlawful hf hkey hseen hvalue]
      · -- No field is named after the key, so the member is passed over.
        simp only [not_exists, not_and] at hknown
        have hne : ∀ f ∈ fields, key? m ≠ some f.name := fun f hf =>
          hkey.trans_ne fun h => hknown f hf (Option.some.inj h).symm
        rw [put?_of_unknown hkey hknown, allHold_cons_of_unknown hne]
        simp [ih]

/-- The record that `putAll?` makes of another one has in each field what the member of its name
holds, and else what was there. -/
theorem putAll?_eq_some_iff (hlawful : Lawful fields) (ms : List μ) :
    putAll? fields key? value? s ms = some v ↔
      (∀ m ∈ ms, (key? m).isSome) ∧
        ∀ f ∈ fields, Holds value? s v f (named key? f.name ms) := by
  rw [putAll?, foldlM_put?_eq_some_iff hlawful]
  simp [AllHold]

/-! ## Changes of the members -/

/-- The members may come in any order for `putAll?`. -/
theorem putAll?_perm (hlawful : Lawful fields) {ms ms' : List μ} (hperm : ms.Perm ms')
    (h : putAll? fields key? value? s ms = some v) :
    putAll? fields key? value? s ms' = some v := by
  rw [putAll?_eq_some_iff hlawful] at h ⊢
  exact ⟨fun m hm => h.1 m (hperm.mem_iff.2 hm), fun f hf => (h.2 f hf).perm (hperm.filter _)⟩

/-- A member that no field is named after does not count for `putAll?`. -/
theorem putAll?_insert {key : String} (hkey : key? m = some key)
    (hne : ∀ f ∈ fields, f.name ≠ key) (front back : List μ) :
    putAll? fields key? value? s (front ++ m :: back) =
      putAll? fields key? value? s (front ++ back) := by
  simp [putAll?, List.foldlM_append, put?_of_unknown hkey hne]

/-- `putAll?` without the member of a field leaves the field as it was before. -/
theorem putAll?_erase (hlawful : Lawful fields) (hf : f ∈ fields) (hkey : key? m = some f.name)
    {front back : List μ} (h : putAll? fields key? value? s (front ++ m :: back) = some v) :
    putAll? fields key? value? s (front ++ back) = some (f.set v (f.get s)) := by
  -- The order does not matter, so the member may stand in front of the others.
  have hfirst := putAll?_perm hlawful List.perm_middle h
  rw [putAll?_eq_some_iff hlawful, List.forall_mem_cons] at hfirst
  obtain ⟨⟨-, hkeys⟩, hholds⟩ := hfirst
  refine (putAll?_eq_some_iff hlawful _).2 ⟨hkeys, fun g hg => ?_⟩
  have hg' := hholds g hg
  -- The field itself has no member any more, and the members of other fields are as before.
  by_cases hname : g.name = f.name
  · obtain rfl := hlawful.eq_of_name hg hf hname
    rw [named_cons_of_eq hkey, holds_cons_iff] at hg'
    rw [hg'.1, Holds, hlawful.get_set g hg]
  · rw [named_cons_of_ne (key_ne_of_ne hkey hname)] at hg'
    rwa [holds_congr rfl (hlawful.get_set_ne f hf g hg hname v _)]

/-- `putAll?` with another member in the place of its own gives a field what that one holds. -/
theorem putAll?_replace (hlawful : Lawful fields) (hf : f ∈ fields) {m' : μ}
    (hkey : key? m = some f.name) (hkey' : key? m' = some f.name) {change : f.α → f.α}
    (hvalue : ∀ a, value? f m = some a → value? f m' = some (change a))
    {front back : List μ} (h : putAll? fields key? value? s (front ++ m :: back) = some v) :
    putAll? fields key? value? s (front ++ m' :: back) = some (f.set v (change (f.get v))) := by
  -- As above, the member is brought to the front, and back to its place at the end.
  have hfirst := putAll?_perm hlawful List.perm_middle h
  rw [putAll?_eq_some_iff hlawful, List.forall_mem_cons] at hfirst
  obtain ⟨⟨-, hkeys⟩, hholds⟩ := hfirst
  refine putAll?_perm hlawful List.perm_middle.symm ?_
  rw [putAll?_eq_some_iff hlawful, List.forall_mem_cons]
  refine ⟨⟨by simp [hkey'], hkeys⟩, fun g hg => ?_⟩
  have hg' := hholds g hg
  by_cases hname : g.name = f.name
  · obtain rfl := hlawful.eq_of_name hg hf hname
    rw [named_cons_of_eq hkey, holds_cons_iff] at hg'
    rw [named_cons_of_eq hkey', holds_cons_iff, hlawful.get_set g hg]
    exact ⟨hg'.1, hvalue _ hg'.2⟩
  · rw [named_cons_of_ne (key_ne_of_ne hkey hname)] at hg'
    rwa [named_cons_of_ne (key_ne_of_ne hkey' hname),
      holds_congr rfl (hlawful.get_set_ne f hf g hg hname v _)]

/-- Of the fields only one has its name. -/
private theorem filter_name (hnames : (fields.map Field.name).Nodup) (hf : f ∈ fields) :
    fields.filter (fun g => g.name = f.name) = [f] := by
  -- Induction on the fields; behind the one of the name no other has it.
  induction fields with
  | nil => cases hf
  | cons g gs ih =>
    rw [List.map_cons, List.nodup_cons] at hnames
    rcases List.mem_cons.1 hf with rfl | hf
    · have hrest : gs.filter (fun g => g.name = f.name) = [] := by
        refine List.filter_eq_nil_iff.2 fun k hk hname => hnames.1 ?_
        exact List.mem_map.2 ⟨k, hk, by simpa using hname⟩
      simp [hrest]
    · have hne : g.name ≠ f.name := fun h => hnames.1 (List.mem_map.2 ⟨f, hf, h.symm⟩)
      simp [hne, ih hnames.2 hf]

/-- `putAll?` of one member for each field, in any order, makes the record whose fields the members
hold. -/
theorem putAll?_members (hlawful : Lawful fields) {member : Field σ → μ} {ms : List μ}
    (hperm : (fields.map member).Perm ms) (hkey : ∀ f ∈ fields, key? (member f) = some f.name)
    (hvalue : ∀ f ∈ fields, value? f (member f) = some (f.get v)) :
    putAll? fields key? value? s ms = some v := by
  refine putAll?_perm hlawful hperm ((putAll?_eq_some_iff hlawful _).2 ⟨?_, fun f hf => ?_⟩)
  · simp only [List.forall_mem_map]
    exact fun f hf => by simp [hkey f hf]
  · have hnamed : named key? f.name (fields.map member) = [member f] := by
      rw [named, List.filter_map]
      have hcongr : fields.filter ((fun m => decide (key? m = some f.name)) ∘ member) =
          fields.filter fun g => g.name = f.name :=
        List.filter_congr fun g hg => by simp [hkey g hg]
      rw [hcongr, filter_name hlawful.names hf]
      rfl
    rw [hnamed]
    exact hvalue f hf

end Members

/-! ## Fields in their order -/

section Items

/-- Puts items into the fields in their order; there may be less items than fields. -/
def putInOrder? (value? : (f : Field σ) → μ → Option f.α) : List (Field σ) → σ → List μ → Option σ
  | _, s, [] => some s
  | [], _, _ :: _ => none
  | f :: fs, s, p :: ps => (value? f p).bind fun a => putInOrder? value? fs (f.set s a) ps

variable {fields fs : List (Field σ)} {value? : (f : Field σ) → μ → Option f.α} {f : Field σ}
  {s v : σ}

/-- A field that is not among those `putInOrder?` has to come to stays as it is. -/
private theorem get_putInOrder? (hlawful : Lawful fields) (hf : f ∈ fields)
    (hfs : ∀ g ∈ fs, g ∈ fields ∧ g.name ≠ f.name) {ps : List μ}
    (h : putInOrder? value? fs s ps = some v) : f.get v = f.get s := by
  -- Induction on the fields to come, each of which leaves this one alone.
  induction fs generalizing s ps with
  | nil => cases ps <;> simp_all [putInOrder?]
  | cons g gs ih =>
    cases ps with
    | nil => simp_all [putInOrder?]
    | cons p ps =>
      obtain ⟨a, -, hrest⟩ := Option.bind_eq_some_iff.1 h
      obtain ⟨hg, hne⟩ := hfs g List.mem_cons_self
      rw [ih (fun k hk => hfs k (List.mem_cons_of_mem _ hk)) hrest,
        hlawful.get_set_ne g hg f hf hne.symm]

/-- Such a field may as well be put after `putInOrder?`. -/
private theorem putInOrder?_set (hlawful : Lawful fields) (hf : f ∈ fields)
    (hfs : ∀ g ∈ fs, g ∈ fields ∧ g.name ≠ f.name) (ps : List μ) (b : f.α) :
    putInOrder? value? fs (f.set s b) ps = (putInOrder? value? fs s ps).map (f.set · b) := by
  -- Induction on the fields to come, which can each be exchanged with this one.
  induction fs generalizing s ps with
  | nil => cases ps <;> simp [putInOrder?]
  | cons g gs ih =>
    cases ps with
    | nil => simp [putInOrder?]
    | cons p ps =>
      obtain ⟨hg, hne⟩ := hfs g List.mem_cons_self
      simp only [putInOrder?, hlawful.set_comm hf hg hne,
        ih (fun k hk => hfs k (List.mem_cons_of_mem _ hk)), Option.map_bind, Function.comp_def]

/-- `putInOrder?` with another item in the place of its own gives a field what that one holds. -/
theorem putInOrder?_replace (hlawful : Lawful fields) (hfs : ∀ g ∈ fs, g ∈ fields)
    (hnames : (fs.map Field.name).Nodup) {front back : List μ} {p p' : μ}
    (hf : fs[front.length]? = some f) {change : f.α → f.α}
    (hvalue : ∀ a, value? f p = some a → value? f p' = some (change a))
    (h : putInOrder? value? fs s (front ++ p :: back) = some v) :
    putInOrder? value? fs s (front ++ p' :: back) = some (f.set v (change (f.get v))) := by
  -- Induction on the items in front of the one that is replaced, along with their fields.
  induction front generalizing fs s with
  | nil =>
    cases fs with
    | nil => cases h
    | cons g gs =>
      obtain rfl : g = f := by simpa using hf
      obtain ⟨a, ha, hrest⟩ := Option.bind_eq_some_iff.1 h
      have hg : g ∈ fields := hfs g List.mem_cons_self
      rw [List.map_cons, List.nodup_cons] at hnames
      have hgs : ∀ k ∈ gs, k ∈ fields ∧ k.name ≠ g.name := fun k hk =>
        ⟨hfs k (List.mem_cons_of_mem _ hk), fun h => hnames.1 (List.mem_map.2 ⟨k, hk, h⟩)⟩
      -- The items behind leave the field alone, so it holds what its own item holds.
      have hget : g.get v = a := by
        rw [get_putInOrder? hlawful hg hgs hrest, hlawful.get_set g hg]
      rw [List.nil_append, putInOrder?, hvalue a ha, Option.bind_some, hget,
        ← hlawful.set_set hg s a, putInOrder?_set hlawful hg hgs, hrest]
      rfl
  | cons q front ih =>
    cases fs with
    | nil => cases h
    | cons g gs =>
      obtain ⟨a, ha, hrest⟩ := Option.bind_eq_some_iff.1 h
      rw [List.map_cons, List.nodup_cons] at hnames
      rw [List.cons_append, putInOrder?, ha, Option.bind_some]
      exact ih (fun k hk => hfs k (List.mem_cons_of_mem _ hk)) hnames.2 (by simpa using hf) hrest

end Items

end Field

end HttpStub
