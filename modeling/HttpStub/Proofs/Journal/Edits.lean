import HttpStub.Proofs.Journal.RoundTrip

/-!
# Records of other versions

A server of another version may list the members of a record in another order, leave some out, and
add others of which nothing is known here. Such edits of a text, at records of any depth and any
number of them, never make it unreadable, and what they make of the value that is read is told by
the edits alone.
-/

namespace HttpStub

open Json

variable {α σ : Type}

/-- A part of the journal that holds records: a record of some `RecordType`, or a list or dictionary
of such parts. -/
inductive Part : Type → Type 1 where
  | record {σ : Type} (type : RecordType σ) : Part σ
  | list {α : Type} (item : Part α) : Part (List α)
  | dict {α : Type} (value : Part α) : Part (Dict α)

namespace Part

/-- The codec of the part. -/
def codec {α : Type} : Part α → Codec α
  | .record type => type.codec
  | .list item => .list item.codec
  | .dict value => .dict value.codec

/-- A part of the journal is read as a whole. -/
theorem isLocal_codec (p : Part α) : p.codec.IsLocal := by
  induction p with
  | record type => exact (type.lawful_codec 0).isLocal
  | list item ih => exact Codec.isLocal_list ih
  | dict value ih => exact Codec.isLocal_dict ih

end Part

/-- The dictionary with another value under a key, if there is one. -/
def Dict.modify (d : Dict α) (key : String) (change : α → α) : Dict α :=
  match d.get? key with
  | some a => d.insert key (change a)
  | none => d

/-- The value that has just been inserted is the one that `Dict.modify` changes. -/
theorem Dict.modify_insert (d : Dict α) (key : String) (change : α → α) (a : α) :
    (d.insert key a).modify key change = d.insert key (change a) := by
  simp [modify, get?_insert, insert_insert]

/-! ## Edits -/

/-- One edit of a source, and what it makes of the value that is read. It is made at a record, or
within the value of a field, an item of a list or an entry of a dictionary. -/
inductive Edit : {α : Type} → Part α → Source → Source → (α → α) → Prop where
  /-- The members of a record come in another order. -/
  | reorder {σ : Type} (r : RecordType σ) {members members' : List Source.Member} (last : Spaces)
      (order : members.Perm members') :
      Edit (.record r) (.object members last) (.object members' last) id
  /-- A member is added whose key is the name of no field. -/
  | insert {σ : Type} (r : RecordType σ) (front back : List Source.Member) (last : Spaces)
      {m : Source.Member} {key : String} (means : m.name? = some key)
      (unknown : ∀ field ∈ r.fields, field.name ≠ key) :
      Edit (.record r) (.object (front ++ back) last) (.object (front ++ m :: back) last) id
  /-- The member of a field is left out. -/
  | delete {σ : Type} (r : RecordType σ) (front back : List Source.Member) (last : Spaces)
      {m : Source.Member} {field : Field σ} (known : field ∈ r.fields)
      (means : m.name? = some field.name) :
      Edit (.record r) (.object (front ++ m :: back) last) (.object (front ++ back) last)
        fun v => field.set v (field.get r.blank)
  /-- The value of a field is edited. -/
  | inField {σ α : Type} (r : RecordType σ) (p : Part α) (front back : List Source.Member)
      (last : Spaces) {m : Source.Member} {name : String} {get : σ → α} {set : σ → α → σ}
      (known : .of name p.codec get set ∈ r.fields) (means : m.name? = some name)
      {s : Source} {change : α → α} (edit : Edit p m.value.body s change) :
      Edit (.record r) (.object (front ++ m :: back) last)
        (.object (front ++ m.withValue s :: back) last) fun v => set v (change (get v))
  /-- The value of a field is edited, in a record that is written as an array. -/
  | inPosition {σ α : Type} (r : RecordType σ) (p : Part α) (front back : List (Padded Source))
      (last : Spaces) {item : Padded Source} {name : String} {get : σ → α} {set : σ → α → σ}
      (known : r.fields[front.length]? = some (.of name p.codec get set))
      {s : Source} {change : α → α} (edit : Edit p item.body s change) :
      Edit (.record r) (.array (front ++ item :: back) last)
        (.array (front ++ item.withBody s :: back) last) fun v => set v (change (get v))
  /-- An item of a list is edited. -/
  | inItem {α : Type} (p : Part α) (front back : List (Padded Source)) (last : Spaces)
      {item : Padded Source} {s : Source} {change : α → α} (edit : Edit p item.body s change) :
      Edit (.list p) (.array (front ++ item :: back) last)
        (.array (front ++ item.withBody s :: back) last)
        fun as => as.modify front.length change
  /-- An entry of a dictionary is edited. -/
  | inEntry {α : Type} (p : Part α) (front back : List Source.Member) (last : Spaces)
      {m : Source.Member} {key : String} (means : m.name? = some key)
      (isLast : ∀ n ∈ back, n.name? ≠ some key) {s : Source} {change : α → α}
      (edit : Edit p m.value.body s change) :
      Edit (.dict p) (.object (front ++ m :: back) last)
        (.object (front ++ m.withValue s :: back) last) fun d => d.modify key change
  /-- An entry of a dictionary is edited that is replaced by a later one. -/
  | inReplacedEntry {α : Type} (p : Part α) (front back : List Source.Member) (last : Spaces)
      {m n : Source.Member} (later : n ∈ back) (same : n.name? = m.name?)
      {s : Source} {change : α → α} (edit : Edit p m.value.body s change) :
      Edit (.dict p) (.object (front ++ m :: back) last)
        (.object (front ++ m.withValue s :: back) last) id

/-- Any number of edits, one after the other. -/
inductive Edits {α : Type} (p : Part α) : Source → Source → (α → α) → Prop where
  | none (s : Source) : Edits p s s id
  | more {s t u : Source} {f g : α → α} (edits : Edits p s t f) (edit : Edit p t u g) :
      Edits p s u (g ∘ f)

/-! ## What is read after an edit -/

/-- What the codec of a record makes of a source is `Codec.record?`. -/
theorem RecordType.on_eq_record? (r : RecordType σ) (depth : Nat) (s : Source) :
    (r.codec.read depth).on s = Codec.record? r.blank r.fields depth s := by
  obtain ⟨name, hcodec⟩ := r.codec_eq_record
  rw [hcodec]
  exact (Codec.takes_readRecord (fun f hf => (r.lawful_field 0 f hf).isLocal) name r.blank depth
    s).on_eq

/-- An item that is read as something else makes the list another one in its place, by
`List.modify`. -/
private theorem mapM_modify {β : Type} {f : β → Option α} {item item' : β} {change : α → α}
    (hitem : ∀ a, f item = some a → f item' = some (change a)) (front back : List β) {as : List α}
    (h : (front ++ item :: back).mapM f = some as) :
    (front ++ item' :: back).mapM f = some (as.modify front.length change) := by
  -- Induction on the items in front, which are read as before.
  induction front generalizing as with
  | nil =>
    simp only [List.nil_append, List.mapM_cons, Option.bind_eq_bind, Option.bind_eq_some_iff,
      Option.pure_def, Option.some.injEq] at h
    obtain ⟨a, ha, as, has, rfl⟩ := h
    simp [hitem a ha, has]
  | cons q front ih =>
    simp only [List.cons_append, List.mapM_cons, Option.bind_eq_bind, Option.bind_eq_some_iff,
      Option.pure_def, Option.some.injEq] at h
    obtain ⟨a, ha, as, has, rfl⟩ := h
    simp [ha, ih has]

section Entries

variable {value : Source → Option α} {key : String}

/-- An entry may as well be put in last by `Codec.insert?`, if no other one has its key. -/
private theorem foldlM_insert?_insert {members : List Source.Member}
    (h : ∀ m ∈ members, m.name? ≠ some key) (d : Dict α) (a : α) :
    members.foldlM (Codec.insert? value) (d.insert key a) =
      (members.foldlM (Codec.insert? value) d).map fun d => d.insert key a := by
  -- Induction on the members. An entry under another key can be exchanged with the one that is put
  -- in.
  induction members generalizing d with
  | nil => rfl
  | cons m members ih =>
    obtain ⟨hm, hmembers⟩ := List.forall_mem_cons.1 h
    simp only [List.foldlM_cons, Codec.insert?]
    cases hname : m.name? with
    | none => rfl
    | some k =>
      have hne : key ≠ k := fun h => hm (h ▸ hname)
      cases value m.value.body with
      | none => rfl
      | some b => simp [Dict.insert_comm _ _ _ hne, ih hmembers]

/-- An entry does not count for `Codec.insert?` if another one with its key comes later. -/
private theorem foldlM_insert?_of_later {members : List Source.Member} {n : Source.Member}
    (hn : n ∈ members) (hname : n.name? = some key) (d : Dict α) (a : α) :
    members.foldlM (Codec.insert? value) (d.insert key a) =
      members.foldlM (Codec.insert? value) d := by
  induction members generalizing d with
  | nil => cases hn
  | cons m members ih =>
    simp only [List.foldlM_cons, Codec.insert?]
    cases hm : m.name? with
    | none => rfl
    | some k =>
      cases value m.value.body with
      | none => rfl
      | some b =>
        -- Under the key itself the earlier entry is gone; under another key the two can be
        -- exchanged.
        by_cases hk : key = k
        · subst hk
          simp [Dict.insert_insert]
        · have hlater : n ∈ members := by
            rcases List.mem_cons.1 hn with rfl | hn
            · exact absurd (Option.some.inj (hname.symm.trans hm)) hk
            · exact hn
          simp [Dict.insert_comm _ _ _ hk, ih hlater]

variable {m : Source.Member} {s : Source} {change : α → α} {front back : List Source.Member}
  {d : Dict α}

/-- The entry of a key is the last member with this key, so an edit of this member is a
`Dict.modify`. -/
private theorem foldlM_insert?_modify (hname : m.name? = some key)
    (hlast : ∀ n ∈ back, n.name? ≠ some key)
    (hvalue : ∀ a, value m.value.body = some a → value s = some (change a)) {start : Dict α}
    (h : (front ++ m :: back).foldlM (Codec.insert? value) start = some d) :
    (front ++ m.withValue s :: back).foldlM (Codec.insert? value) start =
      some (d.modify key change) := by
  simp only [List.foldlM_append, List.foldlM_cons, Option.bind_eq_bind, Option.bind_eq_some_iff]
    at h ⊢
  -- The run is taken apart at the member: what is read before it, its own entry, and what comes
  -- behind.
  obtain ⟨e, he, e', hput, hback⟩ := h
  simp only [Codec.insert?, hname, Option.bind_some, Option.map_eq_some_iff] at hput
  obtain ⟨a, ha, rfl⟩ := hput
  rw [foldlM_insert?_insert hlast] at hback
  obtain ⟨f, hf, rfl⟩ := Option.map_eq_some_iff.1 hback
  refine ⟨e, he, e.insert key (change a), ?_, ?_⟩
  · simp [Codec.insert?, hname, hvalue a ha]
  · rw [foldlM_insert?_insert hlast, hf, Option.map_some, Dict.modify_insert]

/-- What a replaced entry holds does not count for `insert?`, as a later one has its name. -/
private theorem foldlM_insert?_replaced {n : Source.Member} (hn : n ∈ back)
    (hsame : n.name? = m.name?)
    (hvalue : ∀ a, value m.value.body = some a → value s = some (change a)) {start : Dict α}
    (h : (front ++ m :: back).foldlM (Codec.insert? value) start = some d) :
    (front ++ m.withValue s :: back).foldlM (Codec.insert? value) start = some d := by
  simp only [List.foldlM_append, List.foldlM_cons, Option.bind_eq_bind, Option.bind_eq_some_iff]
    at h ⊢
  obtain ⟨e, he, e', hput, hback⟩ := h
  obtain ⟨key, hname, hput⟩ := Option.bind_eq_some_iff.1 hput
  obtain ⟨a, ha, rfl⟩ := Option.map_eq_some_iff.1 hput
  have hlater := hsame.trans hname
  rw [foldlM_insert?_of_later hn hlater] at hback
  refine ⟨e, he, e.insert key (change a), ?_, ?_⟩
  · simp [Codec.insert?, hname, hvalue a ha]
  · rw [foldlM_insert?_of_later hn hlater, hback]

end Entries

/-- What is read after an `Edit` is what the edit makes of the value that was read before. -/
theorem Edit.on_eq_some {p : Part α} {s t : Source} {change : α → α} (edit : Edit p s t change)
    {depth : Nat} {a : α} (h : (p.codec.read depth).on s = some a) :
    (p.codec.read depth).on t = some (change a) := by
  -- A value was read, so a bracket may be opened; within it the limit is one less.
  induction edit generalizing depth with
  | reorder r last order =>
    simp only [Part.codec, RecordType.on_eq_record?] at h ⊢
    cases depth with
    | zero => cases h
    | succ depth => exact Field.putAll?_perm r.lawful_fields order h
  | insert r front back last means unknown =>
    simp only [Part.codec, RecordType.on_eq_record?] at h ⊢
    cases depth with
    | zero => cases h
    | succ depth => exact (Field.putAll?_insert means unknown front back).trans h
  | delete r front back last known means =>
    simp only [Part.codec, RecordType.on_eq_record?] at h ⊢
    cases depth with
    | zero => cases h
    | succ depth => exact Field.putAll?_erase r.lawful_fields known means h
  | inField r p front back last known means edit ih =>
    simp only [Part.codec, RecordType.on_eq_record?] at h ⊢
    cases depth with
    | zero => cases h
    | succ depth =>
      refine Field.putAll?_replace r.lawful_fields known means ?_ (fun _ => ih) h
      exact means
  | inPosition r p front back last known edit ih =>
    simp only [Part.codec, RecordType.on_eq_record?] at h ⊢
    cases depth with
    | zero => cases h
    | succ depth =>
      exact Field.putInOrder?_replace r.lawful_fields (fun _ hg => hg) r.lawful_fields.names known
        (fun _ => ih) h
  | inItem p front back last edit ih =>
    simp only [Part.codec, p.isLocal_codec.list_on] at h ⊢
    cases depth with
    | zero => cases h
    | succ depth =>
      exact mapM_modify (f := fun q : Padded Source => (p.codec.read depth).on q.body)
        (fun _ => ih) front back h
  | inEntry p front back last means isLast edit ih =>
    simp only [Part.codec, p.isLocal_codec.dict_on] at h ⊢
    cases depth with
    | zero => cases h
    | succ depth => exact foldlM_insert?_modify means isLast (fun _ => ih) h
  | inReplacedEntry p front back last later same edit ih =>
    simp only [Part.codec, p.isLocal_codec.dict_on] at h ⊢
    cases depth with
    | zero => cases h
    | succ depth => exact foldlM_insert?_replaced later same (fun _ => ih) h

/-- What is read after any number of `Edits` is what they make of the value one after the other. -/
theorem Edits.on_eq_some {p : Part α} {s t : Source} {change : α → α} (edits : Edits p s t change)
    {depth : Nat} {a : α} (h : (p.codec.read depth).on s = some a) :
    (p.codec.read depth).on t = some (change a) := by
  induction edits with
  | none => exact h
  | more edits edit ih => exact edit.on_eq_some ih

/-- A text that is read as a record is one of the grammar. It is still read after any number of
edits, whatever spaces stand around it, and what comes out is what the edits make of the record. -/
theorem RecordType.decode_of_edits (r : RecordType σ) {text : String} {v : σ}
    (h : r.codec.decode text = .ok v) :
    (∃ before : Padded Source, before.text = text) ∧
    ∀ (before after : Padded Source) (change : σ → σ), before.text = text →
      Edits (.record r) before.body after.body change →
      r.codec.decode after.text = .ok (change v) := by
  have hlawful := r.lawful_codec 0
  refine ⟨hlawful.exists_source h, ?_⟩
  rintro before after change rfl edits
  have hlocal := hlawful.isLocal maxDepth
  rw [← toOption_eq_some_iff] at h ⊢
  exact (hlocal.toOption_run after).trans
    (edits.on_eq_some ((hlocal.toOption_run before).symm.trans h))

/-- Without its total, the size inside a listing is blank. The rest of the listing is as before. -/
theorem RecordType.decode_of_edits_missing_total :
    JournalListing.codec.decode
        "\x7b\"requests\":[],\"meta\":\x7b\"total\":5\x7d,\"requestJournalDisabled\":true\x7d" =
      .ok ⟨[], ⟨5⟩, true⟩ ∧
    JournalListing.codec.decode
        "\x7b\"requests\":[],\"meta\":\x7b\x7d,\"requestJournalDisabled\":true\x7d" =
      .ok ⟨[], ⟨0⟩, true⟩ := by
  have hlawful := RecordType.listing.lawful_codec 0
  have h := hlawful.decode_text (by decide) ⟨[], ⟨5⟩, true⟩
  have hbefore := Source.text_ofJson (hlawful.isWhole ⟨[], ⟨5⟩, true⟩)
  have edit : Edit (.record .listing)
      (.ofJson (RecordType.listing.codec.write ⟨[], ⟨5⟩, true⟩))
      (.ofJson (.object [("requests", .array []), ("meta", .object []),
        ("requestJournalDisabled", .bool true)])) _ :=
    .inField .listing (.record .size) [_] [_] .empty (List.mem_cons_of_mem _ List.mem_cons_self) rfl
      (.delete .size [] [] .empty List.mem_cons_self rfl)
  have hafter := (RecordType.decode_of_edits .listing h).2 _ ⟨.empty, _, .empty⟩ _ hbefore
    (Edits.more (.none _) edit)
  exact ⟨h, hafter⟩

/-- A member whose key is half of a surrogate pair. -/
def loneSurrogate : Source.Member :=
  ⟨⟨.empty, ⟨[.unit 'd' '8' '0' '0' 0xD800 rfl]⟩, .empty⟩, ⟨.empty, .number (.ofInt 0), .empty⟩⟩

/-- A member whose key means no string is not the member of any field, but it may not be added. -/
theorem RecordType.not_decode_of_lone_surrogate :
    ¬ ∀ {σ : Type} (r : RecordType σ) (front back : List Source.Member) (m : Source.Member)
      (last : Spaces) (v : σ), (∀ field ∈ r.fields, m.name? ≠ some field.name) →
      r.codec.decode (Padded.mk .empty (Source.object (front ++ back) last) .empty).text = .ok v →
      r.codec.decode (Padded.mk .empty (Source.object (front ++ m :: back) last) .empty).text =
        .ok v := by
  intro h
  have hlocal := (count.lawful_codec 0).isLocal maxDepth
  have hname : MemberOf.name? loneSurrogate = none := by decide
  -- The empty object is read as the blank record.
  have hempty : count.codec.decode
      (Padded.mk .empty (Source.object ([] ++ []) .empty) .empty).text =
        .ok RequestCount.blank := by
    refine toOption_eq_some_iff.1 ((hlocal.toOption_run _).trans ?_)
    rw [on_eq_record?]
    rfl
  have hmember := h count [] [] loneSurrogate .empty .blank (by simp [hname]) hempty
  rw [← toOption_eq_some_iff] at hmember
  have hon := (hlocal.toOption_run _).symm.trans hmember
  rw [on_eq_record?] at hon
  simp [Codec.record?, maxDepth, Field.putAll?, Field.put?, hname] at hon

end HttpStub
