import HttpStub.Journal.Entry
import HttpStub.Proofs.Journal.Fields
import HttpStub.Proofs.Json.Source.Reading

/-!
# Codecs on sources

What the reader of a codec makes of a source is told by the source alone, and for lists,
dictionaries and records it is put together from what the readers inside make of the parts. A member
of a record is looked up by the string that its key means; if no field has this name, the value may
be any source.
-/

namespace HttpStub

open Json

namespace Codec

variable {α σ : Type}

/-- At any limit the codec reads a source as a whole; see `Reader.Local`. -/
def IsLocal (codec : Codec α) : Prop :=
  ∀ depth, (codec.read depth).Local

/-- The reader `unsuitable` fails, whatever it finds. -/
@[simp] theorem toOption_unsuitable (expected : String) (cs : List Char) :
    (unsuitable expected cs : Except Fault α).toOption = none := by
  unfold unsuitable
  cases found cs <;> rfl

/-! ## Scalars -/

/-- The string that a source means, if it is one; what `readString` makes of it. -/
def string? : Source → Option String
  | .string q => q.value?
  | _ => none

/-- A string is read by `readString`, and no other source is. -/
theorem takes_readString (s : Source) : readString.Takes s (string? s) := by
  intro before rest _
  simp only [readString, skipSpace_append, Source.skipSpace_chars]
  -- The reader looks at the first character. A number begins with a minus or a digit, so it is told
  -- from a string; for all other sources the first character is there to see.
  cases s with
  | string q => simp [Source.chars, string?, toOption_stringLiteral]
  | bool b => cases b <;> simp [Source.chars, string?]
  | number n =>
    obtain ⟨c, cs, hcs, -, -, hother⟩ := n.chars_cons
    simp [Source.chars, string?, hcs, hother]
  | _ => simp [Source.chars, string?]

/-- The codec `Codec.string` reads a source as a whole. -/
theorem isLocal_string : string.IsLocal := fun _ =>
  Reader.local_of_takes fun s => ⟨_, takes_readString s⟩

/-- The truth value that a source is, if it is one; what `readBool` makes of it. -/
def bool? : Source → Option Bool
  | .bool b => some b
  | _ => none

/-- A truth value is read by `readBool`, and no other source is. -/
theorem takes_readBool (s : Source) : readBool.Takes s (bool? s) := by
  intro before rest _
  simp only [readBool, skipSpace_append, Source.skipSpace_chars]
  cases s with
  | bool b => cases b <;> simp [Source.chars, bool?]
  | number n =>
    obtain ⟨c, cs, hcs, -, -, hother⟩ := n.chars_cons
    simp [Source.chars, bool?, hcs, hother]
  | _ => simp [Source.chars, bool?]

/-- The codec `Codec.bool` reads a source as a whole. -/
theorem isLocal_bool : bool.IsLocal := fun _ =>
  Reader.local_of_takes fun s => ⟨_, takes_readBool s⟩

/-- The signed word that a source is, if it is one; what `readWord` makes of it. -/
def signedWord? : Source → Option Int64
  | .number n => n.value?.bind fun n => (word? n).toOption
  | _ => none

/-- A number is read by `readWord` if `word?` takes its value for a signed word. -/
theorem takes_readWord (s : Source) : readWord.Takes s (signedWord? s) := by
  intro before rest hrest
  simp only [readWord, skipSpace_append, Source.skipSpace_chars]
  cases s with
  | bool b => cases b <;> simp [Source.chars, signedWord?]
  | number n =>
    obtain ⟨c, cs, hcs, hmark, -⟩ := n.chars_cons
    have hread := toOption_numberLiteral n hrest
    rw [hcs, List.cons_append] at hread
    simp only [Source.chars, signedWord?, hcs, List.cons_append]
    rw [if_pos (by simpa using hmark), toOption_bind_of_eq hread]
    -- A number that is in range may still be no signed word.
    cases n.value? with
    | none => rfl
    | some n => cases hword : word? n <;> simp [hword]
  | _ => simp [Source.chars, signedWord?]

/-- The codec `Codec.word` reads a source as a whole. -/
theorem isLocal_word : word.IsLocal := fun _ =>
  Reader.local_of_takes fun s => ⟨_, takes_readWord s⟩

/-- Logged values are told apart by `LoggedValue.ofJson` on the document of a source. -/
theorem takes_loggedValue (depth : Nat) (s : Source) :
    (LoggedValue.read depth).Takes s
      ((s.json? depth).bind fun j => (LoggedValue.ofJson j).toOption) := by
  intro before rest hrest
  rw [LoggedValue.read, toOption_bind_of_eq (takes_document depth s before rest hrest)]
  cases s.json? depth with
  | none => rfl
  | some j => cases h : LoggedValue.ofJson j <;> simp [h]

/-- The codec of a `LoggedValue` reads a source as a whole. -/
theorem isLocal_loggedValue : LoggedValue.codec.IsLocal := fun depth =>
  Reader.local_of_takes fun s => ⟨_, takes_loggedValue depth s⟩

/-! ## Lists and dictionaries -/

/-- The list that a source is, if it is one and its items are what `item` makes of them. -/
def list? (item : Nat → Source → Option α) : Nat → Source → Option (List α)
  | depth + 1, .array items _ => items.mapM fun p => item depth p.body
  | _, _ => none

/-- An array is read by `readList` item by item, one level below its own. -/
theorem takes_readList {item : Nat → Reader α} (hitem : ∀ depth, (item depth).Local) (depth : Nat)
    (s : Source) :
    (readList item depth).Takes s (list? (fun depth => (item depth).on) depth s) := by
  intro before rest _
  simp only [readList, skipSpace_append, Source.skipSpace_chars]
  cases s with
  | array items last =>
    -- The brackets take one level, so at the last level no array is read.
    cases depth with
    | zero => simp [Source.chars, list?]
    | succ depth =>
      simp [Source.chars, list?, toOption_items true items last fun p _ => hitem depth p.body]
  | bool b => cases b <;> simp [Source.chars, list?]
  | number n =>
    obtain ⟨c, cs, hcs, -, -, hother⟩ := n.chars_cons
    simp [Source.chars, list?, hcs, hother]
  | _ => simp [Source.chars, list?]

/-- The codec of a list reads a source as a whole if the codec of its items does. -/
theorem isLocal_list {item : Codec α} (h : item.IsLocal) : (list item).IsLocal := fun depth =>
  Reader.local_of_takes fun s => ⟨_, takes_readList h depth s⟩

/-- What the codec of a list makes of a source is `list?`. -/
theorem IsLocal.list_on {item : Codec α} (h : item.IsLocal) (depth : Nat) (s : Source) :
    ((list item).read depth).on s = list? (fun depth => (item.read depth).on) depth s :=
  (takes_readList h depth s).on_eq

/-- Puts the entry that a member is into a dictionary, if its key means a string and its value is
one. -/
def insert? (value : Source → Option α) (d : Dict α) (m : Source.Member) : Option (Dict α) :=
  m.name?.bind fun key => (value m.value.body).map fun a => d.insert key a

/-- A member is taken by `readEntry`, which puts it into the dictionary under the string that its
key means. -/
theorem takesMember_readEntry {value : Reader α} (hvalue : value.Local) (m : Source.Member) :
    TakesMember (readEntry value) m fun d => insert? value.on d m := by
  intro d rest hrest
  -- The key is read, then the colon, and then the value by the reader inside.
  have hread := hvalue m.value.body m.value.before rest hrest
  simp only [readEntry, Source.memberChars, List.append_assoc, List.cons_append,
    toOption_bind_of_eq (toOption_stringLiteral m.key.body _), colon_append, ok_bind,
    toOption_bind_of_eq hread]
  simp [insert?, MemberOf.name?, Option.map_eq_bind, Option.bind_assoc]

/-- The dictionary that a source is, if it is one. -/
def dict? (value : Nat → Source → Option α) : Nat → Source → Option (Dict α)
  | depth + 1, .object members _ => members.foldlM (insert? (value depth)) .empty
  | _, _ => none

/-- An object is read by `readDict` member by member, so of several members under one key the last
one stays. -/
theorem takes_readDict {value : Nat → Reader α} (hvalue : ∀ depth, (value depth).Local)
    (depth : Nat) (s : Source) :
    (readDict value depth).Takes s (dict? (fun depth => (value depth).on) depth s) := by
  intro before rest _
  simp only [readDict, skipSpace_append, Source.skipSpace_chars]
  cases s with
  | object members last =>
    cases depth with
    | zero => simp [Source.chars, dict?]
    | succ depth =>
      simp [Source.chars, dict?, toOption_members true members last
        fun m _ => takesMember_readEntry (hvalue depth) m]
  | bool b => cases b <;> simp [Source.chars, dict?]
  | number n =>
    obtain ⟨c, cs, hcs, -, -, hother⟩ := n.chars_cons
    simp [Source.chars, dict?, hcs, hother]
  | _ => simp [Source.chars, dict?]

/-- The codec of a dictionary reads a source as a whole if the codec of its values does. -/
theorem isLocal_dict {value : Codec α} (h : value.IsLocal) : (dict value).IsLocal := fun depth =>
  Reader.local_of_takes fun s => ⟨_, takes_readDict h depth s⟩

/-- What the codec of a dictionary makes of a source is `dict?`. -/
theorem IsLocal.dict_on {value : Codec α} (h : value.IsLocal) (depth : Nat) (s : Source) :
    ((dict value).read depth).on s = dict? (fun depth => (value.read depth).on) depth s :=
  (takes_readDict h depth s).on_eq

/-! ## Records -/

/-- What a field holds according to a source. -/
def fieldOn? (depth : Nat) (field : Field σ) (s : Source) : Option field.α :=
  (field.codec.read depth).on s

section Records

variable {fields : List (Field σ)}

/-- A member is taken by `readMember` as `Field.put?` says: it sets the field of its name, refuses a
name that was there before, and passes over a name that no field has. -/
theorem takesMember_readMember (h : ∀ f ∈ fields, f.codec.IsLocal) (depth : Nat)
    (m : Source.Member) :
    TakesMember (readMember fields depth) m fun state =>
      Field.put? fields MemberOf.name? (fun f m => fieldOn? depth f m.value.body) state m := by
  intro state rest hrest
  simp only [readMember, Source.memberChars, List.append_assoc, List.cons_append,
    toOption_bind_of_eq (toOption_stringLiteral m.key.body _)]
  simp only [Field.put?, MemberOf.name?]
  -- A key that means no string is refused before its value is looked at.
  cases m.key.body.value? with
  | none => rfl
  | some key =>
    simp only [Option.bind_some]
    cases hfind : fields.find? fun f => f.name = key with
    | none =>
      -- No field has this name, so the value may be any source.
      have hskip := takes_skip m.value.body m.value.before rest hrest
      simp [colon_append, toOption_bind_of_eq hskip]
    | some f =>
      have hf := List.mem_of_find?_eq_some hfind
      have hread := h f hf depth m.value.body m.value.before rest hrest
      by_cases hseen : key ∈ state.2
      · -- A name that has been seen before is refused.
        simp [hseen]
      · simp [hseen, colon_append, Field.read, toOption_bind_of_eq hread, fieldOn?,
          Option.map_eq_bind, Option.bind_assoc]

/-- Reads the fields as items, and the bracket behind them. -/
def inOrder (depth : Nat) (isFirst : Bool) (fields : List (Field σ)) (s : σ) : Reader σ :=
  fun cs => do
    let (s, unread) ← readFields depth isFirst fields s cs
    return (s, ← endFields unread)

section InOrder

variable (depth : Nat) (isFirst : Bool) (s : σ) {cs item rest : List Char} {c : Char}

/-- Where all items have been read, `inOrder` gives the record as it is. -/
private theorem inOrder_bracket (fields : List (Field σ)) (hcs : skipSpace cs = ']' :: rest) :
    inOrder depth isFirst fields s cs = .ok (s, rest) := by
  cases fields <;>
    simp [inOrder, readFields, endFields, hcs, skipSpace_cons (show isSpace ']' = false by decide)]

/-- Where all fields have been read, another item is too much for `inOrder`. -/
private theorem toOption_inOrder_nil (hcs : skipSpace cs = c :: rest) (hc : c ≠ ']') :
    (inOrder depth isFirst [] s cs).toOption = none := by
  simp only [inOrder, readFields, endFields, hcs, ok_bind, if_neg hc]
  split <;> rfl

/-- The first field is read by `inOrder` off the first item. -/
private theorem inOrder_first (f : Field σ) (fields : List (Field σ))
    (hcs : skipSpace cs = c :: rest) (hc : c ≠ ']') :
    inOrder depth true (f :: fields) s cs =
      f.codec.read depth (c :: rest) >>= fun r => inOrder depth false fields (f.set s r.1) r.2 := by
  simp only [inOrder, readFields, Field.read, hcs]
  rw [if_neg hc, if_pos trivial]
  simp

/-- Behind a comma `inOrder` reads the next field, if an item stands there. -/
private theorem inOrder_comma (f : Field σ) (fields : List (Field σ))
    (hcs : skipSpace cs = ',' :: rest) (hitem : skipSpace rest = c :: item) (hc : c ≠ ']') :
    inOrder depth false (f :: fields) s cs =
      f.codec.read depth (c :: item) >>= fun r => inOrder depth false fields (f.set s r.1) r.2 := by
  have hhead : (c :: item).head? ≠ some ']' := by simpa using hc
  simp only [inOrder, readFields, Field.read, hcs, hitem]
  rw [if_neg (by decide), if_neg (by decide), if_pos trivial, if_neg hhead]
  simp

end InOrder

/-- Behind the item of a field `inOrder` reads those of the fields that are left. -/
private theorem toOption_inOrder_more (h : ∀ f ∈ fields, f.codec.IsLocal) (depth : Nat) (s : σ)
    (items : List (Padded Source)) (last before : Spaces) (rest : List Char) :
    (inOrder depth false fields s
      (before.chars ++ (Source.moreItemsChars items last ++ rest))).toOption =
      (Field.putInOrder? (fun f p => fieldOn? depth f p.body) fields s items).map (·, rest) := by
  -- Induction on the items, for whichever fields are left.
  induction items generalizing fields s before with
  | nil =>
    have hskip : skipSpace (before.chars ++ (Source.moreItemsChars [] last ++ rest)) =
        ']' :: rest := by
      simp [Source.moreItemsChars, skipSpace_cons (show isSpace ']' = false by decide)]
    rw [inOrder_bracket depth false s fields hskip]
    -- A record may have fewer items than fields; these are left blank.
    cases fields <;> rfl
  | cons p items ih =>
    obtain ⟨sp, source, after⟩ := p
    obtain ⟨c, cs, hcs, -, hc⟩ := source.chars_cons
    have hskip : skipSpace (before.chars ++
        (Source.moreItemsChars (⟨sp, source, after⟩ :: items) last ++ rest)) =
        ',' :: (sp.chars ++ (source.chars ++
          (after.chars ++ (Source.moreItemsChars items last ++ rest)))) := by
      simp [Source.moreItemsChars, skipSpace_cons (show isSpace ',' = false by decide)]
    cases fields with
    | nil => rw [toOption_inOrder_nil depth false s hskip (by decide)]; rfl
    | cons f fields =>
      have hread := h f List.mem_cons_self depth source .empty
        (after.chars ++ (Source.moreItemsChars items last ++ rest))
        (after.delimited_append (Source.delimited_moreItems items last rest))
      have hmore (s : σ) := ih (fun g hg => h g (List.mem_cons_of_mem _ hg)) s after
      -- Behind the comma stands the item, so the comma is not the last character of the array.
      have hitem := Source.skipSpace_chars source
        (after.chars ++ (Source.moreItemsChars items last ++ rest))
      rw [← skipSpace_append sp] at hitem
      simp only [Spaces.chars_empty, List.nil_append] at hread
      rw [hcs, List.cons_append] at hread hitem hskip
      rw [inOrder_comma depth s f fields hskip hitem hc, toOption_bind_of_eq hread]
      simp only [hmore]
      simp [Field.putInOrder?, fieldOn?, Option.map_bind]

/-- The items behind the opening bracket are read by `inOrder` as `Field.putInOrder?` says, field by
field. -/
private theorem toOption_inOrder (h : ∀ f ∈ fields, f.codec.IsLocal) (depth : Nat) (s : σ)
    (items : List (Padded Source)) (last : Spaces) (rest : List Char) :
    (inOrder depth true fields s (Source.itemsChars items last ++ rest)).toOption =
      (Field.putInOrder? (fun f p => fieldOn? depth f p.body) fields s items).map (·, rest) := by
  cases items with
  | nil =>
    -- Without any item the closing bracket comes first.
    have hskip : skipSpace (Source.itemsChars [] last ++ rest) = ']' :: rest := by
      simp [Source.itemsChars, skipSpace_cons (show isSpace ']' = false by decide)]
    rw [inOrder_bracket depth true s fields hskip]
    cases fields <;> rfl
  | cons p items =>
    obtain ⟨sp, source, after⟩ := p
    obtain ⟨c, cs, hcs, -, hc⟩ := source.chars_cons
    have hskip : skipSpace (Source.itemsChars (⟨sp, source, after⟩ :: items) last ++ rest) =
        source.chars ++ (after.chars ++ (Source.moreItemsChars items last ++ rest)) := by
      simp [Source.itemsChars]
    rw [hcs, List.cons_append] at hskip
    cases fields with
    -- A record without fields has no room for an item.
    | nil => rw [toOption_inOrder_nil depth true s hskip hc]; rfl
    | cons f fields =>
      have hread := h f List.mem_cons_self depth source .empty
        (after.chars ++ (Source.moreItemsChars items last ++ rest))
        (after.delimited_append (Source.delimited_moreItems items last rest))
      have hmore (s : σ) := toOption_inOrder_more
        (fun g hg => h g (List.mem_cons_of_mem _ hg)) depth s items last after rest
      simp only [Spaces.chars_empty, List.nil_append] at hread
      rw [hcs, List.cons_append] at hread
      rw [inOrder_first depth s f fields hskip hc, toOption_bind_of_eq hread]
      simp only [hmore]
      simp [Field.putInOrder?, fieldOn?, Option.map_bind]

/-- The record that a source is, if it is one: an object with members for fields, or an array with
items for the fields in their order. -/
def record? (blank : σ) (fields : List (Field σ)) : Nat → Source → Option σ
  | depth + 1, .object members _ =>
    Field.putAll? fields MemberOf.name? (fun f m => fieldOn? depth f m.value.body) blank members
  | depth + 1, .array items _ =>
    Field.putInOrder? (fun f p => fieldOn? depth f p.body) fields blank items
  | _, _ => none

/-- An object or an array is read by `readRecord` as the record that `record?` makes of it. -/
theorem takes_readRecord (h : ∀ f ∈ fields, f.codec.IsLocal) (type : String) (blank : σ)
    (depth : Nat) (s : Source) :
    (readRecord type blank fields depth).Takes s (record? blank fields depth s) := by
  intro before rest _
  simp only [readRecord, skipSpace_append, Source.skipSpace_chars]
  cases s with
  -- Fields are found by the names of the members, whatever their order.
  | object members last =>
    cases depth with
    | zero => simp [Source.chars, record?]
    | succ depth =>
      have hmembers := toOption_members true members last
        (fun m _ => takesMember_readMember h depth m) (blank, []) rest
      simp [Source.chars, record?, Field.putAll?, toOption_bind_of_eq hmembers,
        Option.map_eq_bind, Option.bind_assoc]
  | array items last =>
    -- Fields are taken in their own order.
    cases depth with
    | zero => simp [Source.chars, record?]
    | succ depth =>
      have hitems := toOption_inOrder h depth blank items last rest
      simp only [inOrder, pure_eq_ok] at hitems
      simp [Source.chars, record?, hitems]
  | bool b => cases b <;> simp [Source.chars, record?]
  | number n =>
    obtain ⟨c, cs, hcs, -, -, hother⟩ := n.chars_cons
    simp [Source.chars, record?, hcs, hother]
  | _ => simp [Source.chars, record?]

/-- The codec of a record reads a source as a whole if the codecs of its fields do. -/
theorem isLocal_record (h : ∀ f ∈ fields, f.codec.IsLocal) (type : String) (blank : σ) :
    (record type blank fields).IsLocal := fun depth =>
  Reader.local_of_takes fun s => ⟨_, takes_readRecord h type blank depth s⟩

end Records

end Codec

end HttpStub
