import Mathlib.Data.List.Basic
import HttpStub.Proofs.Json.Source.Double
import HttpStub.Proofs.Json.Source.OfJson

/-!
# Repeated keys

An object repeats a key if two of its members mean the same one. That a text does so, in some object
at some depth, is said of the sources it may have: the grammar leaves no choice but of spaces, so
all sources of one text agree on it. The text of a document repeats a key where the document does.
-/

namespace HttpStub.Json

/-- Two members of some `object` of the document, at whatever depth, have the same key. -/
inductive RepeatsKey : Json → Prop where
  | here {members : List (String × Json)} (h : ¬(members.map Prod.fst).Nodup) :
      RepeatsKey (.object members)
  | member {members : List (String × Json)} {m : String × Json} (hm : m ∈ members)
      (h : RepeatsKey m.2) : RepeatsKey (.object members)
  | item {items : List Json} {j : Json} (hj : j ∈ items) (h : RepeatsKey j) :
      RepeatsKey (.array items)

/-- A key is repeated within the value of some member, as `RepeatsKey` has it; whether the members
share one is left out. -/
def MembersRepeat (members : List (String × Json)) : Prop :=
  ∃ m ∈ members, m.2.RepeatsKey

/-- Two members of some object of the source, at whatever depth, mean the same key by
`MemberOf.name?`. -/
inductive Source.RepeatsKey : Source → Prop where
  | here {members : List Member} {last : Spaces} (h : ¬(members.filterMap MemberOf.name?).Nodup) :
      RepeatsKey (.object members last)
  | member {members : List Member} {last : Spaces} {m : Member} (hm : m ∈ members)
      (h : RepeatsKey m.value.body) : RepeatsKey (.object members last)
  | item {items : List (Padded Source)} {last : Spaces} {p : Padded Source} (hp : p ∈ items)
      (h : RepeatsKey p.body) : RepeatsKey (.array items last)

/-- The text can be read as a `Source` in which an object repeats a key. -/
def TextRepeatsKey (text : String) : Prop :=
  ∃ p : Padded Source, p.text = text ∧ p.body.RepeatsKey

/-! ## Kinds of documents -/

/-- An object repeats a key if two members share one or if `MembersRepeat` holds of them. -/
theorem repeatsKey_object_iff {members : List (String × Json)} :
    (object members).RepeatsKey ↔ ¬(members.map Prod.fst).Nodup ∨ MembersRepeat members := by
  constructor
  · intro h
    cases h with
    | here h => exact .inl h
    | member hm h => exact .inr ⟨_, hm, h⟩
  · rintro (h | ⟨m, hm, h⟩)
    · exact .here h
    · exact .member hm h

/-- No members, nothing for `MembersRepeat`. -/
@[simp] theorem membersRepeat_nil : ¬MembersRepeat [] := by
  simp [MembersRepeat]

/-- With one member more, `MembersRepeat` looks at its value too. -/
@[simp] theorem membersRepeat_cons {key : String} {j : Json} {members : List (String × Json)} :
    MembersRepeat ((key, j) :: members) ↔ j.RepeatsKey ∨ MembersRepeat members :=
  List.exists_mem_cons_iff ..

/-- An `array` repeats a key if one of its items does. -/
theorem repeatsKey_array_iff {items : List Json} :
    (array items).RepeatsKey ↔ ∃ j ∈ items, j.RepeatsKey := by
  constructor
  · intro h
    cases h with
    | item hj h => exact ⟨_, hj, h⟩
  · rintro ⟨j, hj, h⟩
    exact .item hj h

/-- There are no members in `Json.null`. -/
@[simp] theorem not_repeatsKey_null : ¬RepeatsKey .null := nofun

/-- There are no keys in a `number`. -/
@[simp] theorem not_repeatsKey_number (n : Number) : ¬RepeatsKey (.number n) := nofun

/-- There are no keys in a `string`. -/
@[simp] theorem not_repeatsKey_string (s : String) : ¬RepeatsKey (.string s) := nofun

/-- The same for the object of a source, whose members have a key as far as `MemberOf.name?` gives
one. -/
theorem Source.repeatsKey_object_iff {members : List Member} {last : Spaces} :
    (Source.object members last).RepeatsKey ↔
      ¬(members.filterMap MemberOf.name?).Nodup ∨ ∃ m ∈ members, m.value.body.RepeatsKey := by
  constructor
  · intro h
    cases h with
    | here h => exact .inl h
    | member hm h => exact .inr ⟨_, hm, h⟩
  · rintro (h | ⟨m, hm, h⟩)
    · exact .here h
    · exact .member hm h

/-- The same for the `Source.array` of items between spaces. -/
theorem Source.repeatsKey_array_iff {items : List (Padded Source)} {last : Spaces} :
    (Source.array items last).RepeatsKey ↔ ∃ p ∈ items, p.body.RepeatsKey := by
  constructor
  · intro h
    cases h with
    | item hp h => exact ⟨_, hp, h⟩
  · rintro ⟨p, hp, h⟩
    exact .item hp h

/-! ## The sources of one text -/

/-- A `Quoted` ends where it ends, whatever follows, since `skipString` finds its end. -/
theorem Quoted.append_inj {q q' : Quoted} {rest rest' : List Char}
    (h : q.chars ++ rest = q'.chars ++ rest') : q.chars = q'.chars ∧ rest = rest' := by
  -- Both literals are passed over, and what is left then is the same.
  have hskip := skipString_append q rest
  rw [h, skipString_append] at hskip
  obtain rfl : rest' = rest := Except.ok.inj hskip
  exact ⟨List.append_cancel_right h, rfl⟩

/-- What opens anything else opens no number; see `NumberSource.chars_cons`. -/
theorem NumberSource.chars_ne_cons {c : Char} (hc : c ∈ ['n', 't', 'f', '"', '[', ']', '\x7b'])
    (n : NumberSource) (cs : List Char) : n.chars ≠ c :: cs := by
  intro h
  obtain ⟨first, tail, hfirst, -, -, hother⟩ := n.chars_cons
  rw [hfirst] at h
  rw [(List.cons.inj h).1] at hother
  simp only [List.mem_cons, List.not_mem_nil, or_false] at hc
  tauto

/-- The string that a literal means, told by its characters, which `stringLiteral` reads. -/
def stringOf? (cs : List Char) : Option String :=
  (stringLiteral cs).toOption.map Prod.fst

/-- The `MemberOf.name?` of a member depends on the characters of its key only. -/
theorem MemberOf.name?_eq {α : Type} (m : MemberOf α) : m.name? = stringOf? m.key.body.chars := by
  have hread := toOption_stringLiteral m.key.body []
  rw [List.append_nil] at hread
  rw [stringOf?, hread, name?]
  cases m.key.body.value? <;> rfl

namespace Source

/-- A source ends where it ends, whatever follows, since `skip` finds its end. -/
theorem append_inj {s s' : Source} {rest rest' : List Char} (hrest : Delimited rest)
    (hrest' : Delimited rest') (h : s.chars ++ rest = s'.chars ++ rest') :
    s.chars = s'.chars ∧ rest = rest' := by
  -- What `skip` leaves of the common text is the rest of either source.
  have hskip := takes_skip s .empty rest hrest
  have hskip' := takes_skip s' .empty rest' hrest'
  rw [h, hskip'] at hskip
  simp only [Option.map_some, Option.some.injEq, Prod.mk.injEq, true_and] at hskip
  subst hskip
  exact ⟨List.append_cancel_right h, rfl⟩

/-- Spaces in front of a source are told from it, as `skipSpace` takes them off. -/
theorem padded_append_inj {s s' : Source} {before before' : Spaces} {rest rest' : List Char}
    (hrest : Delimited rest) (hrest' : Delimited rest')
    (h : before.chars ++ (s.chars ++ rest) = before'.chars ++ (s'.chars ++ rest')) :
    s.chars = s'.chars ∧ rest = rest' := by
  have hskip := congrArg skipSpace h
  simp only [skipSpace_append, skipSpace_chars] at hskip
  exact append_inj hrest hrest' hskip

/-- The characters of the items, each by `Source.chars`. -/
def itemTexts (items : List (Padded Source)) : List (List Char) :=
  items.map fun p => p.body.chars

/-- The characters of the members' keys and values, without the spaces that `membersChars` writes.
-/
def memberTexts (members : List Member) : List (List Char × List Char) :=
  members.map fun m => (m.key.body.chars, m.value.body.chars)

/-- What stands behind an item is `Delimited`. -/
theorem delimited_behind_item (after : Spaces) (items : List (Padded Source)) (last : Spaces) :
    Delimited (after.chars ++ moreItemsChars items last) := by
  have hmore := delimited_moreItems items last []
  rw [List.append_nil] at hmore
  exact after.delimited_append hmore

/-- What stands behind the value of a member is `Delimited`. -/
theorem delimited_behind_member (after : Spaces) (members : List Member) (last : Spaces) :
    Delimited (after.chars ++ moreMembersChars members last) := by
  have hmore := delimited_moreMembers members last []
  rw [List.append_nil] at hmore
  exact after.delimited_append hmore

/-- Behind spaces `moreItemsChars` goes on with a comma or with the closing bracket. -/
theorem skipSpace_moreItemsChars (before : Spaces) (items : List (Padded Source)) (last : Spaces) :
    skipSpace (before.chars ++ moreItemsChars items last) =
      match items with
      | [] => [']']
      | p :: items => ',' :: itemsChars (p :: items) last := by
  rw [skipSpace_append]
  cases items with
  | nil =>
    rw [moreItemsChars, skipSpace_append]
    rfl
  | cons p items => rfl

/-- Items that `moreItemsChars` writes alike have the same `itemTexts`, whatever spaces stand
between them. -/
theorem itemTexts_of_more {items items' : List (Padded Source)} {before before' last last' : Spaces}
    (h : before.chars ++ moreItemsChars items last =
      before'.chars ++ moreItemsChars items' last') : itemTexts items = itemTexts items' := by
  -- Induction on the items. Without spaces in front, both texts begin with a comma, or both with
  -- the closing bracket, and then the first items can be told off.
  induction items generalizing items' before before' with
  | nil =>
    have hskip := congrArg skipSpace h
    rw [skipSpace_moreItemsChars, skipSpace_moreItemsChars] at hskip
    cases items' with
    | nil => rfl
    | cons p' items' => exact absurd (List.cons.inj hskip).1 (by decide)
  | cons p items ih =>
    have hskip := congrArg skipSpace h
    rw [skipSpace_moreItemsChars, skipSpace_moreItemsChars] at hskip
    cases items' with
    | nil => exact absurd (List.cons.inj hskip).1 (by decide)
    | cons p' items' =>
      obtain ⟨hbody, hmore⟩ := padded_append_inj (delimited_behind_item p.after items last)
        (delimited_behind_item p'.after items' last') (List.cons.inj hskip).2
      rw [itemTexts, itemTexts, List.map_cons, List.map_cons, hbody]
      exact congrArg _ (ih hmore)

/-- No item begins like the end of an array, so `itemsChars` tells an empty one. -/
theorem itemsChars_nil_ne (last : Spaces) (p : Padded Source) (items : List (Padded Source))
    (last' : Spaces) : itemsChars [] last ≠ itemsChars (p :: items) last' := by
  intro h
  obtain ⟨c, cs, hcs, -, hc⟩ := p.body.chars_cons
  have hskip := congrArg skipSpace h
  simp only [itemsChars, skipSpace_append, skipSpace_chars] at hskip
  rw [hcs] at hskip
  exact hc (List.cons.inj hskip).1.symm

/-- The texts of the items of an array are told by `itemsChars`. -/
theorem itemTexts_inj {items items' : List (Padded Source)} {last last' : Spaces}
    (h : itemsChars items last = itemsChars items' last') : itemTexts items = itemTexts items' := by
  cases items with
  | nil =>
    cases items' with
    | nil => rfl
    | cons p' items' => exact absurd h (itemsChars_nil_ne last p' items' last')
  | cons p items =>
    cases items' with
    | nil => exact absurd h.symm (itemsChars_nil_ne last' p items last)
    | cons p' items' =>
      -- As items behind others they have a comma in front, and nothing else.
      have hmore : Spaces.empty.chars ++ moreItemsChars (p :: items) last =
          Spaces.empty.chars ++ moreItemsChars (p' :: items') last' := congrArg (',' :: ·) h
      exact itemTexts_of_more hmore

/-- Behind spaces `moreMembersChars` goes on with a comma or with the closing brace. -/
theorem skipSpace_moreMembersChars (before : Spaces) (members : List Member) (last : Spaces) :
    skipSpace (before.chars ++ moreMembersChars members last) =
      match members with
      | [] => ['\x7d']
      | m :: members => ',' :: membersChars (m :: members) last := by
  rw [skipSpace_append]
  cases members with
  | nil =>
    rw [moreMembersChars, skipSpace_append]
    rfl
  | cons m members => rfl

/-- In `membersChars` a member is told from those behind it. -/
theorem membersChars_cons_inj {m m' : Member} {members members' : List Member} {last last' : Spaces}
    (h : membersChars (m :: members) last = membersChars (m' :: members') last') :
    m.key.body.chars = m'.key.body.chars ∧ m.value.body.chars = m'.value.body.chars ∧
      m.value.after.chars ++ moreMembersChars members last =
        m'.value.after.chars ++ moreMembersChars members' last' := by
  -- First the keys are compared, then what stands behind their colons.
  have hopen := congrArg skipSpace h
  simp only [membersChars, skipSpace_append,
    skipSpace_cons (show isSpace '"' = false by decide)] at hopen
  obtain ⟨hkey, hcolon⟩ := Quoted.append_inj (List.cons.inj hopen).2
  have hvalue := congrArg skipSpace hcolon
  simp only [skipSpace_append, skipSpace_cons (show isSpace ':' = false by decide)] at hvalue
  obtain ⟨hbody, hmore⟩ := padded_append_inj (delimited_behind_member m.value.after members last)
    (delimited_behind_member m'.value.after members' last') (List.cons.inj hvalue).2
  exact ⟨hkey, hbody, hmore⟩

/-- Members that `moreMembersChars` writes alike have the same `memberTexts`, whatever spaces stand
between them. -/
theorem memberTexts_of_more {members members' : List Member} {before before' last last' : Spaces}
    (h : before.chars ++ moreMembersChars members last =
      before'.chars ++ moreMembersChars members' last') :
    memberTexts members = memberTexts members' := by
  -- Induction on the members, as for items.
  induction members generalizing members' before before' with
  | nil =>
    have hskip := congrArg skipSpace h
    rw [skipSpace_moreMembersChars, skipSpace_moreMembersChars] at hskip
    cases members' with
    | nil => rfl
    | cons m' members' => exact absurd (List.cons.inj hskip).1 (by decide)
  | cons m members ih =>
    have hskip := congrArg skipSpace h
    rw [skipSpace_moreMembersChars, skipSpace_moreMembersChars] at hskip
    cases members' with
    | nil => exact absurd (List.cons.inj hskip).1 (by decide)
    | cons m' members' =>
      obtain ⟨hkey, hbody, hmore⟩ := membersChars_cons_inj (List.cons.inj hskip).2
      rw [memberTexts, memberTexts, List.map_cons, List.map_cons, hkey, hbody]
      exact congrArg _ (ih hmore)

/-- No member begins like the end of an object, so `membersChars` tells an empty one. -/
theorem membersChars_nil_ne (last : Spaces) (m : Member) (members : List Member) (last' : Spaces) :
    membersChars [] last ≠ membersChars (m :: members) last' := by
  intro h
  have hskip := congrArg skipSpace h
  simp only [membersChars, skipSpace_append,
    skipSpace_cons (show isSpace '"' = false by decide)] at hskip
  exact absurd (List.cons.inj hskip).1 (by decide)

/-- The texts of the members of an object are told by `membersChars`. -/
theorem memberTexts_inj {members members' : List Member} {last last' : Spaces}
    (h : membersChars members last = membersChars members' last') :
    memberTexts members = memberTexts members' := by
  cases members with
  | nil =>
    cases members' with
    | nil => rfl
    | cons m' members' => exact absurd h (membersChars_nil_ne last m' members' last')
  | cons m members =>
    cases members' with
    | nil => exact absurd h.symm (membersChars_nil_ne last' m members last)
    | cons m' members' =>
      -- As members behind others they have a comma in front, and nothing else.
      have hmore : Spaces.empty.chars ++ moreMembersChars (m :: members) last =
          Spaces.empty.chars ++ moreMembersChars (m' :: members') last' := congrArg (',' :: ·) h
      exact memberTexts_of_more hmore

/-! ## Arrays and objects by their first character -/

/-- A source that begins with a bracket is a `Source.array`. -/
theorem exists_array {s : Source} {cs : List Char} (h : s.chars = '[' :: cs) :
    ∃ items last, s = array items last ∧ itemsChars items last = cs := by
  -- No other kind of source begins with a bracket.
  cases s with
  | array items last => exact ⟨items, last, rfl, (List.cons.inj h).2⟩
  | number n => exact absurd h (NumberSource.chars_ne_cons (by decide) n cs)
  | bool b => cases b <;> exact absurd (List.cons.inj h).1 (by decide)
  | _ => exact absurd (List.cons.inj h).1 (by decide)

/-- A source that begins with a brace is a `Source.object`. -/
theorem exists_object {s : Source} {cs : List Char} (h : s.chars = '\x7b' :: cs) :
    ∃ members last, s = object members last ∧ membersChars members last = cs := by
  -- No other kind of source begins with a brace.
  cases s with
  | object members last => exact ⟨members, last, rfl, (List.cons.inj h).2⟩
  | number n => exact absurd h (NumberSource.chars_ne_cons (by decide) n cs)
  | bool b => cases b <;> exact absurd (List.cons.inj h).1 (by decide)
  | _ => exact absurd (List.cons.inj h).1 (by decide)

/-- The names of members depend on `memberTexts` only. -/
theorem names_eq (members : List Member) :
    members.filterMap MemberOf.name? =
      (memberTexts members).filterMap fun texts => stringOf? texts.1 := by
  have hname : MemberOf.name? = fun m : Member => stringOf? m.key.body.chars :=
    funext MemberOf.name?_eq
  rw [memberTexts, List.filterMap_map, hname]
  rfl

/-- Whether a source repeats a key is told by its `Source.chars`. -/
theorem RepeatsKey.of_chars_eq {s s' : Source} (h : s.RepeatsKey) (hchars : s.chars = s'.chars) :
    s'.RepeatsKey := by
  -- The induction is on how deep the repetition is: the other source has an object or an array of
  -- the same texts, and what repeats a key within it is the part with the same text.
  induction h generalizing s' with
  | here h =>
    obtain ⟨members', last', rfl, hmembers⟩ := exists_object hchars.symm
    rw [names_eq, ← memberTexts_inj hmembers, ← names_eq] at h
    exact .here h
  | @member members last m hm h ih =>
    obtain ⟨members', last', rfl, hmembers⟩ := exists_object hchars.symm
    have htexts : (m.key.body.chars, m.value.body.chars) ∈ memberTexts members' := by
      rw [memberTexts_inj hmembers]
      exact List.mem_map_of_mem hm
    obtain ⟨m', hm', heq⟩ := List.mem_map.1 htexts
    exact .member hm' (ih (Prod.mk.inj heq).2.symm)
  | @item items last p hp h ih =>
    obtain ⟨items', last', rfl, hitems⟩ := exists_array hchars.symm
    have htext : p.body.chars ∈ itemTexts items' := by
      rw [itemTexts_inj hitems]
      exact List.mem_map_of_mem hp
    obtain ⟨p', hp', heq⟩ := List.mem_map.1 htext
    exact .item hp' (ih heq.symm)

end Source

/-! ## The sources of a document -/

/-- Items that `itemTail` writes behind others are written alike at the front of an array. -/
theorem itemsChars_eq_of_more {padded : List (Padded Source)} {items : List Json}
    (h : Source.moreItemsChars padded .empty = itemTail items) :
    Source.itemsChars padded .empty = itemChars items := by
  -- Both sides have no items, or both have some: a comma is no bracket.
  cases padded with
  | nil =>
    cases items with
    | nil => rfl
    | cons j js => exact absurd (List.cons.inj h).1 (by decide)
  | cons p padded =>
    cases items with
    | nil => exact absurd (List.cons.inj h).1 (by decide)
    | cons j js =>
      rw [itemChars_cons]
      exact (List.cons.inj h).2

/-- Members that `memberTail` writes behind others are written alike at the front of an object. -/
theorem membersChars_eq_of_more {padded : List Source.Member} {members : List (String × Json)}
    (h : Source.moreMembersChars padded .empty = memberTail members) :
    Source.membersChars padded .empty = memberChars members := by
  cases padded with
  | nil =>
    cases members with
    | nil => rfl
    | cons m ms => exact absurd (List.cons.inj h).1 (by decide)
  | cons p padded =>
    cases members with
    | nil => exact absurd (List.cons.inj h).1 (by decide)
    | cons m ms =>
      rw [memberChars_cons]
      exact (List.cons.inj h).2

/-- A number is written as a `NumberSource`; a double as any reading of doubles wants it. -/
theorem NumberSource.exists_ofNumber (n : Number) : ∃ source : NumberSource, source.chars = n.chars
    := by
  cases n with
  | int n => exact ⟨.ofInt n, chars_ofInt n⟩
  | float x => exact exists_ofFloat .standard x

-- The text of a document has no spaces, so the source is made without any. Items and members are
-- compared as they stand behind others, where the writer and the grammar both have a comma first.
mutual

/-- A document is written as a `Source` that repeats a key if the document does. -/
theorem exists_source : (j : Json) →
    ∃ s : Source, s.chars = j.chars ∧ (s.RepeatsKey ↔ j.RepeatsKey)
  | .null => ⟨.null, rfl, iff_of_false nofun nofun⟩
  | .bool b => ⟨.bool b, by cases b <;> rfl, iff_of_false nofun nofun⟩
  | .string s => ⟨.string (.ofString s), (quote_eq s).symm, iff_of_false nofun nofun⟩
  | .number n => by
    obtain ⟨source, hchars⟩ := NumberSource.exists_ofNumber n
    exact ⟨.number source, hchars, iff_of_false nofun nofun⟩
  | .array items => by
    obtain ⟨padded, hmore, hrepeats⟩ := exists_itemSources items
    refine ⟨.array padded .empty, ?_, ?_⟩
    · rw [Source.chars, itemsChars_eq_of_more hmore, chars]
    · rw [Source.repeatsKey_array_iff, repeatsKey_array_iff, hrepeats]
  | .object members => by
    obtain ⟨padded, hmore, hnames, hrepeats⟩ := exists_memberSources members
    refine ⟨.object padded .empty, ?_, ?_⟩
    · rw [Source.chars, membersChars_eq_of_more hmore, chars]
    · rw [Source.repeatsKey_object_iff, repeatsKey_object_iff, hnames, hrepeats]

/-- The items behind another one have sources that are written like them by `itemTail` and repeat
keys as they do. -/
theorem exists_itemSources : (items : List Json) →
    ∃ padded : List (Padded Source), Source.moreItemsChars padded .empty = itemTail items ∧
      ((∃ p ∈ padded, p.body.RepeatsKey) ↔ ∃ j ∈ items, j.RepeatsKey)
  | [] => ⟨[], rfl, by simp⟩
  | j :: js => by
    obtain ⟨s, hchars, hrepeats⟩ := exists_source j
    obtain ⟨padded, hmore, hothers⟩ := exists_itemSources js
    refine ⟨⟨.empty, s, .empty⟩ :: padded, ?_, ?_⟩
    · simp only [Source.moreItemsChars, Spaces.chars_empty, List.nil_append, itemTail, hchars,
        hmore]
    · rw [List.exists_mem_cons_iff, List.exists_mem_cons_iff, hrepeats, hothers]

/-- The members behind another one have sources that are written like them by `memberTail`, mean the
same keys and repeat keys as they do. -/
theorem exists_memberSources : (members : List (String × Json)) →
    ∃ padded : List Source.Member, Source.moreMembersChars padded .empty = memberTail members ∧
      padded.filterMap MemberOf.name? = members.map Prod.fst ∧
      ((∃ p ∈ padded, p.value.body.RepeatsKey) ↔ MembersRepeat members)
  | [] => ⟨[], rfl, rfl, by simp⟩
  | (key, j) :: ms => by
    obtain ⟨s, hchars, hrepeats⟩ := exists_source j
    obtain ⟨padded, hmore, hnames, hothers⟩ := exists_memberSources ms
    -- The member has no spaces in it, and its key is written like the string.
    let member : Source.Member := ⟨⟨.empty, .ofString key, .empty⟩, ⟨.empty, s, .empty⟩⟩
    have hname : member.name? = some key := Quoted.value?_ofString key
    refine ⟨member :: padded, ?_, ?_, ?_⟩
    · simp only [member, Source.moreMembersChars, Spaces.chars_empty, List.nil_append, memberTail,
        quote_eq, List.cons_append, hchars, hmore]
    · rw [List.filterMap_cons_some hname, hnames, List.map_cons]
    · rw [List.exists_mem_cons_iff, membersRepeat_cons, hrepeats, hothers]

end

/-- The text of a document is `TextRepeatsKey` if and only if the document repeats a key. -/
theorem textRepeatsKey_text (j : Json) : TextRepeatsKey j.text ↔ j.RepeatsKey := by
  obtain ⟨s, hchars, hrepeats⟩ := exists_source j
  rw [← hrepeats]
  constructor
  · rintro ⟨p, htext, hp⟩
    -- The source of the text may have spaces around it, so only the bodies are written alike.
    have happend : p.before.chars ++ (p.body.chars ++ p.after.chars) =
        Spaces.empty.chars ++ (s.chars ++ []) := by
      rw [Spaces.chars_empty, List.nil_append, List.append_nil, hchars]
      exact String.ofList_inj.1 htext
    have hafter : Delimited p.after.chars := by
      have hnil : Delimited (p.after.chars ++ []) := p.after.delimited_append (by simp [Delimited])
      rwa [List.append_nil] at hnil
    have hbody := (Source.padded_append_inj hafter (by simp [Delimited]) happend).1
    exact hp.of_chars_eq hbody
  · intro hs
    refine ⟨⟨.empty, s, .empty⟩, ?_, hs⟩
    rw [Padded.text, Spaces.chars_empty, List.nil_append, List.append_nil, hchars]
    rfl

end HttpStub.Json
