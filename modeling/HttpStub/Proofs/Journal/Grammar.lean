import HttpStub.Proofs.Journal.Readers
import HttpStub.Proofs.Json.Source.Grammar

/-!
# What codecs read is a source

A codec accepts nothing but sources, in the values of members it passes over as well as in those it
reads. The shape that is asked for only rules out more of them.
-/

namespace HttpStub

open Json

namespace Codec

variable {α σ : Type}

/-- At any limit the codec reads nothing but sources; see `Reader.Grammatical`. -/
def IsGrammatical (codec : Codec α) : Prop :=
  ∀ depth, (codec.read depth).Grammatical

/-- The reader `unsuitable` only ever fails. -/
private theorem unsuitable_ne_ok {expected : String} {cs : List Char} {a : α} :
    unsuitable expected cs ≠ .ok a := by
  intro h
  have hnone := toOption_unsuitable (α := α) expected cs
  rw [h] at hnone
  cases hnone

/-! ## Scalars -/

/-- The codec `Codec.string` reads nothing but sources. -/
theorem isGrammatical_string : string.IsGrammatical := fun _ => by
  refine Reader.grammatical_of_token (fun {cs c cs' s rest} hcs hread => ?_) fun hcs hread => ?_
  · simp only [string, readString, hcs] at hread
    split at hread
    · rename_i hc
      obtain ⟨q, hq⟩ := exists_of_stringLiteral hread
      exact ⟨.string q, by rw [hc, hq]; rfl⟩
    · exact absurd hread unsuitable_ne_ok
  · simp only [string, readString, hcs] at hread
    cases hread

/-- The codec `Codec.bool` reads nothing but sources. -/
theorem isGrammatical_bool : bool.IsGrammatical := fun _ => by
  refine Reader.grammatical_of_token (fun {cs c cs' b rest} hcs hread => ?_) fun hcs hread => ?_
  · simp only [bool, readBool, hcs] at hread
    split at hread
    · rename_i hc
      exact hc ▸ exists_of_name (.bool true) rfl hread
    split at hread
    · rename_i hc
      exact hc ▸ exists_of_name (.bool false) rfl hread
    · exact absurd hread unsuitable_ne_ok
  · simp only [bool, readBool, hcs] at hread
    cases hread

/-- The codec `Codec.word` reads nothing but sources. -/
theorem isGrammatical_word : word.IsGrammatical := fun _ => by
  refine Reader.grammatical_of_token (fun {cs c cs' w rest} hcs hread => ?_) fun hcs hread => ?_
  · simp only [word, readWord, hcs] at hread
    split at hread
    · obtain ⟨⟨n, unread⟩, hnumber, hread⟩ := bind_eq_ok hread
      obtain ⟨source, hsource⟩ := exists_of_numberLiteral hnumber
      -- A number may be read and still be no signed word.
      cases hword : word? n with
      | error m => simp only [hword] at hread; cases hread
      | ok w =>
        simp only [hword] at hread
        obtain ⟨-, rfl⟩ := Prod.mk.inj (Except.ok.inj hread)
        exact ⟨.number source, hsource⟩
    · exact absurd hread unsuitable_ne_ok
  · simp only [word, readWord, hcs] at hread
    cases hread

/-- Logged values are read as documents, which are sources. -/
theorem isGrammatical_loggedValue : LoggedValue.codec.IsGrammatical := fun depth cs v rest h => by
  obtain ⟨⟨j, unread⟩, hdocument, h⟩ := bind_eq_ok h
  cases hvalue : LoggedValue.ofJson j with
  | error m => simp only [hvalue] at h; cases h
  | ok v =>
    simp only [hvalue] at h
    obtain ⟨-, rfl⟩ := Prod.mk.inj (Except.ok.inj h)
    exact grammatical_document depth hdocument

/-! ## Lists and dictionaries -/

/-- The codec of a `list` reads nothing but sources if the codec of its items does. -/
theorem isGrammatical_list {item : Codec α} (h : item.IsGrammatical) :
    (list item).IsGrammatical := fun depth => by
  refine Reader.grammatical_of_token (fun {cs c cs' as rest} hcs hread => ?_) fun hcs hread => ?_
  · simp only [list, readList, hcs] at hread
    split at hread
    · rename_i hc
      split at hread
      · cases hread
      · rename_i depth
        obtain ⟨items, last, hitems⟩ := exists_of_items (h depth) hread
        exact ⟨.array items last, by rw [hc, hitems]; rfl⟩
    · exact absurd hread unsuitable_ne_ok
  · simp only [list, readList, hcs] at hread
    cases hread

/-- What `readEntry` takes is a member if its reader of values takes a source. -/
private theorem grammaticalMember_readEntry {value : Reader α} (h : value.Grammatical) :
    GrammaticalMember (readEntry value) := by
  intro d cs d' rest hread
  obtain ⟨⟨key, cs₁⟩, hkey, hread⟩ := bind_eq_ok hread
  obtain ⟨cs₂, hcolon, hread⟩ := bind_eq_ok hread
  obtain ⟨⟨a, cs₃⟩, hvalue, hread⟩ := bind_eq_ok hread
  obtain ⟨-, rfl⟩ := Prod.mk.inj (Except.ok.inj hread)
  obtain ⟨q, hq⟩ := exists_of_stringLiteral hkey
  obtain ⟨after, hafter⟩ := exists_of_colon hcolon
  obtain ⟨before, s, hs⟩ := h hvalue
  exact exists_member hq hafter hs

/-- The codec of a `dict` reads nothing but sources if the codec of its values does. -/
theorem isGrammatical_dict {value : Codec α} (h : value.IsGrammatical) :
    (dict value).IsGrammatical := fun depth => by
  refine Reader.grammatical_of_token (fun {cs c cs' d rest} hcs hread => ?_) fun hcs hread => ?_
  · simp only [dict, readDict, hcs] at hread
    split at hread
    · rename_i hc
      split at hread
      · cases hread
      · rename_i depth
        obtain ⟨members, last, hmembers⟩ :=
          exists_of_members (grammaticalMember_readEntry (h depth)) hread
        exact ⟨.object members last, by rw [hc, hmembers]; rfl⟩
    · exact absurd hread unsuitable_ne_ok
  · simp only [dict, readDict, hcs] at hread
    cases hread

/-! ## Records -/

section Records

variable {fields : List (Field σ)}

/-- What `readMember` takes is a member, whether a field has its name or its value is passed over.
-/
private theorem grammaticalMember_readMember (h : ∀ f ∈ fields, f.codec.IsGrammatical)
    (depth : Nat) : GrammaticalMember (readMember fields depth) := by
  intro state cs state' rest hread
  obtain ⟨⟨key, cs₁⟩, hkey, hread⟩ := bind_eq_ok hread
  obtain ⟨q, hq⟩ := exists_of_stringLiteral hkey
  -- A name that no field has is not refused: its value is passed over, and that is a source too.
  cases hfind : fields.find? fun f => f.name = key with
  | none =>
    simp only [hfind] at hread
    obtain ⟨cs₂, hcolon, hread⟩ := bind_eq_ok hread
    obtain ⟨⟨_, cs₃⟩, hvalue, hread⟩ := bind_eq_ok hread
    obtain ⟨-, rfl⟩ := Prod.mk.inj (Except.ok.inj hread)
    obtain ⟨after, hafter⟩ := exists_of_colon hcolon
    obtain ⟨before, s, hs⟩ := grammatical_skip hvalue
    exact exists_member hq hafter hs
  | some f =>
    simp only [hfind] at hread
    split at hread
    · cases hread
    · obtain ⟨cs₂, hcolon, hread⟩ := bind_eq_ok hread
      obtain ⟨⟨update, cs₃⟩, hfield, hread⟩ := bind_eq_ok hread
      obtain ⟨⟨a, cs₄⟩, hvalue, hfield⟩ := bind_eq_ok hfield
      obtain ⟨-, rfl⟩ := Prod.mk.inj (Except.ok.inj hfield)
      obtain ⟨-, rfl⟩ := Prod.mk.inj (Except.ok.inj hread)
      obtain ⟨after, hafter⟩ := exists_of_colon hcolon
      obtain ⟨before, s, hs⟩ := h f (List.mem_of_find?_eq_some hfind) depth hvalue
      exact exists_member hq hafter hs

/-- The bracket that `endFields` takes is found behind spaces. -/
private theorem exists_of_endFields {cs rest : List Char} (h : endFields cs = .ok rest) :
    ∃ sp : Spaces, cs = sp.chars ++ ']' :: rest := by
  obtain ⟨sp, hsp⟩ := exists_spaces cs
  refine ⟨sp, hsp.trans ?_⟩
  rw [endFields] at h
  split at h
  · cases h
  · rename_i c cs' hcs
    split at h
    · rename_i hc
      rw [hcs, hc, Except.ok.inj h]
    · split at h <;> cases h

/-- Behind the first item `readFields` takes an item for each field that is left, or finds the
closing bracket. -/
private theorem exists_of_moreFields (h : ∀ f ∈ fields, f.codec.IsGrammatical) (depth : Nat)
    {s s' : σ} {cs unread rest : List Char}
    (hread : readFields depth false fields s cs = .ok (s', unread))
    (hend : endFields unread = .ok rest) :
    ∃ (sp : Spaces) (items : List (Padded Source)) (last : Spaces),
      cs = sp.chars ++ (Source.moreItemsChars items last ++ rest) := by
  obtain ⟨last, hlast⟩ := exists_of_endFields hend
  -- Induction on the fields that are left; the bracket at the end is the one that `hlast` has
  -- found.
  induction fields generalizing s cs with
  | nil =>
    obtain ⟨-, rfl⟩ := Prod.mk.inj (Except.ok.inj hread)
    exact ⟨.empty, [], last, by simp [hlast, Source.moreItemsChars]⟩
  | cons f fields ih =>
    obtain ⟨sp, hsp⟩ := exists_spaces cs
    rw [readFields] at hread
    split at hread
    · cases hread
    · rename_i c cs' hcs
      rw [hcs] at hsp
      simp only [Bool.false_eq_true, if_false] at hread
      split at hread
      · -- All items have been read, and fields are left.
        obtain ⟨-, rfl⟩ := Prod.mk.inj (Except.ok.inj hread)
        exact ⟨sp, [], last, by rw [hsp, hlast]; simp [Source.moreItemsChars]⟩
      · split at hread
        · rename_i hc
          split at hread
          · cases hread
          · obtain ⟨⟨update, cs₁⟩, hfield, hread⟩ := bind_eq_ok hread
            obtain ⟨⟨a, cs₂⟩, hvalue, hfield⟩ := bind_eq_ok hfield
            obtain ⟨-, rfl⟩ := Prod.mk.inj (Except.ok.inj hfield)
            obtain ⟨front, hfront⟩ := exists_spaces cs'
            obtain ⟨before, source, hsource⟩ := h f List.mem_cons_self depth hvalue
            dsimp only at hread
            obtain ⟨after, items, last, hitems⟩ :=
              ih (fun g hg => h g (List.mem_cons_of_mem _ hg)) hread
            refine ⟨sp, ⟨front.append before, source, after⟩ :: items, last, ?_⟩
            rw [hsp, hc, hfront, hsource, hitems]
            simp [Source.moreItemsChars, Spaces.append]
        · cases hread

/-- What `readFields` and `endFields` take behind the opening bracket is the inside of an array and
the bracket that closes it. -/
private theorem exists_of_fields (h : ∀ f ∈ fields, f.codec.IsGrammatical) (depth : Nat)
    {s s' : σ} {cs unread rest : List Char}
    (hread : readFields depth true fields s cs = .ok (s', unread))
    (hend : endFields unread = .ok rest) :
    ∃ (items : List (Padded Source)) (last : Spaces),
      cs = Source.itemsChars items last ++ rest := by
  obtain ⟨last, hlast⟩ := exists_of_endFields hend
  cases fields with
  | nil =>
    obtain ⟨-, rfl⟩ := Prod.mk.inj (Except.ok.inj hread)
    exact ⟨[], last, by simp [hlast, Source.itemsChars]⟩
  | cons f fields =>
    obtain ⟨sp, hsp⟩ := exists_spaces cs
    rw [readFields] at hread
    split at hread
    · cases hread
    · rename_i c cs' hcs
      rw [hcs] at hsp
      -- The closing bracket may come at once, and else the first item does.
      split at hread
      · obtain ⟨-, rfl⟩ := Prod.mk.inj (Except.ok.inj hread)
        exact ⟨[], sp.append last, by rw [hsp, hlast]; simp [Source.itemsChars, Spaces.append]⟩
      · rw [if_pos rfl] at hread
        obtain ⟨⟨update, cs₁⟩, hfield, hread⟩ := bind_eq_ok hread
        obtain ⟨⟨a, cs₂⟩, hvalue, hfield⟩ := bind_eq_ok hfield
        obtain ⟨-, rfl⟩ := Prod.mk.inj (Except.ok.inj hfield)
        dsimp only at hread
        obtain ⟨before, source, hsource⟩ := h f List.mem_cons_self depth hvalue
        obtain ⟨after, items, last, hitems⟩ := exists_of_moreFields
          (fun g hg => h g (List.mem_cons_of_mem _ hg)) depth hread hend
        refine ⟨⟨sp.append before, source, after⟩ :: items, last, ?_⟩
        rw [hsp, hsource, hitems]
        simp [Source.itemsChars, Spaces.append]

/-- The codec of a `record` reads nothing but sources if the codecs of its fields do, whether it is
given as an object or as an array. -/
theorem isGrammatical_record (h : ∀ f ∈ fields, f.codec.IsGrammatical) (type : String) (blank : σ) :
    (record type blank fields).IsGrammatical := fun depth => by
  refine Reader.grammatical_of_token (fun {cs c cs' s rest} hcs hread => ?_) fun hcs hread => ?_
  · -- An object is read member by member, and an array field by field; nothing else is a record.
    simp only [record, readRecord, hcs] at hread
    split at hread
    · rename_i hc
      split at hread
      · cases hread
      · rename_i depth
        obtain ⟨⟨state, unread⟩, hmembers, hread⟩ := bind_eq_ok hread
        obtain ⟨-, rfl⟩ := Prod.mk.inj (Except.ok.inj hread)
        obtain ⟨members, last, hmembers⟩ :=
          exists_of_members (grammaticalMember_readMember h depth) hmembers
        exact ⟨.object members last, by rw [hc, hmembers]; rfl⟩
    split at hread
    · rename_i hc
      split at hread
      · cases hread
      · rename_i depth
        obtain ⟨⟨s, unread⟩, hfields, hread⟩ := bind_eq_ok hread
        obtain ⟨unread', hend, hread⟩ := bind_eq_ok hread
        obtain ⟨-, rfl⟩ := Prod.mk.inj (Except.ok.inj hread)
        obtain ⟨items, last, hitems⟩ := exists_of_fields h depth hfields hend
        exact ⟨.array items last, by rw [hc, hitems]; rfl⟩
    · exact absurd hread unsuitable_ne_ok
  · simp only [record, readRecord, hcs] at hread
    cases hread

end Records

end Codec

end HttpStub
