import HttpStub.Proofs.Journal.Grammar
import HttpStub.Proofs.Json.Members
import HttpStub.Proofs.Json.Source.OfJson

/-!
# Lawful codecs

A codec is lawful if what it writes is read back, as a text as well as a value. Scalars are lawful,
and lists, dictionaries and records are so if their parts are. The number of brackets that are open
at a time in what is written goes with it, as a reader has to allow them.
-/

namespace HttpStub

open Json

namespace Codec

variable {α σ : Type}

/-- Nothing but sources is read, and each of them as a whole. What is written is whole and opens at
most `nesting` brackets at a time; it is read back where so many are allowed, and from its canonical
form too. -/
structure Lawful (codec : Codec α) (nesting : Nat) : Prop where
  isGrammatical : codec.IsGrammatical
  isLocal : codec.IsLocal
  isWhole : ∀ a, (codec.write a).isWhole = true
  nesting_le : ∀ a, (codec.write a).nesting ≤ nesting
  on_write : ∀ a depth, nesting ≤ depth →
    (codec.read depth).on (.ofJson (codec.write a)) = some a
  ofJson_canonical : ∀ a, codec.ofJson (codec.write a).canonical = .ok a

/-! ## Scalars -/

/-- The codec `Codec.string` is lawful, and what it writes opens no bracket. -/
@[simp] theorem lawful_string (n : Nat) : string.Lawful n where
  isGrammatical := isGrammatical_string
  isLocal := isLocal_string
  isWhole _ := rfl
  nesting_le _ := Nat.zero_le n
  on_write s _ _ := (takes_readString _).on_eq.trans (Quoted.value?_ofString s)
  ofJson_canonical _ := rfl

/-- The codec `Codec.bool` is lawful, and what it writes opens no bracket. -/
@[simp] theorem lawful_bool (n : Nat) : bool.Lawful n where
  isGrammatical := isGrammatical_bool
  isLocal := isLocal_bool
  isWhole _ := rfl
  nesting_le _ := Nat.zero_le n
  on_write _ _ _ := (takes_readBool _).on_eq
  ofJson_canonical _ := rfl

/-- An `Int64` is an integer that `Data.fitsWord`. -/
theorem fitsWord_toInt (w : Int64) : Data.fitsWord w.toInt = true := by
  have hlow := w.le_toInt
  have hhigh := w.toInt_lt
  simp only [Data.fitsWord, Bool.and_eq_true, decide_eq_true_eq]
  omega

/-- Of the numbers a signed word is only read by `word?` from the integer that it is. -/
theorem word?_eq_ok_iff {n : Number} {w : Int64} : word? n = .ok w ↔ n = .int w.toInt := by
  have hlow := w.le_toInt
  have hhigh := w.toInt_lt
  cases n with
  | float x => simp [word?]
  | int n =>
    rw [word?, Number.int.injEq]
    -- Both bounds are those of a word of 64 bits.
    split
    · rename_i hbounds
      have hvalue : (Int64.ofInt n).toInt = n := Int64.toInt_ofInt_of_le hbounds.1 hbounds.2
      rw [Except.ok.injEq, ← Int64.toInt_inj, hvalue]
    · simp only [reduceCtorEq, false_iff]
      omega

/-- The codec `Codec.word` is lawful, and what it writes opens no bracket. -/
@[simp] theorem lawful_word (n : Nat) : word.Lawful n where
  isGrammatical := isGrammatical_word
  isLocal := isLocal_word
  isWhole := fitsWord_toInt
  nesting_le _ := Nat.zero_le n
  on_write w _ _ := by
    refine (takes_readWord _).on_eq.trans ?_
    have hvalue := NumberSource.value?_ofInt (fitsWord_toInt w)
    have hword := toOption_eq_some_iff.2 (word?_eq_ok_iff.2 (rfl : Number.int w.toInt = _))
    simp [signedWord?, word, Json.int, Source.ofJson, hvalue, hword]
  ofJson_canonical _ := word?_eq_ok_iff.2 rfl

/-! ## Logged values -/

/-- Texts that are written as strings are read by `LoggedValue.texts?`. -/
private theorem texts?_map (texts : List String) :
    LoggedValue.texts? (texts.map .string) = some texts := by
  induction texts with
  | nil => rfl
  | cons s texts ih => rw [List.map_cons, LoggedValue.texts?, ih]; rfl

/-- A single text and a list of texts are told apart by `LoggedValue.ofJson`. -/
private theorem ofJson_toJson (v : LoggedValue) : LoggedValue.ofJson v.toJson = .ok v := by
  cases v with
  | single s => rfl
  | multiple texts =>
    simp [LoggedValue.ofJson, LoggedValue.ofJson?, LoggedValue.toJson, strings, texts?_map]

/-- There are no numbers in a `LoggedValue`. -/
private theorem isWhole_toJson (v : LoggedValue) : v.toJson.isWhole = true := by
  cases v with
  | single s => rfl
  | multiple texts => simp [LoggedValue.toJson, strings, isWhole, areWhole_iff]

/-- A `LoggedValue` is a text, or a list of texts. -/
private theorem nesting_toJson_le (v : LoggedValue) : v.toJson.nesting ≤ 1 := by
  cases v with
  | single s => simp [LoggedValue.toJson, nesting]
  | multiple texts =>
    refine Nat.succ_le_succ (nestingItems_le_iff.2 fun j hj => ?_)
    obtain ⟨s, -, rfl⟩ := List.mem_map.1 hj
    exact Nat.le_refl 0

/-- There is nothing to sort in a `LoggedValue`. -/
private theorem canonical_toJson (v : LoggedValue) : v.toJson.canonical = v.toJson := by
  cases v with
  | single s => rfl
  | multiple texts =>
    simp [LoggedValue.toJson, strings, canonical, canonicalItems_eq_map, Function.comp_def]

/-- The codec of logged values is lawful, and what it writes opens one bracket at most. -/
@[simp] theorem lawful_loggedValue (n : Nat) : LoggedValue.codec.Lawful (n + 1) where
  isGrammatical := isGrammatical_loggedValue
  isLocal := isLocal_loggedValue
  isWhole := isWhole_toJson
  nesting_le v := Nat.le_trans (nesting_toJson_le v) (Nat.le_add_left 1 n)
  on_write v depth hdepth := by
    -- A list of texts takes one level, and there is one.
    have hnesting : v.toJson.nesting ≤ depth := Nat.le_trans (nesting_toJson_le v) (by omega)
    refine (takes_loggedValue depth _).on_eq.trans ?_
    have hdocument := Source.json?_ofJson _ (isWhole_toJson v) depth hnesting
    simp [LoggedValue.codec, hdocument, ofJson_toJson]
  ofJson_canonical v := by
    simp [LoggedValue.codec, canonical_toJson, ofJson_toJson]

/-! ## Lists and dictionaries -/

variable {n : Nat}

/-- `List.mapM` reads back together all that is read back one by one. -/
private theorem mapM_eq_some {β : Type} {f : β → Option α} (write : α → β)
    (h : ∀ a, f (write a) = some a) (as : List α) : (as.map write).mapM f = some as := by
  induction as with
  | nil => rfl
  | cons a as ih => simp [h, ih]

/-- `mapM_eq_some` for readers that tell why they fail. -/
private theorem mapM_eq_ok {ε β : Type} {f : β → Except ε α} (write : α → β)
    (h : ∀ a, f (write a) = .ok a) (as : List α) : (as.map write).mapM f = .ok as := by
  induction as with
  | nil => rfl
  | cons a as ih => simp [h, ih]

/-- The codec of a `list` is `Lawful` if that of its items is; the list opens one bracket more. -/
@[simp] theorem lawful_list {item : Codec α} (h : item.Lawful n) : (list item).Lawful (n + 1) where
  isGrammatical := isGrammatical_list h.isGrammatical
  isLocal := isLocal_list h.isLocal
  isWhole as := areWhole_iff.2 fun j hj => by
    obtain ⟨a, -, rfl⟩ := List.mem_map.1 hj
    exact h.isWhole a
  nesting_le as := Nat.succ_le_succ (nestingItems_le_iff.2 fun j hj => by
    obtain ⟨a, -, rfl⟩ := List.mem_map.1 hj
    exact h.nesting_le a)
  on_write as depth hdepth := by
    -- A list takes one level, so at least one is there.
    obtain ⟨depth, rfl⟩ := Nat.exists_eq_add_one_of_ne_zero (Nat.ne_zero_of_lt hdepth)
    have hon := (takes_readList h.isLocal (depth + 1) (.ofJson ((list item).write as))).on_eq
    refine hon.trans ?_
    simp only [list, Source.ofJson, Source.itemsOfJson_eq_map, List.map_map, list?]
    exact mapM_eq_some (f := fun p : Padded Source => (item.read depth).on p.body)
      (fun a => ⟨.empty, .ofJson (item.write a), .empty⟩)
      (fun a => h.on_write a depth (Nat.le_of_succ_le_succ hdepth)) as
  ofJson_canonical as := by
    have hitems := mapM_eq_ok _ h.ofJson_canonical as
    simpa [list, canonical, canonicalItems_eq_map, Function.comp_def] using hitems

/-- The dictionary of the entries that `Dict.insert` puts in one after the other. -/
private theorem foldl_insert (es : List (String × α)) (start : Dict α) :
    (es.foldl (fun d e => d.insert e.1 e.2) start).entries =
      es.foldl (fun sorted e => Entries.insert e.1 e.2 sorted) start.entries := by
  induction es generalizing start with
  | nil => rfl
  | cons e es ih => exact ih (start.insert e.1 e.2)

/-- A dictionary is made again by `insert` of its own entries. -/
private theorem foldl_insert_entries (d : Dict α) :
    d.entries.foldl (fun d e => d.insert e.1 e.2) .empty = d :=
  (Dict.ext_entries (foldl_insert d.entries .empty)).trans (Dict.ofList_entries d)

/-- The entries that are written are put in again by `insert?`. -/
private theorem foldlM_insert? {value : Source → Option α} {write : α → Json}
    (h : ∀ a, value (.ofJson (write a)) = some a) (es : List (String × α)) (start : Dict α) :
    (es.map fun e => Source.memberOfJson (e.1, write e.2)).foldlM (insert? value) start =
      some (es.foldl (fun d e => d.insert e.1 e.2) start) := by
  -- Induction on the entries, for every dictionary that they are put into.
  induction es generalizing start with
  | nil => rfl
  | cons e es ih =>
    have hentry : insert? value start (Source.memberOfJson (e.1, write e.2)) =
        some (start.insert e.1 e.2) := by
      simp [insert?, MemberOf.name?, Source.memberOfJson, h]
    rw [List.map_cons, List.foldlM_cons, hentry]
    exact ih (start.insert e.1 e.2)

/-- The codec of a `dict` is `Lawful` if that of its values is; the dictionary opens one bracket
more. -/
@[simp] theorem lawful_dict {value : Codec α} (h : value.Lawful n) :
    (dict value).Lawful (n + 1) where
  isGrammatical := isGrammatical_dict h.isGrammatical
  isLocal := isLocal_dict h.isLocal
  isWhole d := membersWhole_iff.2 fun m hm => by
    obtain ⟨e, -, rfl⟩ := List.mem_map.1 hm
    exact h.isWhole e.2
  nesting_le d := Nat.succ_le_succ (nestingMembers_le_iff.2 fun m hm => by
    obtain ⟨e, -, rfl⟩ := List.mem_map.1 hm
    exact h.nesting_le e.2)
  on_write d depth hdepth := by
    obtain ⟨depth, rfl⟩ := Nat.exists_eq_add_one_of_ne_zero (Nat.ne_zero_of_lt hdepth)
    have hon := (takes_readDict h.isLocal (depth + 1) (.ofJson ((dict value).write d))).on_eq
    refine hon.trans ?_
    simp only [dict, ofDict, Source.ofJson, Source.membersOfJson_eq_map, List.map_map, dict?]
    have hvalue (a : α) := h.on_write a depth (Nat.le_of_succ_le_succ hdepth)
    exact (foldlM_insert? hvalue d.entries .empty).trans (congrArg some (foldl_insert_entries d))
  ofJson_canonical d := by
    -- The keys of a dictionary increase already.
    have hsorted := Entries.sort_of_ascending (d.map fun a => (value.write a).canonical).ascending
    have hentries := mapM_eq_ok (f := fun m : String × Json => do
        return (m.1, ← value.ofJson m.2))
      (fun e : String × α => (e.1, (value.write e.2).canonical))
      (fun e => by simp [h.ofJson_canonical]) d.entries
    rw [Dict.entries_map] at hsorted
    simp only [dict, ofDict, canonical, canonicalMembers_eq_map, List.map_map, Function.comp_def,
      hsorted]
    rw [hentries, ok_bind, Dict.ofList_entries]
    rfl

/-! ## Records -/

section Records

variable {fields : List (Field σ)}

/-- Members of a value are put into a record by `ofMembers` as those of a source are by
`Field.put?`. -/
private theorem toOption_ofMembers (ms : List (String × Json)) (s : σ) (seen : List String) :
    (ofMembers fields seen s ms).toOption =
      (ms.foldlM (Field.put? fields (fun m => some m.1)
        fun f m => (f.codec.ofJson m.2).toOption) (s, seen)).map Prod.fst := by
  -- Induction on the members, with the names seen so far as part of the state.
  induction ms generalizing s seen with
  | nil => rfl
  | cons m ms ih =>
    obtain ⟨key, j⟩ := m
    rw [List.foldlM_cons, ofMembers]
    cases hfind : fields.find? fun f => f.name = key with
    | none => simp [Field.put?, hfind, ih]
    | some f =>
      by_cases hseen : key ∈ seen
      · simp [Field.put?, hfind, hseen]
      · cases hvalue : f.codec.ofJson j <;>
          simp [Field.put?, Field.ofJson, hfind, hseen, hvalue, ih]

/-- The codec of a `record` is `Lawful` if those of its fields are; the record opens one bracket
more. -/
theorem lawful_record (hfields : Field.Lawful fields) (h : ∀ f ∈ fields, f.codec.Lawful n)
    (type : String) (blank : σ) : (record type blank fields).Lawful (n + 1) where
  isGrammatical := isGrammatical_record (fun f hf => (h f hf).isGrammatical) type blank
  isLocal := isLocal_record (fun f hf => (h f hf).isLocal) type blank
  isWhole s := membersWhole_iff.2 fun m hm => by
    obtain ⟨f, hf, rfl⟩ := List.mem_map.1 hm
    exact (h f hf).isWhole _
  nesting_le s := Nat.succ_le_succ (nestingMembers_le_iff.2 fun m hm => by
    obtain ⟨f, hf, rfl⟩ := List.mem_map.1 hm
    exact (h f hf).nesting_le _)
  on_write s depth hdepth := by
    obtain ⟨depth, rfl⟩ := Nat.exists_eq_add_one_of_ne_zero (Nat.ne_zero_of_lt hdepth)
    have hon := (takes_readRecord (fun f hf => (h f hf).isLocal) type blank (depth + 1)
      (.ofJson ((record type blank fields).write s))).on_eq
    refine hon.trans ?_
    simp only [record, Source.ofJson, Source.membersOfJson_eq_map, List.map_map, record?]
    -- There is just one member for each field, and its value is read back by the codec of the
    -- field.
    refine Field.putAll?_members hfields (List.Perm.refl _) (fun f _ => ?_) fun f hf => ?_
    · exact Quoted.value?_ofString f.name
    · exact (h f hf).on_write (f.get s) depth (Nat.le_of_succ_le_succ hdepth)
  ofJson_canonical s := by
    have hcanonical : canonicalMembers (fields.map fun f => (f.name, f.write s)) =
        fields.map fun f => (f.name, (f.write s).canonical) := by
      rw [canonicalMembers_eq_map, List.map_map]
      rfl
    have hnames : ((fields.map fun f => (f.name, (f.write s).canonical)).map Prod.fst).Nodup := by
      rw [List.map_map]
      exact hfields.names
    -- Sorting brings the members into another order, which does not matter.
    have hperm := (Entries.sort_perm hnames).symm
    simp only [record, canonical, hcanonical]
    rw [← toOption_eq_some_iff, toOption_ofMembers]
    refine Field.putAll?_members hfields hperm (fun f _ => rfl) fun f hf => ?_
    exact toOption_eq_some_iff.2 ((h f hf).ofJson_canonical (f.get s))

end Records

/-! ## Reading back -/

namespace Lawful

variable {codec : Codec α}

/-- A text that a `Lawful` codec reads is one of the grammar. -/
theorem exists_source (h : codec.Lawful n) {text : String} {a : α}
    (hread : codec.decode text = .ok a) : ∃ p : Padded Source, p.text = text :=
  Reader.Grammatical.exists_of_run (h.isGrammatical maxDepth) hread

/-- The text of a value is read by `Codec.decode` as this value, if `maxDepth` brackets are enough
for it. -/
theorem decode_text (h : codec.Lawful n) (hn : n ≤ maxDepth) (a : α) :
    codec.decode (codec.text a) = .ok a := by
  have hrun := (h.isLocal maxDepth).toOption_run ⟨.empty, .ofJson (codec.write a), .empty⟩
  rw [h.on_write a maxDepth hn, Source.text_ofJson (h.isWhole a)] at hrun
  exact toOption_eq_some_iff.1 hrun

/-- The JSON value that is written for it is read back by `Codec.ofJson` too. -/
theorem ofJson_toValue (h : codec.Lawful n) (a : α) :
    codec.ofJson (codec.write a).toValue.json = .ok a :=
  h.ofJson_canonical a

end Lawful

end Codec

end HttpStub
