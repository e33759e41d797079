import HttpStub.Proofs.Json.Source.Tokens
import Mathlib.Data.Option.Basic

/-!
# Readers on sources

A reader takes a source as a whole: spaces in front of it do not matter, and neither does what
follows. An array or object is taken item by item or member by member, so what a reader makes of it
is put together from what it makes of the parts. Documents are read in this way, and any source is
passed over, however deep it is and whatever its numbers are.
-/

namespace HttpStub.Json

variable {α σ : Type}

namespace Source

/-- A proof about all sources goes from the items and values to the arrays and objects. -/
@[elab_as_elim, induction_eliminator]
theorem inductionOn {motive : Source → Prop} (s : Source) (null : motive .null)
    (bool : ∀ b, motive (.bool b)) (number : ∀ n, motive (.number n))
    (string : ∀ q, motive (.string q))
    (array : ∀ items last, (∀ p ∈ items, motive p.body) → motive (.array items last))
    (object : ∀ members last, (∀ m ∈ members, motive m.value.body) →
      motive (.object members last)) : motive s := by
  refine @Source.rec motive (fun items => ∀ p ∈ items, motive p.body)
    (fun members => ∀ m ∈ members, motive m.value.body) (fun p => motive p.body)
    -- The parts of arrays and objects are reached through lists and through what is between spaces.
    (fun m => motive m.value.body) null bool number string array object ?_ ?_ ?_ ?_ ?_ ?_ s
  · simp
  · exact fun _ _ hhead htail => List.forall_mem_cons.2 ⟨hhead, htail⟩
  · simp
  · exact fun _ _ hhead htail => List.forall_mem_cons.2 ⟨hhead, htail⟩
  · exact fun _ _ _ hbody => hbody
  · exact fun _ _ hvalue => hvalue

/-- A source begins with a character that is neither space nor a closing bracket. -/
theorem chars_cons (s : Source) : ∃ c cs, s.chars = c :: cs ∧ isSpace c = false ∧ c ≠ ']' := by
  cases s with
  | null => exact ⟨_, _, rfl, by decide, by decide⟩
  | bool b => cases b <;> exact ⟨_, _, rfl, by decide, by decide⟩
  | string q => exact ⟨_, _, rfl, by decide, by decide⟩
  | array items last => exact ⟨_, _, rfl, by decide, by decide⟩
  | object members last => exact ⟨_, _, rfl, by decide, by decide⟩
  | number n =>
    obtain ⟨c, cs, hcs, -, hspace, -, -, -, -, -, -, hclose⟩ := n.chars_cons
    exact ⟨c, cs, hcs, hspace, hclose⟩

/-- Only the spaces in front of a source are passed over by `skipSpace`. -/
@[simp] theorem skipSpace_chars (s : Source) (rest : List Char) :
    skipSpace (s.chars ++ rest) = s.chars ++ rest := by
  obtain ⟨c, cs, hcs, hc, -⟩ := s.chars_cons
  rw [hcs, List.cons_append, skipSpace_cons hc]

end Source

/-- Spaces delimit a number. -/
theorem Spaces.delimited_append (sp : Spaces) {rest : List Char} (hrest : Delimited rest) :
    Delimited (sp.chars ++ rest) := by
  obtain ⟨chars, areSpaces⟩ := sp
  cases chars with
  | nil => exact hrest
  | cons c cs =>
    intro d hd
    obtain rfl : c = d := by simpa using hd
    have hspace := areSpaces c List.mem_cons_self
    simp only [isSpace, Bool.or_eq_true, decide_eq_true_eq] at hspace
    rcases hspace with ((rfl | rfl) | rfl) | rfl <;> decide

/-! ## Taking a source -/

namespace Reader

/-- What a reader makes of a source, if anything: it has to take all of its characters. -/
def on (read : Reader α) (s : Source) : Option α :=
  match read s.chars with
  | .ok (a, []) => some a
  | _ => none

/-- The reader takes the source off the front of whatever follows it, if that is `Delimited`, with
this result or none. -/
def Takes (read : Reader α) (s : Source) (result : Option α) : Prop :=
  ∀ (before : Spaces) (rest : List Char), Delimited rest →
    (read (before.chars ++ (s.chars ++ rest))).toOption = result.map (·, rest)

/-- What a reader makes of a source, by `Reader.on`, does not depend on what is around it. -/
def Local (read : Reader α) : Prop :=
  ∀ s, read.Takes s (read.on s)

variable {read : Reader α} {s : Source} {result : Option α}

/-- What a reader takes a source with is what it makes of the source alone. -/
theorem Takes.on_eq (h : read.Takes s result) : read.on s = result := by
  -- Nothing stands around the source here, and nothing may be left of it.
  have hread := h .empty [] (by simp [Delimited])
  simp only [Spaces.chars_empty, List.nil_append, List.append_nil] at hread
  unfold on
  cases result with
  | none =>
    cases hcs : read s.chars with
    | error fault => rfl
    | ok r => rw [hcs] at hread; cases hread
  | some a => rw [toOption_eq_some_iff.1 hread]

/-- A reader is `Local` if it takes every source with some result or none. -/
theorem local_of_takes (h : ∀ s, ∃ result, read.Takes s result) : read.Local := by
  intro s
  obtain ⟨result, htakes⟩ := h s
  rwa [htakes.on_eq]

/-- What `Reader.run` makes of a text, if anything, is what the reader makes of the source in it. -/
theorem Local.toOption_run (h : read.Local) (p : Padded Source) :
    (read.run p.text).toOption = read.on p.body := by
  obtain ⟨before, s, after⟩ := p
  -- The spaces behind the source delimit it, and they are all that is left.
  have htake := h s before (after.chars ++ [])
    (after.delimited_append (by simp [Delimited]))
  rw [List.append_nil] at htake
  have hend : skipSpace after.chars = [] := by
    have hspace := skipSpace_append after []
    rwa [List.append_nil] at hspace
  have hmapError {ε ε' : Type} (f : ε → ε') (x : Except ε α) :
      (x.mapError f).toOption = x.toOption := by cases x <;> rfl
  rw [Reader.run, hmapError, Padded.text, String.toList_ofList, toOption_bind_of_eq htake]
  simp [hend]

end Reader

/-! ## What stands behind an item or member -/

/-- Behind an item stands a comma or the closing bracket, so what stands there is `Delimited`. -/
theorem Source.delimited_moreItems (items : List (Padded Source)) (last : Spaces)
    (rest : List Char) : Delimited (moreItemsChars items last ++ rest) := by
  cases items with
  | nil =>
    simp only [moreItemsChars, List.append_assoc]
    refine last.delimited_append fun c hc => ?_
    cases hc
    decide
  | cons p items =>
    intro c hc
    cases hc
    decide

/-- Behind a member stands a comma or the closing brace, so what stands there is `Delimited`. -/
theorem Source.delimited_moreMembers (members : List Member) (last : Spaces)
    (rest : List Char) : Delimited (moreMembersChars members last ++ rest) := by
  cases members with
  | nil =>
    simp only [moreMembersChars, List.append_assoc]
    refine last.delimited_append fun c hc => ?_
    cases hc
    decide
  | cons m members =>
    intro c hc
    cases hc
    decide

/-! ## Arrays -/

/-- There are rounds of `moreItems` enough for the items. -/
private theorem Source.length_lt_moreItems (items : List (Padded Source)) (last : Spaces) :
    items.length < (moreItemsChars items last).length := by
  induction items with
  | nil => simp [moreItemsChars]
  | cons p items ih => simp [moreItemsChars]; omega

section Items

variable (strict : Bool) {read : Reader α} {result : Padded Source → Option α}

/-- Behind an item `moreItems` takes the others, one in a round. -/
private theorem toOption_moreItems (items : List (Padded Source)) (last before : Spaces)
    (h : ∀ p ∈ items, read.Takes p.body (result p)) {rounds : Nat} (hrounds : items.length < rounds)
    (rest : List Char) :
    (moreItems strict read rounds
      (before.chars ++ (Source.moreItemsChars items last ++ rest))).toOption =
      (items.mapM result).map (·, rest) := by
  -- Induction on the items. The closing bracket takes a round as well, so there is always one left.
  induction items generalizing before rounds with
  | nil =>
    obtain ⟨rounds, rfl⟩ := Nat.exists_eq_add_one_of_ne_zero (Nat.ne_zero_of_lt hrounds)
    simp [moreItems, Source.moreItemsChars, skipSpace_cons (show isSpace ']' = false by decide)]
  | cons p items ih =>
    obtain ⟨rounds, rfl⟩ := Nat.exists_eq_add_one_of_ne_zero (Nat.ne_zero_of_lt hrounds)
    obtain ⟨sp, s, after⟩ := p
    have htake := h ⟨sp, s, after⟩ List.mem_cons_self .empty
      (after.chars ++ (Source.moreItemsChars items last ++ rest))
      (after.delimited_append (Source.delimited_moreItems items last rest))
    have hmore := ih after (fun q hq => h q (List.mem_cons_of_mem _ hq))
      (Nat.lt_of_succ_lt_succ hrounds)
    -- No comma stands before the closing bracket.
    obtain ⟨c, cs, hcs, -, hc⟩ := s.chars_cons
    have hhead (tail : List Char) : ((s.chars ++ tail).head? = some ']') = False := by
      simp [hcs, hc]
    simp only [Source.moreItemsChars, List.cons_append, List.append_assoc, moreItems,
      skipSpace_append, skipSpace_cons (show isSpace ',' = false by decide),
      Source.skipSpace_chars, hhead]
    simp only [Spaces.chars_empty, List.nil_append] at htake
    simp [toOption_bind_of_eq htake, toOption_bind_of_eq hmore, Option.map_bind]

/-- The items of an array are taken one by one by `Json.items`, whether it is strict or not. -/
theorem toOption_items (items : List (Padded Source)) (last : Spaces)
    (h : ∀ p ∈ items, read.Takes p.body (result p)) (rest : List Char) :
    (Json.items strict read (Source.itemsChars items last ++ rest)).toOption =
      (items.mapM result).map (·, rest) := by
  cases items with
  | nil =>
    simp [Json.items, Source.itemsChars, skipSpace_cons (show isSpace ']' = false by decide)]
  | cons p items =>
    obtain ⟨sp, s, after⟩ := p
    have htake := h ⟨sp, s, after⟩ List.mem_cons_self .empty
      (after.chars ++ (Source.moreItemsChars items last ++ rest))
      (after.delimited_append (Source.delimited_moreItems items last rest))
    -- As many rounds are allowed as there are characters left.
    have hrounds : items.length <
        (after.chars ++ (Source.moreItemsChars items last ++ rest)).length := by
      have hlt := Source.length_lt_moreItems items last
      simp only [List.length_append]
      omega
    have hmore := toOption_moreItems strict items last after
      (fun q hq => h q (List.mem_cons_of_mem _ hq)) hrounds rest
    obtain ⟨c, cs, hcs, -, hc⟩ := s.chars_cons
    simp only [Spaces.chars_empty, List.nil_append] at htake
    simp only [Source.itemsChars, List.append_assoc, Json.items, skipSpace_append,
      Source.skipSpace_chars]
    rw [hcs, List.cons_append] at htake ⊢
    simp only [if_neg hc, toOption_bind_of_eq htake, toOption_bind_of_eq hmore]
    simp [Option.map_bind]

end Items

/-! ## Objects -/

/-- There are rounds of `moreMembers` enough for the members. -/
private theorem Source.length_lt_moreMembers (members : List Member) (last : Spaces) :
    members.length < (moreMembersChars members last).length := by
  induction members with
  | nil => simp [moreMembersChars]
  | cons m members ih => simp [moreMembersChars]; omega

/-- What follows the quote that opens the key of a member, up to the end of the value. -/
def Source.memberChars (m : Source.Member) : List Char :=
  m.key.body.chars ++ (m.key.after.chars ++ (':' :: (m.value.before.chars ++ m.value.body.chars)))

/-- The reader takes the member, and `step` tells what becomes of what has been gathered. -/
def TakesMember (read : σ → Reader σ) (m : Source.Member) (step : σ → Option σ) : Prop :=
  ∀ (gathered : σ) (rest : List Char), Delimited rest →
    (read gathered (Source.memberChars m ++ rest)).toOption = (step gathered).map (·, rest)

section Members

variable (strict : Bool) {read : σ → Reader σ} {step : σ → Source.Member → Option σ}

/-- Behind a member `moreMembers` takes the others, one in a round. -/
private theorem toOption_moreMembers (members : List Source.Member) (last before : Spaces)
    (h : ∀ m ∈ members, TakesMember read m fun g => step g m) {rounds : Nat}
    (hrounds : members.length < rounds) (gathered : σ) (rest : List Char) :
    (moreMembers strict read rounds gathered
      (before.chars ++ (Source.moreMembersChars members last ++ rest))).toOption =
      (members.foldlM step gathered).map (·, rest) := by
  -- Induction on the members, for whatever has been gathered so far.
  induction members generalizing before rounds gathered with
  | nil =>
    obtain ⟨rounds, rfl⟩ := Nat.exists_eq_add_one_of_ne_zero (Nat.ne_zero_of_lt hrounds)
    simp [moreMembers, Source.moreMembersChars,
      skipSpace_cons (show isSpace '\x7d' = false by decide)]
  | cons m members ih =>
    obtain ⟨rounds, rfl⟩ := Nat.exists_eq_add_one_of_ne_zero (Nat.ne_zero_of_lt hrounds)
    obtain ⟨⟨sp, key, behind⟩, ⟨sp', s, after⟩⟩ := m
    have htake := h _ List.mem_cons_self gathered
      (after.chars ++ (Source.moreMembersChars members last ++ rest))
      (after.delimited_append (Source.delimited_moreMembers members last rest))
    have hmore (g : σ) := ih after (fun m hm => h m (List.mem_cons_of_mem _ hm))
      (Nat.lt_of_succ_lt_succ hrounds) g
    simp only [Source.memberChars, List.append_assoc, List.cons_append] at htake
    simp only [Source.moreMembersChars, List.cons_append, List.append_assoc, moreMembers,
      skipSpace_append, skipSpace_cons (show isSpace ',' = false by decide),
      skipSpace_cons (show isSpace '"' = false by decide)]
    rw [if_neg (by decide), if_pos trivial, if_pos trivial, toOption_bind_of_eq htake]
    simp [hmore, Option.map_bind]

/-- The members of an object are taken one by one by `Json.members`, whether it is strict or not. -/
theorem toOption_members (members : List Source.Member) (last : Spaces)
    (h : ∀ m ∈ members, TakesMember read m fun g => step g m) (start : σ) (rest : List Char) :
    (Json.members strict read start (Source.membersChars members last ++ rest)).toOption =
      (members.foldlM step start).map (·, rest) := by
  cases members with
  | nil =>
    simp [Json.members, Source.membersChars,
      skipSpace_cons (show isSpace '\x7d' = false by decide)]
  | cons m members =>
    obtain ⟨⟨sp, key, behind⟩, ⟨sp', s, after⟩⟩ := m
    have htake := h _ List.mem_cons_self start
      (after.chars ++ (Source.moreMembersChars members last ++ rest))
      (after.delimited_append (Source.delimited_moreMembers members last rest))
    -- As for items, there are as many rounds as characters.
    have hrounds : members.length <
        (after.chars ++ (Source.moreMembersChars members last ++ rest)).length := by
      have hlt := Source.length_lt_moreMembers members last
      simp only [List.length_append]
      omega
    have hmore (g : σ) := toOption_moreMembers strict members last after
      (fun m hm => h m (List.mem_cons_of_mem _ hm)) hrounds g rest
    simp only [Source.memberChars, List.append_assoc, List.cons_append] at htake
    simp only [Source.membersChars, List.cons_append, List.append_assoc, Json.members,
      skipSpace_append, skipSpace_cons (show isSpace '"' = false by decide)]
    rw [if_neg (by decide), if_pos trivial, toOption_bind_of_eq htake]
    simp only [hmore]
    simp [Option.map_bind]

end Members

/-! ## Documents -/

section ValueWith

variable {nested : Reader Json}

/-- The name `null` is taken by `valueWith`. -/
private theorem takes_null : (valueWith nested).Takes .null (some .null) := by
  intro before rest _
  simp [valueWith, Source.chars, skipSpace_cons (show isSpace 'n' = false by decide)]

/-- The names of truth values are taken by `valueWith`. -/
private theorem takes_bool (b : Bool) : (valueWith nested).Takes (.bool b) (some (.bool b)) := by
  intro before rest _
  cases b with
  | true => simp [valueWith, Source.chars, skipSpace_cons (show isSpace 't' = false by decide)]
  | false => simp [valueWith, Source.chars, skipSpace_cons (show isSpace 'f' = false by decide)]

/-- A number is taken by `valueWith`, if it is in range. -/
private theorem takes_number (n : NumberSource) :
    (valueWith nested).Takes (.number n) (n.value?.map .number) := by
  intro before rest hrest
  have hread := toOption_numberLiteral n hrest
  obtain ⟨c, cs, hcs, hmark, hspace, hn, ht, hf, -⟩ := n.chars_cons
  rw [hcs, List.cons_append] at hread
  simp only [valueWith, Source.chars, hcs, List.cons_append, skipSpace_append,
    skipSpace_cons hspace]
  -- The branches for names come first in `valueWith`, and no number begins like a name.
  rw [if_neg hn, if_neg ht, if_neg hf, if_pos (by simpa using hmark), toOption_bind_of_eq hread]
  cases n.value? <;> rfl

/-- A string is taken by `valueWith`, if one is meant. -/
private theorem takes_string (q : Quoted) :
    (valueWith nested).Takes (.string q) (q.value?.map .string) := by
  intro before rest _
  have hread := toOption_stringLiteral q rest
  simp only [valueWith, skipSpace_append, Source.chars, List.cons_append,
    skipSpace_cons (show isSpace '"' = false by decide)]
  rw [if_neg (by decide), if_neg (by decide), if_neg (by decide), if_neg (by decide),
    if_pos trivial, toOption_bind_of_eq hread]
  cases q.value? <;> rfl

/-- A bracket or brace is left by `valueWith` to the nested reader. -/
private theorem valueWith_open (before : Spaces) {c : Char} (hc : c = '[' ∨ c = '\x7b')
    (cs : List Char) : valueWith nested (before.chars ++ c :: cs) = nested (c :: cs) := by
  have hspace : isSpace c = false := by rcases hc with rfl | rfl <;> decide
  simp only [valueWith, skipSpace_append, skipSpace_cons hspace]
  rcases hc with rfl | rfl <;> rfl

end ValueWith

/-- The document that a source is, if no more brackets are open than the limit allows, all strings
in it are meant and all numbers are in range. -/
def Source.json? : Nat → Source → Option Json
  | _, .null => some .null
  | _, .bool b => some (.bool b)
  | _, .number n => n.value?.map .number
  | _, .string q => q.value?.map .string
  | 0, .array _ _ | 0, .object _ _ => none
  | depth + 1, .array items _ => (items.mapM fun p => json? depth p.body).map .array
  | depth + 1, .object members _ =>
    (members.mapM fun (m : MemberOf Source) => m.name?.bind fun key =>
      (json? depth m.value.body).map fun j => (key, j)).map .object

/-- A member is put by `memberWith` in front of those gathered before. -/
private theorem takesMember_memberWith {read : Reader Json} {result : Option Json}
    (m : Source.Member) (hvalue : read.Takes m.value.body result) :
    TakesMember (memberWith read) m fun gathered =>
      (m.name?.bind fun key => result.map fun j => (key, j)).map (· :: gathered) := by
  intro gathered rest hrest
  have hread := hvalue m.value.before rest hrest
  simp only [memberWith, Source.memberChars, List.append_assoc, List.cons_append,
    toOption_bind_of_eq (toOption_stringLiteral m.key.body _), colon_append, ok_bind,
    toOption_bind_of_eq hread]
  simp [MemberOf.name?, Option.map_eq_bind, Option.bind_assoc]

/-- Members that are gathered in front of each other come out in reverse. -/
private theorem foldlM_gather {β : Type} (f : α → Option β) (as : List α) (gathered : List β) :
    as.foldlM (fun gathered a => (f a).map (· :: gathered)) gathered =
      (as.mapM f).map fun bs => bs.reverse ++ gathered := by
  induction as generalizing gathered with
  | nil => rfl
  | cons a as ih =>
    rw [List.foldlM_cons, List.mapM_cons]
    cases f a with
    | none => rfl
    | some b =>
      have hrest := ih (b :: gathered)
      cases hbs : as.mapM f <;> simp_all

/-- Documents are read off sources by `document`, whatever the limit on the open brackets is. -/
theorem takes_document (depth : Nat) (s : Source) : (document depth).Takes s (s.json? depth) := by
  -- Induction on the source, for every limit at once, since the limit is smaller inside brackets.
  induction s generalizing depth with
  | null => cases depth <;> exact takes_null
  | bool b => cases depth <;> exact takes_bool b
  | number n => cases depth <;> exact takes_number n
  | string q => cases depth <;> exact takes_string q
  | array items last ih =>
    intro before rest _
    cases depth with
    | zero => simp [document, Source.chars, Source.json?, valueWith_open]
    | succ depth =>
      -- Inside the brackets one less may be opened.
      have hitems := toOption_items true items last (fun p hp => ih p hp depth) rest
      simp [document, Source.chars, Source.json?, valueWith_open, nestedWith,
        toOption_bind_of_eq hitems, Option.map_eq_bind, Option.bind_assoc]
  | object members last ih =>
    intro before rest _
    cases depth with
    | zero => simp [document, Source.chars, Source.json?, valueWith_open]
    | succ depth =>
      have hmembers := toOption_members true members last
        (fun m hm => takesMember_memberWith m (ih m hm depth)) [] rest
      -- The reader gathers members from the front, so they are put right at the end.
      rw [foldlM_gather] at hmembers
      simp [document, Source.chars, Source.json?, valueWith_open, nestedWith,
        toOption_bind_of_eq hmembers, Option.map_eq_bind, Option.bind_assoc]

/-! ## Passing over a source -/

/-- A member is passed over by `skipMemberWith` if its value is. -/
private theorem takesMember_skipMemberWith {read : Reader Unit} (m : Source.Member)
    (hvalue : read.Takes m.value.body (some ())) :
    TakesMember (skipMemberWith read) m fun _ => some () := by
  intro _ rest hrest
  simp [skipMemberWith, Source.memberChars, skipString_append, colon_append,
    hvalue m.value.before rest hrest]

/-- An item of an array is no longer than what stands behind the opening bracket. -/
private theorem Source.length_le_of_mem_items {items : List (Padded Source)} {p : Padded Source}
    (hp : p ∈ items) (last : Spaces) :
    p.body.chars.length ≤ (itemsChars items last).length := by
  have hmore (items : List (Padded Source)) (h : p ∈ items) :
      p.body.chars.length ≤ (moreItemsChars items last).length := by
    induction items with
    | nil => cases h
    | cons q items ih =>
      rcases List.mem_cons.1 h with rfl | h
      · simp [moreItemsChars]; omega
      · have hle := ih h
        simp [moreItemsChars]; omega
  cases items with
  | nil => cases hp
  | cons q items =>
    rcases List.mem_cons.1 hp with rfl | hp
    · simp [itemsChars]; omega
    · have hle := hmore items hp
      simp [itemsChars]; omega

/-- The value of a member is no longer than what stands behind the opening brace. -/
private theorem Source.length_le_of_mem_members {members : List Member} {m : Member}
    (hm : m ∈ members) (last : Spaces) :
    m.value.body.chars.length ≤ (membersChars members last).length := by
  have hmore (members : List Member) (h : m ∈ members) :
      m.value.body.chars.length ≤ (moreMembersChars members last).length := by
    induction members with
    | nil => cases h
    | cons n members ih =>
      rcases List.mem_cons.1 h with rfl | h
      · obtain ⟨⟨_, _, _⟩, ⟨_, _, _⟩⟩ := m
        simp [moreMembersChars]; omega
      · have hle := ih h
        simp [moreMembersChars]; omega
  cases members with
  | nil => cases hm
  | cons n members =>
    rcases List.mem_cons.1 hm with rfl | hm
    · obtain ⟨⟨_, _, _⟩, ⟨_, _, _⟩⟩ := m
      simp [membersChars]; omega
    · have hle := hmore members hm
      simp [membersChars]; omega

/-- With a limit as large as the source, the source is passed over by `skipWithin`. -/
private theorem takes_skipWithin (s : Source) {depth : Nat} (h : s.chars.length ≤ depth) :
    (skipWithin depth).Takes s (some ()) := by
  -- Induction on the source, for every limit that is as large.
  induction s generalizing depth with
  | null =>
    intro before rest _
    simp [skipWithin, Source.chars, skipSpace_cons (show isSpace 'n' = false by decide)]
  | bool b =>
    intro before rest _
    cases b with
    | true => simp [skipWithin, Source.chars, skipSpace_cons (show isSpace 't' = false by decide)]
    | false => simp [skipWithin, Source.chars, skipSpace_cons (show isSpace 'f' = false by decide)]
  | number n =>
    intro before rest hrest
    have hread := skipNumber_append n hrest
    obtain ⟨c, cs, hcs, hmark, hspace, hn, ht, hf, -⟩ := n.chars_cons
    rw [hcs, List.cons_append] at hread
    rw [skipWithin]
    simp only [Source.chars, hcs, List.cons_append, skipSpace_append, skipSpace_cons hspace]
    rw [if_neg hn, if_neg ht, if_neg hf, if_pos (by simpa using hmark), hread]
    rfl
  | string q =>
    intro before rest _
    simp [skipWithin, Source.chars, skipSpace_cons (show isSpace '"' = false by decide),
      skipString_append]
  | array items last ih =>
    intro before rest _
    rw [Source.chars, List.length_cons] at h
    obtain ⟨depth, rfl⟩ := Nat.exists_eq_add_one_of_ne_zero (Nat.ne_zero_of_lt h)
    -- The bracket is a character of the source, so it pays for the level that is gone.
    have hdepth : ∀ p ∈ items, p.body.chars.length ≤ depth := fun p hp =>
      Nat.le_trans (Source.length_le_of_mem_items hp last) (Nat.le_of_succ_le_succ h)
    have hitems := toOption_items false items last (fun p hp => ih p hp (hdepth p hp)) rest
    -- Nothing is kept of the items.
    have hsome : (items.mapM fun _ => some ()) = some (items.map fun _ => ()) :=
      List.mapM_pure
    simp [skipWithin, Source.chars, skipSpace_cons (show isSpace '[' = false by decide),
      toOption_bind_of_eq hitems, hsome]
  | object members last ih =>
    intro before rest _
    rw [Source.chars, List.length_cons] at h
    obtain ⟨depth, rfl⟩ := Nat.exists_eq_add_one_of_ne_zero (Nat.ne_zero_of_lt h)
    have hdepth : ∀ m ∈ members, m.value.body.chars.length ≤ depth := fun m hm =>
      Nat.le_trans (Source.length_le_of_mem_members hm last) (Nat.le_of_succ_le_succ h)
    have hmembers := toOption_members false members last
      (fun m hm => takesMember_skipMemberWith m (ih m hm (hdepth m hm))) () rest
    have hsome : (members.foldlM (fun _ _ => some ()) ()) = some () :=
      List.foldlM_pure
    simp [skipWithin, Source.chars, skipSpace_cons (show isSpace '\x7b' = false by decide),
      hmembers, hsome]

/-- Any source is passed over by `skip`. -/
theorem takes_skip (s : Source) : skip.Takes s (some ()) := by
  intro before rest hrest
  refine takes_skipWithin s ?_ before rest hrest
  simp only [List.length_append]
  omega

end HttpStub.Json
