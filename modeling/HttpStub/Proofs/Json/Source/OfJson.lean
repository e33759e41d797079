import HttpStub.Json.Text
import HttpStub.Proofs.Json.Source.Reading
import HttpStub.Proofs.Json.Whole

/-!
# The source of a document

A document is written as a source without spaces: strings with an escape where one is needed, and
integers in decimal digits. What a reader makes of it is then told by what it makes of the parts.
-/

namespace HttpStub.Json

/-! ## Strings -/

/-- How a character is written in a string; the choices are those of `escapeChar`. -/
def Glyph.ofChar (c : Char) : Glyph :=
  if hquote : c = '"' then .letter '"' '"' rfl
  else if hslash : c = '\\' then .letter '\\' '\\' rfl
  else if c = '\x08' then .letter 'b' '\x08' rfl
  else if c = '\t' then .letter 't' '\t' rfl
  else if c = '\n' then .letter 'n' '\n' rfl
  else if c = '\x0c' then .letter 'f' '\x0c' rfl
  else if c = '\r' then .letter 'r' '\r' rfl
  else if hcontrol : c.toNat < 0x20 then
    .unit '0' '0' (hexDigit (c.toNat / 16)) (hexDigit (c.toNat % 16)) c.toNat
      (hexValue4?_hexDigit hcontrol)
  else .plain c ⟨hquote, hslash, Nat.le_of_not_lt hcontrol⟩

/-- The glyph of a character is written as `escapeChar` writes the character. -/
theorem Glyph.chars_ofChar (c : Char) : (Glyph.ofChar c).chars = escapeChar c := by
  -- Both definitions ask the same questions in the same order.
  unfold ofChar escapeChar
  repeat' split
  all_goals rfl

namespace Quoted

/-- How a string is written. -/
def ofString (s : String) : Quoted :=
  ⟨s.toList.map Glyph.ofChar⟩

/-- The characters of `Quoted.ofString` are those that `escapeChar` writes, and the closing quote.
-/
theorem chars_ofString (s : String) :
    (ofString s).chars = s.toList.flatMap escapeChar ++ ['"'] := by
  simp [ofString, chars, List.flatMap_map, Glyph.chars_ofChar]

/-- However `Glyph.ofChar` writes a character, it is what is meant. -/
private theorem glyphsValue?_ofChar (c : Char) (gs : List Glyph) :
    glyphsValue? (Glyph.ofChar c :: gs) = (glyphsValue? gs).map (c :: ·) := by
  unfold Glyph.ofChar
  repeat' split
  -- Seven characters have an escape by letter.
  iterate 7 · subst_vars; rfl
  · rename_i hcontrol
    -- A control character is no half of a surrogate pair.
    have htrail : isTrailing c.toNat = false := by simp [isTrailing]; omega
    have hlead : isLeading c.toNat = false := by simp [isLeading]; omega
    rw [glyphsValue?.eq_def]
    simp [htrail, hlead, Char.ofNat_toNat]
  · rfl

/-- The string that `Quoted.ofString` means is the one that was written. -/
@[simp] theorem value?_ofString (s : String) : (ofString s).value? = some s := by
  have hglyphs (cs : List Char) : glyphsValue? (cs.map Glyph.ofChar) = some cs := by
    induction cs with
    | nil => rfl
    | cons c cs ih => rw [List.map_cons, glyphsValue?_ofChar, ih]; rfl
  simp [value?, ofString, hglyphs]

end Quoted

/-! ## Numbers -/

namespace NumberSource

/-- How an integer is written. -/
def ofInt (n : Int) : NumberSource where
  negative := n < 0
  whole := ⟨natChars n.natAbs, natChars_ne_nil _, fun _ => isDigit_of_mem_natChars⟩
  eq_nil_of_zero := by
    intro ds hds
    have hds : natChars n.natAbs = '0' :: ds := hds
    -- The digits of a positive number begin with one that is not zero.
    by_cases hn : 0 < n.natAbs
    · obtain ⟨d, tail, htail, hd⟩ := natChars_of_pos hn
      rw [htail] at hds
      exact absurd (List.cons.inj hds).1 hd
    · obtain rfl : n = 0 := by omega
      exact (List.cons.inj hds).2.symm
  fraction := none
  exponent := none

/-- The characters of `NumberSource.ofInt` are those that `intChars` writes. -/
theorem chars_ofInt (n : Int) : (ofInt n).chars = intChars n := by
  by_cases hn : n < 0 <;> simp [ofInt, chars, fractionChars, exponentChars, intChars, hn]

/-- The value of `NumberSource.ofInt` is the integer that was written, if it fits a word. -/
theorem value?_ofInt {n : Int} (hn : Data.fitsWord n = true) : (ofInt n).value? = some (.int n) :=
  toOption_eq_some_iff.2 (NumberLiteral.value_natChars hn)

end NumberSource

/-! ## Documents -/

/-- What `itemChars` writes behind an item, up to the closing bracket. -/
def itemTail : List Json → List Char
  | [] => [']']
  | j :: js => ',' :: (j.chars ++ itemTail js)

/-- The items that `itemChars` writes are the first one and `itemTail` of the others. -/
theorem itemChars_cons (j : Json) (js : List Json) :
    itemChars (j :: js) = j.chars ++ itemTail js := by
  -- Induction on the other items, for every first one.
  induction js generalizing j with
  | nil => rfl
  | cons k js ih => rw [itemChars, ih, itemTail]

/-- What `memberChars` writes behind a member, up to the closing brace. -/
def memberTail : List (String × Json) → List Char
  | [] => ['\x7d']
  | (key, j) :: ms => ',' :: (quote key ++ ':' :: (j.chars ++ memberTail ms))

/-- The members that `memberChars` writes are the first one and `memberTail` of the others. -/
theorem memberChars_cons (key : String) (j : Json) (ms : List (String × Json)) :
    memberChars ((key, j) :: ms) = quote key ++ ':' :: (j.chars ++ memberTail ms) := by
  induction ms generalizing key j with
  | nil => simp [memberChars, memberTail]
  | cons m ms ih => simp [memberChars, memberTail, ih]

/-- A quoted string is the opening quote and the characters of its `Quoted.ofString`. -/
theorem quote_eq (s : String) : quote s = '"' :: (Quoted.ofString s).chars := by
  rw [Quoted.chars_ofString]
  rfl

namespace Source

mutual

/-- How a document is written; a double, which is not written exactly, is left out. -/
def ofJson : Json → Source
  | .null => .null
  | .bool b => .bool b
  | .number (.int n) => .number (.ofInt n)
  | .number (.float _) => .null
  | .string s => .string (.ofString s)
  | .array js => .array (itemsOfJson js) .empty
  | .object ms => .object (membersOfJson ms) .empty

/-- How items are written. -/
def itemsOfJson : List Json → List (Padded Source)
  | [] => []
  | j :: js => ⟨.empty, ofJson j, .empty⟩ :: itemsOfJson js

/-- How members are written. -/
def membersOfJson : List (String × Json) → List Member
  | [] => []
  | (key, j) :: ms =>
    ⟨⟨.empty, .ofString key, .empty⟩, ⟨.empty, ofJson j, .empty⟩⟩ :: membersOfJson ms

end

/-- How a member is written. -/
def memberOfJson (m : String × Json) : Member :=
  ⟨⟨.empty, .ofString m.1, .empty⟩, ⟨.empty, ofJson m.2, .empty⟩⟩

/-- The items of `itemsOfJson` are written one by one. -/
theorem itemsOfJson_eq_map (js : List Json) :
    itemsOfJson js = js.map fun j => ⟨.empty, ofJson j, .empty⟩ := by
  induction js with
  | nil => rfl
  | cons j js ih => rw [itemsOfJson, ih, List.map_cons]

/-- The members of `membersOfJson` are written one by one, each by `memberOfJson`. -/
theorem membersOfJson_eq_map (ms : List (String × Json)) :
    membersOfJson ms = ms.map memberOfJson := by
  induction ms with
  | nil => rfl
  | cons m ms ih => obtain ⟨key, j⟩ := m; rw [membersOfJson, ih, List.map_cons]; rfl

mutual

/-- The characters of `ofJson` are those of the document's text. Mutual recursion on the document,
its items and its members. -/
theorem chars_ofJson : (j : Json) → j.isWhole = true → (ofJson j).chars = j.chars
  | .null, _ => rfl
  | .bool true, _ => rfl
  | .bool false, _ => rfl
  | .number (.int n), _ => NumberSource.chars_ofInt n
  -- A double has been left out, and a whole document has none.
  | .number (.float _), h => by cases h
  | .string s, _ => (quote_eq s).symm
  | .array [], _ => rfl
  | .array (j :: js), h => by
    simp only [isWhole, areWhole, Bool.and_eq_true] at h
    simp only [ofJson, itemsOfJson, chars, itemsChars, Spaces.chars_empty, List.nil_append,
      Json.chars, itemChars_cons, chars_ofJson j h.1, moreItemsChars_ofJson js h.2]
  | .object [], _ => rfl
  | .object ((key, j) :: ms), h => by
    simp only [isWhole_object, membersWhole_cons, Bool.and_eq_true] at h
    simp only [ofJson, membersOfJson, chars, membersChars, Spaces.chars_empty, List.nil_append,
      Json.chars, memberChars_cons, quote_eq, List.cons_append, chars_ofJson j h.1,
      moreMembersChars_ofJson ms h.2]

/-- The items behind another one are written as `itemTail` writes them. -/
theorem moreItemsChars_ofJson : (js : List Json) → areWhole js = true →
    moreItemsChars (itemsOfJson js) .empty = itemTail js
  | [], _ => rfl
  | j :: js, h => by
    simp only [areWhole, Bool.and_eq_true] at h
    simp only [itemsOfJson, moreItemsChars, Spaces.chars_empty, List.nil_append, itemTail,
      chars_ofJson j h.1, moreItemsChars_ofJson js h.2]

/-- The members behind another one are written as `memberTail` writes them. -/
theorem moreMembersChars_ofJson : (ms : List (String × Json)) → membersWhole ms = true →
    moreMembersChars (membersOfJson ms) .empty = memberTail ms
  | [], _ => rfl
  | (key, j) :: ms, h => by
    simp only [membersWhole_cons, Bool.and_eq_true] at h
    simp only [membersOfJson, moreMembersChars, Spaces.chars_empty, List.nil_append, memberTail,
      quote_eq, List.cons_append, chars_ofJson j h.1, moreMembersChars_ofJson ms h.2]

end

/-- Without spaces around it, `ofJson` is the document's text. -/
theorem text_ofJson {j : Json} (hj : j.isWhole = true) :
    (Padded.mk Spaces.empty (ofJson j) Spaces.empty).text = j.text := by
  simp [Padded.text, chars_ofJson j hj, Json.text]

/-! ## Reading back -/

mutual

/-- The source of a document is read by `json?` as the document again, if its brackets are allowed.
-/
theorem json?_ofJson : (j : Json) → j.isWhole = true → (depth : Nat) → j.nesting ≤ depth →
    (ofJson j).json? depth = some j
  | .null, _, depth, _ => by cases depth <;> rfl
  | .bool b, _, depth, _ => by cases depth <;> rfl
  | .number (.int n), hj, depth, _ => by
    cases depth <;> simp [ofJson, json?, NumberSource.value?_ofInt hj]
  | .number (.float _), hj, _, _ => by cases hj
  | .string s, _, depth, _ => by cases depth <;> simp [ofJson, json?]
  | .array js, hj, depth, hdepth => by
    -- There is a level left for the items, since the brackets take one.
    obtain ⟨depth, rfl⟩ := Nat.exists_eq_add_one_of_ne_zero (Nat.ne_zero_of_lt hdepth)
    have hitems := mapM_itemsOfJson js hj depth (Nat.le_of_succ_le_succ hdepth)
    simp [ofJson, json?, hitems]
  | .object ms, hj, depth, hdepth => by
    -- The same for the members.
    obtain ⟨depth, rfl⟩ := Nat.exists_eq_add_one_of_ne_zero (Nat.ne_zero_of_lt hdepth)
    have hmembers := mapM_membersOfJson ms hj depth (Nat.le_of_succ_le_succ hdepth)
    simp [ofJson, json?, hmembers]

/-- The sources of items are read back as these items; they have one level less. -/
theorem mapM_itemsOfJson : (js : List Json) → areWhole js = true → (depth : Nat) →
    nestingItems js ≤ depth → ((itemsOfJson js).mapM fun p => p.body.json? depth) = some js
  | [], _, _, _ => rfl
  | j :: js, hjs, depth, hdepth => by
    simp only [areWhole, Bool.and_eq_true] at hjs
    simp only [nestingItems, Nat.max_le] at hdepth
    simp [itemsOfJson, json?_ofJson j hjs.1 depth hdepth.1,
      mapM_itemsOfJson js hjs.2 depth hdepth.2]

/-- The sources of members are read back as these members, key by key and value by value. -/
theorem mapM_membersOfJson : (ms : List (String × Json)) → membersWhole ms = true →
    (depth : Nat) → nestingMembers ms ≤ depth →
    ((membersOfJson ms).mapM fun (m : Member) => m.name?.bind fun key =>
      (m.value.body.json? depth).map fun j => (key, j)) = some ms
  | [], _, _, _ => rfl
  | (key, j) :: ms, hms, depth, hdepth => by
    simp only [membersWhole, Bool.and_eq_true] at hms
    simp only [nestingMembers, Nat.max_le] at hdepth
    have hname : (⟨⟨.empty, .ofString key, .empty⟩, ⟨.empty, ofJson j, .empty⟩⟩ : Member).name? =
        some key := Quoted.value?_ofString key
    simp [membersOfJson, hname, json?_ofJson j hms.1 depth hdepth.1,
      mapM_membersOfJson ms hms.2 depth hdepth.2]

end

end Source

end HttpStub.Json
