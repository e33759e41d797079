import HttpStub.Proofs.Admin.Outcome
import HttpStub.Proofs.Journal.Edits

/-!
# Verified counts

The number of requests is verified by a count that the server reports. What is read as a count is
told here by the text alone: an object reports its only `count`, and as all members of a record may
be missing and a record may also be an array of its fields in their order, one without `count`
reports zero, and so does an empty array, while an array of one integer reports this integer.
Nothing else is a count, and the verdict is favourable if and only if the expected one is reported
under the status for success.
-/

namespace HttpStub

open Json

/-! ## Integers -/

/-- The source is the integer in decimal digits: without fraction and exponent, and with a minus
only in front of a negative one. -/
def Json.Source.IsInteger : Source → Int → Prop
  | .number s, n => s.fraction = none ∧ s.exponent = none ∧ s.negative = decide (n < 0) ∧
      Nat.ofDigitChars 10 s.whole.chars 0 = n.natAbs
  | _, _ => False

/-- A number whose fraction has no digits has none at all. -/
private theorem fraction_literal_eq_nil_iff (s : NumberSource) :
    s.literal.fraction = [] ↔ s.fraction = none := by
  cases h : s.fraction with
  | none => simp [NumberSource.literal, h]
  | some digits => simpa [NumberSource.literal, h] using digits.ne_nil

/-- `Codec.signedWord?` reads a word off the integers in its range and nothing else. -/
theorem Codec.signedWord?_eq_some_iff {s : Source} {w : Int64} :
    signedWord? s = some w ↔ s.IsInteger w.toInt := by
  cases s with
  | number s =>
    -- A word is in range, so all that matters is how the number is written.
    have hvalue : s.value? = some (.int w.toInt) ↔ (Source.number s).IsInteger w.toInt := by
      rw [NumberSource.value?, toOption_eq_some_iff, NumberLiteral.value_eq_int_iff,
        fraction_literal_eq_nil_iff]
      simp [fitsWord_toInt, Source.IsInteger, NumberSource.literal]
    rw [signedWord?, Option.bind_eq_some_iff, ← hvalue]
    simp only [toOption_eq_some_iff, word?_eq_ok_iff]
    constructor
    · rintro ⟨n, hn, rfl⟩
      exact hn
    · exact fun hn => ⟨_, hn, rfl⟩
  | null | bool b | string q | array items last | object members last =>
    simp [signedWord?, Source.IsInteger]

/-! ## Reported counts -/

namespace RequestCount

/-- The source reports the count. -/
inductive Reports : Source → Int → Prop where
  /-- An object has one member for the count. -/
  | member {members : List Source.Member} {last : Spaces} {m : Source.Member} {n : Int}
      (readable : ∀ m ∈ members, m.name?.isSome)
      (only : Field.named MemberOf.name? "count" members = [m])
      (isInteger : m.value.body.IsInteger n) : Reports (.object members last) n
  /-- An object without such a member reports that there are none. -/
  | missing {members : List Source.Member} {last : Spaces}
      (readable : ∀ m ∈ members, m.name?.isSome)
      (none : ∀ m ∈ members, m.name? ≠ some "count") : Reports (.object members last) 0
  /-- The count stands alone in an array. -/
  | item {p : Padded Source} {last : Spaces} {n : Int} (isInteger : p.body.IsInteger n) :
      Reports (.array [p] last) n
  /-- An empty array reports that there are none. -/
  | empty {last : Spaces} : Reports (.array [] last) 0

/-- The source is an object with the count as a member. -/
def Counts (s : Source) (n : Int) : Prop :=
  ∃ members last, s = .object members last ∧
    ∃ m ∈ members, m.name? = some "count" ∧ m.value.body.IsInteger n

/-- An object that `Counts` cannot be written without quotes. -/
theorem quote_mem_of_counts {p : Padded Source} {n : Int} (h : Counts p.body n) :
    '"' ∈ p.text.toList := by
  obtain ⟨members, last, hbody, m, hm, -, -⟩ := h
  obtain ⟨first, others, rfl⟩ := List.exists_cons_of_ne_nil (List.ne_nil_of_mem hm)
  simp [Padded.text, hbody, Source.chars, Source.membersChars]

/-- The one field there is. -/
private def field : Field RequestCount :=
  .of "count" .word (·.count) fun s v => { s with count := v }

/-- The value of the field is read as a word. -/
private theorem fieldOn?_eq_some_iff {depth : Nat} {s : Source} {w : Int64} :
    Codec.fieldOn? depth field s = some w ↔ s.IsInteger w.toInt := by
  rw [← Codec.signedWord?_eq_some_iff]
  exact iff_of_eq (congrArg (· = some w) (Codec.takes_readWord s).on_eq)

/-- `Field.putAll?` makes of the members of an object the record whose count they report. -/
private theorem putAll?_eq_some_iff {depth : Nat} {members : List Source.Member} {last : Spaces}
    {w : Int64} :
    Field.putAll? fields MemberOf.name? (fun f m => Codec.fieldOn? depth f m.value.body) blank
        members = some ⟨w⟩ ↔
      Reports (.object members last) w.toInt := by
  have hlawful : Field.Lawful fields := RecordType.count.lawful_fields
  have hfields : fields = [field] := rfl
  have hname : field.name = "count" := rfl
  rw [Field.putAll?_eq_some_iff hlawful, hfields, List.forall_mem_singleton, hname]
  constructor
  · rintro ⟨hreadable, hholds⟩
    -- The field is met never, once or too often.
    match hnamed : Field.named MemberOf.name? "count" members with
    | [] =>
      rw [hnamed] at hholds
      obtain rfl : w = 0 := hholds
      exact .missing hreadable (by simpa using List.filter_eq_nil_iff.1 hnamed)
    | [m] =>
      rw [hnamed] at hholds
      exact .member hreadable hnamed (fieldOn?_eq_some_iff.1 hholds)
    | _ :: _ :: _ =>
      rw [hnamed] at hholds
      exact hholds.elim
  · intro hreports
    -- An object without the member reports zero, which has to be compared to the word first.
    generalize hn : w.toInt = n at hreports
    cases hreports with
    | member readable only isInteger =>
      refine ⟨readable, ?_⟩
      rw [only]
      exact fieldOn?_eq_some_iff.2 (hn ▸ isInteger)
    | missing readable none =>
      refine ⟨readable, ?_⟩
      have hnamed : Field.named MemberOf.name? "count" members = [] :=
        List.filter_eq_nil_iff.2 (by simpa using none)
      rw [hnamed]
      exact Int64.toInt_inj.1 hn

/-- So does `Field.putInOrder?` of the items of an array. -/
private theorem putInOrder?_eq_some_iff {depth : Nat} {items : List (Padded Source)}
    {last : Spaces} {w : Int64} :
    Field.putInOrder? (fun f p => Codec.fieldOn? depth f p.body) fields blank items = some ⟨w⟩ ↔
      Reports (.array items last) w.toInt := by
  have hfields : fields = [field] := rfl
  rw [hfields]
  constructor
  · -- There is one field, so an array of two items is refused.
    intro hput
    match items with
    | [] =>
      obtain rfl : 0 = w := by simpa [Field.putInOrder?, blank] using hput
      exact .empty
    | [p] =>
      obtain ⟨v, hv, hput⟩ := Option.bind_eq_some_iff.1 hput
      obtain rfl : v = w := congrArg RequestCount.count (Option.some.inj hput)
      exact .item (fieldOn?_eq_some_iff.1 hv)
    | _ :: _ :: _ => simp [Field.putInOrder?] at hput
  · intro hreports
    generalize hn : w.toInt = n at hreports
    cases hreports with
    | item isInteger =>
      exact Option.bind_eq_some_iff.2 ⟨w, fieldOn?_eq_some_iff.2 (hn ▸ isInteger), rfl⟩
    | empty =>
      obtain rfl : w = 0 := Int64.toInt_inj.1 hn
      rfl

/-- What is read off a source is what it `Reports`. -/
theorem on_eq_some_iff {depth : Nat} {s : Source} {w : Int64} :
    (codec.read (depth + 1)).on s = some ⟨w⟩ ↔ Reports s w.toInt := by
  rw [show codec = RecordType.count.codec from rfl, RecordType.count.on_eq_record?]
  cases s with
  | object members last => exact putAll?_eq_some_iff
  | array items last => exact putInOrder?_eq_some_iff
  | null | bool b | number n | string q =>
    refine iff_of_false (by simp [Codec.record?]) fun hreports => ?_
    cases hreports

/-- `codec` decodes a text if it reports a count, and only then. -/
theorem decode_eq_ok_iff {text : String} {w : Int64} :
    codec.decode text = .ok ⟨w⟩ ↔ ∃ p : Padded Source, p.text = text ∧ Reports p.body w.toInt := by
  have hlawful := RecordType.count.lawful_codec 0
  have hrun (p : Padded Source) : codec.decode p.text = .ok ⟨w⟩ ↔ Reports p.body w.toInt := by
    rw [← toOption_eq_some_iff, ← on_eq_some_iff]
    exact iff_of_eq (congrArg (· = some _) ((hlawful.isLocal maxDepth).toOption_run p))
  -- Whatever is read has a source, and a source is read as its record.
  constructor
  · intro hread
    obtain ⟨p, rfl⟩ := hlawful.exists_source hread
    exact ⟨p, rfl, (hrun p).1 hread⟩
  · rintro ⟨p, rfl, hreports⟩
    exact (hrun p).2 hreports

end RequestCount

/-! ## The verdict -/

namespace Admin

namespace Client

/-- A reply brings a favourable verdict if and only if it `Reports` the count that is expected. -/
private theorem decodes_verdict_iff {ρ : Type} {criteria : RequestPattern} {n : Int64}
    {r : Reply String} :
    (.verify criteria n : Operation ρ).Decodes r (.verdict true) ↔
      ∃ p : Padded Source, p.text = r.data ∧ RequestCount.Reports p.body n.toInt := by
  rw [← RequestCount.decode_eq_ok_iff]
  constructor
  · intro hdecodes
    -- The answer is favourable only if the comparison of the counts is.
    generalize hanswer : Answer.verdict true = answer at hdecodes
    cases hdecodes with
    | verdict hread =>
      rename_i count
      obtain ⟨w⟩ := count
      obtain rfl : w = n := by simpa using hanswer.symm
      exact hread
  · intro hread
    have hdecodes : (.verify criteria n : Operation ρ).Decodes r _ := .verdict hread
    simpa using hdecodes

/-- A count is verified if and only if a whole reply comes under the status for success and its text
reports the count that is expected. -/
theorem verify_eq_true_iff (ρ : Type) (c : Client) (link : Link) (criteria : RequestPattern)
    (n : Int64) :
    let op : Operation ρ := .verify criteria n
    (c.perform link op).result = .ok (.verdict true) ↔
      ∃ (r : Reply String) (p : Padded Source),
        c.Receives link op r ∧ r.status = .ok ∧
          p.text = r.data ∧ RequestCount.Reports p.body n.toInt := by
  dsimp only
  rw [perform_eq_ok_iff rfl]
  simp only [decodes_verdict_iff, exists_and_left]
  rfl

/-- A reply that has no `count` at all counts as zero, and an array of five as five. -/
theorem verify_without_count :
    let base : Url := ⟨⟨"http"⟩, [], [], some (.ipv6 [0, 0, 0, 0, 0, 0, 0, 1]), none,
      .segments [], none, none⟩
    let c : Client := ⟨base, .empty, none⟩
    let criteria : RequestPattern := .of "GET" (.equalTo "/")
    let link (bytes : List UInt8) : Link := fun _ => .received .ok .empty bytes (.ofMillis 5)
    let op (n : Int64) : Operation Empty := .verify criteria n
    let passes (bytes : List UInt8) (n : Int64) : Prop :=
      (c.perform (link bytes) (op n)).result = .ok (.verdict true)
    let counts (bytes : List UInt8) (n : Int64) : Prop :=
      ∃ (r : Reply String) (p : Padded Source), c.Receives (link bytes) (op n) r ∧
        p.text = r.data ∧ RequestCount.Counts p.body n.toInt
    (passes [0x7B, 0x7D] 0 ∧ ¬ counts [0x7B, 0x7D] 0) ∧
      passes [0x5B, 0x35, 0x5D] 5 ∧ ¬ counts [0x5B, 0x35, 0x5D] 5 := by
  intro base c criteria link op passes counts
  have hpasses (bytes : List UInt8) (n : Int64) (p : Padded Source)
      (htext : p.text = String.ofList (Text.Utf8.decodeLossy bytes))
      (hreports : RequestCount.Reports p.body n.toInt) : passes bytes n :=
    (perform_eq_ok_iff rfl _).2
      ⟨_, (receives_iff rfl rfl).2 rfl, rfl, decodes_verdict_iff.2 ⟨p, htext, hreports⟩⟩
  have huncounted (bytes : List UInt8) (n : Int64)
      (hquote : '"' ∉ (String.ofList (Text.Utf8.decodeLossy bytes)).toList) : ¬ counts bytes n := by
    rintro ⟨r, p, hreceives, htext, hcounts⟩
    obtain rfl := (receives_iff rfl rfl).1 hreceives
    -- A member has a key, so there would be a quote in the text.
    have hmem := RequestCount.quote_mem_of_counts hcounts
    rw [htext] at hmem
    exact hquote hmem
  let five : NumberSource := ⟨false, ⟨['5'], by simp, by simp⟩, by simp, none, none⟩
  refine ⟨⟨hpasses _ 0 ⟨.empty, .object [] .empty, .empty⟩ (by decide +kernel) ?_,
      huncounted _ 0 (by decide +kernel)⟩,
    hpasses _ 5 ⟨.empty, .array [⟨.empty, .number five, .empty⟩] .empty, .empty⟩
      (by decide +kernel) ?_, huncounted _ 5 (by decide +kernel)⟩
  · exact .missing (by simp) (by simp)
  · exact .item ⟨rfl, rfl, by decide, by decide⟩

end Client

end Admin

end HttpStub
