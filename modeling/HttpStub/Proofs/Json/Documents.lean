import HttpStub.Proofs.Json.Source.OfJson

/-!
# Documents are read back

The text of a whole document is read back as that document, member order and repeated keys included,
as long as no more brackets are open than the reader allows. So no two whole documents share a text.
-/

namespace HttpStub.Json

/-- `document` reads the characters of a document up to the last one. -/
theorem document_chars {j : Json} (hj : j.isWhole = true) {depth : Nat} (h : j.nesting ≤ depth) :
    document depth j.chars = .ok (j, []) := by
  -- The text is that of a source without any space, and the reader takes what a source describes.
  have hread := takes_document depth (Source.ofJson j) .empty [] (by simp [Delimited])
  rw [Source.json?_ofJson j hj depth h, Source.chars_ofJson j hj, Spaces.chars_empty,
    List.nil_append, List.append_nil] at hread
  exact toOption_eq_some_iff.1 hread

/-- `parse` reads back the text of a document. -/
theorem parse_text {j : Json} (hj : j.isWhole = true) (h : j.nesting ≤ maxDepth) :
    parse j.text = .ok j := by
  have hspace : skipSpace [] = [] := rfl
  simp only [parse, Reader.run, text, String.toList_ofList, document_chars hj h, ok_bind, hspace,
    pure_eq_ok]
  rfl

/-- `parseValue` reads the text of a document as the value of the document. -/
theorem parseValue_text {j : Json} (hj : j.isWhole = true) (h : j.nesting ≤ maxDepth) :
    parseValue j.text = .ok j.toValue := by
  rw [parseValue, parse_text hj h]
  rfl

/-- No two whole documents have the same text, however deep they are. -/
theorem text_inj {j k : Json} (hj : j.isWhole = true) (hk : k.isWhole = true) :
    j.text = k.text ↔ j = k := by
  refine ⟨fun h => ?_, fun h => h ▸ rfl⟩
  -- Both are read by a reader that allows the brackets of either.
  have hchars : j.chars = k.chars := String.ofList_injective h
  have hread := document_chars hj (Nat.le_max_left j.nesting k.nesting)
  rw [hchars, document_chars hk (Nat.le_max_right j.nesting k.nesting)] at hread
  exact (Prod.mk.inj (Except.ok.inj hread)).1.symm

end HttpStub.Json
