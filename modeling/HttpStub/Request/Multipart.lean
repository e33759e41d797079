import HttpStub.Matcher.Build

/-!
# Parts of a multipart body

A pattern describes parts by their headers and bodies, and asks it of any part or of all of them.
-/

namespace HttpStub

/-- How many parts have to be as described. -/
inductive PartQuantifier where
  /-- Some part has to be as described. -/
  | any
  /-- All parts have to be. -/
  | all
deriving DecidableEq

/-- The name that `MultipartPattern.toJson` writes for a quantifier. -/
def PartQuantifier.tag : PartQuantifier → String
  | .any => "ANY"
  | .all => "ALL"

/-- What the parts of a multipart body have to be like. Made by `MultipartPattern.build`. -/
structure MultipartPattern where
  quantifier : PartQuantifier
  headers : Dict Matcher
  bodyPatterns : List Matcher
deriving DecidableEq

namespace MultipartPattern

/-- Any part will do. -/
def empty : MultipartPattern := ⟨.any, .empty, []⟩

/-- One thing that a pattern may ask for. -/
inductive Step where
  /-- How many parts have to be as described. -/
  | quantifier (quantifier : PartQuantifier)
  /-- A header of the part, by name. -/
  | header (name : String) (matcher : Matcher)
  /-- One more condition on the body of the part. -/
  | bodyPattern (matcher : Matcher)
  /-- The part has this name, see `nameMatcher`. -/
  | name (name : String)
deriving DecidableEq

/-- The header that names a part. -/
def nameHeader : String := "Content-Disposition"

/-- Looks for the parameter that gives the name, anywhere in the value of `nameHeader`. -/
def nameMatcher (name : String) : Matcher :=
  .contains ("name=\"" ++ name ++ "\"")

/-- Asks for one more thing. -/
def apply (p : MultipartPattern) : Step → MultipartPattern
  | .quantifier quantifier => { p with quantifier := quantifier }
  | .header name matcher => { p with headers := p.headers.insert name matcher }
  | .bodyPattern matcher => { p with bodyPatterns := p.bodyPatterns ++ [matcher] }
  -- A name is a header, and replaces one that was set for the same header.
  | .name name => { p with headers := p.headers.insert nameHeader (nameMatcher name) }

/-- The pattern that asks for all these things, later ones put in the place of earlier ones. -/
def build (steps : List Step) : MultipartPattern :=
  steps.foldl apply empty

/-- A pattern as a document. -/
def toJson (p : MultipartPattern) : Json :=
  .object (("matchingType", .string p.quantifier.tag) ::
    (Json.dictMember "headers" Matcher.toJson p.headers ++
      Json.listMember "bodyPatterns" Matcher.toJson p.bodyPatterns))

end MultipartPattern

end HttpStub
