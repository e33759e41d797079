import HttpStub.Data
import HttpStub.Error
import HttpStub.Json.Read.Document
import HttpStub.Matcher.Chain
import HttpStub.Matcher.Pattern

/-!
# Making matchers

One function for each way to describe a value. Those that write data or check a schema may fail.
-/

namespace HttpStub.Matcher

/-- The value equals `value`. -/
def equalTo (value : String) : Matcher :=
  .leaf .equalTo value []

/-- The value equals `value`, upper and lower case being the same. -/
def equalToIgnoreCase (value : String) : Matcher :=
  .leaf .equalTo value ["caseInsensitive"]

/-- The value matches a regular expression. -/
def matching (pattern : String) : Matcher :=
  .leaf .matching pattern []

/-- The value does not match a regular expression. -/
def notMatching (pattern : String) : Matcher :=
  .leaf .doesNotMatch pattern []

/-- The value contains `value`. -/
def contains (value : String) : Matcher :=
  .leaf .contains value []

/-- The value does not contain `value`. -/
def notContains (value : String) : Matcher :=
  .leaf .doesNotContain value []

/-- The value begins with `start`, taken literally by `Pattern.escape`. -/
def startsWith (start : String) : Matcher :=
  matching ("^" ++ Pattern.escape start)

/-- The value is the same XML as `xml`. -/
def equalToXml (xml : String) : Matcher :=
  .leaf .equalToXml xml []

/-- The value is the same JSON as `json`, which is not checked here. The flags are written in the
order they are given, each as often as it is given. -/
def equalToJson (json : String) (flags : List EqualFlag) : Matcher :=
  .leaf .equalToJson json (flags.map EqualFlag.tag)

/-- The value is the same JSON as the data, written by `Data.text?`. -/
def equalToData (data : Data) (flags : List EqualFlag) : Except Error Matcher :=
  match data.text? with
  | .ok json => .ok (equalToJson json flags)
  | .error failure => .error (.invalidMatcher ("equalToJson value: " ++ failure.message))

/-- The value matches an XPath expression. -/
def matchingXPath (xpath : String) : Matcher :=
  .leaf .matchesXPath xpath []

/-- The value matches a JSONPath expression. -/
def matchingJsonPath (path : String) : Matcher :=
  .leaf .matchesJsonPath path []

/-- The value is valid by a JSON schema, which is not checked here. -/
def matchesSchema (schema : String) (version : SchemaVersion) : Matcher :=
  .schema schema (some version)

/-- The value is valid by a JSON schema, whose text `Json.parse` has to read. -/
def matchesCheckedSchema (schema : String) (version : SchemaVersion) : Except Error Matcher :=
  match Json.parse schema with
  | .ok _ => .ok (matchesSchema schema version)
  | .error error => .error (.invalidMatcher ("matchesJsonSchema schema: " ++ error.message))

/-- All of the matchers accept. Operands that are nodes themselves stay nodes, unlike with
`Matcher.and`. -/
def all (first : Matcher) (rest : List Matcher) : Matcher :=
  .joined .and first rest

/-- Some of the matchers accepts. Operands stay as they are here too. -/
def any (first : Matcher) (rest : List Matcher) : Matcher :=
  .joined .or first rest

/-- The values of a repeated parameter are exactly these, by `MultiStrategy.hasExactly`. -/
def hasExactly (matchers : List Matcher) : Matcher :=
  .values .hasExactly matchers

/-- The values of a repeated parameter include all of these, by `MultiStrategy.includes`. -/
def includes (matchers : List Matcher) : Matcher :=
  .values .includes matchers

end HttpStub.Matcher
