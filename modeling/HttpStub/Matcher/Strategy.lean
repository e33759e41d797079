/-!
# Strategies

The ways to compare, each with the tag under which it is written. Strategies for single values, for
URLs and for several values are types of their own, so that none can stand in for another.
-/

namespace HttpStub

/-- How a single string value is compared. -/
inductive Strategy where
  /-- The value is the text. -/
  | equalTo
  /-- The value matches a regular expression. -/
  | matching
  /-- The text occurs in the value. -/
  | contains
  /-- The value is the same XML as the text. -/
  | equalToXml
  /-- The value is the same JSON as the text. -/
  | equalToJson
  /-- The value matches an XPath expression. -/
  | matchesXPath
  /-- The value matches a JSONPath expression. -/
  | matchesJsonPath
  /-- There is no value. -/
  | absent
  /-- The value does not match a regular expression. -/
  | doesNotMatch
  /-- The text does not occur in the value. -/
  | doesNotContain
  /-- The value is valid by a schema. -/
  | matchesJsonSchema
deriving DecidableEq

namespace Strategy

/-- The key that `Matcher.toJson` writes a comparison under. -/
def tag : Strategy → String
  | .equalTo => "equalTo"
  | .matching => "matches"
  | .contains => "contains"
  | .equalToXml => "equalToXml"
  | .equalToJson => "equalToJson"
  | .matchesXPath => "matchesXPath"
  | .matchesJsonPath => "matchesJsonPath"
  | .absent => "absent"
  | .doesNotMatch => "doesNotMatch"
  | .doesNotContain => "doesNotContain"
  | .matchesJsonSchema => "matchesJsonSchema"

/-- Whether `Matcher.prependValue` puts a text in front of the value as it is. -/
def isEquality : Strategy → Bool
  -- A text is put in front of documents and paths too, though they are not literal texts.
  | .equalTo | .equalToJson | .equalToXml | .matchesJsonPath | .matchesXPath => true
  | _ => false

/-- Whether the value is a regular expression, in which a text is put behind the anchor. -/
def isRegex : Strategy → Bool
  | .matching | .doesNotMatch => true
  | _ => false

end Strategy

/-- How the URL of a request is compared. -/
inductive UrlStrategy where
  /-- Path and query are equal. -/
  | equalTo
  /-- The path is equal. -/
  | pathEqualTo
  /-- The path matches a regular expression. -/
  | pathMatching
  /-- Path and query match a regular expression. -/
  | matching
  /-- The path fits a template with variables. -/
  | pathTemplate
deriving DecidableEq

/-- The key a URL is written under; it tells the strategy. -/
def UrlStrategy.tag : UrlStrategy → String
  | .equalTo => "url"
  | .pathEqualTo => "urlPath"
  | .pathMatching => "urlPathPattern"
  | .matching => "urlPattern"
  | .pathTemplate => "urlPathTemplate"

/-- How the values of a repeated parameter are compared. -/
inductive MultiStrategy where
  /-- Values and matchers can be paired so that each value fits its matcher. -/
  | hasExactly
  /-- Each matcher fits one of the values. -/
  | includes
deriving DecidableEq

/-- The key a list of matchers is written under. -/
def MultiStrategy.tag : MultiStrategy → String
  | .hasExactly => "hasExactly"
  | .includes => "includes"

/-- What a comparison of JSON documents may overlook. -/
inductive EqualFlag where
  /-- Arrays are the same in any order of their items. -/
  | ignoreArrayOrder
  /-- The value may have more in it than the text. -/
  | ignoreExtraElements
deriving DecidableEq

/-- The key that `Matcher.equalToJson` writes for a flag. -/
def EqualFlag.tag : EqualFlag → String
  | .ignoreArrayOrder => "ignoreArrayOrder"
  | .ignoreExtraElements => "ignoreExtraElements"

/-- A draft of JSON Schema. -/
inductive SchemaVersion where
  | v4
  | v6
  | v7
  | v201909
  | v202012
deriving DecidableEq

/-- The name a draft is written as. -/
def SchemaVersion.tag : SchemaVersion → String
  | .v4 => "V4"
  | .v6 => "V6"
  | .v7 => "V7"
  | .v201909 => "V201909"
  | .v202012 => "V202012"

end HttpStub
