import HttpStub.Matcher.Strategy

/-!
# URL patterns

A request pattern holds exactly one way to compare the URL, written under its own key.
-/

namespace HttpStub

/-- What the URL of a request has to be like: a `UrlStrategy` and the text it compares with. -/
structure UrlPattern where
  strategy : UrlStrategy
  value : String
deriving DecidableEq

namespace UrlPattern

/-- Path and query equal `url`. -/
def equalTo (url : String) : UrlPattern := ⟨.equalTo, url⟩

/-- The path equals `path`, whatever the query. -/
def pathEqualTo (path : String) : UrlPattern := ⟨.pathEqualTo, path⟩

/-- The path matches a regular expression. -/
def pathMatching (pattern : String) : UrlPattern := ⟨.pathMatching, pattern⟩

/-- Path and query match a regular expression. -/
def matching (pattern : String) : UrlPattern := ⟨.matching, pattern⟩

/-- The path fits a template with variables. -/
def pathTemplate (template : String) : UrlPattern := ⟨.pathTemplate, template⟩

end UrlPattern

end HttpStub
