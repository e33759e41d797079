import HttpStub.Proofs.Json.Documents
import HttpStub.Proofs.Json.Members
import HttpStub.Proofs.Matcher.Wire
import HttpStub.Request.Basic

/-!
# The wire format of request patterns

The text of a request pattern determines the pattern but for the one thing that matchers lose: a
comparison with a schema is written as the schema itself is. The members of a pattern stand under
different keys, all but the URL whose key tells how it is compared, so each part is found by a look
at its key.
-/

namespace HttpStub

/-- Each `UrlStrategy` has a key of its own. -/
theorem UrlStrategy.tag_inj {s t : UrlStrategy} : s.tag = t.tag ↔ s = t := by
  refine ⟨fun h => ?_, fun h => h ▸ rfl⟩
  cases s <;> cases t <;> first | rfl | exact absurd h (by decide)

/-- Each `PartQuantifier` has a name of its own. -/
theorem PartQuantifier.tag_inj {q r : PartQuantifier} : q.tag = r.tag ↔ q = r := by
  refine ⟨fun h => ?_, fun h => h ▸ rfl⟩
  cases q <;> cases r <;> first | rfl | exact absurd h (by decide)

namespace MultipartPattern

/-- The pattern with its matchers in normal form, `Matcher.normal`. -/
def normal (p : MultipartPattern) : MultipartPattern where
  quantifier := p.quantifier
  headers := p.headers.map Matcher.normal
  bodyPatterns := p.bodyPatterns.map Matcher.normal

/-- The `normal` form is written as the pattern is. -/
theorem toJson_normal (p : MultipartPattern) : p.normal.toJson = p.toJson := by
  simp only [toJson, normal, Json.dictMember_map Matcher.toJson_normal,
    Json.listMember_map Matcher.toJson_normal]

/-- Patterns that `MultipartPattern.toJson` writes alike have the same `normal` form. -/
theorem normal_eq_of_toJson_eq {p q : MultipartPattern} (h : p.toJson = q.toJson) :
    p.normal = q.normal := by
  simp only [toJson, Json.object.injEq, List.cons.injEq, Prod.mk.injEq, Json.string.injEq,
    true_and] at h
  -- The quantifier comes first, and headers and bodies have a key each.
  obtain ⟨hquantifier, hmembers⟩ := h
  have hheaders := congrArg (List.lookup "headers") hmembers
  have hbodies := congrArg (List.lookup "bodyPatterns") hmembers
  simp (disch := decide) only [List.lookup_append, Json.lookup_listMember_of_ne,
    Option.or_none] at hheaders
  simp (disch := decide) only [List.lookup_append, Json.lookup_dictMember_of_ne,
    Option.none_or] at hbodies
  simp only [normal, PartQuantifier.tag_inj.1 hquantifier,
    Json.map_eq_of_lookup_dictMember (fun _ _ => Matcher.toJson_eq_iff.1) hheaders,
    Json.map_eq_of_lookup_listMember (fun _ _ => Matcher.toJson_eq_iff.1) hbodies]

/-- `MultipartPattern.toJson` writes no numbers. -/
theorem isWhole_toJson (p : MultipartPattern) : p.toJson.isWhole = true := by
  have hmatcher : ∀ e : String × Matcher, e.2.toJson.isWhole = true :=
    fun e => Matcher.isWhole_toJson e.2
  simp [toJson, Json.membersWhole_dictMember, Json.membersWhole_listMember, hmatcher,
    Matcher.isWhole_toJson]

end MultipartPattern

namespace RequestPattern

/-- The pattern with its matchers in normal form, those of its parts by `MultipartPattern.normal`
included. -/
def normal (r : RequestPattern) : RequestPattern where
  method := r.method
  url := r.url
  scheme := r.scheme
  host := r.host.map Matcher.normal
  port := r.port
  headers := r.headers.map Matcher.normal
  queryParameters := r.queryParameters.map Matcher.normal
  pathParameters := r.pathParameters.map Matcher.normal
  formParameters := r.formParameters.map Matcher.normal
  cookies := r.cookies.map Matcher.normal
  bodyPatterns := r.bodyPatterns.map Matcher.normal
  multipartPatterns := r.multipartPatterns.map MultipartPattern.normal
  credentials := r.credentials

/-- The `normal` form of the whole is written as the pattern is. -/
theorem toJson_normal (r : RequestPattern) : r.normal.toJson = r.toJson := by
  simp only [toJson, normal, Json.member?_map Matcher.toJson_normal,
    Json.dictMember_map Matcher.toJson_normal, Json.listMember_map Matcher.toJson_normal,
    Json.listMember_map MultipartPattern.toJson_normal]

/-! ## Unique readability -/

/-- The members behind the URL, each of them optional. -/
private def parts (r : RequestPattern) : List (String × Json) :=
  Json.member? "scheme" .string r.scheme ++
    Json.member? "host" Matcher.toJson r.host ++
    Json.member? "port" (fun port => .nat port.toNat) r.port ++
    Json.dictMember "headers" Matcher.toJson r.headers ++
    Json.dictMember "queryParameters" Matcher.toJson r.queryParameters ++
    Json.dictMember "pathParameters" Matcher.toJson r.pathParameters ++
    Json.dictMember "formParameters" Matcher.toJson r.formParameters ++
    Json.dictMember "cookies" Matcher.toJson r.cookies ++
    Json.listMember "bodyPatterns" Matcher.toJson r.bodyPatterns ++
    Json.listMember "multipartPatterns" MultipartPattern.toJson r.multipartPatterns ++
    Json.member? "basicAuthCredentials" credentialsJson r.credentials

/-- The method and the URL stand in front of the `parts`. -/
private theorem toJson_eq (r : RequestPattern) :
    r.toJson = .object
      (("method", .string r.method) :: (r.url.strategy.tag, .string r.url.value) :: r.parts) := rfl

/-- `credentialsJson` tells both user name and password. -/
private theorem credentialsJson_inj {c d : Credentials} :
    credentialsJson c = credentialsJson d ↔ c = d := by
  cases c
  cases d
  simp [credentialsJson]

/-- Ports are told apart by their numbers, as `Json.nat` writes them. -/
private theorem portJson_inj {p q : UInt16} : Json.nat p.toNat = Json.nat q.toNat ↔ p = q := by
  rw [Json.nat, Json.nat, Json.number.injEq, Json.Number.int.injEq, Int.natCast_inj,
    UInt16.toNat_inj]

/-- Patterns with the same `parts` agree in all that stands behind the URL, up to `Matcher.normal`.
-/
private theorem parts_inj {a b : RequestPattern} (h : a.parts = b.parts) :
    a.scheme = b.scheme ∧ a.host.map Matcher.normal = b.host.map Matcher.normal ∧
      a.port = b.port ∧ a.headers.map Matcher.normal = b.headers.map Matcher.normal ∧
      a.queryParameters.map Matcher.normal = b.queryParameters.map Matcher.normal ∧
      a.pathParameters.map Matcher.normal = b.pathParameters.map Matcher.normal ∧
      a.formParameters.map Matcher.normal = b.formParameters.map Matcher.normal ∧
      a.cookies.map Matcher.normal = b.cookies.map Matcher.normal ∧
      a.bodyPatterns.map Matcher.normal = b.bodyPatterns.map Matcher.normal ∧
      a.multipartPatterns.map MultipartPattern.normal =
        b.multipartPatterns.map MultipartPattern.normal ∧
      a.credentials = b.credentials := by
  -- Equal members are found under every key alike.
  have hscheme := congrArg (List.lookup "scheme") h
  have hhost := congrArg (List.lookup "host") h
  have hport := congrArg (List.lookup "port") h
  have hheaders := congrArg (List.lookup "headers") h
  have hquery := congrArg (List.lookup "queryParameters") h
  have hpath := congrArg (List.lookup "pathParameters") h
  have hform := congrArg (List.lookup "formParameters") h
  have hcookies := congrArg (List.lookup "cookies") h
  have hbodies := congrArg (List.lookup "bodyPatterns") h
  have hmultipart := congrArg (List.lookup "multipartPatterns") h
  have hcredentials := congrArg (List.lookup "basicAuthCredentials") h
  -- Of all the members only the one under the key is left.
  simp (disch := decide) only [parts, List.lookup_append, Json.lookup_member?_of_ne,
    Json.lookup_listMember_of_ne, Json.lookup_dictMember_of_ne, Option.or_none, Option.none_or]
    at hscheme hhost hport hheaders hquery hpath hform hcookies hbodies hmultipart hcredentials
  -- What is found under a key tells a part as far as `Matcher.toJson` tells matchers.
  have hmatcher : ∀ m n : Matcher, m.toJson = n.toJson → m.normal = n.normal :=
    fun _ _ => Matcher.toJson_eq_iff.1
  refine ⟨?_, Json.map_eq_of_lookup_member? hmatcher hhost, ?_,
    Json.map_eq_of_lookup_dictMember hmatcher hheaders,
    Json.map_eq_of_lookup_dictMember hmatcher hquery,
    Json.map_eq_of_lookup_dictMember hmatcher hpath,
    Json.map_eq_of_lookup_dictMember hmatcher hform,
    Json.map_eq_of_lookup_dictMember hmatcher hcookies,
    Json.map_eq_of_lookup_listMember hmatcher hbodies,
    Json.map_eq_of_lookup_listMember (fun _ _ => MultipartPattern.normal_eq_of_toJson_eq)
      hmultipart, ?_⟩
  · -- A text, a port and credentials are told completely.
    simpa using Json.map_eq_of_lookup_member? (f := id) (fun _ _ => Json.string.inj) hscheme
  · simpa using Json.map_eq_of_lookup_member? (f := id) (fun _ _ => portJson_inj.1) hport
  · simpa using Json.map_eq_of_lookup_member? (f := id) (fun _ _ => credentialsJson_inj.1)
      hcredentials

/-- `RequestPattern.toJson` writes patterns alike if and only if they have the same `normal` form.
-/
theorem toJson_eq_iff {a b : RequestPattern} : a.toJson = b.toJson ↔ a.normal = b.normal := by
  constructor
  · intro h
    simp only [toJson_eq, Json.object.injEq, List.cons.injEq, Prod.mk.injEq, Json.string.injEq,
      true_and] at h
    obtain ⟨hmethod, ⟨hstrategy, hvalue⟩, hparts⟩ := h
    -- The key of the URL tells how it is compared, and the value stands under it.
    have hurl : a.url = b.url := UrlPattern.mk.injEq .. ▸ ⟨UrlStrategy.tag_inj.1 hstrategy, hvalue⟩
    obtain ⟨hscheme, hhost, hport, hheaders, hquery, hpath, hform, hcookies, hbodies, hmultipart,
      hcredentials⟩ := parts_inj hparts
    simp only [normal, hmethod, hurl, hscheme, hhost, hport, hheaders, hquery, hpath, hform,
      hcookies, hbodies, hmultipart, hcredentials]
  · intro h
    rw [← toJson_normal a, ← toJson_normal b, h]

/-- `RequestPattern.toJson` writes no number but the port. -/
theorem isWhole_toJson (r : RequestPattern) : r.toJson.isWhole = true := by
  have hmatcher : ∀ e : String × Matcher, e.2.toJson.isWhole = true :=
    fun e => Matcher.isWhole_toJson e.2
  have hcredentials : ∀ c, (credentialsJson c).isWhole = true := fun _ => rfl
  -- A port is far from the greatest word.
  have hport : ∀ p : UInt16, (Json.nat p.toNat).isWhole = true := fun p =>
    Json.isWhole_nat (Nat.lt_trans p.toNat_lt (by decide))
  rw [toJson_eq]
  simp [parts, Json.membersWhole_member?_string, Json.membersWhole_member?,
    Json.membersWhole_listMember, Json.membersWhole_dictMember, Matcher.isWhole_toJson,
    MultipartPattern.isWhole_toJson, hmatcher, hcredentials, hport]

/-- The text of a pattern tells everything about it but whether a comparison with a schema was
given as such or as a schema without version. -/
theorem text_toJson_eq_iff (a b : RequestPattern) :
    a.toJson.text = b.toJson.text ↔ a.normal = b.normal :=
  (Json.text_inj a.isWhole_toJson b.isWhole_toJson).trans toJson_eq_iff

end RequestPattern

end HttpStub
