import HttpStub.Proofs.Matcher.Meaning
import HttpStub.Request.Basic

/-!
# The meaning of credentials

What the matcher of the authorization header accepts once credentials of a scheme are asked for. For
bearer tokens it accepts a single value if and only if that is the word of the scheme and a token,
as the matcher of the token describes it; only, where it looks for a part of the token it looks
through the word as well. For the other schemes it is a list of two matchers, which wants two
values.
-/

namespace HttpStub.RequestPattern

open Matcher

variable {R : Reading}

/-- The header holds the matcher of the credentials, `AuthScheme.matcher`, whatever stood there. -/
theorem get?_authorization (r : RequestPattern) (scheme : AuthScheme) (m : Matcher) :
    (r.apply (.auth scheme m)).headers.get? authorization = some (scheme.matcher m) := by
  rw [apply, Dict.get?_insert, if_pos rfl]

/-- A value that begins with the word is the word and the rest. -/
private theorem exists_append_of_word {word v : String} (h : word.toList <+: v.toList) :
    ∃ t, v = word ++ t := by
  obtain ⟨rest, hrest⟩ := h
  refine ⟨String.ofList rest, String.toList_inj.1 ?_⟩
  rw [String.toList_append, String.toList_ofList, hrest]

/-- A bearer token is the word and what the matcher of the token accepts behind it, in the reading
`Reading.behind`. -/
private theorem bearer_accepts_iff (hR : R.Standard) {m : Matcher}
    (hm : m.IsMadeOf isTokenTest) (v : String) :
    (AuthScheme.bearer.matcher m).accepts R [v] ↔
      ∃ t, v = AuthScheme.bearer.word ++ t ∧
        m.accepts (R.behind AuthScheme.bearer.word) [t] := by
  -- The stored matcher joins two tests: one for the word, and the token's own behind it.
  have hjoined : (AuthScheme.bearer.matcher m).accepts R [v] ↔
      AuthScheme.bearer.word.toList <+: v.toList ∧
        (m.prepend AuthScheme.bearer.word).accepts R [v] := by
    rw [← startsWith_accepts_singleton hR]
    simp [AuthScheme.matcher, Matcher.and, join, startsWith, matching, accepts, allAccept]
  rw [hjoined]
  constructor
  · rintro ⟨hword, haccepts⟩
    obtain ⟨t, rfl⟩ := exists_append_of_word hword
    -- The text in front of the patterns is the word, so what is left is the token.
    exact ⟨t, rfl, (accepts_prepend_append hR hm _ t).1 haccepts⟩
  · rintro ⟨t, rfl, haccepts⟩
    refine ⟨?_, (accepts_prepend_append hR hm _ t).2 haccepts⟩
    rw [String.toList_append]
    exact List.prefix_append _ _

/-- A list of two matchers accepts no single value, by `length_eq_of_accepts_hasExactly`. -/
private theorem not_accepts_of_ne_bearer {scheme : AuthScheme} (h : scheme ≠ .bearer) (m : Matcher)
    (v : String) : ¬ (scheme.matcher m).accepts R [v] := by
  intro haccepts
  -- The two other schemes are alike but for their word.
  have hlist : scheme.matcher m = hasExactly [startsWith scheme.word, m.prepend scheme.word] := by
    cases scheme with
    | bearer => exact absurd rfl h
    | token => rfl
    | digest => rfl
  rw [hlist] at haccepts
  have hlength := length_eq_of_accepts_hasExactly haccepts
  simp at hlength

/-- What the stored matcher of credentials accepts of a single value, in every standard reading. A
bearer token is accepted behind its word, where containment is asked of the word and the token
together; this is no other reading of the token's matcher if what it looks for is clear of the word,
and for a single search only then. Token and digest credentials are accepted in no single value. -/
theorem authorization_accepts_iff (R : Reading) (hR : R.Standard) (r : RequestPattern)
    (scheme : AuthScheme) (m : Matcher) (hm : m.IsMadeOf isTokenTest) (v : String) :
    (∃ stored, (r.apply (.auth scheme m)).headers.get? authorization = some stored ∧
      (stored.accepts R [v] ↔
        scheme = .bearer ∧ ∃ t, v = scheme.word ++ t ∧ m.accepts (R.behind scheme.word) [t])) ∧
      (m.IsMadeOf (isClearTest scheme.word) →
        ∀ t, m.accepts (R.behind scheme.word) [t] ↔ m.accepts R [t]) ∧
      ∀ (strategy : Strategy) (text : String), strategy.isContainment = true →
        (IsClear scheme.word.toList text.toList ↔
          ∀ t, (leaf strategy text []).accepts (R.behind scheme.word) [t] ↔
            (leaf strategy text []).accepts R [t]) := by
  refine ⟨⟨_, get?_authorization r scheme m, ?_⟩, fun hclear t => accepts_behind_iff hR hclear t,
    fun strategy text hstrategy => isClear_iff_accepts hR scheme.word text hstrategy⟩
  -- Both sides fail unless the scheme is that of bearer tokens.
  by_cases hscheme : scheme = .bearer
  · subst hscheme
    rw [bearer_accepts_iff hR hm, and_iff_right rfl]
  · refine ⟨fun haccepts => absurd haccepts (not_accepts_of_ne_bearer hscheme m v), fun h => ?_⟩
    exact absurd h.1 hscheme

/-- In the literal reading a bearer token of a guest is accepted behind its word. -/
theorem authorization_accepts_iff_guest :
    let m := (contains "guest").and (notContains "tmp")
    m.IsMadeOf isTokenTest ∧ m.IsMadeOf (isClearTest AuthScheme.bearer.word) ∧
      ∃ stored, ((RequestPattern.of "GET" (.pathEqualTo "/")).apply
          (.auth .bearer m)).headers.get? authorization = some stored ∧
        stored.accepts .literal ["Bearer guest-1"] := by
  -- The word has no letter that either text begins with.
  have hguest : IsClear AuthScheme.bearer.word.toList "guest".toList := isClear_cons (by decide) _
  have htmp : IsClear AuthScheme.bearer.word.toList "tmp".toList := isClear_cons (by decide) _
  have htest : ((contains "guest").and (notContains "tmp")).IsMadeOf isTokenTest :=
    ⟨⟨Or.inr rfl, rfl⟩, ⟨Or.inr rfl, rfl⟩, trivial⟩
  have hclear : ((contains "guest").and (notContains "tmp")).IsMadeOf
      (isClearTest AuthScheme.bearer.word) :=
    ⟨⟨htest.1, fun _ => hguest⟩, ⟨htest.2.1, fun _ => htmp⟩, trivial⟩
  have hvalue : ((contains "guest").and (notContains "tmp")).accepts .literal ["guest-1"] := by
    simp [Matcher.and, join, contains, notContains, accepts, allAccept, Reading.literal]
    decide
  obtain ⟨⟨stored, hstored, haccepts⟩, hbehind, -⟩ := authorization_accepts_iff .literal
    Reading.standard_literal (RequestPattern.of "GET" (.pathEqualTo "/")) .bearer _ htest
    "Bearer guest-1"
  exact ⟨htest, hclear, stored, hstored,
    haccepts.2 ⟨rfl, "guest-1", by decide, (hbehind hclear "guest-1").2 hvalue⟩⟩

/-- A token equal to what is asked for is accepted in no value, and the word of bearer tokens is
taken for a part of the token. -/
theorem authorization_misses_token :
    (∃ stored, ((RequestPattern.of "GET" (.pathEqualTo "/")).apply
        (.auth .token (equalTo "x"))).headers.get? authorization = some stored ∧
      ¬ (stored.accepts .literal ["Token x"] ↔
        ∃ t, "Token x" = AuthScheme.token.word ++ t ∧ (equalTo "x").accepts .literal [t])) ∧
    ∃ stored, ((RequestPattern.of "GET" (.pathEqualTo "/")).apply
        (.auth .bearer (contains "Bearer"))).headers.get? authorization = some stored ∧
      ¬ (stored.accepts .literal ["Bearer x"] ↔
        ∃ t, "Bearer x" = AuthScheme.bearer.word ++ t ∧
          (contains "Bearer").accepts .literal [t]) := by
  have hR := Reading.standard_literal
  refine ⟨⟨_, get?_authorization _ _ _, fun h => ?_⟩, _, get?_authorization _ _ _, fun h => ?_⟩
  · -- The value is the word and the token, but a list of two matchers takes no single value.
    have hvalue : (equalTo "x").accepts .literal ["x"] := by
      rw [equalTo, accepts_leaf_singleton, hR.equalTo]
    exact not_accepts_of_ne_bearer (by decide) _ _ (h.2 ⟨"x", by decide, hvalue⟩)
  · -- The text looked for is a part of the word, and of no token that is left behind it.
    have hmade : (contains "Bearer").IsMadeOf isTokenTest := ⟨Or.inr rfl, rfl⟩
    have hbehind : (contains "Bearer").accepts (Reading.literal.behind AuthScheme.bearer.word)
        ["x"] := by
      rw [contains, accepts_leaf_singleton]
      exact (hR.contains _ _).2 (by decide)
    obtain ⟨t, ht, haccepts⟩ := h.1 ((bearer_accepts_iff hR hmade _).2 ⟨"x", by decide, hbehind⟩)
    have hx : t = "x" := (String.append_right_inj _).1 (ht.symm.trans (by decide))
    rw [hx, contains, accepts_leaf_singleton, hR.contains] at haccepts
    exact absurd haccepts (by decide)

end HttpStub.RequestPattern
