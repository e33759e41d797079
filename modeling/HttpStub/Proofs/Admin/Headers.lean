import HttpStub.Proofs.Admin.Outcome

/-!
# The headers of a message

Settings keep one value a name: a header replaces those of its name, in whatever case any of them
was written. A message only adds to them, so under a name that some setting is for there is the
value of the last of these and no other. What a message is given by itself, the kind of its body and
of the replies that are accepted, gives way to the settings. All this is for servers whose URL holds
no user name and no password, which would travel in a header too.
-/

namespace HttpStub

namespace Http

/-- `HeaderName.ofString?` makes names in lower case. -/
theorem HeaderName.toList_text_of_ofString? {s : String} {name : HeaderName}
    (h : HeaderName.ofString? s = some name) : name.text.toList = s.toList.map Char.toLower := by
  simp only [HeaderName.ofString?] at h
  -- A text that is no name gives none.
  split at h
  · obtain rfl := Option.some.inj h
    exact String.toList_ofList
  · cases h

/-- `HeaderValue.ofString?` makes values of the bytes of their texts. -/
theorem HeaderValue.bytes_of_ofString? {s : String} {value : HeaderValue}
    (h : HeaderValue.ofString? s = some value) : value = ⟨s.toUTF8.data.toList⟩ := by
  unfold HeaderValue.ofString? HeaderValue.ofBytes? at h
  split at h
  · exact (Option.some.inj h).symm
  · cases h

namespace HeaderMap

/-- Fields that `append` adds one by one stand behind those before. -/
theorem fields_foldl_append (m : HeaderMap) (fields : List (HeaderName × HeaderValue)) :
    (fields.foldl (fun map field => map.append field.1 field.2) m).fields = m.fields ++ fields := by
  -- By induction on the fields, whatever stands in front of them.
  induction fields generalizing m with
  | nil => exact (List.append_nil m.fields).symm
  | cons field fields ih =>
    rw [List.foldl_cons, ih, append, List.append_assoc]
    rfl

end HeaderMap

end Http

namespace Admin

open Http (HeaderName HeaderValue HeaderMap)

/-! ## Settings -/

namespace Settings

/-- The value that a setting has for a header of this name, whatever the case it writes it in, as
`Step.header` does. -/
def Step.valueFor? (name : HeaderName) : Step → Option HeaderValue
  | .header written value =>
    if written.toList.map Char.toLower = name.text.toList then some ⟨value.toUTF8.data.toList⟩
    else none
  | .base _ | .timeout _ => none

/-- The value of the last setting for a header of this name, by `Step.valueFor?`. -/
def lastValue? (steps : List Step) (name : HeaderName) : Option HeaderValue :=
  steps.reverse.findSome? (Step.valueFor? name)

/-- A setting that `apply` does not refuse replaces the values of its name and keeps the others. -/
theorem getAll_apply {s t : Settings} {step : Step} (h : s.apply step = .ok t)
    (name : HeaderName) :
    t.headers.getAll name =
      (step.valueFor? name).elim (s.headers.getAll name) fun value => [value] := by
  cases step with
  -- A base or a limit leaves the headers alone.
  | base url =>
    simp only [apply] at h
    split at h
    · obtain rfl := Except.ok.inj h
      rfl
    · cases h
  | timeout limit =>
    obtain rfl := Except.ok.inj h
    rfl
  | header written text =>
    simp only [apply] at h
    split at h
    · rename_i key value hname hvalue
      obtain rfl := Except.ok.inj h
      obtain rfl := HeaderValue.bytes_of_ofString? hvalue
      rw [HeaderMap.getAll_insert, Step.valueFor?, ← HeaderName.toList_text_of_ofString? hname]
      -- Names in lower case are the same if their texts are.
      by_cases hsame : key = name
      · rw [if_pos hsame, if_pos (by rw [hsame]), Option.elim_some]
      · have hne : key.text.toList ≠ name.text.toList := fun heq =>
          hsame (congrArg HeaderName.mk (String.toList_inj.1 heq))
        rw [if_neg hsame, if_neg hne, Option.elim_none]
    · cases h
    · cases h

/-- After settings that are not refused there is the `lastValue?` for each name that they set, and
under the others what was there before. -/
theorem getAll_applyAll {s t : Settings} {steps : List Step} (h : s.applyAll steps = .ok t)
    (name : HeaderName) :
    t.headers.getAll name =
      (lastValue? steps name).elim (s.headers.getAll name) fun value => [value] := by
  -- By induction on the settings, for everything they may begin with.
  induction steps generalizing s with
  | nil =>
    obtain rfl := Except.ok.inj h
    rfl
  | cons step steps ih =>
    rw [applyAll, List.foldlM_cons] at h
    -- No setting of the run was refused, the first one included.
    obtain ⟨u, hstep, hrest⟩ := bind_eq_ok h
    rw [ih hrest, getAll_apply hstep, lastValue?, lastValue?, findSome?_reverse_cons]
    cases steps.reverse.findSome? (Step.valueFor? name) <;> rfl

/-- `build` hands the headers on to the client. -/
theorem headers_of_build {s : Settings} {c : Client} (h : s.build = .ok c) :
    c.headers = s.headers := by
  unfold build at h
  split at h
  · obtain rfl := Except.ok.inj h
    rfl
  · cases h

end Settings

/-! ## Messages -/

namespace Message

/-- What a message has under a name that is not set: the kind of its body under `contentType`, if it
has one, and the replies that are accepted under `accept`. -/
def ownValues (hasBody : Bool) (name : HeaderName) : List HeaderValue :=
  if name = contentType then
    if hasBody then [⟨Text.Utf8.encode "application/json".toList⟩] else []
  else if name = accept then [⟨Text.Utf8.encode "*/*".toList⟩]
  else []

/-- `addIfAbsent` adds a value where there is none under the name. -/
theorem getAll_addIfAbsent (headers : HeaderMap) (name key : HeaderName) (value : String) :
    (addIfAbsent headers name value).getAll key =
      if key = name ∧ headers.getAll key = [] then [⟨Text.Utf8.encode value.toList⟩]
      else headers.getAll key := by
  unfold addIfAbsent HeaderMap.get?
  -- Whether anything stands under the name decides, and only for this name.
  cases hvalues : headers.getAll name with
  | nil =>
    rw [List.head?_nil, HeaderMap.getAll_append]
    grind
  | cons first rest =>
    rw [List.head?_cons]
    grind

/-- The empty text is `decoded?` to itself. -/
private theorem decoded?_nil : decoded? [] = some [] := by
  simp [decoded?, Url.Percent.decode, Text.Utf8.decode?, Text.Utf8.parts]

/-- Without user name and password `credentialHeaders` are none. -/
theorem credentialHeaders_of_nil {url : Url} (husername : url.username = [])
    (hpassword : url.password = []) : credentialHeaders url = .empty := by
  have hnone : credentials? url = none := by
    rw [credentials?, husername, hpassword, decoded?_nil]
    rfl
  rw [credentialHeaders, hnone]

/-- `headersFor` keeps the headers of a client as they are, and what a message has by itself gives
way to them. -/
theorem getAll_headersFor {url : Url} (husername : url.username = [])
    (hpassword : url.password = []) (defaults : HeaderMap) (hasBody : Bool) (name : HeaderName) :
    (headersFor url defaults hasBody).getAll name =
      if defaults.getAll name = [] then ownValues hasBody name else defaults.getAll name := by
  have hfields := HeaderMap.empty.fields_foldl_append defaults.fields
  -- Added one by one to no fields, the headers of the client are what they were.
  have hgiven : defaults.fields.foldl (fun map field => map.append field.1 field.2) .empty =
      defaults := by
    cases defaults
    exact congrArg HeaderMap.mk hfields
  have hdistinct : contentType ≠ accept := by decide
  rw [headersFor, credentialHeaders_of_nil husername hpassword, hgiven, getAll_addIfAbsent,
    ownValues]
  -- All that counts of the two names is that they differ, so neither gives way to the other.
  generalize contentType = kind at hdistinct ⊢
  by_cases hset : defaults.getAll name = []
  · by_cases hname : name = kind
    · subst hname
      cases hasBody <;> simp [getAll_addIfAbsent, hset, hdistinct]
    · cases hasBody <;> simp [getAll_addIfAbsent, hset, hname]
  · cases hasBody <;> simp [getAll_addIfAbsent, hset]

end Message

namespace Client

/-- Under a name that settings of the client are for, a message has one value: that of the last of
these settings, in whatever case they write the name. All that it has beside them is that its body
is JSON, if there is one, and that any reply is accepted, both unless a setting says otherwise. -/
theorem message_headers_of_settings {ρ : Type} {steps : List Settings.Step} {s : Settings}
    {c : Client} (hsteps : Settings.empty.applyAll steps = .ok s) (hbuild : s.build = .ok c)
    (husername : c.base.username = []) (hpassword : c.base.password = [])
    {op : Operation ρ} {body : Option String} (hbody : op.body? = .ok body) (link : Link) :
    let message := c.message op.request body
    (c.perform link op).sent = (if (link message).reachesServer then [message] else []) ∧
      message.body = body ∧
      ∀ name, message.headers.getAll name =
        (Settings.lastValue? steps name).elim (Message.ownValues body.isSome name)
          fun value => [value] := by
  intro message
  have hsent : (c.perform link op).sent =
      if (link message).reachesServer then [message] else [] := by
    rw [perform_eq hbody]
  refine ⟨hsent, rfl, fun name => ?_⟩
  -- The client has what the settings left, and the message what the client has.
  have hset := Settings.getAll_applyAll hsteps name
  rw [← Settings.headers_of_build hbuild] at hset
  have hmessage := Message.getAll_headersFor husername hpassword c.headers body.isSome name
  rw [hset] at hmessage
  refine hmessage.trans ?_
  cases Settings.lastValue? steps name <;> rfl

/-- Of two values under one name only the later is sent, and a kind of body that is set is kept. -/
theorem message_headers_of_settings_sameName :
    let steps : List Settings.Step := [.header "X-Run" "a", .base "http://[::1]:8080/",
      .header "x-RUN" "b", .header "Content-Type" "text/plain"]
    let op : Operation Empty := .stubFor (.of ⟨0, 0⟩ "GET" (.equalTo "/"))
    ∃ s c body, Settings.empty.applyAll steps = .ok s ∧ s.build = .ok c ∧
      (c.base.username = [] ∧ c.base.password = []) ∧ op.body? = .ok (some body) ∧
      let headers := (c.message op.request (some body)).headers
      headers.getAll ⟨"x-run"⟩ = [⟨"b".toUTF8.data.toList⟩] ∧
        headers.getAll Message.contentType = [⟨"text/plain".toUTF8.data.toList⟩] ∧
        headers.getAll Message.accept = [⟨Text.Utf8.encode "*/*".toList⟩] := by
  intro steps op
  obtain ⟨s, hsteps⟩ : ∃ s, Settings.empty.applyAll steps = .ok s := ⟨_, rfl⟩
  obtain ⟨c, hbuild⟩ : ∃ c, s.build = .ok c := by
    cases hsteps
    exact ⟨_, rfl⟩
  obtain ⟨body, hbody⟩ : ∃ body, op.body? = .ok (some body) := ⟨_, rfl⟩
  have hcredentials : c.base.username = [] ∧ c.base.password = [] := by
    cases hsteps
    cases hbuild
    exact ⟨rfl, rfl⟩
  -- The theorem holds of every link, so one that leads nowhere will do.
  have hheaders := (message_headers_of_settings hsteps hbuild hcredentials.1 hcredentials.2 hbody
    fun _ => .unreachable).2.2
  exact ⟨s, c, body, hsteps, hbuild, hcredentials, hbody, hheaders _, hheaders _, hheaders _⟩

end Client

end Admin

end HttpStub
