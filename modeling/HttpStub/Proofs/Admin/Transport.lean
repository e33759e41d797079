import HttpStub.Proofs.Admin.Outcome

/-!
# Failures of the transport

The transport may fail in either phase of an exchange, before the status of the reply is known or
behind it, and in each of them because the time is up or for another reason. An operation reports
such a failure by an error of its own kind, and no other error is of this kind. In the first phase
it tells timeouts from other failures; in the second one it takes every failure for a broken
connection.
-/

namespace HttpStub.Admin

variable {ρ : Type}

/-- The phases of the transport. -/
inductive Phase where
  /-- Up to the status and the headers of the reply. -/
  | sending
  /-- Through the body of the reply. -/
  | reading
deriving DecidableEq

/-- The phase in which the transport fails and how it fails there, if it does. -/
def Delivery.failure? : Delivery → Option (Phase × Breakdown)
  | .unreachable => some (.sending, .broken)
  | .unanswered why => some (.sending, why)
  | .cut _ _ why => some (.reading, why)
  | .received .. => none

/-- The error that tells a failure for what it is. -/
def Breakdown.error : Breakdown → Error
  | .timeout => .timeout
  | .broken => .network

/-- How an operation takes a failure. -/
def Phase.taken : Phase → Breakdown → Breakdown
  | .sending, why => why
  | .reading, _ => .broken

/-- `taken` leaves each failure what it is but for a timeout while the body is read. -/
theorem Phase.taken_eq_self_iff {phase : Phase} {why : Breakdown} :
    phase.taken why = why ↔ (phase, why) ≠ (.reading, .timeout) := by
  cases phase <;> cases why <;> decide

/-- `Breakdown.error` tells the two ways to fail apart. -/
theorem Breakdown.error_inj {a b : Breakdown} : a.error = b.error ↔ a = b := by
  cases a <;> cases b <;> decide

namespace Operation

variable {op : Operation ρ} {delivery : Delivery}

/-- `conclude` reports a failure as the phase takes it. -/
theorem conclude_of_failure {phase : Phase} {why : Breakdown}
    (h : delivery.failure? = some (phase, why)) :
    (op.conclude delivery).2 = .error (phase.taken why).error := by
  cases delivery with
  | unreachable =>
    cases h
    rfl
  | unanswered how =>
    cases h
    cases why <;> rfl
  | cut status headers how =>
    cases h
    rfl
  | received status headers body latency => cases h

/-- A whole reply is no failure of the transport, whatever `conclude` makes of it. -/
theorem conclude_ne_of_failure_eq_none (h : delivery.failure? = none) (why : Breakdown) :
    (op.conclude delivery).2 ≠ .error why.error := by
  cases delivery with
  | received status headers body latency =>
    intro herror
    -- An error that comes from a reply has its status, and failures have none.
    have hstatus := (error_of_judge (show (op.judge _).2 = _ from herror)).1
    cases why <;> cases hstatus
  | unreachable | unanswered how | cut status headers how => cases h

/-- `conclude` gives an error of the transport exactly if the transport fails, in the way that the
operation takes it. -/
theorem conclude_eq_error_iff (op : Operation ρ) (delivery : Delivery) (why : Breakdown) :
    (op.conclude delivery).2 = .error why.error ↔
      ∃ phase how, delivery.failure? = some (phase, how) ∧ phase.taken how = why := by
  cases h : delivery.failure? with
  | none => simpa using conclude_ne_of_failure_eq_none h why
  | some failure =>
    obtain ⟨phase, how⟩ := failure
    rw [conclude_of_failure h, Except.error.injEq, Breakdown.error_inj]
    constructor
    · exact fun htaken => ⟨phase, how, rfl, htaken⟩
    · -- A delivery fails in one phase and one way.
      rintro ⟨phase', how', hsame, htaken⟩
      cases hsame
      exact htaken

end Operation

namespace Client

/-- The operation has a message to send, and the transport fails with it in this phase. -/
def Fails (c : Client) (link : Link) (op : Operation ρ) (phase : Phase) (why : Breakdown) : Prop :=
  ∃ body, op.body? = .ok body ∧ (link (c.message op.request body)).failure? = some (phase, why)

/-- So does `perform`, for an operation that has nothing to send fails for another reason. -/
theorem perform_eq_error_iff (c : Client) (link : Link) (op : Operation ρ) (why : Breakdown) :
    (c.perform link op).result = .error why.error ↔
      ∃ phase how, c.Fails link op phase how ∧ phase.taken how = why := by
  cases hbody : op.body? with
  | error failure =>
    have hresult : (c.perform link op).result = .error (.unserializable failure.message) := by
      simp only [perform, hbody]
    -- Without a document there is no message that the transport could fail with.
    have hnone : ∀ phase how, ¬ c.Fails link op phase how := by
      rintro phase how ⟨body, hok, -⟩
      rw [hbody] at hok
      cases hok
    rw [hresult]
    constructor
    · intro herror
      cases why <;> cases herror
    · rintro ⟨phase, how, hfails, -⟩
      exact absurd hfails (hnone phase how)
  | ok body =>
    have hfails : ∀ phase how, c.Fails link op phase how ↔
        (link (c.message op.request body)).failure? = some (phase, how) := by
      intro phase how
      simp [Fails, hbody]
    have hresult : (c.perform link op).result =
        (op.conclude (link (c.message op.request body))).2 := by
      rw [perform_eq hbody]
    simp only [hresult, hfails, Operation.conclude_eq_error_iff]

/-- When an operation reports a failure of the transport, however long the client waits and whatever
has come of the reply. It reports a timeout if and only if the time is up before the status is
known, and a broken connection if and only if the transport fails in any other way, be it by a
timeout while the body is read. So every failure is reported as what it is but for this one. -/
theorem transport_error_iff (c : Client) (link : Link) (op : Operation ρ) :
    ((c.perform link op).result = .error .timeout ↔ c.Fails link op .sending .timeout) ∧
      ((c.perform link op).result = .error .network ↔
        c.Fails link op .sending .broken ∨ ∃ why, c.Fails link op .reading why) ∧
      ∀ phase why, c.Fails link op phase why →
        ((c.perform link op).result = .error why.error ↔ (phase, why) ≠ (.reading, .timeout)) := by
  refine ⟨(perform_eq_error_iff c link op .timeout).trans ?_,
    (perform_eq_error_iff c link op .broken).trans ?_, fun phase why hfails => ?_⟩
  · constructor
    · rintro ⟨phase, how, hfails, htaken⟩
      cases phase with
      | sending => exact htaken ▸ hfails
      | reading => cases htaken
    · exact fun hfails => ⟨.sending, .timeout, hfails, rfl⟩
  · constructor
    · rintro ⟨phase, how, hfails, htaken⟩
      cases phase with
      | sending => exact .inl (htaken ▸ hfails)
      | reading => exact .inr ⟨how, hfails⟩
    · rintro (hfails | ⟨why, hfails⟩)
      · exact ⟨.sending, .broken, hfails, rfl⟩
      · exact ⟨.reading, why, hfails, rfl⟩
  · rw [perform_eq_error_iff, ← Phase.taken_eq_self_iff]
    constructor
    · -- There is one delivery, so the failure that is reported is this one.
      rintro ⟨phase', how, ⟨body, hbody, hfailure⟩, htaken⟩
      obtain ⟨body', hbody', hfailure'⟩ := hfails
      cases hbody.symm.trans hbody'
      cases hfailure.symm.trans hfailure'
      exact htaken
    · exact fun htaken => ⟨phase, why, hfails, htaken⟩

-- The time is up while the body is read, and the connection is blamed.
example :
    let base : Url := ⟨⟨"http"⟩, [], [], some (.ipv6 [0, 0, 0, 0, 0, 0, 0, 1]), none,
      .segments [], none, none⟩
    let c : Client := ⟨base, .empty, some (.ofMillis 200)⟩
    let op : Operation Empty := .clear
    (c.perform (fun _ => .cut .ok .empty .timeout) op).result = .error .network := by
  rfl

end Client

end HttpStub.Admin
