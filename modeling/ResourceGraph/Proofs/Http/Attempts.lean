/-
**The attempts for one request.**

A network delivers requests; what comes of each delivery is an answer or the reason why there is
none. The client sends a request in at most three deliveries, one after the other and all the same,
and the reply is what the last of them reads as. Another one follows only where the service asks to
wait or cannot be reached.

* `Wire.transfer`: what is left of a conversation on the wire when waits and log entries are put
  aside; `transfer_bind` takes it apart;
* `Reads`: the reply that a delivery reads as; `reads_interpret`;
* `Transient`, `Rejects`: the deliveries that another one may follow, and those that reject the
  credentials; `Reads.retryable_iff`, `Reads.fatal_iff` say how their replies are told;
* `HttpClient.Puts`: a request on the wire; `puts_of_prepare` says that the client puts it so;
* `HttpClient.Sent`: the deliveries of one request; `sent_send` says that the client sends so.
-/

import ResourceGraph.Http.Client
import ResourceGraph.Proofs.Run.Report

namespace ResourceGraph

/-! ### Networks -/

/-- A network: what comes of delivering a request, and the state after it. -/
abbrev Network (σ : Type) := WireRequest → σ → Delivery × σ

/-- A request on the wire with what came of delivering it. -/
abbrev Transmission := WireRequest × Delivery

/-- The transmission of an event; waits and log entries are none. -/
def transmission? : WireEvent → Option Transmission
  | ⟨.deliver request, delivery⟩ => some (request, delivery)
  | ⟨.wait _, _⟩ => none
  | ⟨.log _, _⟩ => none

/-- What a conversation on the wire leaves when waits and log entries are put aside. -/
structure Transfer (σ α : Type) where
  result : α
  transmissions : List Transmission
  state : σ

namespace Wire

variable {σ α β : Type} (network : Network σ) (state : σ)

/-- The answers of a network; waits and log entries do not reach it. -/
def answers : (step : WireStep) → σ → step.Answer × σ
  | .deliver request, state => network request state
  | .wait _, state => ((), state)
  | .log _, state => ((), state)

/-- What a conversation leaves in a network. -/
def transfer (wire : Wire α) : Transfer σ α :=
  let outcome := Interaction.run (answers network) state wire
  ⟨outcome.result, outcome.events.filterMap transmission?, outcome.state⟩

@[simp]
theorem transfer_pure (value : α) :
    transfer network state (pure value : Wire α) = ⟨value, [], state⟩ :=
  rfl

/-- **What two parts leave is what the one leaves and then the other.** -/
@[simp]
theorem transfer_bind (wire : Wire α) (next : α → Wire β) :
    transfer network state (wire >>= next) =
      let first := transfer network state wire
      let second := transfer network first.state (next first.result)
      ⟨second.result, first.transmissions ++ second.transmissions, second.state⟩ := by
  simp only [transfer, Interaction.run_bind, List.filterMap_append]

end Wire

/-! ### What a delivery reads as -/

/-- **The reply that a delivery reads as.** The status is looked at first: a service that asks to
wait or rejects the credentials need not send a body. Any other refusal keeps its status and its
body, with the message that the body carries, or else its text. -/
inductive Reads : Delivery → Reply → Prop where
  | unreachable (reason : String) :
      Reads (.error reason) (.error (.service (.unreachable ("Request failed: " ++ reason))))
  | limited {answer : WireAnswer} {seconds : Nat} (status : answer.status = 429)
      (asked : seconds =
        ((answer.headers.get? "retry-after").bind HttpClient.seconds?).getD 60) :
      Reads (.ok answer) (.error (.service (.rateLimited seconds)))
  | rejected {answer : WireAnswer} (message : String)
      (status : answer.status = 401 ∨ answer.status = 403) :
      Reads (.ok answer) (.error (.service (.unauthorized message)))
  | blank {answer : WireAnswer} {text : String}
      (success : 200 ≤ answer.status ∧ answer.status < 300) (body : answer.body = .ok text)
      (blank : ∀ c ∈ text.toList, Text.isBlank c = true) :
      Reads (.ok answer) (.ok .null)
  | value {answer : WireAnswer} {text : String} {value : Json}
      (success : 200 ≤ answer.status ∧ answer.status < 300) (body : answer.body = .ok text)
      (filled : ∃ c ∈ text.toList, Text.isBlank c = false) (read : Json.ofText? text = some value) :
      Reads (.ok answer) (.ok value)
  | garbled {answer : WireAnswer} {text : String} (message : String)
      (success : 200 ≤ answer.status ∧ answer.status < 300) (body : answer.body = .ok text)
      (filled : ∃ c ∈ text.toList, Text.isBlank c = false) (unread : Json.ofText? text = none) :
      Reads (.ok answer) (.error (.service (.malformed message)))
  | refused {answer : WireAnswer} {text message : String}
      (status : answer.status ≠ 429 ∧ answer.status ≠ 401 ∧ answer.status ≠ 403)
      (failure : ¬ (200 ≤ answer.status ∧ answer.status < 300)) (body : answer.body = .ok text)
      (told : message = (((Json.ofText? text).bind ServiceFailure.messageIn?).getD
        (if Text.isBlankText text then "HTTP " ++ toString answer.status else Text.trim text))) :
      Reads (.ok answer)
        (.error (.service (.refused answer.status message (Json.ofText? text))))
  | brokenOff {answer : WireAnswer} {reason : String} (message : String)
      (status : answer.status ≠ 429 ∧ answer.status ≠ 401 ∧ answer.status ≠ 403)
      (body : answer.body = .error reason) :
      Reads (.ok answer) (.error (.service (.malformed message)))

/-- The delivery failed, or the service asks to wait. -/
def Transient : Delivery → Prop
  | .ok answer => answer.status = 429
  | .error _ => True

/-- The service rejects the credentials. -/
def Rejects : Delivery → Prop
  | .ok answer => answer.status = 401 ∨ answer.status = 403
  | .error _ => False

theorem Rejects.not_transient {delivery : Delivery} (rejects : Rejects delivery) :
    ¬ Transient delivery := by
  cases delivery with
  | error reason => exact rejects.elim
  | ok answer =>
    intro transient
    unfold Transient at transient
    unfold Rejects at rejects
    omega

/-- **The client reads a delivery** as it is to be read. -/
theorem reads_interpret (delivery : Delivery) : Reads delivery (HttpClient.interpret delivery) := by
  cases delivery with
  | error reason => exact .unreachable reason
  | ok answer =>
    show Reads _ (HttpClient.replyOfAnswer answer)
    unfold HttpClient.replyOfAnswer
    split
    · exact .limited ‹_› rfl
    split
    · exact .rejected _ (Or.inl ‹_›)
    split
    · exact .rejected _ (Or.inr ‹_›)
    rename_i unlimited authorized allowed
    split
    · exact .brokenOff _ ⟨unlimited, authorized, allowed⟩ ‹_›
    rename_i text body
    split
    · rename_i successful
      have success : 200 ≤ answer.status ∧ answer.status < 300 := by
        simpa [WireAnswer.isSuccess] using successful
      unfold HttpClient.replyOfText
      split
      · rename_i blank
        exact .blank success body (List.all_eq_true.mp blank)
      · rename_i filled
        have someFilled : ∃ c ∈ text.toList, Text.isBlank c = false := by
          simpa [Text.isBlankText] using filled
        split
        · exact .value success body someFilled ‹_›
        · exact .garbled _ success body someFilled ‹_›
    · rename_i unsuccessful
      refine .refused ⟨unlimited, authorized, allowed⟩ ?_ body rfl
      simpa [WireAnswer.isSuccess] using unsuccessful

namespace Reads

variable {delivery : Delivery} {reply : Reply} (reads : Reads delivery reply)

include reads

/-- **Trying again may help** exactly where another delivery may follow. -/
theorem retryable_iff :
    (∃ failure, reply = .error failure ∧ failure.isRetryable = true) ↔ Transient delivery := by
  cases reads with
  | unreachable reason => exact iff_of_true ⟨_, rfl, rfl⟩ trivial
  | limited status asked => exact iff_of_true ⟨_, rfl, rfl⟩ status
  | rejected message status => simp [Failure.isRetryable, Transient]; omega
  | blank success body blank => simp [Transient]; omega
  | value success body filled read => simp [Transient]; omega
  | garbled message success body filled unread => simp [Failure.isRetryable, Transient]; omega
  | refused status failure body told => simp [Failure.isRetryable, Transient, status.1]
  | brokenOff message status body => simp [Failure.isRetryable, Transient, status.1]

/-- **A reply ends a run** exactly where the credentials are rejected. -/
theorem fatal_iff : (∃ failure, reply = .error failure ∧ failure.EndsRun) ↔ Rejects delivery := by
  cases reads with
  | unreachable reason => simp [Failure.EndsRun, Rejects]
  | limited status asked => simp [Failure.EndsRun, Rejects, status]
  | rejected message status => exact iff_of_true ⟨_, rfl, Or.inl ⟨message, rfl⟩⟩ status
  | blank success body blank => simp [Rejects]; omega
  | value success body filled read => simp [Rejects]; omega
  | garbled message success body filled unread => simp [Failure.EndsRun, Rejects]; omega
  | refused status failure body told => simp [Failure.EndsRun, Rejects, status.2]
  | brokenOff message status body => simp [Failure.EndsRun, Rejects, status.2]

theorem unauthorized_of_rejects (rejects : Rejects delivery) :
    ∃ message, reply = .error (.service (.unauthorized message)) := by
  cases reads with
  | rejected message status => exact ⟨message, rfl⟩
  | unreachable reason => exact rejects.elim
  | limited status asked => simp [Rejects, status] at rejects
  | blank success body blank => simp [Rejects] at rejects; omega
  | value success body filled read => simp [Rejects] at rejects; omega
  | garbled message success body filled unread => simp [Rejects] at rejects; omega
  | refused status failure body told => simp [Rejects, status.2] at rejects
  | brokenOff message status body => simp [Rejects, status.2] at rejects

end Reads

/-! ### Attempts -/

namespace HttpClient

/-- The text holds no control characters but tabs. -/
def Uncontrolled (text : String) : Prop :=
  ∀ c ∈ text.toList, (0x20 ≤ c.toNat ∧ c.toNat ≠ 0x7F) ∨ c = '\t'

theorem canSend_iff {value : String} : Headers.canSend value = true ↔ Uncontrolled value := by
  simp only [Headers.canSend, Uncontrolled, List.all_eq_true, Bool.or_eq_true, Bool.and_eq_true,
    decide_eq_true_eq, bne_iff_ne, beq_iff_eq]

/-- **The request on the wire**: the method of the request, its address below that of the service,
the headers that name the key and the client, and the compact text of its body. -/
structure Puts (client : HttpClient) (request : Request) (prepared : WireRequest) : Prop where
  sendable : Uncontrolled client.key
  method : prepared.method = request.method
  /-- The path follows the address of the service, and fields of the query follow both. -/
  address : ∃ url, Url.ofText? (client.baseUrl ++ request.path) = some url ∧
    prepared.url = url.withQuery request.query ∧ (request.query = [] → prepared.url = url)
  headers : prepared.headers =
    [("authorization", "Bearer " ++ client.key), ("accept", "application/json"),
      ("user-agent", "seedbed/0.1.0")] ++
      (if request.body.isSome then [("content-type", "application/json")] else [])
  body : prepared.body = request.body.map Json.compact

/-- **What is prepared is the request on the wire.** -/
theorem puts_of_prepare {client : HttpClient} {request : Request} {prepared : WireRequest}
    (prepares : client.prepare request = some prepared) : client.Puts request prepared := by
  unfold prepare at prepares
  split at prepares
  · rename_i sendable
    obtain ⟨url, address, rfl⟩ := Option.map_eq_some_iff.mp prepares
    refine ⟨canSend_iff.mp sendable, rfl, ⟨url, address, rfl, fun plain => ?_⟩, ?_, rfl⟩
    · dsimp only
      rw [plain]
      rfl
    · dsimp only
      unfold headers
      cases request.body with
      | none => rfl
      | some body => rfl
  · cases prepares

/-- **A request cannot be prepared** only for its key or its address. -/
theorem prepare_eq_none_iff {client : HttpClient} {request : Request} :
    client.prepare request = none ↔
      ¬ Uncontrolled client.key ∨ Url.ofText? (client.baseUrl ++ request.path) = none := by
  rw [← canSend_iff]
  unfold prepare
  split
  · rename_i sendable
    simp only [Option.map_eq_none_iff, sendable, not_true, false_or]
  · rename_i unsendable
    exact iff_of_true rfl (Or.inl unsendable)

/-- **The deliveries of one request** and the reply that they leave: at most three of the same, each
but the last one transient, and the reply is what the last one reads as. The client gives up after a
transient one only if it is the third. A request that cannot be put on the wire, for its key or its
address, is never delivered, and counts as one that did not reach the service. -/
inductive Sent (client : HttpClient) : Exchange → List Transmission → Prop where
  | delivered {request : Request} {reply : Reply} {prepared : WireRequest}
      {earlier : List Delivery} {last : Delivery} (puts : client.Puts request prepared)
      (few : earlier.length < 3) (again : ∀ delivery ∈ earlier, Transient delivery)
      (gaveUp : Transient last → earlier.length + 1 = 3) (reads : Reads last reply) :
      Sent client (request, reply) ((earlier ++ [last]).map fun delivery => (prepared, delivery))
  | unsendable {request : Request}
      (kept : ¬ Uncontrolled client.key ∨ Url.ofText? (client.baseUrl ++ request.path) = none) :
      Sent client (request, .error (.service (.unreachable "Request failed: builder error"))) []

section Send

open Wire

variable {σ : Type} (network : Network σ) (state : σ) (client : HttpClient) (request : Request)

theorem transfer_attempt_of_prepared {prepared : WireRequest}
    (prepares : client.prepare request = some prepared) :
    transfer network state (client.attempt request) =
      ⟨interpret (network prepared state).1, [(prepared, (network prepared state).1)],
        (network prepared state).2⟩ := by
  unfold attempt
  rw [prepares]
  rfl

theorem transfer_attempt_of_unprepared (unprepared : client.prepare request = none) :
    transfer network state (client.attempt request) =
      ⟨interpret (.error "builder error"), [], state⟩ := by
  unfold attempt
  rw [unprepared]
  rfl

theorem transfer_backOff (number : Nat) (failure : Failure) :
    transfer network state (backOff request number failure) = ⟨(), [], state⟩ :=
  rfl

/-- More attempts follow a failure where trying again may help, and nothing else. -/
theorem transfer_attempts_succ (number more : Nat) :
    transfer network state (client.attempts request number (more + 1)) =
      let first := transfer network state (client.attempt request)
      match first.result with
      | .ok value => ⟨.ok value, first.transmissions, first.state⟩
      | .error failure =>
        if failure.isRetryable then
          let rest := transfer network first.state (client.attempts request (number + 1) more)
          ⟨rest.result, first.transmissions ++ rest.transmissions, rest.state⟩
        else ⟨.error failure, first.transmissions, first.state⟩ := by
  rw [attempts, transfer_bind]
  dsimp only
  cases (transfer network state (client.attempt request)).result with
  | ok value => simp only [transfer_pure, List.append_nil]
  | error failure =>
    dsimp only
    split
    · simp only [transfer_bind, transfer_backOff, List.nil_append]
    · simp only [transfer_pure, List.append_nil]

/-- **The attempts for a request that can be delivered**, with so many of them left after the
first. -/
theorem exists_deliveries {prepared : WireRequest}
    (prepares : client.prepare request = some prepared) (number more : Nat) :
    ∃ earlier last,
      (transfer network state (client.attempts request number more)).transmissions =
          (earlier ++ [last]).map (fun delivery => (prepared, delivery)) ∧
        earlier.length ≤ more ∧ (∀ delivery ∈ earlier, Transient delivery) ∧
        (Transient last → earlier.length = more) ∧
        Reads last (transfer network state (client.attempts request number more)).result := by
  have first := transfer_attempt_of_prepared network state client request prepares
  have reads := reads_interpret (network prepared state).1
  induction more generalizing state number with
  | zero =>
    rw [attempts, first]
    exact ⟨[], _, rfl, Nat.le_refl 0, List.forall_mem_nil _, fun _ => rfl, reads⟩
  | succ more ih =>
    rw [transfer_attempts_succ, first]
    dsimp only
    by_cases transient : Transient (network prepared state).1
    · obtain ⟨failure, failed, retryable⟩ := reads.retryable_iff.mpr transient
      obtain ⟨earlier, last, rest, few, again, gaveUp, reads⟩ :=
        ih (network prepared state).2 (number + 1)
          (transfer_attempt_of_prepared network _ client request prepares) (reads_interpret _)
      rw [failed]
      simp only [retryable, if_true]
      refine ⟨(network prepared state).1 :: earlier, last, ?_, Nat.succ_le_succ few,
        List.forall_mem_cons.mpr ⟨transient, again⟩, fun late => ?_, reads⟩
      · rw [rest]
        rfl
      · rw [List.length_cons, gaveUp late]
    · have stops : ¬ ∃ failure, interpret (network prepared state).1 = .error failure ∧
          failure.isRetryable = true :=
        fun retryable => transient (reads.retryable_iff.mp retryable)
      refine ⟨[], (network prepared state).1, ?_⟩
      cases replied : interpret (network prepared state).1 with
      | ok value =>
        rw [replied] at reads
        exact ⟨rfl, Nat.zero_le _, List.forall_mem_nil _, fun late => absurd late transient, reads⟩
      | error failure =>
        have final : failure.isRetryable = false :=
          Bool.eq_false_iff.mpr fun retryable => stops ⟨failure, replied, retryable⟩
        rw [replied] at reads
        simp only [final, Bool.false_eq_true, if_false]
        exact ⟨rfl, Nat.zero_le _, List.forall_mem_nil _, fun late => absurd late transient, reads⟩

theorem transfer_attempts_of_unprepared (unprepared : client.prepare request = none)
    (number more : Nat) :
    transfer network state (client.attempts request number more) =
      ⟨interpret (.error "builder error"), [], state⟩ := by
  have first := transfer_attempt_of_unprepared network state client request unprepared
  induction more generalizing number with
  | zero => rw [attempts, first]
  | succ more ih =>
    rw [transfer_attempts_succ, first]
    exact ih (number + 1)

/-- **How a request is sent.** -/
theorem sent_send :
    let sent := transfer network state (client.send request)
    client.Sent (request, sent.result) sent.transmissions := by
  unfold send
  cases prepares : client.prepare request with
  | some prepared =>
    obtain ⟨earlier, last, transmitted, few, again, gaveUp, reads⟩ :=
      exists_deliveries network state client request prepares 0 (attemptLimit - 1)
    dsimp only
    rw [transmitted]
    exact .delivered (puts_of_prepare prepares) (Nat.lt_succ_of_le few) again
      (fun late => by rw [gaveUp late]; rfl) reads
  | none =>
    rw [transfer_attempts_of_unprepared network state client request prepares]
    exact .unsendable (prepare_eq_none_iff.mp prepares)

end Send

/-! ### Rejected credentials -/

namespace Sent

variable {client : HttpClient} {exchange : Exchange} {transmissions : List Transmission}
  (sent : client.Sent exchange transmissions)

include sent

/-- **Only the last delivery of a request can reject the credentials.** -/
theorem eq_nil_of_rejects {earlier after : List Transmission} {here : Transmission}
    (split : transmissions = earlier ++ here :: after) (rejects : Rejects here.2) : after = [] := by
  cases sent with
  | @delivered request reply prepared before last puts few again gaveUp reads =>
    rw [List.map_append, List.map_singleton] at split
    have passes : ∀ transmission ∈ before.map fun delivery => (prepared, delivery),
        ¬ Rejects transmission.2 := by
      intro transmission member rejected
      obtain ⟨delivery, among, rfl⟩ := List.mem_map.mp member
      exact rejected.not_transient (again delivery among)
    exact (last_of_forall_not passes split rejects).1
  | unsendable kept => simp at split

/-- **A reply is fatal** exactly if a delivery rejected the credentials. -/
theorem fatallyAnswered_iff :
    FatallyAnswered exchange ↔ ∃ transmission ∈ transmissions, Rejects transmission.2 := by
  cases sent with
  | @delivered request reply prepared before last puts few again gaveUp reads =>
    refine reads.fatal_iff.trans ⟨fun rejects => ⟨(prepared, last), ?_, rejects⟩, ?_⟩
    · exact List.mem_map_of_mem (List.mem_append_right _ (List.mem_singleton_self _))
    · rintro ⟨transmission, member, rejects⟩
      obtain ⟨delivery, among, rfl⟩ := List.mem_map.mp member
      rcases List.mem_append.mp among with early | here
      · exact absurd (again delivery early) rejects.not_transient
      · exact List.mem_singleton.mp here ▸ rejects
  | unsendable kept =>
    refine iff_of_false ?_ fun ⟨_, member, _⟩ => List.not_mem_nil member
    rw [fatallyAnswered_error]
    rintro (⟨_, same⟩ | ⟨_, same⟩) <;> cases same

/-- A rejecting delivery leaves its message as the reply. -/
theorem unauthorized_of_rejects {transmission : Transmission}
    (member : transmission ∈ transmissions) (rejects : Rejects transmission.2) :
    ∃ message, exchange.2 = .error (.service (.unauthorized message)) := by
  cases sent with
  | @delivered request reply prepared before last puts few again gaveUp reads =>
    obtain ⟨delivery, among, rfl⟩ := List.mem_map.mp member
    rcases List.mem_append.mp among with early | here
    · exact absurd (again delivery early) rejects.not_transient
    · exact reads.unauthorized_of_rejects (List.mem_singleton.mp here ▸ rejects)
  | unsendable kept => cases member

end Sent

end HttpClient

end ResourceGraph
