/-
**Runs over the client.**

A network and a client make a service: it replies with what the deliveries of a request leave. A run
over the client is the run with that service, and on the wire its requests follow each other, each
with all of its deliveries. So the run breaks off exactly where the credentials are rejected, and
nothing is delivered after that.

* `HttpClient.service`: the service that a client makes of a network;
* `HttpClient.transfer_carry`: a dialogue over the client is the dialogue with that service;
* `Document.run`: the run of an operation; `run_concludes` is what it ends with;
* `carry_run_concludes`: a run over the client.
-/

import ResourceGraph.Proofs.Http.Attempts
import ResourceGraph.Proofs.Provision.Report
import ResourceGraph.Proofs.Teardown.Report

namespace ResourceGraph

open Dialogue

/-! ### Dialogues over the client -/

namespace HttpClient

variable {σ : Type} (client : HttpClient) (network : Network σ) (state : σ)

/-- The service that a client makes of a network. -/
def service : Service σ := fun request state =>
  let sent := Wire.transfer network state (client.send request)
  (sent.result, sent.state)

/-- **A dialogue over a client is the dialogue with its service.** What is delivered are the
deliveries of one request after the other. -/
theorem transfer_carry {α : Type} (dialogue : Dialogue α) :
    let carried := Wire.transfer network state (client.carry dialogue)
    let talk := converse (client.service network) state dialogue
    carried.result = talk.result ∧ carried.state = talk.state ∧
      ∃ parts, carried.transmissions = parts.flatten ∧
        List.Forall₂ client.Sent talk.exchanges parts := by
  induction dialogue generalizing state with
  | done result => exact ⟨rfl, rfl, [], rfl, .nil⟩
  | ask call next ih =>
    cases call with
    | send request =>
      have sent := sent_send network state client request
      obtain ⟨result, last, parts, transmitted, each⟩ :=
        ih (client.service network request state).1 (client.service network request state).2
      have carried := Wire.transfer_bind network state (client.send request)
        fun reply => client.carry (next reply)
      refine ⟨(congrArg Transfer.result carried).trans result,
        (congrArg Transfer.state carried).trans last,
        (Wire.transfer network state (client.send request)).transmissions :: parts, ?_,
        .cons sent each⟩
      rw [List.flatten_cons, ← transmitted]
      exact congrArg Transfer.transmissions carried
    | log entry => exact ih () state

variable {client} {exchanges : List Exchange} {parts : List (List Transmission)}

/-- **Some reply is fatal** exactly if some delivery rejects the credentials. -/
theorem fatallyAnswered_iff_of_sent (each : List.Forall₂ client.Sent exchanges parts) :
    (∃ exchange ∈ exchanges, FatallyAnswered exchange) ↔
      ∃ transmission ∈ parts.flatten, Rejects transmission.2 := by
  induction each with
  | nil => simp
  | cons sent _ ih =>
    simp only [List.mem_cons, List.flatten_cons, List.mem_append, or_and_right, exists_or,
      exists_eq_left, ih, sent.fatallyAnswered_iff]

/-- **A rejecting delivery stands at the end of a request**, and its message is the reply. -/
theorem exists_of_rejects (each : List.Forall₂ client.Sent exchanges parts)
    {earlier after : List Transmission} {here : Transmission}
    (split : parts.flatten = earlier ++ here :: after) (rejects : Rejects here.2) :
    ∃ before exchange later laterParts, exchanges = before ++ exchange :: later ∧
      (∃ message, exchange.2 = .error (.service (.unauthorized message))) ∧
      after = laterParts.flatten ∧ List.Forall₂ client.Sent later laterParts := by
  induction each generalizing earlier with
  | nil => simp at split
  | @cons exchange part exchanges parts sent each ih =>
    rw [List.flatten_cons] at split
    rcases List.append_eq_append_iff.mp split with ⟨more, rfl, later⟩ | ⟨more, inside, rest⟩
    · obtain ⟨before, given, rest, laterParts, rfl, unauthorized, tail, sentLater⟩ := ih later
      exact ⟨exchange :: before, given, rest, laterParts, rfl, unauthorized, tail, sentLater⟩
    · cases more with
      | nil =>
        have later : parts.flatten = [] ++ here :: after := rest.symm
        obtain ⟨before, given, rest, laterParts, rfl, unauthorized, tail, sentLater⟩ := ih later
        exact ⟨exchange :: before, given, rest, laterParts, rfl, unauthorized, tail, sentLater⟩
      | cons first more =>
        obtain ⟨rfl, rfl⟩ := List.cons.inj rest
        obtain rfl := sent.eq_nil_of_rejects inside rejects
        have member : here ∈ part := by
          rw [inside]
          exact List.mem_concat_self
        exact ⟨[], exchange, exchanges, parts, rfl, sent.unauthorized_of_rejects member rejects,
          rfl, each⟩

end HttpClient

/-! ### Runs -/

/-- The run of an operation over a document. Provisioning does not look at the tags. -/
def Document.run (document : Document) (operation : Operation) (options : RunOptions)
    (occasion : Occasion) (tags : List String) : Dialogue RunOutcome :=
  match operation with
  | .provision => document.provision options occasion
  | .teardown => document.teardown options occasion tags

variable {σ : Type}

/-- **A run of either operation concludes**, with any service. -/
theorem run_concludes (service : Service σ) (state : σ) (document : Document)
    (operation : Operation) (options : RunOptions) (occasion : Occasion) (tags : List String) :
    let run := converse service state (document.run operation options occasion tags)
    ∃ sentFor resources, run.result.Concludes sentFor resources run.exchanges := by
  cases operation with
  | provision =>
    refine ⟨Provision.IsFor (options.scope document), document.resources, ?_⟩
    simp only [Document.run, converse_provision]
    exact concludes_visits service _ _ state document.resources
      (fun here member => (Provision.visit_sound service state options document member).1)
      (fun here member => Provision.visit_isFor service state options document member)
      occasion .provision document options.dryRun
  | teardown =>
    refine ⟨Teardown.IsFor (options.scope document), document.resources.reverse, ?_⟩
    simp only [Document.run, converse_teardown]
    exact concludes_visits service _ _ state document.resources.reverse
      (fun here member => (Teardown.visit_told service state options _ tags member).sound)
      (fun here member => (Teardown.visit_course service state options _ tags member).isFor)
      occasion .teardown document options.dryRun

/-- **What a run over a client sends and ends with.** It is the run with the service that the client
makes of the network, and what is delivered are the deliveries of its requests, one request after
the other. The run is aborted exactly if some delivery rejects the credentials; that delivery is the
last of all, and its rejection is the cause. -/
theorem carry_run_concludes (network : Network σ) (state : σ) (client : HttpClient)
    (document : Document)
    (operation : Operation) (options : RunOptions) (occasion : Occasion) (tags : List String) :
    let dialogue := document.run operation options occasion tags
    let run := Wire.transfer network state (client.carry dialogue)
    let talk := converse (client.service network) state dialogue
    run.result = talk.result ∧
      (∃ parts, run.transmissions = parts.flatten ∧ List.Forall₂ client.Sent talk.exchanges parts) ∧
      ((∃ abort, run.result = .error abort) ↔
        ∃ transmission ∈ run.transmissions, Rejects transmission.2) ∧
      ∀ earlier here after, run.transmissions = earlier ++ here :: after → Rejects here.2 →
        after = [] ∧ ∃ report message,
          run.result = .error ⟨report, .service (.unauthorized message)⟩ := by
  intro dialogue run talk
  obtain ⟨result, _, parts, transmitted, each⟩ := client.transfer_carry network state dialogue
  obtain ⟨sentFor, resources, concludes⟩ := run_concludes (client.service network) state document
    operation options occasion tags
  refine ⟨result, ⟨parts, transmitted, each⟩, ?_, fun earlier here after split rejects => ?_⟩
  · rw [result, transmitted]
    exact concludes.aborted_iff.trans (HttpClient.fatallyAnswered_iff_of_sent each)
  · rw [transmitted] at split
    obtain ⟨before, exchange, later, laterParts, parted, ⟨message, replied⟩, tail, sentLater⟩ :=
      HttpClient.exists_of_rejects each split rejects
    obtain ⟨rfl, report, cause, aborted, same⟩ :=
      concludes.last_of_fatal parted ⟨_, replied, Or.inl ⟨message, rfl⟩⟩
    cases sentLater
    cases replied.symm.trans same
    exact ⟨tail, report, message, result.trans aborted⟩

/-- A document with one location. -/
def closet : Document where
  formatVersion := "1.0"
  name := "closet"
  title := "Closet"
  description := none
  author := none
  tags := []
  setupMinutes := none
  resources := [⟨.location, "Shelf", [], "shelf", []⟩]

/-- A network whose service asks to wait once and rejects the credentials from then on. -/
def throttled : Network Nat := fun _ count =>
  (.ok ⟨if count = 0 then 429 else 401, [], .ok ""⟩, count + 1)

/-- A client with a key that the service does not take. -/
def intruder : HttpClient := .connect "http://localhost/" "key"

/-- The options of a run that takes a failed look-up for a missing resource. -/
def trusting : RunOptions := ⟨false, none, "seedbed", .treatAsMissing, false⟩

/-- The look-up of the location, on the wire. -/
def shelfLookup : WireRequest where
  method := .post
  url := ⟨"http", "localhost", none, ["nilocation", "v1", "query-locations"], none⟩
  headers := [("authorization", "Bearer key"), ("accept", "application/json"),
    ("user-agent", "seedbed/0.1.0"), ("content-type", "application/json")]
  body := some (Json.compact (.object
    [("filter", .string ("name == \"Shelf\" && " ++
      "properties[\"seedbedCleanupTag\"] == \"seedbed-example:closet\"")),
    ("take", Json.ofNat 1)]))

/-- The throttled look-up is sent again, is rejected then, and breaks the run off. -/
theorem carry_run_concludes_throttled :
    let run := Wire.transfer throttled 0
      (intruder.carry (closet.run .provision trusting .epoch []))
    run.transmissions = [(shelfLookup, .ok ⟨429, [], .ok ""⟩)] ++
        (shelfLookup, .ok ⟨401, [], .ok ""⟩) :: [] ∧
      ∃ report message, run.result = .error ⟨report, .service (.unauthorized message)⟩ := by
  intro run
  have split : run.transmissions = [(shelfLookup, .ok ⟨429, [], .ok ""⟩)] ++
      (shelfLookup, .ok ⟨401, [], .ok ""⟩) :: [] := rfl
  obtain ⟨_, _, _, last⟩ :=
    carry_run_concludes throttled 0 intruder closet .provision trusting .epoch []
  exact ⟨split, (last _ _ _ split (Or.inl rfl)).2⟩

end ResourceGraph
