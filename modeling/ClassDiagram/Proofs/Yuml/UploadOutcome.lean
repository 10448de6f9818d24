import ClassDiagram.Proofs.Delivery.ActionOutcomes
import ClassDiagram.Yuml.Client

/-! What an upload comes to. It makes one request and touches nothing but the requests that services
receive, and what becomes of the request decides its result.
-/

namespace ClassDiagram.Yuml.Client

open ClassDiagram.Action

/-- The request for a body is made once, whatever becomes of it. -/
theorem outcome_upload (client : Client) (body : String) (world : World)
    : let request := client.request body
      let exchange := world.web request
      (client.upload body).outcome world
        = (client.published exchange, world.receiving (exchange.received request)) := by
  intro request exchange
  rw [upload, outcome_tell_bind, outcome_bind_of_ok (outcome_send request world)]
  cases rejection? (world.web request) <;> rfl

/-- An image is published exactly if the request is answered with success and the answer can be read
and names an image.
-/
theorem published_eq_ok_iff {client : Client} {exchange : Exchange} {url : String}
    : client.published exchange = .ok url
      ↔ ∃ redirected status answer,
          exchange = .sent redirected (.ok { status, body := .ok answer })
          ∧ isSuccess status
          ∧ client.imageUrl answer = .ok url := by
  constructor
  · intro publishes
    match exchange with
    | .unprepared _ | .unsent _ | .sent _ (.error _) => cases publishes
    | .sent redirected (.ok ⟨status, body⟩) =>
        rw [published] at publishes
        split at publishes
        next success =>
          cases body with
          | error reason => cases publishes
          | ok answer => exact ⟨redirected, status, answer, rfl, success, publishes⟩
        next => cases publishes
  · rintro ⟨redirected, status, answer, rfl, success, named⟩
    rw [published, if_pos success]
    exact named

/-- An answer that names no image is empty. -/
theorem eq_failed_of_imageUrl_eq_error {client : Client} {answer : ByteArray} {failure : Failure}
    (unnamed : client.imageUrl answer = .error failure)
    : failure = failed "empty response" := by
  simp only [imageUrl] at unnamed
  split at unnamed
  · exact (Except.error.inj unnamed).symm
  · cases unnamed

/-- Whatever goes wrong, the service is to blame. -/
theorem exists_reason_of_published_eq_error {client : Client} {exchange : Exchange}
    {failure : Failure} (unpublished : client.published exchange = .error failure)
    : ∃ reason, failure = .sinkFailure "yuml" reason := by
  match exchange with
  | .unprepared _ | .unsent _ | .sent _ (.error _) =>
      exact ⟨_, (Except.error.inj unpublished).symm⟩
  | .sent _ (.ok ⟨status, body⟩) =>
      rw [published] at unpublished
      split at unpublished
      · cases body with
        | error reason => exact ⟨reason, (Except.error.inj unpublished).symm⟩
        | ok answer => exact ⟨_, eq_failed_of_imageUrl_eq_error unpublished⟩
      · exact ⟨_, (Except.error.inj unpublished).symm⟩

end ClassDiagram.Yuml.Client
