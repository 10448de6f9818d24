import ClassDiagram.Proofs.Delivery.DeliveredTexts
import ClassDiagram.Proofs.Text.FormDecoding

/-! A run works with exactly the text that generating gives. It fails as generating fails, before
anything happens. Otherwise the text is what is written or printed, or what the service can read
from the form that it receives.
-/

namespace ClassDiagram

/-- The request posts a form to the service, and the only field of the form is the body. -/
structure Yuml.Client.Carries (client : Client) (request : Request) (body : String) : Prop where
  method : request.method = "POST"
  target : request.target = client.endpoint
  contentType : request.contentType = "application/x-www-form-urlencoded"
  fields : Text.decodeForm request.body = some [("dsl_text", body)]

theorem Yuml.Client.carries_request (client : Client) (body : String)
    : client.Carries (client.request body) body where
  method := rfl
  target := rfl
  contentType := rfl
  fields := Text.decodeForm_formField "dsl_text" body

/-- What is not sent is not published, and no run succeeds. -/
theorem EngineKind.Delivery.exists_failure_of_unsent {client : Yuml.Client} {body : String}
    {destination : Destination} {world : World} {ended : Except Failure Unit × World}
    (delivery : EngineKind.yuml.Delivery client body destination world ended)
    (unsent : ∀ redirected reply, world.web (client.request body) ≠ .sent redirected reply)
    : ∃ failure, ended.1 = .error failure := by
  cases result : ended.1 with
  | error failure => exact ⟨failure, rfl⟩
  | ok _ =>
      obtain ⟨text, ⟨url, published, -⟩, -⟩ := delivery.delivered_of_eq_ok result
      obtain ⟨redirected, status, answer, sent, -⟩ :=
        Yuml.Client.published_eq_ok_iff.mp published
      exact absurd sent (unsent _ _)

/-- A run fails with the failure of generating and leaves the world as it was, or it delivers the
generated text: as a document, or to the service by one request, without which no run succeeds and
after which services receive only what the web redirects it to. Witness: the ways in which
delivering ends, and forms that read back.
-/
theorem run_agrees_with_generate {generator : Generator} {kind : EngineKind}
    {client : Yuml.Client} (active : generator.registry.active = .ok (kind.engine client))
    (dump : Declaration.Dump) (destination : Destination) (world : World)
    : let result := ((generator.run dump destination).outcome world).1
      let after := ((generator.run dump destination).outcome world).2
      (∀ failure,
        (generator.generate dump).result = .error failure
        → result = .error failure ∧ after = world)
      ∧ ∀ body,
          (generator.generate dump).result = .ok body
          → (kind = .mermaid
              → after.requests = world.requests
                ∧ (result = .ok ()
                  ↔ world.Takes destination.file ("classDiagram\n" ++ body))
                ∧ (result = .ok ()
                  → Delivered destination.file ("classDiagram\n" ++ body) world after))
            ∧ (kind = .yuml
              → ∃ request,
                  client.Carries request body
                  ∧ ((∀ redirected reply, world.web request ≠ .sent redirected reply)
                      ∧ (∃ failure, result = .error failure)
                      ∧ after.requests = world.requests
                    ∨ ∃ redirected reply,
                        world.web request = .sent redirected reply
                        ∧ after.requests = world.requests ++ request :: redirected
                        ∧ (world.web.WithoutRedirections
                          → after.requests = world.requests ++ [request]))) := by
  constructor
  · intro failure failed
    rw [Generator.outcome_run_of_error failed]
    exact ⟨rfl, rfl⟩
  · intro body generated
    have delivery := Generator.delivery_run active generated destination world
    constructor
    · rintro rfl
      refine ⟨delivery.requests_eq.trans (List.append_nil _), ?_, ?_⟩
      · rw [delivery.eq_ok_iff]
        constructor
        · rintro ⟨text, rfl, taken, -⟩
          exact taken
        · exact fun taken => ⟨_, rfl, taken, trivial⟩
      · intro succeeded
        obtain ⟨text, rfl, delivered⟩ := delivery.delivered_of_eq_ok succeeded
        exact delivered
    · rintro rfl
      refine ⟨client.request body, client.carries_request body, ?_⟩
      have requests := delivery.requests_eq
      rw [EngineKind.received] at requests
      cases sent : world.web (client.request body) with
      | unprepared _ | unsent _ =>
          rw [sent] at requests
          have unsent := delivery.exists_failure_of_unsent (by simp [sent])
          exact .inl ⟨by simp, unsent, requests.trans (List.append_nil _)⟩
      | sent redirected reply =>
          rw [sent] at requests
          refine .inr ⟨redirected, reply, rfl, requests, fun straight => ?_⟩
          rw [straight _ _ _ sent] at requests
          exact requests

/-- Signs with a meaning in forms and letters of several bytes reach the service as they are, and
standard output too. Where the web redirects the request, services receive another one after it.
-/
theorem reserved_signs_reach_service
    : let client : Yuml.Client := ⟨"http://localhost"⟩
      let drawing (kind : EngineKind) : Generator :=
        { registry := Registry.empty.add (kind.engine client) }
      let dump : Declaration.Dump := { files := [{ classes := [{ symbol := some "100%+é&a=b" }] }] }
      let moved (request : Request) : Request := { request with target := "http://localhost/moved" }
      let straight : Web := fun _ => .sent [] (.error "no reply")
      let redirecting : Web := fun request => .sent [moved request] (.error "no reply")
      let leaving (kind : EngineKind) (web : Web) : World :=
        (((drawing kind).run dump {}).outcome { web }).2
      (∀ kind, (drawing kind).registry.active = .ok (kind.engine client))
      ∧ straight.WithoutRedirections
      ∧ (∃ request,
          client.Carries request "[100%+é&a=b\x7bbg:skyblue\x7d][100%+é&a=b||]"
          ∧ (leaving .yuml straight).requests = [request])
      ∧ (∃ request,
          client.Carries request "[100%+é&a=b\x7bbg:skyblue\x7d][100%+é&a=b||]"
          ∧ (leaving .yuml redirecting).requests = [request, moved request])
      ∧ (leaving .mermaid straight).requests = []
      ∧ (leaving .mermaid straight).printed
        = "classDiagram\nclass 100%+é&a=b \x7b\n\x7d\n".toUTF8 := by
  intro client drawing dump moved straight redirecting leaving
  have boxes : ((drawing .yuml).generate dump).result
      = .ok "[100%+é&a=b\x7bbg:skyblue\x7d][100%+é&a=b||]" := by decide +kernel +revert
  have block : ((drawing .mermaid).generate dump).result
      = .ok "class 100%+é&a=b \x7b\n\x7d\n" := by decide +kernel +revert
  have active (kind : EngineKind)
      : (drawing kind).registry.active = .ok (kind.engine client) := by
    cases kind <;> rfl
  have unredirected : straight.WithoutRedirections := by
    rintro request redirected reply sent
    exact (Exchange.sent.inj sent).1.symm
  have agreeing (kind : EngineKind) (web : Web) :=
    (run_agrees_with_generate (active kind) dump {} { web }).2
  refine ⟨active, unredirected, ?_, ?_, ?_⟩
  · obtain ⟨request, carries, ⟨unsent, -⟩ | ⟨_, _, -, -, requests⟩⟩ :=
      (agreeing .yuml straight _ boxes).2 rfl
    · exact absurd rfl (unsent _ _)
    · exact ⟨request, carries, requests unredirected⟩
  · obtain ⟨request, carries, ⟨unsent, -⟩ | ⟨_, _, sent, requests, -⟩⟩ :=
      (agreeing .yuml redirecting _ boxes).2 rfl
    · exact absurd rfl (unsent _ _)
    · obtain ⟨rfl, -⟩ := Exchange.sent.inj sent
      exact ⟨request, carries, requests⟩
  · obtain ⟨requests, succeeds, delivers⟩ := (agreeing .mermaid straight _ block).1 rfl
    obtain ⟨-, printed⟩ := delivers (succeeds.mpr rfl)
    exact ⟨requests, printed.trans ByteArray.empty_append⟩

end ClassDiagram
