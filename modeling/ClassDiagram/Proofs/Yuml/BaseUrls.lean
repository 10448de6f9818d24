import ClassDiagram.Proofs.Yuml.ImageUrls

/-! When a service yields the URL of an image, and what a service is known by. The slashes at the
end of an address are all that is not seen of it.
-/

namespace ClassDiagram.Yuml.Client

-----------------------------------------------------------------------------------------
-- Slashes at the end
-----------------------------------------------------------------------------------------

/-- Two texts are the same but for the number of slashes at their ends. -/
def DifferInSlashes (left right : List Char) : Prop :=
  ∃ stem more fewer,
    left = stem ++ List.replicate more '/' ∧ right = stem ++ List.replicate fewer '/'

/-- Slashes are dropped as the library drops from the right. -/
theorem dropSlashes_eq_rdropWhile (text : List Char)
    : dropSlashes text = text.rdropWhile (· == '/') := rfl

/-- Slashes at the end make no difference, by induction on their number. -/
theorem dropSlashes_append_replicate (stem : List Char) (count : Nat)
    : dropSlashes (stem ++ List.replicate count '/') = dropSlashes stem := by
  induction count with
  | zero => simp
  | succ count ih =>
      rw [List.replicate_succ', ← List.append_assoc, dropSlashes_eq_rdropWhile,
        List.rdropWhile_concat_pos _ _ _ (by decide), ← dropSlashes_eq_rdropWhile, ih]

/-- Only slashes are dropped. -/
theorem exists_replicate_of_dropSlashes (text : List Char)
    : ∃ count, text = dropSlashes text ++ List.replicate count '/' := by
  have slashes : text.rtakeWhile (· == '/')
      = List.replicate (text.rtakeWhile (· == '/')).length '/' :=
    List.eq_replicate_of_mem fun c member => by simpa using List.mem_rtakeWhile_imp member
  refine ⟨(text.rtakeWhile (· == '/')).length, ?_⟩
  rw [← slashes, dropSlashes_eq_rdropWhile, List.rdropWhile_append_rtakeWhile]

theorem dropSlashes_eq_iff (left right : List Char)
    : dropSlashes left = dropSlashes right ↔ DifferInSlashes left right := by
  constructor
  · intro same
    obtain ⟨more, left_eq⟩ := exists_replicate_of_dropSlashes left
    obtain ⟨fewer, right_eq⟩ := exists_replicate_of_dropSlashes right
    exact ⟨dropSlashes left, more, fewer, left_eq, same ▸ right_eq⟩
  · rintro ⟨stem, more, fewer, rfl, rfl⟩
    rw [dropSlashes_append_replicate, dropSlashes_append_replicate]

/-- Two addresses are those of one client exactly if they differ in slashes at the end. -/
theorem ofUrl_eq_iff (url other : String)
    : ofUrl url = ofUrl other ↔ DifferInSlashes url.toList other.toList := by
  rw [← dropSlashes_eq_iff, ofUrl, ofUrl, Client.mk.injEq, String.ofList_inj]

/-- A client is known by its endpoint. -/
theorem endpoint_inj {client other : Client}
    : client.endpoint = other.endpoint ↔ client = other := by
  cases client
  cases other
  rw [endpoint, endpoint, String.append_left_inj, Client.mk.injEq]

-----------------------------------------------------------------------------------------
-- Uploads
-----------------------------------------------------------------------------------------

/-- An image is published exactly if the request is answered with success and not all of the answer
is white space.
-/
theorem exists_published_eq_ok_iff (client : Client) (exchange : Exchange)
    : (∃ image, client.published exchange = .ok image)
      ↔ ∃ redirected status answer,
          exchange = .sent redirected (.ok { status, body := .ok answer })
          ∧ 200 ≤ status
          ∧ status ≤ 299
          ∧ ∃ c ∈ Text.decodeLossy answer, Text.isBlank c = false := by
  constructor
  · rintro ⟨image, publishes⟩
    obtain ⟨redirected, status, answer, answering, success, named⟩ :=
      published_eq_ok_iff.mp publishes
    obtain ⟨least, most⟩ := isSuccess_iff.mp success
    have visible := (Text.trim_ne_nil_iff _).mp (imageUrl_eq_ok_iff.mp named).1
    exact ⟨redirected, status, answer, answering, least, most, visible⟩
  · rintro ⟨redirected, status, answer, answering, least, most, visible⟩
    have named := (Text.trim_ne_nil_iff _).mpr visible
    have success := isSuccess_iff.mpr ⟨least, most⟩
    obtain ⟨image, yields⟩ : ∃ image, client.imageUrl answer = .ok image :=
      ⟨_, imageUrl_eq_ok_iff.mpr ⟨named, rfl⟩⟩
    exact ⟨image, published_eq_ok_iff.mpr
      ⟨redirected, status, answer, answering, success, yields⟩⟩

/-- The URL of an image goes on behind the endpoint with the name of the image. -/
theorem exists_name_of_published_eq_ok {client : Client} {exchange : Exchange} {image : String}
    (publishes : client.published exchange = .ok image)
    : ∃ rest,
        image = client.endpoint ++ String.ofList rest ∧ rest ≠ [] ∧ Text.IsTrimmed rest := by
  obtain ⟨_, _, answer, _, _, yields⟩ := published_eq_ok_iff.mp publishes
  obtain ⟨named, image_eq⟩ := imageUrl_eq_ok_iff.mp yields
  refine ⟨vectorName (Text.trim (Text.decodeLossy answer)), image_eq, ?_, ?_⟩
  · rw [← List.length_pos_iff, length_vectorName]
    exact List.length_pos_iff.mpr named
  · exact isTrimmed_vectorName (Text.isTrimmed_trim _)

/-- Services receive the request for an image first if it is published. -/
theorem exists_received_of_published_eq_ok {client : Client} {exchange : Exchange}
    {image : String} (publishes : client.published exchange = .ok image) (request : Request)
    : ∃ redirected, exchange.received request = request :: redirected := by
  obtain ⟨redirected, _, _, rfl, _⟩ := published_eq_ok_iff.mp publishes
  exact ⟨redirected, rfl⟩

/-- An upload succeeds exactly if its request is sent and answered with success and something
visible, and what it yields is found where the request went. All other ends are failures of the
service. Of the address only the endpoint matters.
Witness: what becomes of the request decides the result. The name that is left of a visible answer
keeps its length and its visible ends when it is rewritten, and addresses that differ in slashes at
the end make the same client.
-/
theorem upload_ends_as_answered (url body : String) (world : World)
    : let client := ofUrl url
      let ended := (client.upload body).outcome world
      ((∃ image, ended.1 = .ok image)
        ↔ ∃ redirected status answer,
            world.web (client.request body) = .sent redirected (.ok { status, body := .ok answer })
            ∧ 200 ≤ status
            ∧ status ≤ 299
            ∧ ∃ c ∈ Text.decodeLossy answer, Text.isBlank c = false)
      ∧ (∀ failure, ended.1 = .error failure → ∃ reason, failure = .sinkFailure "yuml" reason)
      ∧ (∀ image,
          ended.1 = .ok image
          → ∃ request redirected rest,
              ended.2 = world.receiving (request :: redirected)
              ∧ request.method = "POST"
              ∧ image = request.target ++ String.ofList rest
              ∧ request.target = client.endpoint
              ∧ rest ≠ []
              ∧ Text.IsTrimmed rest)
      ∧ (∀ other,
          DifferInSlashes url.toList other.toList
          → (ofUrl other).baseUrl = client.baseUrl
            ∧ (ofUrl other).request body = client.request body
            ∧ ((ofUrl other).upload body).run world = (client.upload body).run world)
      ∧ ∀ other,
          (ofUrl other).endpoint = client.endpoint
          → DifferInSlashes url.toList other.toList := by
  intro client ended
  have upload : ended
      = (client.published (world.web (client.request body)),
          world.receiving
            ((world.web (client.request body)).received (client.request body))) :=
    client.outcome_upload body world
  rw [upload]
  refine ⟨client.exists_published_eq_ok_iff _, ?_, ?_, ?_, ?_⟩
  · intro failure fails
    exact exists_reason_of_published_eq_error fails
  · intro image publishes
    obtain ⟨rest, image_eq, named, trimmed⟩ := exists_name_of_published_eq_ok publishes
    obtain ⟨redirected, received⟩ :=
      exists_received_of_published_eq_ok publishes (client.request body)
    refine ⟨client.request body, redirected, rest, ?_, rfl, image_eq, rfl, named, trimmed⟩
    exact congrArg world.receiving received
  · intro other differ
    have same : client = ofUrl other := (ofUrl_eq_iff url other).mpr differ
    rw [same]
    exact ⟨rfl, rfl, rfl⟩
  · intro other same
    exact (ofUrl_eq_iff url other).mp (endpoint_inj.mp same).symm

/-- What is visible of an answer with success is the name of an image, for the address with slashes
at its end as for the address without.
-/
theorem visible_answer_yields_image
    : let world : World := { web := Web.answering 299 "\u2003\uFFFD.png ".toUTF8 }
      let image : String := "http://yuml.test/diagram/plain/class/\uFFFD.svg"
      DifferInSlashes "http://yuml.test//".toList "http://yuml.test".toList
      ∧ (((ofUrl "http://yuml.test").upload "[A]").outcome world).1 = .ok image
      ∧ (((ofUrl "http://yuml.test//").upload "[A]").outcome world).1 = .ok image := by
  intro world image
  obtain ⟨-, -, -, slashes, -⟩ := upload_ends_as_answered "http://yuml.test//" "[A]" world
  have differ : DifferInSlashes "http://yuml.test//".toList "http://yuml.test".toList :=
    ⟨"http://yuml.test".toList, 2, 0, by decide +kernel, by decide +kernel⟩
  have plain : (((ofUrl "http://yuml.test").upload "[A]").outcome world).1 = .ok image :=
    (outcome_upload_eq_ok_iff rfl rfl).mpr (by decide +kernel)
  obtain ⟨-, -, same⟩ := slashes "http://yuml.test" differ
  refine ⟨differ, plain, ?_⟩
  rw [Action.outcome, ← same]
  exact plain

end ClassDiagram.Yuml.Client
