import ClassDiagram.Proofs.Text.Trimming
import ClassDiagram.Proofs.Yuml.UploadOutcome

/-! The URL of an image, from the name that the service answers with. White space around the name
is dropped, and the name of the vector image takes its place.
-/

namespace ClassDiagram.Yuml.Client

-----------------------------------------------------------------------------------------
-- Names of vector images
-----------------------------------------------------------------------------------------

/-- The name of a vector image is as trimmed as the name that it is made from. -/
theorem isTrimmed_vectorName {name : List Char} (trimmed : Text.IsTrimmed name)
    : Text.IsTrimmed (vectorName name) := by
  have visible : ∀ c ∈ ".svg".toList, Text.isBlank c = false :=
    List.forall_iff_forall_mem.mp (by decide)
  exact trimmed.replaceAll (by decide) (by decide) visible

theorem length_vectorName (name : List Char) : (vectorName name).length = name.length :=
  (Text.forall₂_replaceAll (by decide) (by decide) name).length_eq.symm

/-- The end of a name is rewritten apart from what stands before it. -/
theorem vectorName_append (stem : List Char)
    : vectorName (stem ++ ".png".toList) = vectorName stem ++ ".svg".toList := by
  have rewritten :=
    Text.replaceAll_append_append (by decide : '.' ∉ ['p', 'n', 'g']) ".svg".toList stem []
  rw [List.append_nil, Text.replaceAll, List.append_nil] at rewritten
  exact rewritten

theorem vectorName_eq_self_iff (name : List Char)
    : vectorName name = name ↔ ¬ ".png".toList <:+: name :=
  Text.replaceAll_eq_self_iff (by decide : '.' ∉ ['p', 'n', 'g']) (by decide) (by decide) name

-----------------------------------------------------------------------------------------
-- Successful uploads
-----------------------------------------------------------------------------------------

theorem isSuccess_iff {status : Nat} : isSuccess status ↔ 200 ≤ status ∧ status ≤ 299 := by
  simp only [isSuccess, Bool.and_eq_true, decide_eq_true_eq]
  omega

/-- An answer names an image exactly if not all of it is white space. -/
theorem imageUrl_eq_ok_iff {client : Client} {answer : ByteArray} {image : String}
    : client.imageUrl answer = .ok image
      ↔ Text.trim (Text.decodeLossy answer) ≠ []
        ∧ image
          = client.endpoint
            ++ String.ofList (vectorName (Text.trim (Text.decodeLossy answer))) := by
  simp only [imageUrl, List.isEmpty_iff]
  split
  next unnamed => simp [unnamed]
  next named => rw [Except.ok.injEq, eq_comm, and_iff_right named]

/-- A request that is answered with success has the image for its result that the answer names. -/
theorem outcome_upload_eq_ok_iff {client : Client} {body image : String} {world : World}
    {redirected : List Request} {status : Nat} {answer : ByteArray}
    (answering
      : world.web (client.request body) = .sent redirected (.ok { status, body := .ok answer }))
    (success : isSuccess status)
    : ((client.upload body).outcome world).1 = .ok image
      ↔ client.imageUrl answer = .ok image := by
  rw [outcome_upload, answering, published, if_pos success]

-----------------------------------------------------------------------------------------
-- Names that hold the ending more than once
-----------------------------------------------------------------------------------------

/-- The ending is rewritten wherever it stands in the name, so only a name that holds it nowhere
but at the end keeps the rest as it is.
Witness: the pieces between the occurrences. What stands before the last occurrence is rewritten
on its own, and a name is kept exactly if it holds no ending.
-/
theorem every_ending_is_rewritten (url body : String) {world : World} {redirected : List Request}
    {status : Nat} {answer : ByteArray}
    (answering
      : world.web ((ofUrl url).request body)
        = .sent redirected (.ok { status, body := .ok answer }))
    (success : 200 ≤ status ∧ status ≤ 299)
    (named : Text.trim (Text.decodeLossy answer) ≠ [])
    : let client := ofUrl url
      let name := Text.trim (Text.decodeLossy answer)
      let result := ((client.upload body).outcome world).1
      (∃ pieces : List (List Char),
        (∀ piece ∈ pieces, ¬ ".png".toList <:+: piece)
        ∧ name = ".png".toList.intercalate pieces
        ∧ result
          = .ok (client.endpoint ++ String.ofList (".svg".toList.intercalate pieces)))
      ∧ (∀ stem,
          name = stem ++ ".png".toList
          → (result = .ok (client.endpoint ++ String.ofList (stem ++ ".svg".toList))
            ↔ ¬ ".png".toList <:+: stem))
      ∧ (result = .ok (client.endpoint ++ String.ofList name) ↔ ¬ ".png".toList <:+: name) := by
  intro client name result
  have yields (rest : List Char)
      : result = .ok (client.endpoint ++ String.ofList rest) ↔ vectorName name = rest := by
    rw [outcome_upload_eq_ok_iff answering (isSuccess_iff.mpr success),
      imageUrl_eq_ok_iff, and_iff_right named, String.append_right_inj, String.ofList_inj, eq_comm]
  refine ⟨?_, ?_, ?_⟩
  · obtain ⟨first, pieces, absent, whole, rewritten⟩ :=
      Text.exists_pieces (by decide : ".png".toList ≠ []) ".svg".toList name
    exact ⟨first :: pieces, absent, whole, (yields _).mpr rewritten⟩
  · intro stem whole
    rw [yields, whole, vectorName_append, List.append_cancel_right_eq, vectorName_eq_self_iff]
  · rw [yields, vectorName_eq_self_iff]

/-- A name with one ending yields the URL of its vector image. -/
theorem single_ending_is_rewritten
    : (((ofUrl "http://yuml.test").upload "[A]").outcome
        { web := Web.answering 200 "a.png".toUTF8 }).1
      = .ok ((ofUrl "http://yuml.test").endpoint ++ String.ofList ("a".toList ++ ".svg".toList)) :=
  ((every_ending_is_rewritten "http://yuml.test" "[A]" rfl (by decide)
    (by decide +kernel)).2.1 "a".toList (by decide +kernel)).mpr (by decide +kernel)

/-- An ending inside the name is rewritten as well, although the name goes on behind it. -/
theorem inner_ending_is_rewritten
    : let client := ofUrl "http://yuml.test"
      let result :=
        ((client.upload "[A]").outcome { web := Web.answering 200 "a.png.png".toUTF8 }).1
      Text.trim (Text.decodeLossy "a.png.png".toUTF8) = "a.png".toList ++ ".png".toList
      ∧ result = .ok "http://yuml.test/diagram/plain/class/a.svg.svg"
      ∧ result ≠ .ok (client.endpoint ++ String.ofList ("a.png".toList ++ ".svg".toList)) := by
  intro client result
  have yields : result = .ok "http://yuml.test/diagram/plain/class/a.svg.svg" :=
    (outcome_upload_eq_ok_iff rfl rfl).mpr
      (imageUrl_eq_ok_iff.mpr ⟨by decide +kernel, by decide +kernel⟩)
  refine ⟨by decide +kernel, yields, ?_⟩
  rw [yields, ne_eq, Except.ok.injEq]
  decide +kernel

end ClassDiagram.Yuml.Client
