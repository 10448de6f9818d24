import ClassDiagram.Proofs.Diagram.FirstOffender
import ClassDiagram.Proofs.Files.Writing
import ClassDiagram.Proofs.Yuml.UploadOutcome

/-! Where the text of a run ends up. A run of a built-in notation puts its text into exactly one
place, or leaves files and standard output as they were: what may fail comes before the text is put
anywhere. Only standard output may fail while it takes the text, and the viewer after that.
-/

namespace ClassDiagram

-----------------------------------------------------------------------------------------
-- One place for a text
-----------------------------------------------------------------------------------------

/-- The text reached the named file and nothing else, or standard output if no file is named. -/
def Delivered (file : Option String) (text : String) (before after : World) : Prop :=
  match file with
  | some path =>
    Files.Tree.WroteOnly path text.toUTF8 before.files after.files
    ∧ after.printed = before.printed
  | none => after.files = before.files ∧ after.printed = before.printed ++ text.toUTF8

/-- Standard output failed, and what it took of the text is some beginning of it. -/
structure BrokenOff (file : Option String) (text : String) (failure : Failure)
    (before after : World)
    : Prop where
  unnamed : file = none
  faulty : ¬ before.PrintsAll
  failure_eq : ∃ reason, failure = .sinkFailure "stdout" reason
  files : after.files = before.files
  printed : ∃ count, after.printed = before.printed ++ text.toUTF8.extract 0 count

/-- The named file can be written, or standard output takes the text if no file is named. -/
def World.Takes (world : World) (file : Option String) (text : String) : Prop :=
  match file with
  | some path => ∃ files, world.files.write path text.toUTF8 = .ok files
  | none => world.outputFault? world.printed text.toUTF8 = none

namespace Action

/-- Writes a text to a file if one is named, and prints it otherwise. -/
def put (file : Option String) (text : String) : Action Unit :=
  match file with
  | some path => writeFile path text
  | none => print text

/-- The ways in which putting a text somewhere ends, as a result and the world that is left. -/
inductive Put (file : Option String) (text : String) (world : World)
    : Except Failure Unit × World → Prop
  | untaken (failure : Failure) (untaken : ¬ world.Takes file text)
    : Put file text world (.error failure, world)
  | brokenOff (failure : Failure) (after : World) (untaken : ¬ world.Takes file text)
    (broken : BrokenOff file text failure world after)
    (frame : after = { world with printed := after.printed })
    : Put file text world (.error failure, after)
  | delivered (after : World) (taken : world.Takes file text)
    (delivered : Delivered file text world after)
    (frame : after = { world with files := after.files, printed := after.printed })
    : Put file text world (.ok (), after)

theorem put_outcome (file : Option String) (text : String) (world : World)
    : Put file text world ((put file text).outcome world) := by
  cases file with
  | none =>
      rw [put, outcome_print]
      cases hf : world.outputFault? world.printed text.toUTF8 with
      | none => exact .delivered _ hf ⟨rfl, rfl⟩ rfl
      | some fault =>
          have faulty : ¬ world.PrintsAll := fun all => by cases hf.symm.trans (all _ _)
          have untaken : ¬ world.Takes none text := fun taken => by cases hf.symm.trans taken
          exact .brokenOff _ _ untaken ⟨rfl, faulty, ⟨_, rfl⟩, rfl, _, rfl⟩ rfl
  | some path =>
      cases hw : world.files.write path text.toUTF8 with
      | error fault =>
          have untaken : ¬ world.Takes (some path) text := by
            rintro ⟨files, written⟩
            cases hw.symm.trans written
          simp only [put, outcome, writeFile, hw]
          exact .untaken _ untaken
      | ok files =>
          simp only [put, outcome, writeFile, hw]
          exact .delivered _ ⟨files, hw⟩ ⟨Files.Tree.wroteOnly_of_write hw, rfl⟩ rfl

/-- Opens a URL in the viewer where that is wanted. -/
def view (destination : Destination) (url : String) : Action Unit :=
  if destination.viewer then openViewer url else Action.pure ()

end Action

open ClassDiagram.Action

-----------------------------------------------------------------------------------------
-- The two ways of delivering
-----------------------------------------------------------------------------------------

theorem Mermaid.outcome_deliver (body : String) (destination : Destination) (world : World)
    : (deliver body destination).outcome world
      = (put destination.file (document body)).outcome world := by
  rw [deliver]
  cases destination.file <;> exact outcome_bind_tell _ _ world

theorem Yuml.outcome_deliver (client : Client) (body : String) (destination : Destination)
    (world : World)
    : (deliver client body destination).outcome world
      = (client.upload body >>= fun url =>
          put destination.file (url ++ "\n") >>= fun _ => view destination url).outcome world := by
  rw [deliver]
  apply outcome_bind_congr
  intro url after
  rw [outcome_tell_bind]
  cases destination.file with
  | some path =>
      apply outcome_bind_congr
      intro _ final
      exact outcome_tell_bind _ _ final
  | none => rfl

/-- The engine of a built-in notation, yUML with the given service. -/
def EngineKind.engine (client : Yuml.Client) : EngineKind → Engine
  | mermaid => Mermaid.engine
  | yuml => Yuml.engine client

namespace EngineKind

/-- What a built-in notation delivers of a body: the document itself, or a line with the URL of the
image that is published.
-/
def Presents (client : Yuml.Client) (web : Web) (body text : String) : EngineKind → Prop
  | mermaid => text = "classDiagram\n" ++ body
  | yuml =>
    ∃ url, client.published (web (client.request body)) = .ok url ∧ text = url ++ "\n"

/-- The requests that services receive while a body is delivered. -/
def received (client : Yuml.Client) (web : Web) (body : String) : EngineKind → List Request
  | mermaid => []
  | yuml => (web (client.request body)).received (client.request body)

/-- Nothing is to be opened in the viewer, or the image that a line names can be opened. -/
def Opens (destination : Destination) (world : World) (text : String) : EngineKind → Prop
  | mermaid => True
  | yuml =>
    destination.viewer = true → ∀ url, text = url ++ "\n" → world.viewerFault? url = none

theorem Presents.unique {kind : EngineKind} {client : Yuml.Client} {web : Web}
    {body text other : String} (presented : kind.Presents client web body text)
    (same : kind.Presents client web body other)
    : text = other := by
  cases kind with
  | mermaid => exact Eq.trans presented (Eq.symm same)
  | yuml =>
      obtain ⟨url, published, rfl⟩ := presented
      obtain ⟨_, again, rfl⟩ := same
      rw [Except.ok.inj (published.symm.trans again)]

/-- The ways in which delivering a body ends, as a result and the world that is left. -/
inductive Delivery (kind : EngineKind) (client : Yuml.Client) (body : String)
    (destination : Destination) (world : World)
    : Except Failure Unit × World → Prop
  | unpresented (failure : Failure) (after : World)
    (unpresented : ∀ text, ¬ kind.Presents client world.web body text)
    (files : after.files = world.files) (printed : after.printed = world.printed)
    (requests : after.requests = world.requests ++ kind.received client world.web body)
    : Delivery kind client body destination world (.error failure, after)
  | untaken {text : String} (failure : Failure) (after : World)
    (presented : kind.Presents client world.web body text)
    (untaken : ¬ world.Takes destination.file text)
    (left
      : after.files = world.files ∧ after.printed = world.printed
        ∨ BrokenOff destination.file text failure world after)
    (requests : after.requests = world.requests ++ kind.received client world.web body)
    : Delivery kind client body destination world (.error failure, after)
  | unopened {text : String} (reason : String) (after : World)
    (presented : kind.Presents client world.web body text)
    (unopened : ¬ kind.Opens destination world text)
    (delivered : Delivered destination.file text world after)
    (requests : after.requests = world.requests ++ kind.received client world.web body)
    : Delivery kind client body destination world (.error (.sinkFailure "viewer" reason), after)
  | delivered {text : String} (after : World)
    (presented : kind.Presents client world.web body text)
    (taken : world.Takes destination.file text) (opened : kind.Opens destination world text)
    (delivered : Delivered destination.file text world after)
    (requests : after.requests = world.requests ++ kind.received client world.web body)
    : Delivery kind client body destination world (.ok (), after)

end EngineKind

/-- The document of a body is put where it belongs. -/
theorem Mermaid.delivery (client : Yuml.Client) (body : String) (destination : Destination)
    (world : World)
    : EngineKind.mermaid.Delivery client body destination world
        ((deliver body destination).outcome world) := by
  have presented : EngineKind.mermaid.Presents client world.web body (document body) := rfl
  rw [outcome_deliver]
  have put := put_outcome destination.file (document body) world
  generalize (Action.put destination.file (document body)).outcome world = ended at put
  cases put with
  | untaken failure untaken =>
      exact .untaken failure world presented untaken (.inl ⟨rfl, rfl⟩) (List.append_nil _).symm
  | brokenOff failure after untaken broken frame =>
      refine .untaken failure after presented untaken (.inr broken) ?_
      rw [frame]
      exact (List.append_nil _).symm
  | delivered after taken delivered frame =>
      refine .delivered after presented taken trivial delivered ?_
      rw [frame]
      exact (List.append_nil _).symm

theorem EngineKind.opens_yuml_iff {destination : Destination} {world : World} {url : String}
    : yuml.Opens destination world (url ++ "\n")
      ↔ (destination.viewer = true → world.viewerFault? url = none) := by
  constructor
  · intro opens wanted
    exact opens wanted url rfl
  · intro opens wanted other same
    rw [← (String.append_left_inj _).mp same]
    exact opens wanted

/-- Opening what is wanted in the viewer changes nothing but what is open. -/
theorem Action.outcome_view (destination : Destination) (url : String) (world : World)
    : (∃ opened,
        (view destination url).outcome world = (.ok (), { world with opened })
        ∧ (destination.viewer = true → world.viewerFault? url = none))
      ∨ ∃ reason,
          (view destination url).outcome world = (.error (.sinkFailure "viewer" reason), world)
          ∧ ¬ (destination.viewer = true → world.viewerFault? url = none) := by
  cases wanted : destination.viewer with
  | false =>
      refine .inl ⟨world.opened, ?_, fun impossible => by cases impossible⟩
      rw [view, wanted]
      rfl
  | true =>
      rw [view, if_pos wanted, outcome_openViewer]
      cases hf : world.viewerFault? url with
      | none => exact .inl ⟨_, rfl, fun _ => rfl⟩
      | some reason => exact .inr ⟨_, rfl, fun opens => by cases opens rfl⟩

/-- The URL of a published image is put where it belongs, and then opened. -/
theorem Yuml.delivery_of_published {client : Client} {body url : String} {world : World}
    (published : client.published (world.web (client.request body)) = .ok url)
    (destination : Destination)
    : EngineKind.yuml.Delivery client body destination world
        ((put destination.file (url ++ "\n") >>= fun _ => view destination url).outcome
          (world.receiving (EngineKind.yuml.received client world.web body))) := by
  have presented : EngineKind.yuml.Presents client world.web body (url ++ "\n") :=
    ⟨url, published, rfl⟩
  have put := put_outcome destination.file (url ++ "\n")
    (world.receiving (EngineKind.yuml.received client world.web body))
  generalize hp : (Action.put destination.file (url ++ "\n")).outcome _ = ended at put
  cases put with
  | untaken failure untaken =>
      rw [outcome_bind_of_error hp]
      exact .untaken failure _ presented untaken (.inl ⟨rfl, rfl⟩) rfl
  | brokenOff failure after untaken broken frame =>
      rw [outcome_bind_of_error hp]
      obtain ⟨unnamed, faulty, reason, files, printed⟩ := broken
      have left := congrArg World.requests frame
      exact .untaken failure after presented untaken
        (.inr ⟨unnamed, faulty, reason, files, printed⟩) left
  | delivered after taken delivered frame =>
      rw [outcome_bind_of_ok hp]
      have left := congrArg World.requests frame
      have viewer : after.viewerFault? = world.viewerFault? :=
        (congrArg World.viewerFault? frame).trans rfl
      rcases outcome_view destination url after with
        ⟨opened, viewed, opens⟩ | ⟨reason, failed, unopened⟩
      · rw [viewed]
        rw [viewer] at opens
        exact .delivered _ presented taken (EngineKind.opens_yuml_iff.mpr opens) delivered left
      · rw [failed]
        rw [viewer] at unopened
        exact .unopened reason after presented (mt EngineKind.opens_yuml_iff.mp unopened)
          delivered left

/-- Nothing is put anywhere before an image is published. -/
theorem Yuml.delivery (client : Client) (body : String) (destination : Destination)
    (world : World)
    : EngineKind.yuml.Delivery client body destination world
        ((deliver client body destination).outcome world) := by
  have uploaded := client.outcome_upload body world
  rw [outcome_deliver]
  cases published : client.published (world.web (client.request body)) with
  | error failure =>
      have unpresented (text : String)
          : ¬ EngineKind.yuml.Presents client world.web body text := by
        rintro ⟨url, named, -⟩
        cases published.symm.trans named
      simp only [published] at uploaded
      rw [outcome_bind_of_error uploaded]
      exact .unpresented failure _ unpresented rfl rfl rfl
  | ok url =>
      simp only [published] at uploaded
      rw [outcome_bind_of_ok uploaded]
      exact delivery_of_published published destination

/-- Delivering with a built-in notation ends in one of these ways. -/
theorem EngineKind.delivery (kind : EngineKind) (client : Yuml.Client) (body : String)
    (destination : Destination) (world : World)
    : kind.Delivery client body destination world
        (((kind.engine client).deliver body destination).outcome world) := by
  cases kind with
  | mermaid => exact Mermaid.delivery client body destination world
  | yuml => exact Yuml.delivery client body destination world

namespace EngineKind.Delivery

variable {kind : EngineKind} {client : Yuml.Client} {body : String} {destination : Destination}
  {world : World} {ended : Except Failure Unit × World}

theorem requests_eq (delivery : kind.Delivery client body destination world ended)
    : ended.2.requests = world.requests ++ kind.received client world.web body := by
  cases delivery <;> assumption

/-- Delivering succeeds exactly if there is a text to be delivered that is taken and opened. -/
theorem eq_ok_iff (delivery : kind.Delivery client body destination world ended)
    : ended.1 = .ok ()
      ↔ ∃ text,
          kind.Presents client world.web body text
          ∧ world.Takes destination.file text
          ∧ kind.Opens destination world text := by
  cases delivery with
  | unpresented failure after unpresented _ _ _ =>
      refine iff_of_false (by simp) ?_
      rintro ⟨text, presented, -⟩
      exact unpresented text presented
  | untaken failure after presented untaken _ _ =>
      refine iff_of_false (by simp) ?_
      rintro ⟨text, same, taken, -⟩
      exact untaken (presented.unique same ▸ taken)
  | unopened reason after presented unopened _ _ =>
      refine iff_of_false (by simp) ?_
      rintro ⟨text, same, -, opens⟩
      exact unopened (presented.unique same ▸ opens)
  | delivered after presented taken opened _ _ =>
      exact iff_of_true rfl ⟨_, presented, taken, opened⟩

/-- What succeeds has delivered what the notation presents. -/
theorem delivered_of_eq_ok (delivery : kind.Delivery client body destination world ended)
    (succeeded : ended.1 = .ok ())
    : ∃ text,
        kind.Presents client world.web body text
        ∧ Delivered destination.file text world ended.2 := by
  cases delivery with
  | unpresented _ _ _ _ _ _ | untaken _ _ _ _ _ _ | unopened _ _ _ _ _ _ => cases succeeded
  | delivered after presented _ _ delivered _ => exact ⟨_, presented, delivered⟩

/-- What fails without the viewer has left everything as it was, unless standard output broke off
the text.
-/
theorem left_of_eq_error (delivery : kind.Delivery client body destination world ended)
    {failure : Failure} (failed : ended.1 = .error failure)
    (unviewed : kind = .yuml → destination.viewer = false)
    : ended.2.files = world.files ∧ ended.2.printed = world.printed
      ∨ ∃ text,
          kind.Presents client world.web body text
          ∧ BrokenOff destination.file text failure world ended.2 := by
  cases delivery with
  | unpresented _ _ _ files printed _ => exact .inl ⟨files, printed⟩
  | untaken _ after presented _ left _ =>
      obtain rfl := Except.error.inj failed
      exact left.imp_right fun broken => ⟨_, presented, broken⟩
  | unopened reason after _ unopened _ _ =>
      -- Without the viewer there is nothing that could not be opened
      apply absurd _ unopened
      cases kind with
      | mermaid => trivial
      | yuml =>
          intro wanted
          rw [unviewed rfl] at wanted
          cases wanted
  | delivered _ _ _ _ _ _ => cases failed

end EngineKind.Delivery

-----------------------------------------------------------------------------------------
-- Runs
-----------------------------------------------------------------------------------------

namespace Generator

/-- A run that generates nothing does nothing. -/
theorem outcome_run_of_error {generator : Generator} {dump : Declaration.Dump}
    {failure : Failure} (failed : (generator.generate dump).result = .error failure)
    (destination : Destination) (world : World)
    : (generator.run dump destination).outcome world = (.error failure, world) := by
  rw [run, outcome_tell_bind]
  exact outcome_bind_of_error (by rw [outcome_ofReport, Report.result_within, failed]) _

/-- A run comes to delivering what it generates with the active engine. -/
theorem outcome_run_of_ok {generator : Generator} {engine : Engine}
    (active : generator.registry.active = .ok engine) {dump : Declaration.Dump} {body : String}
    (generated : (generator.generate dump).result = .ok body) (destination : Destination)
    (world : World)
    : (generator.run dump destination).outcome world
      = (engine.deliver body destination).outcome world := by
  have first (span : Log.Span)
      : (ofReport ((generator.generate dump).within span)).outcome world = (.ok body, world) := by
    rw [outcome_ofReport, Report.result_within, generated]
  have second : (ofReport { result := generator.registry.active }).outcome world
      = (.ok engine, world) := by
    rw [outcome_ofReport, active]
  rw [run, outcome_tell_bind, outcome_bind_of_ok (first _), outcome_bind_tell, Registry.deliver,
    outcome_bind_of_ok second, outcome_within]

/-- A run of a built-in notation ends as delivering what it generates. -/
theorem delivery_run {generator : Generator} {kind : EngineKind} {client : Yuml.Client}
    (active : generator.registry.active = .ok (kind.engine client)) {dump : Declaration.Dump}
    {body : String} (generated : (generator.generate dump).result = .ok body)
    (destination : Destination) (world : World)
    : kind.Delivery client body destination world
        ((generator.run dump destination).outcome world) := by
  rw [outcome_run_of_ok active generated]
  exact kind.delivery client body destination world

/-- A run that fails without the viewer has left files and standard output as they were, unless
standard output broke off what the notation presents.
-/
theorem unchanged_of_run_eq_error {generator : Generator} {kind : EngineKind}
    {client : Yuml.Client} (active : generator.registry.active = .ok (kind.engine client))
    {dump : Declaration.Dump} {destination : Destination} {world : World} {failure : Failure}
    (failed : ((generator.run dump destination).outcome world).1 = .error failure)
    (unviewed : kind = .yuml → destination.viewer = false)
    : let after := ((generator.run dump destination).outcome world).2
      after.files = world.files
      ∧ (world.PrintsAll → after.printed = world.printed)
      ∧ (after.printed ≠ world.printed
        → ∃ body text,
            (generator.generate dump).result = .ok body
            ∧ kind.Presents client world.web body text
            ∧ BrokenOff destination.file text failure world after) := by
  intro after
  cases generated : (generator.generate dump).result with
  | error other =>
      have kept : after = world := congrArg Prod.snd (outcome_run_of_error generated _ world)
      rw [kept]
      exact ⟨rfl, fun _ => rfl, fun changed => absurd rfl changed⟩
  | ok body =>
      have delivery := delivery_run active generated destination world
      rcases delivery.left_of_eq_error failed unviewed with
        ⟨files, printed⟩ | ⟨text, presented, broken⟩
      · exact ⟨files, fun _ => printed, fun changed => absurd printed changed⟩
      · exact ⟨broken.files, fun all => absurd all broken.faulty,
          fun _ => ⟨body, text, rfl, presented, broken⟩⟩

end Generator

/-- A run that fails leaves files and standard output as they were; only a standard output that does
not take everything may be left with the beginning of the text. If the diagram could not be built,
nothing has happened at all. A run succeeds exactly if what its notation presents is taken and
opened, and then the text is in one place and nothing is anywhere else. Witness: the ways in which
delivering ends, as all that can fail comes before the text is put anywhere or while it is printed.
-/
theorem run_delivers_to_one_place_or_none {generator : Generator} {kind : EngineKind}
    {client : Yuml.Client} (active : generator.registry.active = .ok (kind.engine client))
    (dump : Declaration.Dump) (destination : Destination) (world : World)
    : let result := ((generator.run dump destination).outcome world).1
      let after := ((generator.run dump destination).outcome world).2
      (∀ failure,
        result = .error failure
        → (kind = .yuml → destination.viewer = false)
        → after.files = world.files
          ∧ (world.PrintsAll → after.printed = world.printed)
          ∧ (after.printed ≠ world.printed
            → ∃ body text,
                (generator.generate dump).result = .ok body
                ∧ kind.Presents client world.web body text
                ∧ BrokenOff destination.file text failure world after))
      ∧ (∀ failure,
          (generator.diagram dump).result = .error failure
          → result = .error failure ∧ after = world)
      ∧ (kind = .mermaid → after.requests = world.requests)
      ∧ (result = .ok ()
        ↔ ∃ body text,
            (generator.generate dump).result = .ok body
            ∧ kind.Presents client world.web body text
            ∧ world.Takes destination.file text
            ∧ kind.Opens destination world text)
      ∧ (result = .ok ()
        → ∃ body text,
            (generator.generate dump).result = .ok body
            ∧ kind.Presents client world.web body text
            ∧ Delivered destination.file text world after) := by
  have building (failure : Failure)
      : (generator.diagram dump).result = .error failure
        → (generator.generate dump).result = .error failure :=
    (Declaration.result_generate_eq_error_iff active dump failure).mpr
  refine ⟨fun failure => Generator.unchanged_of_run_eq_error active, ?_⟩
  cases hg : (generator.generate dump).result with
  | error failure =>
      rw [Generator.outcome_run_of_error hg]
      refine ⟨?_, fun _ => rfl, ?_, fun impossible => by cases impossible⟩
      · intro other unbuilt
        have same : failure = other := Except.error.inj (hg.symm.trans (building other unbuilt))
        exact ⟨congrArg _ same, rfl⟩
      · simp
  | ok body =>
      have delivery := Generator.delivery_run active hg destination world
      refine ⟨?_, ?_, ?_, ?_⟩
      · intro failure unbuilt
        cases hg.symm.trans (building failure unbuilt)
      · rintro rfl
        exact delivery.requests_eq.trans (List.append_nil _)
      · rw [delivery.eq_ok_iff]
        constructor
        · rintro ⟨text, ends⟩
          exact ⟨body, text, rfl, ends⟩
        · rintro ⟨_, text, same, ends⟩
          cases same
          exact ⟨text, ends⟩
      · intro succeeded
        obtain ⟨text, presented, delivered⟩ := delivery.delivered_of_eq_ok succeeded
        exact ⟨body, text, rfl, presented, delivered⟩

/-- A document and the URL of an image take the place of a longer text that the file held before. A
document that standard output does not take is broken off, and no file has changed.
-/
theorem shorter_texts_replace_longer_text
    : let client : Yuml.Client := ⟨"http://localhost"⟩
      let drawing (kind : EngineKind) : Generator :=
        { registry := Registry.empty.add (kind.engine client) }
      let dump : Declaration.Dump := { files := [{ classes := [{ symbol := some "A" }] }] }
      let older : String := "a text that is longer than the line with the URL of the image"
      let world : World :=
        {
          files := { nodes := [(["out"], .file older.toUTF8)] }
          web := Web.answering 200 "a.png".toUTF8
          outputFault? := fun _ _ => some ⟨5, "Broken pipe (os error 32)"⟩
        }
      let ended (kind : EngineKind) (destination : Destination) :=
        ((drawing kind).run dump destination).outcome world
      (∀ kind, (drawing kind).registry.active = .ok (kind.engine client))
      ∧ (ended .mermaid { file := some "out" }).1 = .ok ()
      ∧ (ended .mermaid { file := some "out" }).2.files.read "out"
        = .ok "classDiagram\nclass A \x7b\n\x7d\n".toUTF8
      ∧ (ended .yuml { file := some "out", viewer := true }).1 = .ok ()
      ∧ (ended .yuml { file := some "out", viewer := true }).2.files.read "out"
        = .ok "http://localhost/diagram/plain/class/a.svg\n".toUTF8
      ∧ (ended .yuml { file := some "out", viewer := true }).2.printed = .empty
      ∧ (ended .mermaid {}).1 = .error (.sinkFailure "stdout" "Broken pipe (os error 32)")
      ∧ (ended .mermaid {}).2.printed = "class".toUTF8
      ∧ (ended .mermaid {}).2.files = world.files := by
  intro client drawing dump older world ended
  have published : client.published (Web.answering 200 "a.png".toUTF8 (client.request ""))
      = .ok "http://localhost/diagram/plain/class/a.svg" := by decide +kernel +revert
  have active (kind : EngineKind)
      : (drawing kind).registry.active = .ok (kind.engine client) := by
    cases kind <;> rfl
  have document : ((drawing .mermaid).generate dump).result = .ok "class A \x7b\n\x7d\n" := rfl
  have boxes : ((drawing .yuml).generate dump).result
      = .ok "[A\x7bbg:skyblue\x7d][A||]" := rfl
  have taken (text : String) : world.Takes (some "out") text := ⟨_, rfl⟩
  obtain ⟨-, -, -, drawn, placed⟩ :=
    run_delivers_to_one_place_or_none (active .mermaid) dump { file := some "out" } world
  have succeeded := drawn.mpr ⟨_, _, document, rfl, taken _, trivial⟩
  obtain ⟨_, _, generated, rfl, wrote, -⟩ := placed succeeded
  obtain rfl := Except.ok.inj (document.symm.trans generated)
  obtain ⟨-, -, -, sent, named⟩ := run_delivers_to_one_place_or_none (active .yuml) dump
    { file := some "out", viewer := true } world
  have answered := sent.mpr ⟨_, _, boxes, ⟨_, published, rfl⟩, taken _, fun _ _ _ => rfl⟩
  obtain ⟨_, _, -, ⟨url, again, rfl⟩, wroteUrl, unprinted⟩ := named answered
  obtain rfl := Except.ok.inj (published.symm.trans again)
  obtain ⟨failing, -⟩ := run_delivers_to_one_place_or_none (active .mermaid) dump {} world
  have broken : (ended .mermaid {}).1
      = .error (.sinkFailure "stdout" "Broken pipe (os error 32)") := rfl
  obtain ⟨files, -, -⟩ := failing _ broken fun impossible => by cases impossible
  have printed : (ended .mermaid {}).2.printed = "class".toUTF8 := by
    clear * -
    decide +kernel +revert
  exact ⟨active, succeeded, wrote.read, answered, wroteUrl.read, unprinted, broken, printed, files⟩

end ClassDiagram
