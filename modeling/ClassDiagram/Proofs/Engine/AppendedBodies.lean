import ClassDiagram.Proofs.Engine.FragmentOrder

/-! Texts of declarations that are put after others. The fragments of both follow each other, so the
text is that of the first and that of the second with one separator between them, and none where one
of the two draws nothing.
-/

namespace ClassDiagram

-----------------------------------------------------------------------------------------
-- Diagrams that draw nothing
-----------------------------------------------------------------------------------------

theorem Engine.render_of_isEmpty {diagram : Diagram} (engine : Engine)
    (drawsNothing : diagram.isEmpty)
    : engine.render diagram = "" := by
  rw [Engine.render, diagram.entries_eq_nil_iff.mpr drawsNothing]
  rfl

/-- Joining two lists of fragments puts the separator between the joined lists, unless one of them
is empty.
-/
theorem intercalate_append (separator : String) (first second : List String)
    : separator.intercalate (first ++ second)
      = if first = [] then separator.intercalate second
        else if second = [] then separator.intercalate first
        else separator.intercalate first ++ separator ++ separator.intercalate second := by
  split
  · next none => rw [none, List.nil_append]
  · next some =>
      split
      · next none => rw [none, List.append_nil]
      · next others => exact String.intercalate_append_of_ne_nil some others

-----------------------------------------------------------------------------------------
-- Bracketed texts
-----------------------------------------------------------------------------------------

namespace Yuml

def IsBracketed (text : String) : Prop :=
  ∃ inside, text = "[" ++ inside ++ "]"

/-- What stands between two bracketed texts is inside the brackets of the whole. -/
theorem IsBracketed.append {first second : String} (hf : IsBracketed first)
    (hs : IsBracketed second) (between : String)
    : IsBracketed (first ++ between ++ second) := by
  obtain ⟨inside, rfl⟩ := hf
  obtain ⟨other, rfl⟩ := hs
  exact ⟨inside ++ "]" ++ between ++ "[" ++ other, by simp only [String.append_assoc]⟩

theorem isBracketed_node (background name : String) (properties methods : List Member)
    : IsBracketed (node background name properties methods) := by
  refine ⟨
    name ++ "\x7bbg:" ++ background ++ "\x7d][" ++ name
      ++ "|" ++ Text.concat (properties.map fun member => member.name ++ ";")
      ++ "|" ++ Text.concat (methods.map fun member => member.name ++ "();"),
    ?_
  ⟩
  simp only [node, String.append_assoc]

theorem isBracketed_connector (parent child : String) : IsBracketed (connector parent child) :=
  ⟨parent ++ "]^-[" ++ child, by simp only [connector, String.append_assoc]⟩

theorem isBracketed_fragment (client : Client) (entry : Entry)
    : IsBracketed ((engine client).fragment entry) := by
  cases entry with
  | edge edge => exact isBracketed_connector edge.parent edge.child
  | node node =>
      obtain ⟨name, kind, properties, methods⟩ := node
      cases kind with
      | classNode => exact isBracketed_node "skyblue" name properties methods
      | interfaceNode => exact isBracketed_node "palegreen" name properties methods

/-- Joined bracketed texts are bracketed as a whole, by induction on the texts. -/
theorem isBracketed_intercalate (separator : String) {texts : List String} (some : texts ≠ [])
    (bracketed : ∀ text ∈ texts, IsBracketed text)
    : IsBracketed (separator.intercalate texts) := by
  induction texts with
  | nil => exact absurd rfl some
  | cons text rest ih =>
      have first := bracketed text List.mem_cons_self
      cases rest with
      | nil =>
          rw [String.intercalate_singleton]
          exact first
      | cons next others =>
          rw [String.intercalate_cons_cons]
          have later := ih (List.cons_ne_nil next others) fun other member =>
            bracketed other (List.mem_cons_of_mem text member)
          exact first.append later separator

/-- A diagram that draws anything has a bracketed text. -/
theorem isBracketed_render (client : Client) {diagram : Diagram} (drawn : ¬ diagram.isEmpty)
    : IsBracketed ((engine client).render diagram) := by
  rw [Engine.render, Text.join_eq_intercalate]
  apply isBracketed_intercalate
  · rwa [ne_eq, List.map_eq_nil_iff, diagram.entries_eq_nil_iff]
  · intro text member
    obtain ⟨entry, -, rfl⟩ := List.mem_map.mp member
    exact isBracketed_fragment client entry

end Yuml

namespace Declaration

-----------------------------------------------------------------------------------------
-- Declarations after others
-----------------------------------------------------------------------------------------

/-- All files of the first declarations, then all files of the second ones. -/
def Dump.append (first second : Dump) : Dump where
  files := first.files ++ second.files

/-- The files in which anything is declared. -/
def Dump.withoutEmptyFiles (dump : Dump) : Dump where
  files := dump.files.filter (·.count ≠ 0)

theorem Dump.visit_append (first second : Dump)
    : (first.append second).visit = first.visit ++ second.visit :=
  List.flatMap_append

theorem Dump.fragments_append (engine : Engine) (first second : Dump)
    : (first.append second).fragments engine
      = first.fragments engine ++ second.fragments engine :=
  List.flatMap_append

/-- Files without declarations add nothing to a list that is made of declarations, by induction on
the files.
-/
theorem Dump.flatMap_withoutEmptyFiles {α : Type} {listed : File → List α}
    (nothing : ∀ file : File, file.classes = [] → file.interfaces = [] → listed file = [])
    (dump : Dump)
    : dump.withoutEmptyFiles.files.flatMap listed = dump.files.flatMap listed := by
  obtain ⟨files⟩ := dump
  change (files.filter (·.count ≠ 0)).flatMap listed = files.flatMap listed
  induction files with
  | nil => rfl
  | cons file rest ih =>
      rw [List.filter_cons]
      split
      · rw [List.flatMap_cons, List.flatMap_cons, ih]
      · next empty =>
          have counted : file.count = 0 :=
            Decidable.of_not_not fun some => empty (decide_eq_true some)
          have classes := List.eq_nil_of_length_eq_zero (Nat.add_eq_zero_iff.mp counted).1
          have interfaces := List.eq_nil_of_length_eq_zero (Nat.add_eq_zero_iff.mp counted).2
          rw [List.flatMap_cons, nothing file classes interfaces, List.nil_append, ih]

/-- A built diagram is empty exactly when its declarations lead to no fragment. -/
theorem isEmpty_iff_of_result_diagram {policy : Policy} {dump : Dump} {diagram : Diagram}
    (built : (dump.diagram policy).result = .ok diagram) (engine : Engine)
    : diagram.isEmpty ↔ dump.fragments engine = [] := by
  rw [dump.result_diagram, outcome_eq_ok_iff] at built
  rw [← built.2, ← Diagram.entries_eq_nil_iff, Diagram.entries_ofEntries,
    ← dump.map_fragment_drawn, List.map_eq_nil_iff]

theorem Dump.result_generate_withoutEmptyFiles {generator : Generator} {engine : Engine}
    (active : generator.registry.active = .ok engine) (dump : Dump)
    : (generator.generate dump.withoutEmptyFiles).result = (generator.generate dump).result := by
  have visit : dump.withoutEmptyFiles.visit = dump.visit := by
    apply Dump.flatMap_withoutEmptyFiles
    intro file classes interfaces
    rw [File.visit, classes, interfaces]
    rfl
  have fragments : dump.withoutEmptyFiles.fragments engine = dump.fragments engine := by
    apply Dump.flatMap_withoutEmptyFiles
    intro file classes interfaces
    rw [File.fragments, classes, interfaces]
    rfl
  rw [result_generate_of_active active, result_generate_of_active active, visit, fragments]

/-- Building and generating succeed together, and the text is that of the built diagram. -/
theorem result_generate_eq_ok_iff {generator : Generator} {engine : Engine}
    (active : generator.registry.active = .ok engine) {dump : Dump} {body : String}
    : (generator.generate dump).result = .ok body
      ↔ ∃ diagram,
          (generator.diagram dump).result = .ok diagram ∧ engine.render diagram = body := by
  rw [Generator.result_generate, active, Generator.diagram]
  cases (dump.diagram generator.policy).result with
  | error failure => simp [bind, Except.bind]
  | ok diagram => simp [bind, Except.bind, Except.map]

/-- Generating appended declarations is generating both in turn and joining what they draw. -/
theorem result_generate_append {generator : Generator} {engine : Engine}
    (active : generator.registry.active = .ok engine) (first second : Dump)
    : (generator.generate (first.append second)).result
      = (generator.generate first).result >>= fun left =>
          (generator.generate second).result >>= fun right =>
            .ok
              (if first.fragments engine = [] then right
                else if second.fragments engine = [] then left
                else left ++ engine.separator ++ right) := by
  simp only [result_generate_of_active active]
  rw [Dump.visit_append, Dump.fragments_append, intercalate_append]
  symm
  apply outcome_bind
  exact outcome_bind_ok rfl

/-- Appended declarations that are built have the texts of both diagrams, and a separator between
them if both draw anything.
-/
theorem result_generate_append_of_built {generator : Generator} {engine : Engine}
    (active : generator.registry.active = .ok engine) {first second : Dump}
    {firstDiagram secondDiagram : Diagram}
    (firstBuilt : (generator.diagram first).result = .ok firstDiagram)
    (secondBuilt : (generator.diagram second).result = .ok secondDiagram)
    : (generator.generate (first.append second)).result
      = .ok
        (if firstDiagram.isEmpty then engine.render secondDiagram
          else if secondDiagram.isEmpty then engine.render firstDiagram
          else engine.render firstDiagram ++ engine.separator ++ engine.render secondDiagram) := by
  have left := (result_generate_eq_ok_iff active).mpr ⟨firstDiagram, firstBuilt, rfl⟩
  have right := (result_generate_eq_ok_iff active).mpr ⟨secondDiagram, secondBuilt, rfl⟩
  simp only [isEmpty_iff_of_result_diagram firstBuilt engine,
    isEmpty_iff_of_result_diagram secondBuilt engine]
  rw [result_generate_append active, left, right]
  rfl

/-- Mermaid texts need no separator, so it makes no difference whether anything is drawn. -/
theorem joined_mermaid_texts (first second : Diagram)
    : (if first.isEmpty then Mermaid.engine.render second
        else if second.isEmpty then Mermaid.engine.render first
        else Mermaid.engine.render first ++ Mermaid.engine.separator
          ++ Mermaid.engine.render second)
      = Mermaid.engine.render first ++ Mermaid.engine.render second := by
  split
  · next none => rw [Mermaid.engine.render_of_isEmpty none, String.empty_append]
  · split
    · next none => rw [Mermaid.engine.render_of_isEmpty none, String.append_empty]
    · exact congrArg (· ++ _) String.append_empty

-----------------------------------------------------------------------------------------
-- Texts after others
-----------------------------------------------------------------------------------------

/-- Appended declarations fail as the first ones do, or else as the second ones do; else their text
is that of both with one separator between them, which is there only if both draw anything. So
Mermaid texts just follow each other, a yUML text never has a comma at either end, and files without
declarations make no difference. Witness: the fragments of appended declarations are those of both.
-/
theorem appended_declarations_append_texts {generator : Generator} {engine : Engine}
    (active : generator.registry.active = .ok engine) (first second : Dump)
    : (∀ failure,
        (generator.generate first).result = .error failure
        → (generator.generate (first.append second)).result = .error failure)
      ∧ (∀ left failure,
          (generator.generate first).result = .ok left
          → (generator.generate second).result = .error failure
          → (generator.generate (first.append second)).result = .error failure)
      ∧ (∀ left right,
          (generator.generate first).result = .ok left
          → (generator.generate second).result = .ok right
          → ∃ firstDiagram secondDiagram,
              (generator.diagram first).result = .ok firstDiagram
              ∧ (generator.diagram second).result = .ok secondDiagram
              ∧ (firstDiagram.isEmpty → left = "")
              ∧ (secondDiagram.isEmpty → right = "")
              ∧ (generator.generate (first.append second)).result
                  = .ok
                    (if firstDiagram.isEmpty then right
                      else if secondDiagram.isEmpty then left
                      else left ++ engine.separator ++ right)
              ∧ (engine = Mermaid.engine
                → (generator.generate (first.append second)).result = .ok (left ++ right)))
      ∧ (∀ client,
          engine = Yuml.engine client
          → ∀ diagram : Diagram,
              ¬ diagram.isEmpty
              → ∃ inside, (generator.render diagram).result = .ok ("[" ++ inside ++ "]"))
      ∧ (generator.generate first.withoutEmptyFiles).result
          = (generator.generate first).result := by
  have joined := result_generate_append active first second
  refine ⟨?_, ?_, ?_, ?_, Dump.result_generate_withoutEmptyFiles active first⟩
  · intro failure failed
    rw [joined, failed]
    rfl
  · intro left failure generated failed
    rw [joined, generated, failed]
    rfl
  · intro left right firstGenerated secondGenerated
    obtain ⟨firstDiagram, firstBuilt, rfl⟩ := (result_generate_eq_ok_iff active).mp firstGenerated
    obtain ⟨secondDiagram, secondBuilt, rfl⟩ :=
      (result_generate_eq_ok_iff active).mp secondGenerated
    have built := result_generate_append_of_built active firstBuilt secondBuilt
    refine ⟨firstDiagram, secondDiagram, firstBuilt, secondBuilt, engine.render_of_isEmpty,
      engine.render_of_isEmpty, built, ?_⟩
    rintro rfl
    rw [built, joined_mermaid_texts]
  · rintro client rfl diagram drawn
    rw [Generator.result_render_of_active active]
    obtain ⟨inside, bracketed⟩ := Yuml.isBracketed_render client drawn
    exact ⟨inside, congrArg _ bracketed⟩

/-- An empty file between a class and an interface adds no comma, nor does an empty set after both,
and a class without a name makes the whole fail wherever it is.
-/
theorem comma_stands_between_drawn_declarations
    : let generator : Generator := { registry := Registry.empty.add (Yuml.engine ⟨""⟩) }
      let first : Dump := { files := [{}, { classes := [{ symbol := some "A" }] }, {}] }
      let second : Dump := { files := [{}, { interfaces := [{ symbol := some "I" }] }] }
      let text := "[A\x7bbg:skyblue\x7d][A||],[I\x7bbg:palegreen\x7d][I||]"
      let unnamed : Dump := { files := [{ classes := [{}] }] }
      generator.registry.active = .ok (Yuml.engine ⟨""⟩)
      ∧ (generator.generate (first.append second)).result = .ok text
      ∧ (generator.generate ((first.append second).append {})).result = .ok text
      ∧ (generator.generate (first.append second).withoutEmptyFiles).result = .ok text
      ∧ (generator.generate (first.append unnamed)).result
          = .error (.unresolvedSymbol anonymous .declaration)
      ∧ ∃ inside, text = "[" ++ inside ++ "]" := by
  intro generator first second text unnamed
  have active : generator.registry.active = .ok (Yuml.engine ⟨""⟩) := rfl
  have firstText : (generator.generate first).result = .ok "[A\x7bbg:skyblue\x7d][A||]" := rfl
  have secondText : (generator.generate second).result = .ok "[I\x7bbg:palegreen\x7d][I||]" := rfl
  have noText : (generator.generate {}).result = .ok "" := rfl
  have failed : (generator.generate unnamed).result
      = .error (.unresolvedSymbol anonymous .declaration) := rfl
  have both : (generator.generate (first.append second)).result = .ok text := by
    obtain ⟨firstDiagram, secondDiagram, firstBuilt, secondBuilt, -, -, joined, -⟩ :=
      (appended_declarations_append_texts active first second).2.2.1 _ _ firstText secondText
    rw [← Except.ok.inj firstBuilt, ← Except.ok.inj secondBuilt] at joined
    exact joined
  obtain ⟨-, -, texts, brackets, files⟩ :=
    appended_declarations_append_texts active (first.append second) {}
  obtain ⟨whole, nothing, wholeBuilt, nothingBuilt, -, -, joined, -⟩ := texts _ _ both noText
  rw [← Except.ok.inj wholeBuilt, ← Except.ok.inj nothingBuilt] at joined
  refine ⟨active, both, joined, files.trans both, ?_, ?_⟩
  · exact (appended_declarations_append_texts active first unnamed).2.1 _ _ firstText failed
  · have drawn : ¬ whole.isEmpty := by
      rw [← Except.ok.inj wholeBuilt]
      decide
    obtain ⟨inside, rendered⟩ := brackets ⟨""⟩ rfl whole drawn
    rw [← Except.ok.inj wholeBuilt] at rendered
    exact ⟨inside, Except.ok.inj rendered⟩

end Declaration

end ClassDiagram
