import ClassDiagram.Proofs.Diagram.BuildOutcome
import ClassDiagram.Proofs.Diagram.PushedEntries
import ClassDiagram.Proofs.Engine.RenderedBodies
import ClassDiagram.Proofs.Text.Splitting

/-! The order of fragments in a generated text. The fragments are listed straight from the
declarations, without a diagram in between, and a generated text is found to be all of them in that
order with the separator of the engine between each two.
-/

namespace ClassDiagram.Declaration

-----------------------------------------------------------------------------------------
-- Fragments of declarations
-----------------------------------------------------------------------------------------

/-- A class with those of its members that have a name. -/
def Class.fragment (engine : Engine) (decl : Class) : String :=
  engine.node
    {
      name := decl.owner
      kind := .classNode
      properties := decl.properties.filterMap Member.drawn?
      methods := decl.methods.filterMap Member.drawn?
    }

/-- An interface with those of its members that have a name. -/
def Interface.fragment (engine : Engine) (decl : Interface) : String :=
  engine.node
    {
      name := decl.owner
      kind := .interfaceNode
      properties := decl.properties.filterMap Member.drawn?
      methods := decl.methods.filterMap Member.drawn?
    }

/-- The superclass if it has a name, then the interfaces that have one. -/
def Class.parents (decl : Class) : List String :=
  (decl.superclass.bind (·.identifier)).toList ++ decl.interfaces.filterMap (·.identifier)

def Class.edgeFragments (engine : Engine) (decl : Class) : List String :=
  decl.parents.map fun parent => engine.inheritance parent decl.owner

def File.fragments (engine : Engine) (file : File) : List String :=
  file.classes.map (Class.fragment engine) ++ file.interfaces.map (Interface.fragment engine)
    ++ file.classes.flatMap (Class.edgeFragments engine)

def Dump.fragments (engine : Engine) (dump : Dump) : List String :=
  dump.files.flatMap (File.fragments engine)

/-- Everything but where the file is. -/
def File.withoutPath (file : File) : File :=
  { file with path := none }

/-- Every class and every interface has a name of its own. -/
def Dump.IsNamed (dump : Dump) : Prop :=
  ∀ file ∈ dump.files,
    (∀ decl ∈ file.classes, decl.symbol = some decl.owner)
    ∧ ∀ decl ∈ file.interfaces, decl.symbol = some decl.owner

-----------------------------------------------------------------------------------------
-- Fragments of drawn entries
-----------------------------------------------------------------------------------------

theorem Class.filterMap_supertypes (decl : Class)
    : decl.supertypes.filterMap (·.identifier) = decl.parents := by
  rw [supertypes, parents, List.filterMap_append]
  cases decl.superclass with
  | none => rfl
  | some superclass => cases hs : superclass.identifier <;> simp [hs]

/-- The edges of a class are rendered superclass first, whichever of its supertypes have a name. -/
theorem Class.map_fragment_drawnEdges (engine : Engine) (decl : Class)
    : decl.drawnEdges.map (engine.fragment ∘ .edge) = decl.edgeFragments engine := by
  rw [drawnEdges, edgeFragments, ← filterMap_supertypes, List.map_filterMap, List.map_filterMap]
  simp only [Option.map_map]
  rfl

theorem File.map_fragment_drawn (engine : Engine) (file : File)
    : file.drawn.map engine.fragment = file.fragments engine := by
  have edges : (file.classes.flatMap Class.drawnEdges).map (engine.fragment ∘ .edge)
      = file.classes.flatMap (Class.edgeFragments engine) := by
    rw [List.map_flatMap]
    simp only [Class.map_fragment_drawnEdges]
  rw [drawn, fragments, ← edges]
  simp only [List.map_append, List.map_map]
  rfl

/-- Rendering what is drawn gives the fragments of the declarations, file by file. -/
theorem Dump.map_fragment_drawn (engine : Engine) (dump : Dump)
    : dump.drawn.map engine.fragment = dump.fragments engine := by
  rw [drawn, fragments, List.map_flatMap]
  simp only [File.map_fragment_drawn]

theorem Dump.render_drawn (engine : Engine) (dump : Dump)
    : engine.render (Diagram.ofEntries dump.drawn)
      = engine.separator.intercalate (dump.fragments engine) := by
  rw [Engine.render, Diagram.entries_ofEntries, dump.map_fragment_drawn, Text.join_eq_intercalate]

-----------------------------------------------------------------------------------------
-- Names and paths
-----------------------------------------------------------------------------------------

/-- A visit that meets no offending place has met the name of every declaration. -/
theorem Body.symbol_eq_some_owner {policy : Policy} {body : Body}
    (fine : ∀ mention ∈ body.visit, mention.offends policy = false)
    : body.symbol = some body.owner := by
  have own := fine body.mention List.mem_cons_self
  cases hs : body.symbol with
  | none => simp [Mention.offends, Body.mention, hs] at own
  | some name => simp [Body.owner, hs]

theorem Dump.isNamed_of_firstFailure_eq_none {policy : Policy} {dump : Dump}
    (accepted : firstFailure policy dump.visit = none)
    : dump.IsNamed := by
  have fine := firstFailure_eq_none_iff.mp accepted
  intro file hf
  have within (mention : Mention) (hm : mention ∈ file.visit) : mention.offends policy = false :=
    fine mention (List.mem_flatMap.mpr ⟨file, hf, hm⟩)
  constructor
  · intro decl hd
    apply Body.symbol_eq_some_owner
    intro mention hm
    exact within mention
      (List.mem_append_left _ (List.mem_append_left _ (List.mem_flatMap.mpr ⟨decl, hd, hm⟩)))
  · intro decl hd
    apply Body.symbol_eq_some_owner
    intro mention hm
    exact within mention
      (List.mem_append_left _ (List.mem_append_right _ (List.mem_flatMap.mpr ⟨decl, hd, hm⟩)))

/-- Neither what is visited nor what is drawn depends on where files are. -/
theorem Dump.result_diagram_of_withoutPath {dump other : Dump}
    (same : other.files.map File.withoutPath = dump.files.map File.withoutPath) (policy : Policy)
    : (other.diagram policy).result = (dump.diagram policy).result := by
  have visit (dump : Dump) : (dump.files.map File.withoutPath).flatMap File.visit = dump.visit :=
    List.flatMap_map ..
  have drawn (dump : Dump) : (dump.files.map File.withoutPath).flatMap File.drawn = dump.drawn :=
    List.flatMap_map ..
  rw [Dump.result_diagram, Dump.result_diagram, ← visit other, ← drawn other, same, visit, drawn]

-----------------------------------------------------------------------------------------
-- Generated texts
-----------------------------------------------------------------------------------------

theorem result_generate_of_active {generator : Generator} {engine : Engine}
    (active : generator.registry.active = .ok engine) (dump : Dump)
    : (generator.generate dump).result
      = outcome generator.policy dump.visit
          (engine.separator.intercalate (dump.fragments engine)) := by
  rw [Generator.result_generate, active, dump.result_diagram]
  exact outcome_bind_ok (congrArg Except.ok (dump.render_drawn engine))

/-- Generating succeeds exactly on declarations in which no place offends, and the text is then that
of the fragments in order with the separator of the engine between each two. An engine that has no
way of its own with nodes draws classes and interfaces by its two templates. All declarations have
names by then, and paths of files make no difference. Witness: the entries that building draws.
-/
theorem generated_text_joins_fragments {generator : Generator} {engine : Engine}
    (active : generator.registry.active = .ok engine) (dump : Dump)
    : (∀ body,
        (generator.generate dump).result = .ok body
          ↔ firstFailure generator.policy dump.visit = none
            ∧ body = engine.separator.intercalate (dump.fragments engine))
      ∧ (engine.FollowsTemplates
        → (∀ decl : Class,
            decl.fragment engine
            = engine.classNode decl.owner (decl.properties.filterMap Member.drawn?)
                (decl.methods.filterMap Member.drawn?))
          ∧ ∀ decl : Interface,
              decl.fragment engine
              = engine.interfaceNode decl.owner (decl.properties.filterMap Member.drawn?)
                  (decl.methods.filterMap Member.drawn?))
      ∧ (∀ body, (generator.generate dump).result = .ok body → dump.IsNamed)
      ∧ ∀ other : Dump,
          other.files.map File.withoutPath = dump.files.map File.withoutPath
          → (generator.generate other).result = (generator.generate dump).result := by
  have text (body : String)
      : (generator.generate dump).result = .ok body
        ↔ firstFailure generator.policy dump.visit = none
          ∧ body = engine.separator.intercalate (dump.fragments engine) := by
    rw [result_generate_of_active active, outcome_eq_ok_iff]
    exact and_congr_right fun _ => eq_comm
  refine ⟨text, ?_, ?_, ?_⟩
  · intro follows
    exact ⟨fun decl => follows _, fun decl => follows _⟩
  · intro body generated
    exact Dump.isNamed_of_firstFailure_eq_none ((text body).mp generated).1
  · intro other same
    rw [Generator.result_generate, Generator.result_generate,
      Dump.result_diagram_of_withoutPath same]

/-- Types of one name, an edge from a class to itself and edges said twice are all drawn, file by
file, wherever the files are. An engine with a way of its own draws as many nodes in that way.
-/
theorem repeated_names_stay_apart
    : let generator : Generator := { registry := Registry.empty.add (Yuml.engine ⟨""⟩) }
      let short : Generator :=
        { registry := Registry.empty.add { Yuml.engine ⟨""⟩ with node := (·.name) } }
      let files : List File :=
        [
          { classes := [{ symbol := some "A", superclass := some ⟨some "A"⟩ }] },
          {
            classes := [{ symbol := some "A", interfaces := [⟨some "I"⟩, {}, ⟨some "I"⟩] }]
            interfaces := [{ symbol := some "A", methods := [{}, { symbol := some "m" }] }]
          }
        ]
      generator.registry.active = .ok (Yuml.engine ⟨""⟩)
      ∧ (generator.generate { files }).result
        = .ok ("[A\x7bbg:skyblue\x7d][A||],[A]^-[A],[A\x7bbg:skyblue\x7d][A||],"
            ++ "[A\x7bbg:palegreen\x7d][A||m();],[I]^-[A],[I]^-[A]")
      ∧ (Yuml.engine ⟨""⟩).FollowsTemplates
      ∧ (∀ decl : Interface,
          decl.fragment (Yuml.engine ⟨""⟩)
          = Yuml.node "palegreen" decl.owner (decl.properties.filterMap Member.drawn?)
              (decl.methods.filterMap Member.drawn?))
      ∧ (short.generate { files }).result = .ok "A,[A]^-[A],A,A,[I]^-[A],[I]^-[A]"
      ∧ Dump.IsNamed { files }
      ∧ ∀ path,
          (generator.generate { files := files.map ({ · with path }) }).result
            = (generator.generate { files }).result := by
  intro generator short files
  have active : generator.registry.active = .ok (Yuml.engine ⟨""⟩) := rfl
  obtain ⟨text, templates, named, paths⟩ := generated_text_joins_fragments active { files }
  have follows : (Yuml.engine ⟨""⟩).FollowsTemplates := fun _ => rfl
  have generated := (text _).mpr ⟨by decide, rfl⟩
  have body : (Yuml.engine ⟨""⟩).separator.intercalate (Dump.fragments (Yuml.engine ⟨""⟩) { files })
      = "[A\x7bbg:skyblue\x7d][A||],[A]^-[A],[A\x7bbg:skyblue\x7d][A||],"
        ++ "[A\x7bbg:palegreen\x7d][A||m();],[I]^-[A],[I]^-[A]" := by decide
  have shortText : (short.generate { files }).result = .ok "A,[A]^-[A],A,A,[I]^-[A],[I]^-[A]" :=
    ((generated_text_joins_fragments rfl { files }).1 _).mpr ⟨by decide, by decide⟩
  exact ⟨active, body ▸ generated, follows, (templates follows).2, shortText, named _ generated,
    fun path => paths _ rfl⟩

end ClassDiagram.Declaration
