import ClassDiagram.Proofs.Diagram.BuildOutcome
import ClassDiagram.Proofs.Diagram.PushedEntries
import Mathlib.Data.List.Perm.Basic

/-! The same declarations in other files and another order. Each file is gone through three times,
so its classes contribute at two places; counted over all files, though, everything that is visited
and drawn comes from the classes and interfaces alone.
-/

namespace ClassDiagram.Declaration

-----------------------------------------------------------------------------------------
-- Declarations of all files
-----------------------------------------------------------------------------------------

def Dump.classes (dump : Dump) : List Class :=
  dump.files.flatMap File.classes

def Dump.interfaces (dump : Dump) : List Interface :=
  dump.files.flatMap File.interfaces

/-- The two declare the same classes and interfaces, each of them as often, however these are
ordered and divided among files.
-/
structure Dump.Rearranges (first second : Dump) : Prop where
  classes : first.classes.Perm second.classes
  interfaces : first.interfaces.Perm second.interfaces

/-- What three passes over each file list is, but for the order, what three passes over all
declarations list.
-/
theorem Dump.perm_flatMap_files {α : Type} (ofClass later : Class → List α)
    (ofInterface : Interface → List α) (dump : Dump)
    : (dump.files.flatMap fun file =>
          file.classes.flatMap ofClass ++ file.interfaces.flatMap ofInterface
            ++ file.classes.flatMap later).Perm
        (dump.classes.flatMap ofClass ++ dump.interfaces.flatMap ofInterface
          ++ dump.classes.flatMap later) := by
  simp only [classes, interfaces, List.flatMap_assoc]
  have outer := List.flatMap_append_perm dump.files
    (fun file => file.classes.flatMap ofClass ++ file.interfaces.flatMap ofInterface)
    (fun file => file.classes.flatMap later)
  have inner := List.flatMap_append_perm dump.files
    (fun file => file.classes.flatMap ofClass) (fun file => file.interfaces.flatMap ofInterface)
  exact ((inner.append_right _).trans outer).symm

/-- Rearranged declarations list the same in three passes, in another order. -/
theorem Dump.Rearranges.perm_flatMap_files {α : Type} {first second : Dump}
    (rearranged : first.Rearranges second) (ofClass later : Class → List α)
    (ofInterface : Interface → List α)
    : (first.files.flatMap fun file =>
          file.classes.flatMap ofClass ++ file.interfaces.flatMap ofInterface
            ++ file.classes.flatMap later).Perm
        (second.files.flatMap fun file =>
          file.classes.flatMap ofClass ++ file.interfaces.flatMap ofInterface
            ++ file.classes.flatMap later) := by
  have early := rearranged.classes.flatMap_right ofClass
  have middle := rearranged.interfaces.flatMap_right ofInterface
  have late := rearranged.classes.flatMap_right later
  have together := (early.append middle).append late
  exact (first.perm_flatMap_files ofClass later ofInterface).trans
    (together.trans (second.perm_flatMap_files ofClass later ofInterface).symm)

-----------------------------------------------------------------------------------------
-- What is visited and what is drawn
-----------------------------------------------------------------------------------------

theorem Dump.Rearranges.perm_visit {first second : Dump} (rearranged : first.Rearranges second)
    : first.visit.Perm second.visit :=
  rearranged.perm_flatMap_files (·.toBody.visit) Class.heritageVisit (·.toBody.visit)

/-- The entries of a file, declaration by declaration. -/
theorem File.drawn_eq_flatMap (file : File)
    : file.drawn
      = file.classes.flatMap (fun decl => [.node (decl.toBody.drawn .classNode)])
        ++ file.interfaces.flatMap (fun decl => [.node (decl.toBody.drawn .interfaceNode)])
        ++ file.classes.flatMap (fun decl => decl.drawnEdges.map .edge) := by
  rw [drawn, List.map_append, List.map_map, List.map_map, List.map_flatMap, List.map_eq_flatMap,
    List.map_eq_flatMap]
  rfl

theorem Dump.Rearranges.perm_drawn {first second : Dump} (rearranged : first.Rearranges second)
    : first.drawn.Perm second.drawn := by
  rw [Dump.drawn, Dump.drawn, funext File.drawn_eq_flatMap]
  exact rearranged.perm_flatMap_files _ _ _

/-- A visit in another order meets an offending place exactly when the first one does. -/
theorem firstFailure_eq_none_iff_of_perm {policy : Policy} {visit other : List Mention}
    (reordered : visit.Perm other)
    : firstFailure policy visit = none ↔ firstFailure policy other = none := by
  simp only [firstFailure_eq_none_iff, reordered.mem_iff]

/-- Building succeeds exactly when no place offends. -/
theorem Dump.exists_result_diagram_iff {policy : Policy} {dump : Dump}
    : (∃ diagram, (dump.diagram policy).result = .ok diagram)
      ↔ firstFailure policy dump.visit = none := by
  simp only [dump.result_diagram, outcome_eq_ok_iff, exists_and_left, exists_eq', and_true]

-----------------------------------------------------------------------------------------
-- Rearranged diagrams
-----------------------------------------------------------------------------------------

/-- Rearranged declarations are built together or not at all, and then into diagrams of the same
nodes and edges, each of them as often, in orders of their own. Witness: both visits and both lists
of entries are permutations of each other.
-/
theorem rearranged_declarations_rearrange_diagram {first second : Dump}
    (rearranged : first.Rearranges second) (policy : Policy)
    : ((∃ diagram, (first.diagram policy).result = .ok diagram)
        ↔ ∃ diagram, (second.diagram policy).result = .ok diagram)
      ∧ ∀ diagram other,
          (first.diagram policy).result = .ok diagram
          → (second.diagram policy).result = .ok other
          → diagram.nodes.toList.Perm other.nodes.toList
            ∧ diagram.edges.toList.Perm other.edges.toList
            ∧ diagram.entries.Perm other.entries := by
  constructor
  · rw [Dump.exists_result_diagram_iff, Dump.exists_result_diagram_iff]
    exact firstFailure_eq_none_iff_of_perm rearranged.perm_visit
  · intro diagram other built otherBuilt
    rw [Dump.result_diagram, outcome_eq_ok_iff] at built otherBuilt
    obtain ⟨-, rfl⟩ := built
    obtain ⟨-, rfl⟩ := otherBuilt
    rw [Diagram.nodes_ofEntries, Diagram.nodes_ofEntries, Diagram.edges_ofEntries,
      Diagram.edges_ofEntries, Diagram.entries_ofEntries, Diagram.entries_ofEntries]
    have drawn := rearranged.perm_drawn
    exact ⟨drawn.filterMap Entry.node?, drawn.filterMap Entry.edge?, drawn⟩

/-- Two files become one in which everything is turned around: the class that is declared twice is
drawn twice, and its edges still leave out what has no name.
-/
theorem merged_files_are_drawn_alike
    : let child : Class :=
        { symbol := some "A", superclass := some ⟨some "B"⟩, interfaces := [{}, ⟨some "I"⟩] }
      let parent : Class := { symbol := some "B", methods := [{ symbol := some "m" }, {}] }
      let spread : Dump :=
        {
          files :=
            [
              { classes := [child], interfaces := [{ symbol := some "I" }] },
              { classes := [parent, child] }
            ]
        }
      let merged : Dump :=
        {
          files :=
            [{}, { classes := [parent, child, child], interfaces := [{ symbol := some "I" }] }]
        }
      spread.Rearranges merged
      ∧ ∃ diagram other,
          (spread.diagram .drop).result = .ok diagram
          ∧ (merged.diagram .drop).result = .ok other
          ∧ diagram.nodes.toList.Perm other.nodes.toList
          ∧ diagram.edges.toList.Perm other.edges.toList
          ∧ diagram.edges.toList ≠ [] := by
  intro child parent spread merged
  have rearranged : spread.Rearranges merged := by
    constructor
    · exact (List.Perm.swap parent child [child]).trans (.cons parent (.refl _))
    · exact .refl _
  obtain ⟨diagram, built⟩ : ∃ diagram, (spread.diagram .drop).result = .ok diagram := ⟨_, rfl⟩
  obtain ⟨together, alike⟩ := rearranged_declarations_rearrange_diagram rearranged .drop
  obtain ⟨other, otherBuilt⟩ := together.mp ⟨diagram, built⟩
  obtain ⟨nodes, edges, -⟩ := alike diagram other built otherBuilt
  refine ⟨rearranged, diagram, other, built, otherBuilt, nodes, edges, ?_⟩
  rw [← Except.ok.inj built]
  exact List.cons_ne_nil _ _

end ClassDiagram.Declaration
