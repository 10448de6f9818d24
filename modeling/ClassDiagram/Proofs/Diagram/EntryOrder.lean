import ClassDiagram.Proofs.Diagram.BuildOutcome
import ClassDiagram.Proofs.Diagram.PushedEntries

/-! The order in which a diagram draws its entries. The slots number the nodes and the edges, each
kind on its own and without a gap. In a diagram of declarations no edge is drawn before the class
that it leads from.
-/

namespace ClassDiagram

-----------------------------------------------------------------------------------------
-- Numbers of nodes and edges
-----------------------------------------------------------------------------------------

namespace Diagram

def Slot.node? : Slot → Option Nat
  | node index => some index
  | edge _ => none

def Slot.edge? : Slot → Option Nat
  | node _ => none
  | edge index => some index

/-- The slots go through all nodes and through all edges, in order and once each. -/
structure Numbered (diagram : Diagram) : Prop where
  nodes : diagram.order.toList.filterMap Slot.node? = List.range diagram.nodes.size
  edges : diagram.order.toList.filterMap Slot.edge? = List.range diagram.edges.size

/-- A push takes the next number of its kind and leaves the other kind alone. -/
theorem numbered_push {diagram : Diagram} (numbered : diagram.Numbered) (entry : Entry)
    : Numbered (diagram.push entry) := by
  have slots (index? : Slot → Option Nat)
      : (diagram.push entry).order.toList.filterMap index?
        = diagram.order.toList.filterMap index?
          ++ [diagram.nextSlot entry].filterMap index? := by
    rw [order_push, Array.toList_push, List.filterMap_append]
  cases entry with
  | node classifier =>
      constructor <;> rw [slots]
      · simp [numbered.nodes, push, pushNode, nextSlot, Slot.node?, List.range_succ]
      · simp [numbered.edges, push, pushNode, nextSlot, Slot.edge?]
  | edge inheritance =>
      constructor <;> rw [slots]
      · simp [numbered.nodes, push, pushEdge, nextSlot, Slot.node?]
      · simp [numbered.edges, push, pushEdge, nextSlot, Slot.edge?, List.range_succ]

/-- The numbering outlasts any number of pushes, by induction on the pushed entries. -/
theorem numbered_foldl_push {diagram : Diagram} (numbered : diagram.Numbered)
    (entries : List Entry)
    : Numbered (entries.foldl push diagram) := by
  induction entries generalizing diagram with
  | nil => exact numbered
  | cons entry rest ih => exact ih (numbered_push numbered entry)

theorem numbered_ofEntries (entries : List Entry) : Numbered (ofEntries entries) :=
  numbered_foldl_push ⟨rfl, rfl⟩ entries

/-- No slot is passed over when the entries are listed. -/
theorem map_entry?_order (diagram : Diagram)
    : diagram.order.toList.map diagram.entry? = diagram.entries.map some := by
  rw [entries, List.map_filterMap_some_eq_filter_map_isSome, eq_comm, List.filter_eq_self]
  intro found member
  obtain ⟨slot, inOrder, rfl⟩ := List.mem_map.mp member
  obtain ⟨entry, known⟩ :=
    exists_entry?_of_inRange (diagram.inRange slot (Array.mem_toList_iff.mp inOrder))
  rw [known, Option.isSome_some]

end Diagram

-----------------------------------------------------------------------------------------
-- Edges after classes
-----------------------------------------------------------------------------------------

/-- Before each edge there is a class with the name of its child. -/
def EdgesFollowClasses (entries : List Entry) : Prop :=
  ∀ front edge rest,
    entries = front ++ .edge edge :: rest
    → ∃ node, .node node ∈ front ∧ node.kind = .classNode ∧ node.name = edge.child

/-- The edges of both parts have their classes within the part that they belong to. -/
theorem EdgesFollowClasses.append {first second : List Entry}
    (hf : EdgesFollowClasses first) (hs : EdgesFollowClasses second)
    : EdgesFollowClasses (first ++ second) := by
  intro front edge rest whole
  rcases List.append_eq_append_iff.mp whole with ⟨within, rfl, later⟩ | ⟨within, early, later⟩
  · obtain ⟨node, member, facts⟩ := hs within edge rest later
    exact ⟨node, List.mem_append_right first member, facts⟩
  · cases within with
    | nil =>
        obtain ⟨node, member, -⟩ := hs [] edge rest later.symm
        cases member
    | cons entry others =>
        obtain ⟨rfl, -⟩ := List.cons.inj later
        exact hf front edge others early

/-- Parts with their classes make a whole with its classes, by induction on the parts. -/
theorem edgesFollowClasses_flatMap {α : Type} {part : α → List Entry} (items : List α)
    (hp : ∀ item ∈ items, EdgesFollowClasses (part item))
    : EdgesFollowClasses (items.flatMap part) := by
  induction items with
  | nil =>
      intro front edge rest whole
      cases front <;> cases whole
  | cons item rest ih =>
      have later := ih fun other member => hp other (List.mem_cons_of_mem item member)
      exact (hp item List.mem_cons_self).append later

/-- Edges may come in any order after all nodes, as long as their classes are among these. -/
theorem edgesFollowClasses_nodes_append {nodes : List Classifier} {edges : List Inheritance}
    (known
      : ∀ edge ∈ edges, ∃ node ∈ nodes, node.kind = .classNode ∧ node.name = edge.child)
    : EdgesFollowClasses (nodes.map .node ++ edges.map .edge) := by
  intro front edge rest whole
  have member : Entry.edge edge ∈ nodes.map .node ++ edges.map .edge := by simp [whole]
  obtain ⟨node, declared, facts⟩ := known edge (by simpa using member)
  refine ⟨node, ?_, facts⟩
  rcases List.append_eq_append_iff.mp whole with ⟨within, rfl, -⟩ | ⟨within, early, later⟩
  · exact List.mem_append_left within (List.mem_map_of_mem declared)
  · cases within with
    | nil =>
        rw [List.append_nil] at early
        exact early ▸ List.mem_map_of_mem declared
    | cons entry others =>
        -- An edge would stand among the nodes
        obtain ⟨rfl, -⟩ := List.cons.inj later
        have misplaced : Entry.edge edge ∈ nodes.map .node := by simp [early]
        simp at misplaced

namespace Declaration

theorem Class.child_of_mem_drawnEdges {decl : Class} {edge : Inheritance}
    (member : edge ∈ decl.drawnEdges)
    : edge.child = decl.owner := by
  obtain ⟨supertype, -, drawn⟩ := List.mem_filterMap.mp member
  obtain ⟨parent, -, rfl⟩ := Option.map_eq_some_iff.mp drawn
  rfl

theorem File.edgesFollowClasses_drawn (file : File) : EdgesFollowClasses file.drawn := by
  apply edgesFollowClasses_nodes_append
  intro edge member
  obtain ⟨decl, declared, drawn⟩ := List.mem_flatMap.mp member
  refine ⟨decl.toBody.drawn .classNode, ?_, rfl, (Class.child_of_mem_drawnEdges drawn).symm⟩
  exact List.mem_append_left _ (List.mem_map_of_mem declared)

/-- Each file brings the classes of its edges along. -/
theorem Dump.edgesFollowClasses_drawn (dump : Dump) : EdgesFollowClasses dump.drawn :=
  edgesFollowClasses_flatMap dump.files fun file _ => file.edgesFollowClasses_drawn

-----------------------------------------------------------------------------------------
-- Entries in order
-----------------------------------------------------------------------------------------

/-- Whatever is pushed is drawn once and in order: each slot is in range and stands for the entry
that was pushed in its place, the slots go through all nodes and all edges, and a diagram is empty
only if nothing was pushed. In a diagram of declarations, moreover, each edge follows a class with
the name of its child. Witness: each push keeps the numbering, and files list their classes first.
-/
theorem entries_are_pushed_entries_and_edges_follow_classes
    : (∀ pushed,
        let diagram := Diagram.ofEntries pushed
        (∀ slot ∈ diagram.order, slot.InRange diagram.nodes.size diagram.edges.size)
        ∧ diagram.order.toList.map diagram.entry? = pushed.map some
        ∧ diagram.entries = pushed
        ∧ diagram.entries.filterMap Entry.node? = diagram.nodes.toList
        ∧ diagram.entries.filterMap Entry.edge? = diagram.edges.toList
        ∧ diagram.Numbered
        ∧ (diagram.isEmpty ↔ pushed = []))
      ∧ ∀ policy dump diagram,
          (Dump.diagram policy dump).result = .ok diagram
          → EdgesFollowClasses diagram.entries := by
  constructor
  · intro pushed diagram
    have entries : diagram.entries = pushed := Diagram.entries_ofEntries pushed
    refine ⟨diagram.inRange, ?_, entries, ?_, ?_, Diagram.numbered_ofEntries pushed, ?_⟩
    · rw [Diagram.map_entry?_order, entries]
    · rw [entries]
      exact (Diagram.nodes_ofEntries pushed).symm
    · rw [entries]
      exact (Diagram.edges_ofEntries pushed).symm
    · rw [← Diagram.entries_eq_nil_iff, entries]
  · intro policy dump diagram built
    rw [dump.result_diagram, outcome_eq_ok_iff] at built
    obtain ⟨-, rfl⟩ := built
    rw [Diagram.entries_ofEntries]
    exact dump.edgesFollowClasses_drawn

/-- The edges of a class follow the class although an interface of the same name comes later, and a
second file numbers its entries on from the first.
-/
theorem later_file_continues_numbers
    : let dump : Dump :=
        {
          files :=
            [
              {
                classes := [{ symbol := some "A", interfaces := [⟨some "I"⟩, ⟨some "I"⟩] }]
                interfaces := [{ symbol := some "A" }]
              },
              { classes := [{ symbol := some "A", superclass := some ⟨some "A"⟩ }] }
            ]
        }
      ∃ diagram,
        (dump.diagram .reject).result = .ok diagram
        ∧ diagram.order.toList = [.node 0, .node 1, .edge 0, .edge 1, .node 2, .edge 2]
        ∧ diagram.entries = dump.drawn
        ∧ EdgesFollowClasses diagram.entries := by
  intro dump
  obtain ⟨pushes, follows⟩ := entries_are_pushed_entries_and_edges_follow_classes
  have built : (dump.diagram .reject).result = .ok (Diagram.ofEntries dump.drawn) := rfl
  obtain ⟨-, -, entries, -⟩ := pushes dump.drawn
  exact ⟨_, built, rfl, entries, follows .reject dump _ built⟩

end Declaration

end ClassDiagram
