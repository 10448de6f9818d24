import ClassDiagram.Diagram
import Mathlib.Data.List.Basic

/-! The entries of a diagram are what was pushed, in order. The one fact behind it is that a push
leaves all earlier slots as they are, since they are in range.
-/

namespace ClassDiagram.Diagram

/-- The slot that the next push of an entry takes. -/
def nextSlot (diagram : Diagram) : Entry → Slot
  | .node _ => .node diagram.nodes.size
  | .edge _ => .edge diagram.edges.size

theorem order_push (diagram : Diagram) (entry : Entry)
    : (diagram.push entry).order = diagram.order.push (diagram.nextSlot entry) := by
  cases entry <;> rfl

theorem entry?_push_nextSlot (diagram : Diagram) (entry : Entry)
    : entry? (diagram.push entry) (diagram.nextSlot entry) = some entry := by
  cases entry <;> simp [push, pushNode, pushEdge, nextSlot, entry?]

/-- A slot in range stands for the same entry after another push. -/
theorem entry?_push_of_inRange {diagram : Diagram} {slot : Slot}
    (known : slot.InRange diagram.nodes.size diagram.edges.size) (entry : Entry)
    : entry? (diagram.push entry) slot = diagram.entry? slot := by
  cases entry <;> cases slot with
  | node index => simp [push, pushNode, pushEdge, entry?, Array.getElem?_push, Nat.ne_of_lt known]
  | edge index => simp [push, pushNode, pushEdge, entry?, Array.getElem?_push, Nat.ne_of_lt known]

theorem entries_push (diagram : Diagram) (entry : Entry)
    : (diagram.push entry).entries = diagram.entries ++ [entry] := by
  have earlier : diagram.order.toList.filterMap ( entry? (diagram.push entry))
      = diagram.entries := by
    apply List.filterMap_congr
    intro slot member
    exact entry?_push_of_inRange (diagram.inRange slot (Array.mem_toList_iff.mp member)) entry
  rw [entries, order_push, Array.toList_push, List.filterMap_append, earlier,
    List.filterMap_cons_some (entry?_push_nextSlot diagram entry), List.filterMap_nil]

/-- Pushing a list of entries adds all of them, by induction on the list. -/
theorem entries_foldl_push (diagram : Diagram) (entries : List Entry)
    : (entries.foldl push diagram).entries = diagram.entries ++ entries := by
  induction entries generalizing diagram with
  | nil => rw [List.foldl_nil, List.append_nil]
  | cons entry rest ih =>
      rw [List.foldl_cons, ih, entries_push, List.append_assoc, List.singleton_append]

/-- A diagram has the entries that were pushed. -/
@[simp] theorem entries_ofEntries (entries : List Entry) : (ofEntries entries).entries = entries :=
  entries_foldl_push empty entries

-----------------------------------------------------------------------------------------
-- Nodes and edges
-----------------------------------------------------------------------------------------

/-- Pushing entries adds the nodes among them to the nodes, by induction on the entries. -/
theorem nodes_foldl_push (diagram : Diagram) (entries : List Entry)
    : (entries.foldl push diagram).nodes.toList
      = diagram.nodes.toList ++ entries.filterMap Entry.node? := by
  induction entries generalizing diagram with
  | nil => rw [List.foldl_nil, List.filterMap_nil, List.append_nil]
  | cons entry rest ih =>
      rw [List.foldl_cons, ih]
      cases entry with
      | node classifier => simp [push, pushNode, Entry.node?]
      | edge inheritance =>
          rw [List.filterMap_cons_none rfl]
          rfl

/-- Pushing entries adds the edges among them to the edges, by induction on the entries. -/
theorem edges_foldl_push (diagram : Diagram) (entries : List Entry)
    : (entries.foldl push diagram).edges.toList
      = diagram.edges.toList ++ entries.filterMap Entry.edge? := by
  induction entries generalizing diagram with
  | nil => rw [List.foldl_nil, List.filterMap_nil, List.append_nil]
  | cons entry rest ih =>
      rw [List.foldl_cons, ih]
      cases entry with
      | node classifier =>
          rw [List.filterMap_cons_none rfl]
          rfl
      | edge inheritance => simp [push, pushEdge, Entry.edge?]

@[simp] theorem nodes_ofEntries (entries : List Entry)
    : (ofEntries entries).nodes.toList = entries.filterMap Entry.node? :=
  nodes_foldl_push empty entries

@[simp] theorem edges_ofEntries (entries : List Entry)
    : (ofEntries entries).edges.toList = entries.filterMap Entry.edge? :=
  edges_foldl_push empty entries

-----------------------------------------------------------------------------------------
-- Empty diagrams
-----------------------------------------------------------------------------------------

/-- A slot in range stands for an entry. -/
theorem exists_entry?_of_inRange {diagram : Diagram} {slot : Slot}
    (known : slot.InRange diagram.nodes.size diagram.edges.size)
    : ∃ entry, diagram.entry? slot = some entry := by
  cases slot with
  | node index =>
      have bound : index < diagram.nodes.size := known
      refine ⟨.node diagram.nodes[index], ?_⟩
      exact congrArg (Option.map Entry.node) (Array.getElem?_eq_getElem bound)
  | edge index =>
      have bound : index < diagram.edges.size := known
      refine ⟨.edge diagram.edges[index], ?_⟩
      exact congrArg (Option.map Entry.edge) (Array.getElem?_eq_getElem bound)

/-- Only the empty diagram has no entries, since every slot stands for one. -/
theorem entries_eq_nil_iff (diagram : Diagram) : diagram.entries = [] ↔ diagram.isEmpty := by
  rw [entries, List.filterMap_eq_nil_iff, isEmpty, Array.isEmpty_iff]
  constructor
  · intro unseen
    apply Array.eq_empty_iff_forall_not_mem.mpr
    intro slot member
    obtain ⟨entry, found⟩ := exists_entry?_of_inRange (diagram.inRange slot member)
    cases found.symm.trans (unseen slot (Array.mem_toList_iff.mpr member))
  · intro unordered slot member
    simp [unordered] at member

end ClassDiagram.Diagram
