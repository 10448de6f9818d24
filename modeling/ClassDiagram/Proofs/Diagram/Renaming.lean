import ClassDiagram.Proofs.Diagram.PushedEntries
import ClassDiagram.Proofs.Engine.FragmentOrder

/-! Renaming declarations before building is renaming the built diagram, by any function of names,
also one that lets names coincide. Each step of building is followed through both runs: its results
correspond because no step looks at a name.
-/

namespace ClassDiagram

variable (f : String → String)

-----------------------------------------------------------------------------------------
-- Renamed diagrams
-----------------------------------------------------------------------------------------

def Member.rename (member : Member) : Member :=
  { member with name := f member.name }

def Classifier.rename (node : Classifier) : Classifier :=
  { node with
    name := f node.name
    properties := node.properties.map (Member.rename f)
    methods := node.methods.map (Member.rename f) }

def Inheritance.rename (edge : Inheritance) : Inheritance where
  parent := f edge.parent
  child := f edge.child

def Entry.rename : Entry → Entry
  | node classifier => .node (classifier.rename f)
  | edge inheritance => .edge (inheritance.rename f)

/-- The diagram with other names at the same places. -/
def Diagram.rename (diagram : Diagram) : Diagram where
  nodes := diagram.nodes.map (Classifier.rename f)
  edges := diagram.edges.map (Inheritance.rename f)
  order := diagram.order
  inRange := by simpa only [Array.size_map] using diagram.inRange

/-- The same failure for renamed declarations. The owner of a missing declaration name is not the
name of anything and stays.
-/
def Failure.rename : Failure → Failure
  | unresolvedSymbol owner .declaration => .unresolvedSymbol owner .declaration
  | unresolvedSymbol owner kind => .unresolvedSymbol (f owner) kind
  | failure => failure

/-- Pushing a renamed entry is renaming after the push. -/
theorem Diagram.rename_push (diagram : Diagram) (entry : Entry)
    : (diagram.push entry).rename f = (diagram.rename f).push (entry.rename f) := by
  cases entry <;> simp [push, pushNode, pushEdge, rename, Entry.rename]

/-- Renaming goes through any number of pushes, by induction on the pushed entries. -/
theorem Diagram.rename_foldl_push (diagram : Diagram) (entries : List Entry)
    : (entries.foldl push diagram).rename f
      = (entries.map (Entry.rename f)).foldl push (diagram.rename f) := by
  induction entries generalizing diagram with
  | nil => rfl
  | cons entry rest ih => rw [List.foldl_cons, ih, rename_push, List.map_cons, List.foldl_cons]

theorem Diagram.rename_ofEntries (entries : List Entry)
    : (ofEntries entries).rename f = ofEntries (entries.map (Entry.rename f)) := by
  have start : empty.rename f = empty := by simp [empty, rename]
  rw [ofEntries, rename_foldl_push, start, ofEntries]

/-- A slot stands for the renamed entry after renaming. -/
theorem Diagram.entry?_rename (diagram : Diagram) (slot : Slot)
    : entry? (diagram.rename f) slot = (diagram.entry? slot).map (Entry.rename f) := by
  cases slot <;> simp only [rename, entry?, Array.getElem?_map, Option.map_map] <;> rfl

theorem Diagram.entries_rename (diagram : Diagram)
    : (diagram.rename f).entries = diagram.entries.map (Entry.rename f) := by
  rw [entries, entries, List.map_filterMap, funext (diagram.entry?_rename f)]
  rfl

-----------------------------------------------------------------------------------------
-- Renamed results
-----------------------------------------------------------------------------------------

/-- The result for renamed declarations, given how a value is renamed. -/
def renameResult {α : Type} (g : α → α) (result : Except Failure α) : Except Failure α :=
  (result.map g).mapError (Failure.rename f)

section
variable {α β : Type} {f} {g : α → α} {h : β → β}

@[simp] theorem renameResult_ok (value : α) : renameResult f g (.ok value) = .ok (g value) := rfl

@[simp] theorem renameResult_error (failure : Failure)
    : renameResult f g (.error failure) = .error (failure.rename f) := rfl

/-- Results of two steps correspond if those of both steps do. -/
theorem renameResult_bind {result : Except Failure α} {next next' : α → Except Failure β}
    (hn : ∀ value, next' (g value) = renameResult f h (next value))
    : (renameResult f g result >>= next') = renameResult f h (result >>= next) := by
  cases result with
  | error failure => rfl
  | ok value => exact hn value

/-- Results of a step for each item correspond if they do for one, by induction on the items. -/
theorem renameResult_mapM {s : β → Except Failure α}
    (hs : ∀ item, s (h item) = renameResult f g (s item)) (items : List β)
    : (items.map h).mapM s = renameResult f (List.map g) (items.mapM s) := by
  induction items with
  | nil => rfl
  | cons item rest ih =>
      rw [List.map_cons, List.mapM_cons, List.mapM_cons, hs, ih]
      apply renameResult_bind
      intro value
      apply renameResult_bind
      intro values
      rfl

end

namespace Declaration

-----------------------------------------------------------------------------------------
-- Renamed declarations
-----------------------------------------------------------------------------------------

def Member.rename (member : Member) : Member :=
  { member with symbol := member.symbol.map f }

def Supertype.rename (supertype : Supertype) : Supertype where
  identifier := supertype.identifier.map f

def Body.rename (body : Body) : Body where
  symbol := body.symbol.map f
  properties := body.properties.map (Member.rename f)
  methods := body.methods.map (Member.rename f)

def Class.rename (decl : Class) : Class where
  toBody := decl.toBody.rename f
  superclass := decl.superclass.map (Supertype.rename f)
  interfaces := decl.interfaces.map (Supertype.rename f)

def Interface.rename (decl : Interface) : Interface where
  toBody := decl.toBody.rename f

def File.rename (file : File) : File :=
  { file with
    classes := file.classes.map (Class.rename f)
    interfaces := file.interfaces.map (Interface.rename f) }

def Dump.rename (dump : Dump) : Dump where
  files := dump.files.map (File.rename f)

theorem Class.supertypes_rename (decl : Class)
    : (decl.rename f).supertypes = decl.supertypes.map (Supertype.rename f) := by
  rw [supertypes, supertypes, List.map_append, ← Option.toList_map]
  rfl

-----------------------------------------------------------------------------------------
-- The steps of both runs
-----------------------------------------------------------------------------------------

theorem Body.result_name_rename (body : Body)
    : (body.rename f).name.result = renameResult f f body.name.result := by
  cases hs : body.symbol <;> simp [name, rename, hs, Failure.rename]

/-- What is unresolved has an owner with a name, which is renamed with it. -/
theorem result_unresolved_rename (policy : Policy) (owner : String) {kind : SymbolKind}
    (hk : kind ≠ .declaration)
    : (policy.unresolved (f owner) kind).result
      = renameResult f id (policy.unresolved owner kind).result := by
  cases policy with
  | drop => rfl
  | reject => cases kind <;> first | contradiction | rfl

/-- Members of both runs are drawn or reported alike, by induction on the members. -/
theorem result_members_rename (policy : Policy) (owner : String) {kind : SymbolKind}
    (hk : kind ≠ .declaration) (list : List Member)
    : (members policy (f owner) kind (list.map (Member.rename f))).result
      = renameResult f (List.map (ClassDiagram.Member.rename f))
          (members policy owner kind list).result := by
  induction list with
  | nil => rfl
  | cons member rest ih =>
      obtain ⟨symbol, modifiers⟩ := member
      cases symbol with
      | none =>
          simp only [List.map_cons, Member.rename, Option.map_none, members, Report.result_bind]
          rw [result_unresolved_rename f policy owner hk]
          exact renameResult_bind fun _ => ih
      | some name =>
          simp only [List.map_cons, Member.rename, Option.map_some, members, Report.result_bind]
          rw [ih]
          apply renameResult_bind
          intro drawn
          rfl

theorem Body.result_node_rename (policy : Policy) (kind : Classifier.Kind) (body : Body)
    : ((body.rename f).node policy kind).result
      = renameResult f (Classifier.rename f) (body.node policy kind).result := by
  simp only [Body.node, Report.result_bind, Report.result_within, Report.result_tell,
    Report.result_pure]
  rw [body.result_name_rename f]
  apply renameResult_bind
  intro name
  rw [rename, result_members_rename f policy name (by decide)]
  apply renameResult_bind
  intro properties
  rw [result_members_rename f policy name (by decide)]
  apply renameResult_bind
  intro methods
  rfl

/-- Edges of both runs lead from and to the same places, by induction on the supertypes. -/
theorem result_edgesTo_rename (policy : Policy) (child : String) (supertypes : List Supertype)
    : (edgesTo policy (f child) (supertypes.map (Supertype.rename f))).result
      = renameResult f (List.map (Inheritance.rename f))
          (edgesTo policy child supertypes).result := by
  induction supertypes with
  | nil => rfl
  | cons supertype rest ih =>
      obtain ⟨identifier⟩ := supertype
      cases identifier with
      | none =>
          simp only [List.map_cons, Supertype.rename, Option.map_none, edgesTo, Report.result_bind]
          rw [result_unresolved_rename f policy child (by decide)]
          exact renameResult_bind fun _ => ih
      | some parent =>
          simp only [List.map_cons, Supertype.rename, Option.map_some, edgesTo, Report.result_bind,
            Report.result_tell]
          change ((edgesTo policy (f child) (rest.map (Supertype.rename f))).result >>= _)
            = renameResult f _ ((edgesTo policy child rest).result >>= _)
          rw [ih]
          apply renameResult_bind
          intro edges
          rfl

theorem Class.result_edges_rename (policy : Policy) (decl : Class)
    : ((decl.rename f).edges policy).result
      = renameResult f (List.map (Inheritance.rename f)) (decl.edges policy).result := by
  rw [Class.edges, Class.edges, Report.result_bind, Report.result_bind, decl.supertypes_rename,
    Class.rename, decl.toBody.result_name_rename f]
  exact renameResult_bind fun child => result_edgesTo_rename f policy child decl.supertypes

/-- The three passes over a file go the same way in both runs. -/
theorem File.result_entries_rename (policy : Policy) (file : File)
    : ((file.rename f).entries policy).result
      = renameResult f (List.map (Entry.rename f)) (file.entries policy).result := by
  have classes := renameResult_mapM (s := fun decl => (Class.node policy decl).result)
    (h := Class.rename f)
    (fun decl => decl.toBody.result_node_rename f policy .classNode) file.classes
  have interfaces := renameResult_mapM (s := fun decl => (Interface.node policy decl).result)
    (h := Interface.rename f)
    (fun decl => decl.toBody.result_node_rename f policy .interfaceNode) file.interfaces
  have edges := renameResult_mapM (s := fun decl => (Class.edges policy decl).result)
    (h := Class.rename f)
    (fun decl => decl.result_edges_rename f policy) file.classes
  simp only [File.entries, Report.result_within, Report.result_bind, Report.result_collect,
    Report.result_pure, rename]
  rw [classes]
  apply renameResult_bind
  intro classNodes
  rw [interfaces]
  apply renameResult_bind
  intro interfaceNodes
  rw [edges]
  apply renameResult_bind
  intro inheritances
  change Except.ok _ = Except.ok _
  simp [Entry.rename, List.map_flatten, Function.comp_def]

/-- Building follows a renaming file by file, whether it succeeds or fails. -/
theorem Dump.result_diagram_rename (policy : Policy) (dump : Dump)
    : ((dump.rename f).diagram policy).result
      = renameResult f (Diagram.rename f) (dump.diagram policy).result := by
  have files := renameResult_mapM (s := fun file => (File.entries policy file).result)
    (h := File.rename f)
    (fun file => file.result_entries_rename f policy) dump.files
  simp only [Dump.diagram, Report.result_within, Report.result_bind, Report.result_collect,
    Report.result_tell, Report.result_pure, rename, files]
  apply renameResult_bind
  intro entries
  change Except.ok _ = Except.ok _
  rw [Diagram.rename_ofEntries, List.map_flatten]

-----------------------------------------------------------------------------------------
-- Names and paths
-----------------------------------------------------------------------------------------

/-- Renamed declarations lead to the renamed diagram, entry by entry, or to the same failure with
its owner renamed, whichever names the renaming lets coincide. Paths of files make no difference
either. Witness: both runs are followed step by step.
-/
theorem renaming_declarations_renames_diagram (policy : Policy) (dump : Dump)
    : ((dump.rename f).diagram policy).result
        = ((dump.diagram policy).result.map (Diagram.rename f)).mapError (Failure.rename f)
      ∧ (∀ diagram,
          (dump.diagram policy).result = .ok diagram
          → (diagram.rename f).entries = diagram.entries.map (Entry.rename f))
      ∧ ∀ other : Dump,
          other.files.map File.withoutPath = dump.files.map File.withoutPath
          → (other.diagram policy).result = (dump.diagram policy).result := by
  refine ⟨dump.result_diagram_rename f policy, ?_, ?_⟩
  · intro diagram _
    exact diagram.entries_rename f
  · intro other same
    exact Dump.result_diagram_of_withoutPath same policy

/-- A renaming that lets all names coincide makes two nodes of one name and an edge from a class to
itself, and a file may be anywhere.
-/
theorem coinciding_names_are_drawn_apart
    : let dump : Dump :=
        {
          files :=
            [{
              path := some "a.ts"
              classes := [{ symbol := some "A", superclass := some ⟨some "B"⟩ }]
              interfaces := [{ symbol := some "B", methods := [{ symbol := some "m" }] }]
            }]
        }
      let moved : Dump := { files := dump.files.map File.withoutPath }
      moved.files.map File.withoutPath = dump.files.map File.withoutPath
      ∧ (moved.diagram .reject).result = (dump.diagram .reject).result
      ∧ ∃ diagram,
          (dump.diagram .reject).result = .ok diagram
          ∧ ((dump.rename fun _ => "X").diagram .reject).result
              = .ok (diagram.rename fun _ => "X")
          ∧ (diagram.rename fun _ => "X").entries
              = [
                .node { name := "X", kind := .classNode },
                .node { name := "X", kind := .interfaceNode, methods := [{ name := "X" }] },
                .edge { parent := "X", child := "X" }
              ] := by
  intro dump moved
  obtain ⟨renamed, entries, anywhere⟩ :=
    renaming_declarations_renames_diagram (fun _ => "X") .reject dump
  obtain ⟨diagram, built⟩ : ∃ diagram, (dump.diagram .reject).result = .ok diagram := ⟨_, rfl⟩
  refine ⟨rfl, anywhere moved rfl, diagram, built, ?_, ?_⟩
  · rw [renamed, built]
    rfl
  · rw [entries diagram built, ← Except.ok.inj built]
    rfl

end Declaration

end ClassDiagram
