import ClassDiagram.Diagram.Build
import ClassDiagram.Proofs.Log.ReportResults

/-! The outcome of building a diagram. All places where declarations should name something are
listed in the order in which they are looked at. The first one that is missing against the policy
decides the failure; without one, the diagram draws whatever has a name. Each step of building is
described by its part of the list and by what it draws.
-/

namespace ClassDiagram.Declaration

-----------------------------------------------------------------------------------------
-- Visits and their outcomes
-----------------------------------------------------------------------------------------

/-- A place where a declaration should name something. -/
structure Mention where
  /-- The type that the place belongs to. -/
  owner : String
  kind : SymbolKind
  symbol : Option String

namespace Mention

/-- A missing name of a declaration is never accepted, other missing names only on request. -/
def offends (policy : Policy) (mention : Mention) : Bool :=
  mention.symbol.isNone && (mention.kind = .declaration || policy = .reject)

def failure (mention : Mention) : Failure :=
  .unresolvedSymbol mention.owner mention.kind

end Mention

/-- The failure for the first offending place of a visit, if there is one. -/
def firstFailure (policy : Policy) (visit : List Mention) : Option Failure :=
  (visit.find? (·.offends policy)).map Mention.failure

/-- The value that a step leads to, unless its visit meets an offending place. -/
def outcome {α : Type} (policy : Policy) (visit : List Mention) (value : α)
    : Except Failure α :=
  match firstFailure policy visit with
  | none => .ok value
  | some failure => .error failure

/-- The first failure of two visits is that of the first one, if it has any. -/
theorem firstFailure_append (policy : Policy) (first second : List Mention)
    : firstFailure policy (first ++ second)
      = (firstFailure policy first).or (firstFailure policy second) := by
  rw [firstFailure, List.find?_append, Option.map_or]
  rfl

theorem firstFailure_eq_none_iff {policy : Policy} {visit : List Mention}
    : firstFailure policy visit = none ↔ ∀ mention ∈ visit, mention.offends policy = false := by
  simp [firstFailure]

/-- Places that do not offend can be left out of a visit, by induction on the items visited. -/
theorem firstFailure_flatMap_cons {α : Type} {policy : Policy} {items : List α}
    {head : α → Mention} (tail : α → List Mention)
    (fine : ∀ item ∈ items, (head item).offends policy = false)
    : firstFailure policy (items.flatMap fun item => head item :: tail item)
      = firstFailure policy (items.flatMap tail) := by
  induction items with
  | nil => rfl
  | cons item rest ih =>
      have later := ih fun other member => fine other (List.mem_cons_of_mem item member)
      have skipped : firstFailure policy (head item :: tail item)
          = firstFailure policy (tail item) := by
        simp [firstFailure, fine item List.mem_cons_self]
      rw [List.flatMap_cons, List.flatMap_cons, firstFailure_append, firstFailure_append, skipped,
        later]

theorem outcome_eq_error_iff {α : Type} {policy : Policy} {visit : List Mention} {value : α}
    {failure : Failure}
    : outcome policy visit value = .error failure ↔ firstFailure policy visit = some failure := by
  cases hf : firstFailure policy visit <;> simp [outcome, hf]

theorem outcome_eq_ok_iff {α : Type} {policy : Policy} {visit : List Mention} {value other : α}
    : outcome policy visit value = .ok other
      ↔ firstFailure policy visit = none ∧ value = other := by
  cases hf : firstFailure policy visit <;> simp [outcome, hf]

/-- A step after another goes on with its visit and value. -/
theorem outcome_bind {α β : Type} {policy : Policy} {first second : List Mention} {value : α}
    {final : β} {next : α → Except Failure β} (hn : next value = outcome policy second final)
    : (outcome policy first value >>= next) = outcome policy (first ++ second) final := by
  cases hf : firstFailure policy first with
  | none =>
      simp only [outcome, firstFailure_append, hf, Option.none_or]
      exact hn
  | some failure => simp only [outcome, firstFailure_append, hf, Option.some_or]; rfl

/-- A last step that cannot fail only changes the value. -/
theorem outcome_bind_ok {α β : Type} {policy : Policy} {visit : List Mention} {value : α}
    {final : β} {next : α → Except Failure β} (hn : next value = .ok final)
    : (outcome policy visit value >>= next) = outcome policy visit final := by
  have step : next value = outcome policy [] final := hn
  rw [outcome_bind step, List.append_nil]

/-- A step for each item visits and draws the items in order, by induction on the items. -/
theorem mapM_eq_outcome {α β : Type} {policy : Policy} {step : α → Except Failure β}
    {visit : α → List Mention} {value : α → β} (items : List α)
    (hs : ∀ item ∈ items, step item = outcome policy (visit item) (value item))
    : items.mapM step = outcome policy (items.flatMap visit) (items.map value) := by
  induction items with
  | nil => rfl
  | cons item rest ih =>
      have later := ih fun other member => hs other (List.mem_cons_of_mem item member)
      rw [List.mapM_cons, hs item List.mem_cons_self, later, List.flatMap_cons]
      exact outcome_bind (outcome_bind_ok rfl)

-----------------------------------------------------------------------------------------
-- What is visited and what is drawn
-----------------------------------------------------------------------------------------

/-- The name under which failures of a declaration are reported. -/
def Body.owner (body : Body) : String :=
  body.symbol.getD anonymous

def Body.mention (body : Body) : Mention where
  owner := body.owner
  kind := .declaration
  symbol := body.symbol

/-- The name of a declaration, then its properties, then its methods. -/
def Body.visit (body : Body) : List Mention :=
  body.mention
    :: (body.properties.map (⟨body.owner, .property, ·.symbol⟩)
      ++ body.methods.map (⟨body.owner, .method, ·.symbol⟩))

def Class.heritageVisit (decl : Class) : List Mention :=
  decl.supertypes.map (⟨decl.owner, .heritage, ·.identifier⟩)

/-- All classes, then all interfaces, then the supertypes of all classes. -/
def File.visit (file : File) : List Mention :=
  file.classes.flatMap (·.toBody.visit) ++ file.interfaces.flatMap (·.toBody.visit)
    ++ file.classes.flatMap Class.heritageVisit

def Dump.visit (dump : Dump) : List Mention :=
  dump.files.flatMap File.visit

/-- The member that is drawn for a declared one, if it has a name. -/
def Member.drawn? (member : Member) : Option ClassDiagram.Member :=
  member.symbol.map fun name => ⟨name, Modifier.visibility member.modifiers⟩

/-- The node that is drawn for a declaration. -/
def Body.drawn (kind : Classifier.Kind) (body : Body) : Classifier where
  name := body.owner
  kind := kind
  properties := body.properties.filterMap Member.drawn?
  methods := body.methods.filterMap Member.drawn?

def Class.drawnEdges (decl : Class) : List Inheritance :=
  decl.supertypes.filterMap fun supertype => supertype.identifier.map (⟨·, decl.owner⟩)

def File.drawn (file : File) : List Entry :=
  (file.classes.map (·.toBody.drawn .classNode)
      ++ file.interfaces.map (·.toBody.drawn .interfaceNode)).map .node
    ++ (file.classes.flatMap Class.drawnEdges).map .edge

def Dump.drawn (dump : Dump) : List Entry :=
  dump.files.flatMap File.drawn

-----------------------------------------------------------------------------------------
-- The outcome of each step
-----------------------------------------------------------------------------------------

/-- An unresolved symbol that is no declaration's name is left to the policy. -/
theorem result_unresolved (policy : Policy) (owner : String) {kind : SymbolKind}
    (hk : kind ≠ .declaration)
    : (policy.unresolved owner kind).result = outcome policy [⟨owner, kind, none⟩] () := by
  cases policy <;>
    simp [Policy.unresolved, outcome, firstFailure, Mention.offends, Mention.failure, hk]

theorem outcome_cons_some {α : Type} (policy : Policy) (owner : String) (kind : SymbolKind)
    (name : String) (visit : List Mention) (value : α)
    : outcome policy (⟨owner, kind, some name⟩ :: visit) value = outcome policy visit value := by
  simp [outcome, firstFailure, Mention.offends]

/-- The name of a declaration is needed under any policy. -/
theorem Body.result_name (policy : Policy) (body : Body)
    : body.name.result = outcome policy [body.mention] body.owner := by
  cases hs : body.symbol <;>
    simp [Body.name, hs, Body.mention, Body.owner, outcome, firstFailure, Mention.offends,
      Mention.failure]

/-- Members are visited in order and those with a name drawn, by induction on the members. -/
theorem result_members (policy : Policy) (owner : String) {kind : SymbolKind}
    (hk : kind ≠ .declaration) (list : List Member)
    : (members policy owner kind list).result
      = outcome policy (list.map (⟨owner, kind, ·.symbol⟩)) (list.filterMap Member.drawn?) := by
  induction list with
  | nil => rfl
  | cons member rest ih =>
      obtain ⟨symbol, modifiers⟩ := member
      cases symbol with
      | none =>
          rw [members, Report.result_bind, result_unresolved policy owner hk]
          exact outcome_bind ih
      | some name =>
          rw [members, Report.result_bind, ih, List.map_cons, outcome_cons_some]
          exact outcome_bind_ok rfl

/-- A declaration is visited and drawn under its own name. -/
theorem Body.result_node (policy : Policy) (kind : Classifier.Kind) (body : Body)
    : (body.node policy kind).result = outcome policy body.visit (body.drawn kind) := by
  simp only [Body.node, Report.result_bind, Report.result_within, Report.result_tell,
    Report.result_pure]
  rw [body.result_name policy, Body.visit, ← List.singleton_append]
  apply outcome_bind
  rw [result_members policy _ (by decide), result_members policy _ (by decide)]
  exact outcome_bind (outcome_bind_ok rfl)

/-- Supertypes are visited in order and those with a name lead to edges, by induction on them. -/
theorem result_edgesTo (policy : Policy) (child : String) (supertypes : List Supertype)
    : (edgesTo policy child supertypes).result
      = outcome policy (supertypes.map (⟨child, .heritage, ·.identifier⟩))
          (supertypes.filterMap fun supertype => supertype.identifier.map (⟨·, child⟩)) := by
  induction supertypes with
  | nil => rfl
  | cons supertype rest ih =>
      obtain ⟨identifier⟩ := supertype
      cases identifier with
      | none =>
          rw [edgesTo, Report.result_bind, result_unresolved policy child (by decide)]
          exact outcome_bind ih
      | some parent =>
          rw [edgesTo, Report.result_bind, Report.result_tell, List.map_cons, outcome_cons_some]
          change ((edgesTo policy child rest >>= _).result) = _
          rw [Report.result_bind, ih]
          exact outcome_bind_ok rfl

/-- The edges of a class are visited after its name, which is needed for them too. -/
theorem Class.result_edges (policy : Policy) (decl : Class)
    : (decl.edges policy).result
      = outcome policy (decl.mention :: decl.heritageVisit) decl.drawnEdges := by
  rw [Class.edges, Report.result_bind, decl.toBody.result_name policy, ← List.singleton_append]
  exact outcome_bind (result_edgesTo policy _ _)

/-- The second pass over the classes of a file need not visit their names again: a missing one has
failed the first pass.
-/
theorem firstFailure_second_pass (policy : Policy) (file : File)
    : firstFailure policy
          (file.classes.flatMap (·.toBody.visit)
            ++ (file.interfaces.flatMap (·.toBody.visit)
              ++ file.classes.flatMap fun decl => decl.mention :: decl.heritageVisit))
      = firstFailure policy file.visit := by
  simp only [File.visit, List.append_assoc, firstFailure_append]
  cases hc : firstFailure policy (file.classes.flatMap (·.toBody.visit)) with
  | some failure => rw [Option.some_or, Option.some_or]
  | none =>
      -- The first pass went through, and it looked at all these names
      have fine : ∀ decl ∈ file.classes, decl.mention.offends policy = false := by
        intro decl member
        apply firstFailure_eq_none_iff.mp hc
        exact List.mem_flatMap.mpr ⟨decl, member, List.mem_cons_self⟩
      rw [firstFailure_flatMap_cons _ fine]

/-- The steps of a file take place in the order of its visit. -/
theorem File.result_entries (policy : Policy) (file : File)
    : (file.entries policy).result = outcome policy file.visit file.drawn := by
  have classes := mapM_eq_outcome file.classes
    fun decl _ => decl.toBody.result_node policy .classNode
  have interfaces := mapM_eq_outcome file.interfaces
    fun decl _ => decl.toBody.result_node policy .interfaceNode
  have edges := mapM_eq_outcome file.classes fun decl _ => decl.result_edges policy
  have steps : (file.entries policy).result
      = outcome policy
          (file.classes.flatMap (·.toBody.visit)
            ++ (file.interfaces.flatMap (·.toBody.visit)
              ++ file.classes.flatMap fun decl => decl.mention :: decl.heritageVisit))
          file.drawn := by
    simp only [File.entries, Report.result_within, Report.result_bind, Report.result_collect,
      Report.result_pure]
    exact classes ▸ outcome_bind (interfaces ▸ outcome_bind (edges ▸ outcome_bind_ok rfl))
  rw [steps, outcome, outcome, firstFailure_second_pass]

/-- Building visits all files and, if nothing fails, draws what has a name. -/
theorem Dump.result_diagram (policy : Policy) (dump : Dump)
    : (dump.diagram policy).result
      = outcome policy dump.visit (Diagram.ofEntries dump.drawn) := by
  have files := mapM_eq_outcome dump.files fun file _ => file.result_entries policy
  simp only [Dump.diagram, Report.result_within, Report.result_bind, Report.result_collect,
    Report.result_tell, Report.result_pure]
  rw [files]
  exact outcome_bind_ok rfl

end ClassDiagram.Declaration
