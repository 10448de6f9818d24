import ClassDiagram.Proofs.Diagram.BuildOutcome

/-! Leaving out what has no name before building. Dropping unresolved names while building comes to
the same as pruning them beforehand, and then no policy can make a difference any more; without
dropping, building succeeds on pruned declarations only.
-/

namespace ClassDiagram.Declaration

-----------------------------------------------------------------------------------------
-- Pruned declarations
-----------------------------------------------------------------------------------------

/-- The declaration without members that have no name; its own name may still be missing. -/
def Body.prune (body : Body) : Body :=
  { body with
    properties := body.properties.filter (·.symbol.isSome)
    methods := body.methods.filter (·.symbol.isSome) }

/-- The class without members and supertypes that have no name. -/
def Class.prune (decl : Class) : Class where
  toBody := decl.toBody.prune
  superclass := decl.superclass.filter (·.identifier.isSome)
  interfaces := decl.interfaces.filter (·.identifier.isSome)

def Interface.prune (decl : Interface) : Interface where
  toBody := decl.toBody.prune

def File.prune (file : File) : File :=
  { file with
    classes := file.classes.map Class.prune
    interfaces := file.interfaces.map Interface.prune }

def Dump.prune (dump : Dump) : Dump where
  files := dump.files.map File.prune

/-- Pruning keeps the order of the supertypes that have a name. -/
theorem Class.supertypes_prune (decl : Class)
    : decl.prune.supertypes = decl.supertypes.filter (·.identifier.isSome) := by
  rw [supertypes, supertypes, List.filter_append, ← Option.toList_filter]
  rfl

-----------------------------------------------------------------------------------------
-- Pruning draws the same
-----------------------------------------------------------------------------------------

/-- Leaving out first what a partial step leaves out anyway makes no difference. -/
theorem filterMap_filter_of_none {α β : Type} {step : α → Option β} {keep : α → Bool}
    (hk : ∀ item, keep item = false → step item = none) (items : List α)
    : (items.filter keep).filterMap step = items.filterMap step := by
  rw [List.filterMap_filter]
  congr 1
  funext item
  split
  · rfl
  · next dropped => exact (hk item (Bool.eq_false_iff.mpr dropped)).symm

theorem filterMap_drawn?_filter (list : List Member)
    : (list.filter (·.symbol.isSome)).filterMap Member.drawn? = list.filterMap Member.drawn? := by
  apply filterMap_filter_of_none
  intro member unnamed
  rw [Option.isSome_eq_false_iff, Option.isNone_iff_eq_none] at unnamed
  rw [Member.drawn?, unnamed, Option.map_none]

theorem Body.drawn_prune (kind : Classifier.Kind) (body : Body)
    : body.prune.drawn kind = body.drawn kind := by
  simp only [Body.drawn, Body.prune, Body.owner, filterMap_drawn?_filter]

theorem Class.drawnEdges_prune (decl : Class) : decl.prune.drawnEdges = decl.drawnEdges := by
  rw [drawnEdges, drawnEdges, supertypes_prune]
  apply filterMap_filter_of_none
  intro supertype unnamed
  rw [Option.isSome_eq_false_iff, Option.isNone_iff_eq_none] at unnamed
  rw [unnamed, Option.map_none]

theorem File.drawn_prune (file : File) : file.prune.drawn = file.drawn := by
  have classes (decl : Class)
      : decl.prune.toBody.drawn .classNode = decl.toBody.drawn .classNode :=
    decl.toBody.drawn_prune .classNode
  have interfaces (decl : Interface)
      : decl.prune.toBody.drawn .interfaceNode = decl.toBody.drawn .interfaceNode :=
    decl.toBody.drawn_prune .interfaceNode
  simp only [File.drawn, File.prune, List.map_map, List.flatMap_map, Function.comp_def, classes,
    interfaces, Class.drawnEdges_prune]

theorem Dump.drawn_prune (dump : Dump) : dump.prune.drawn = dump.drawn := by
  simp only [Dump.drawn, Dump.prune, List.flatMap_map, File.drawn_prune]

-----------------------------------------------------------------------------------------
-- Pruning shortens the visit
-----------------------------------------------------------------------------------------

/-- The place is still there after pruning: names of declarations always are. -/
def Mention.isKept (mention : Mention) : Bool :=
  mention.kind = .declaration || mention.symbol.isSome

theorem map_mention_filter (owner : String) {kind : SymbolKind} (hk : kind ≠ .declaration)
    (list : List Member)
    : (list.filter (·.symbol.isSome)).map (fun member => Mention.mk owner kind member.symbol)
      = (list.map fun member => Mention.mk owner kind member.symbol).filter Mention.isKept := by
  rw [List.filter_map]
  simp only [Function.comp_def, Mention.isKept, hk, decide_false, Bool.false_or]

theorem Body.visit_prune (body : Body) : body.prune.visit = body.visit.filter Mention.isKept := by
  have own : body.mention.isKept = true := rfl
  rw [visit, visit, List.filter_cons_of_pos own, List.filter_append,
    ← map_mention_filter _ (by decide), ← map_mention_filter _ (by decide)]
  rfl

theorem Class.heritageVisit_prune (decl : Class)
    : decl.prune.heritageVisit = decl.heritageVisit.filter Mention.isKept := by
  rw [heritageVisit, heritageVisit, supertypes_prune, List.filter_map]
  rfl

theorem File.visit_prune (file : File) : file.prune.visit = file.visit.filter Mention.isKept := by
  have classes (decl : Class)
      : decl.prune.toBody.visit = decl.toBody.visit.filter Mention.isKept :=
    decl.toBody.visit_prune
  have interfaces (decl : Interface)
      : decl.prune.toBody.visit = decl.toBody.visit.filter Mention.isKept :=
    decl.toBody.visit_prune
  simp only [File.visit, File.prune, List.flatMap_map, List.filter_append, List.filter_flatMap,
    classes, interfaces, Class.heritageVisit_prune]

/-- Pruning leaves the rest of the visit in order, file by file. -/
theorem Dump.visit_prune (dump : Dump)
    : dump.prune.visit = dump.visit.filter Mention.isKept := by
  simp only [Dump.visit, Dump.prune, List.flatMap_map, List.filter_flatMap, File.visit_prune]

/-- What is kept offends against any policy exactly when the whole visit offends against dropping.
-/
theorem firstFailure_filter_isKept (policy : Policy) (visit : List Mention)
    : firstFailure policy (visit.filter Mention.isKept) = firstFailure .drop visit := by
  have offends (mention : Mention)
      : (mention.isKept && mention.offends policy) = mention.offends .drop := by
    cases hs : mention.symbol <;> cases hp : policy <;>
      simp [Mention.isKept, Mention.offends, hs]
  rw [firstFailure, firstFailure, List.find?_filter]
  simp only [← offends, Bool.decide_and, Bool.decide_eq_true]

/-- Under any policy the pruned declarations come to what dropping makes of all of them. -/
theorem Dump.result_diagram_prune (policy : Policy) (dump : Dump)
    : (dump.prune.diagram policy).result = (dump.diagram .drop).result := by
  rw [Dump.result_diagram, Dump.result_diagram, Dump.drawn_prune, Dump.visit_prune, outcome,
    outcome, firstFailure_filter_isKept]

-----------------------------------------------------------------------------------------
-- Nothing to prune
-----------------------------------------------------------------------------------------

/-- Every place of the visit has a name. -/
def AllNamed (visit : List Mention) : Prop :=
  ∀ mention ∈ visit, mention.symbol.isSome

/-- Rejecting accepts a visit exactly when every place of it has a name. -/
theorem firstFailure_reject_eq_none_iff {visit : List Mention}
    : firstFailure .reject visit = none ↔ AllNamed visit := by
  rw [firstFailure_eq_none_iff, AllNamed]
  simp [Mention.offends, Option.isSome_iff_ne_none]

theorem Body.prune_eq_self {body : Body} (named : AllNamed body.visit) : body.prune = body := by
  have properties : body.properties.filter (·.symbol.isSome) = body.properties := by
    rw [List.filter_eq_self]
    intro member hm
    exact named _ (List.mem_cons_of_mem _
      (List.mem_append_left _ (List.mem_map.mpr ⟨member, hm, rfl⟩)))
  have methods : body.methods.filter (·.symbol.isSome) = body.methods := by
    rw [List.filter_eq_self]
    intro member hm
    exact named _ (List.mem_cons_of_mem _
      (List.mem_append_right _ (List.mem_map.mpr ⟨member, hm, rfl⟩)))
  rw [prune, properties, methods]

theorem Class.prune_eq_self {decl : Class} (members : AllNamed decl.visit)
    (heritage : AllNamed decl.heritageVisit)
    : decl.prune = decl := by
  have named (supertype : Supertype) (hs : supertype ∈ decl.supertypes)
      : supertype.identifier.isSome :=
    heritage _ (List.mem_map.mpr ⟨supertype, hs, rfl⟩)
  have superclass : decl.superclass.filter (·.identifier.isSome) = decl.superclass := by
    cases hs : decl.superclass with
    | none => rfl
    | some supertype =>
        rw [Option.filter_some_eq_some]
        exact named supertype (List.mem_append_left _ (by simp [hs]))
  have interfaces : decl.interfaces.filter (·.identifier.isSome) = decl.interfaces := by
    rw [List.filter_eq_self]
    intro supertype hs
    exact named supertype (List.mem_append_right _ hs)
  rw [prune, Body.prune_eq_self members, superclass, interfaces]

theorem File.prune_eq_self {file : File} (named : AllNamed file.visit) : file.prune = file := by
  obtain ⟨declared, heritage⟩ := List.forall_mem_append.mp named
  obtain ⟨classMembers, interfaceMembers⟩ := List.forall_mem_append.mp declared
  have classes : file.classes.map Class.prune = file.classes := by
    rw [List.map_congr_left, List.map_id]
    intro decl hd
    apply Class.prune_eq_self
    · intro mention hm
      exact classMembers mention (List.mem_flatMap.mpr ⟨decl, hd, hm⟩)
    · intro mention hm
      exact heritage mention (List.mem_flatMap.mpr ⟨decl, hd, hm⟩)
  have interfaces : file.interfaces.map Interface.prune = file.interfaces := by
    rw [List.map_congr_left, List.map_id]
    intro decl hd
    have same : decl.toBody.prune = decl.toBody :=
      Body.prune_eq_self fun mention hm =>
        interfaceMembers mention (List.mem_flatMap.mpr ⟨decl, hd, hm⟩)
    rw [Interface.prune, same]
    rfl
  rw [prune, classes, interfaces]

/-- Pruning changes nothing where every place has a name, file by file. -/
theorem Dump.prune_eq_self {dump : Dump} (named : AllNamed dump.visit) : dump.prune = dump := by
  have files : dump.files.map File.prune = dump.files := by
    rw [List.map_congr_left, List.map_id]
    intro file hf
    apply File.prune_eq_self
    intro mention hm
    exact named mention (List.mem_flatMap.mpr ⟨file, hf, hm⟩)
  rw [prune, files]

/-- Dropping unresolved names is building the pruned declarations, with or without dropping, and
rejecting them accepts exactly the declarations that are pruned already, with the same diagram.
Witness: pruning leaves of the visit what offends against dropping, and draws the same entries.
-/
theorem dropping_builds_pruned_declarations (dump : Dump)
    : (dump.diagram .drop).result = (dump.prune.diagram .drop).result
      ∧ (dump.diagram .drop).result = (dump.prune.diagram .reject).result
      ∧ ∀ diagram,
          (dump.diagram .reject).result = .ok diagram
            ↔ (dump.diagram .drop).result = .ok diagram ∧ dump.prune = dump := by
  refine ⟨(dump.result_diagram_prune .drop).symm, (dump.result_diagram_prune .reject).symm, ?_⟩
  intro diagram
  constructor
  · intro built
    have rejected := built
    rw [dump.result_diagram, outcome_eq_ok_iff] at rejected
    have pruned : dump.prune = dump :=
      Dump.prune_eq_self (firstFailure_reject_eq_none_iff.mp rejected.1)
    have same := dump.result_diagram_prune .reject
    rw [pruned] at same
    exact ⟨same.symm.trans built, pruned⟩
  · rintro ⟨built, pruned⟩
    have same := dump.result_diagram_prune .reject
    rw [pruned] at same
    exact same.trans built

-- A property, an interface member and two of three supertypes have no name
example
    : let dump : Dump :=
        {
          files :=
            [
              {
                classes :=
                  [
                    {
                      symbol := some "A"
                      properties := [{}, { symbol := some "x" }]
                      superclass := some {}
                      interfaces := [{}, { identifier := some "I" }]
                    }
                  ]
                interfaces := [{ symbol := some "I", methods := [{}, { symbol := some "f" }] }]
              }
            ]
        }
      let kept : Dump :=
        {
          files :=
            [
              {
                classes :=
                  [
                    {
                      symbol := some "A"
                      properties := [{ symbol := some "x" }]
                      interfaces := [{ identifier := some "I" }]
                    }
                  ]
                interfaces := [{ symbol := some "I", methods := [{ symbol := some "f" }] }]
              }
            ]
        }
      dump.prune = kept
      ∧ (dump.diagram .drop).result.map Diagram.entries
        = .ok
          [
            .node { name := "A", kind := .classNode, properties := [⟨"x", .publicAccess⟩] },
            .node { name := "I", kind := .interfaceNode, methods := [⟨"f", .publicAccess⟩] },
            .edge ⟨"I", "A"⟩
          ]
      ∧ (dump.diagram .reject).result = .error (.unresolvedSymbol "A" .property) :=
  ⟨rfl, rfl, rfl⟩

end ClassDiagram.Declaration
