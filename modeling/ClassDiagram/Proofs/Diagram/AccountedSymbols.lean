import ClassDiagram.Proofs.Diagram.DroppedSymbols

/-! Everything that is declared is drawn or told of. The members and edges of a built diagram are
those declared ones that have a name, and the events about the others are as many as are missing.
-/

namespace ClassDiagram

/-- The members of all nodes. -/
def Diagram.members (diagram : Diagram) : List Member :=
  diagram.nodes.toList.flatMap fun node => node.properties ++ node.methods

theorem SymbolKind.text_injective {kind other : SymbolKind}
    : kind.text = other.text → kind = other := by
  cases kind <;> cases other <;> decide

namespace Declaration

-----------------------------------------------------------------------------------------
-- Everything declared
-----------------------------------------------------------------------------------------

def Body.members (body : Body) : List Member :=
  body.properties ++ body.methods

def File.members (file : File) : List Member :=
  file.classes.flatMap (·.toBody.members) ++ file.interfaces.flatMap (·.toBody.members)

/-- The members of all classes and interfaces. -/
def Dump.members (dump : Dump) : List Member :=
  dump.files.flatMap File.members

def File.supertypes (file : File) : List Supertype :=
  file.classes.flatMap Class.supertypes

/-- The supertypes of all classes. -/
def Dump.supertypes (dump : Dump) : List Supertype :=
  dump.files.flatMap File.supertypes

/-- Whether an event is about a symbol of one of the given kinds. -/
def tellsOf (kinds : List SymbolKind) (event : Log.Event) : Bool :=
  kinds.any fun kind => event.fields.contains ⟨"kind", .plain kind.text⟩

/-- What the places for symbols of the given kinds hold. -/
def symbolsOf (kinds : List SymbolKind) (visit : List Mention) : List (Option String) :=
  (visit.filter fun mention => kinds.contains mention.kind).map Mention.symbol

-----------------------------------------------------------------------------------------
-- What is visited
-----------------------------------------------------------------------------------------

theorem symbolsOf_append (kinds : List SymbolKind) (first second : List Mention)
    : symbolsOf kinds (first ++ second) = symbolsOf kinds first ++ symbolsOf kinds second := by
  rw [symbolsOf, List.filter_append, List.map_append, symbolsOf, symbolsOf]

theorem symbolsOf_flatMap {α : Type} (kinds : List SymbolKind) (items : List α)
    (visit : α → List Mention)
    : symbolsOf kinds (items.flatMap visit)
      = items.flatMap fun item => symbolsOf kinds (visit item) := by
  rw [symbolsOf, List.filter_flatMap, List.map_flatMap]
  rfl

/-- Places of one kind hold what they were made from, or are not asked about at all. -/
theorem symbolsOf_map {α : Type} (kinds : List SymbolKind) (owner : String) (kind : SymbolKind)
    (symbol : α → Option String) (items : List α)
    : symbolsOf kinds (items.map fun item => ⟨owner, kind, symbol item⟩)
      = if kinds.contains kind then items.map symbol else [] := by
  rw [symbolsOf, List.filter_map, List.map_map]
  cases hk : kinds.contains kind with
  | false => simp only [Function.comp_def, hk, List.filter_false, List.map_nil]; rfl
  | true => simp only [Function.comp_def, hk, List.filter_true, if_true]

theorem Body.symbolsOf_visit (kinds : List SymbolKind) (other : SymbolKind.declaration ∉ kinds)
    (body : Body)
    : symbolsOf kinds body.visit
      = (if kinds.contains .property then body.properties.map (·.symbol) else [])
        ++ if kinds.contains .method then body.methods.map (·.symbol) else [] := by
  have own : symbolsOf kinds [body.mention] = [] := by
    simp [symbolsOf, Body.mention, other]
  rw [visit, ← List.singleton_append, symbolsOf_append, own, List.nil_append, symbolsOf_append,
    symbolsOf_map, symbolsOf_map]

/-- The places for properties and methods hold the symbols of all members, file by file. -/
theorem Dump.symbolsOf_visit_members (dump : Dump)
    : symbolsOf [.property, .method] dump.visit = dump.members.map (·.symbol) := by
  have body (body : Body)
      : symbolsOf [.property, .method] body.visit = body.members.map (·.symbol) := by
    rw [body.symbolsOf_visit _ (by decide), Body.members, List.map_append]
    rfl
  have heritage (decl : Class) : symbolsOf [.property, .method] decl.heritageVisit = [] :=
    symbolsOf_map ..
  have file (file : File)
      : symbolsOf [.property, .method] file.visit = file.members.map (·.symbol) := by
    have silent
        : symbolsOf [.property, .method] (file.classes.flatMap Class.heritageVisit) = [] := by
      simp only [symbolsOf_flatMap, heritage, List.flatMap_eq_nil_iff, implies_true]
    rw [File.visit, symbolsOf_append, silent, List.append_nil, symbolsOf_append]
    simp only [symbolsOf_flatMap, body, File.members, List.map_append, List.map_flatMap]
  simp only [Dump.visit, symbolsOf_flatMap, file, Dump.members, List.map_flatMap]

/-- The places for supertypes hold the symbols of all supertypes, file by file. -/
theorem Dump.symbolsOf_visit_supertypes (dump : Dump)
    : symbolsOf [.heritage] dump.visit = dump.supertypes.map (·.identifier) := by
  have body (body : Body) : symbolsOf [.heritage] body.visit = [] :=
    body.symbolsOf_visit _ (by decide)
  have heritage (decl : Class)
      : symbolsOf [.heritage] decl.heritageVisit = decl.supertypes.map (·.identifier) :=
    symbolsOf_map ..
  have file (file : File)
      : symbolsOf [.heritage] file.visit = file.supertypes.map (·.identifier) := by
    have silent : symbolsOf [.heritage]
          (file.classes.flatMap (·.toBody.visit) ++ file.interfaces.flatMap (·.toBody.visit))
        = [] := by
      simp only [symbolsOf_append, symbolsOf_flatMap, body, List.append_eq_nil_iff,
        List.flatMap_eq_nil_iff, implies_true, and_self]
    rw [File.visit, symbolsOf_append, silent, List.nil_append]
    simp only [symbolsOf_flatMap, heritage, File.supertypes, List.map_flatMap]
  simp only [Dump.visit, symbolsOf_flatMap, file, Dump.supertypes, List.map_flatMap]

-----------------------------------------------------------------------------------------
-- What is drawn
-----------------------------------------------------------------------------------------

theorem File.filterMap_node?_drawn (file : File)
    : file.drawn.filterMap Entry.node?
      = file.classes.map (·.toBody.drawn .classNode)
        ++ file.interfaces.map (·.toBody.drawn .interfaceNode) := by
  have nodes (list : List Classifier) : (list.map Entry.node).filterMap Entry.node? = list := by
    rw [List.filterMap_map]
    exact List.filterMap_some
  have edges (list : List Inheritance) : (list.map Entry.edge).filterMap Entry.node? = [] := by
    rw [List.filterMap_map]
    exact List.filterMap_none list
  rw [drawn, List.filterMap_append, nodes, edges, List.append_nil]

theorem File.filterMap_edge?_drawn (file : File)
    : file.drawn.filterMap Entry.edge? = file.classes.flatMap Class.drawnEdges := by
  have nodes (list : List Classifier) : (list.map Entry.node).filterMap Entry.edge? = [] := by
    rw [List.filterMap_map]
    exact List.filterMap_none list
  have edges (list : List Inheritance) : (list.map Entry.edge).filterMap Entry.edge? = list := by
    rw [List.filterMap_map]
    exact List.filterMap_some
  rw [drawn, List.filterMap_append, nodes, edges, List.nil_append]

/-- The drawn members are the declared ones that have a name, in order. -/
theorem Dump.members_drawn (dump : Dump)
    : (Diagram.ofEntries dump.drawn).members = dump.members.filterMap Member.drawn? := by
  have body (kind : Classifier.Kind) (body : Body)
      : (body.drawn kind).properties ++ (body.drawn kind).methods
        = body.members.filterMap Member.drawn? :=
    List.filterMap_append.symm
  have file (file : File)
      : (file.drawn.filterMap Entry.node?).flatMap (fun node => node.properties ++ node.methods)
        = file.members.filterMap Member.drawn? := by
    simp only [File.filterMap_node?_drawn, List.flatMap_append, List.flatMap_map, body,
      File.members, List.filterMap_append, List.filterMap_flatMap]
  rw [Diagram.members, Diagram.nodes_ofEntries, Dump.drawn, List.filterMap_flatMap,
    List.flatMap_assoc, Dump.members, List.filterMap_flatMap]
  simp only [file]

/-- The parents in the drawn edges are the declared supertypes that have a name, in order. -/
theorem Dump.map_parent_edges_drawn (dump : Dump)
    : (Diagram.ofEntries dump.drawn).edges.toList.map Inheritance.parent
      = dump.supertypes.filterMap (·.identifier) := by
  have edges (decl : Class)
      : decl.drawnEdges.map Inheritance.parent = decl.supertypes.filterMap (·.identifier) := by
    rw [Class.drawnEdges, List.map_filterMap]
    simp only [Option.map_map, Function.comp_def, Option.map_id_fun', id]
  simp only [Diagram.edges_ofEntries, Dump.drawn, List.filterMap_flatMap,
    File.filterMap_edge?_drawn, List.map_flatMap, edges, Dump.supertypes, File.supertypes]

-----------------------------------------------------------------------------------------
-- What is told of
-----------------------------------------------------------------------------------------

theorem tellsOf_dropping (kinds : List SymbolKind) (mention : Mention)
    : tellsOf kinds mention.dropping = kinds.contains mention.kind := by
  have told (kind : SymbolKind)
      : mention.dropping.fields.contains ⟨"kind", .plain kind.text⟩ = (mention.kind == kind) := by
    rw [Bool.eq_iff_iff]
    simp only [Mention.dropping, List.contains_cons, List.contains_nil, Bool.or_false,
      Bool.or_eq_true, beq_iff_eq, Log.Field.mk.injEq, Log.Value.plain.injEq]
    constructor
    · rintro (⟨wrong, -⟩ | ⟨-, same⟩)
      · exact absurd wrong (by decide)
      · exact (SymbolKind.text_injective same).symm
    · rintro rfl
      exact .inr ⟨trivial, rfl⟩
  rw [tellsOf, List.contains_eq_any_beq]
  simp only [told]

/-- There are as many events about some kinds of symbols as places for them without a name. -/
theorem countP_tellsOf_dropped {dump : Dump} (accepted : firstFailure .drop dump.visit = none)
    (kinds : List SymbolKind)
    : (dropped (dump.diagram .drop)).countP (tellsOf kinds)
      = (symbolsOf kinds dump.visit).countP Option.isNone := by
  rw [dump.notes_diagram .drop, leftOut_of_eq_none accepted, List.countP_map, List.countP_filter,
    symbolsOf, List.countP_map, List.countP_filter]
  simp only [Function.comp_apply, tellsOf_dropping, Bool.and_comm]

/-- Items with a name and items without one are all items, by induction on them. -/
theorem length_filterMap_add_countP {α β : Type} (drawn? : α → Option β)
    (symbol : α → Option String) (named : ∀ item, (drawn? item).isNone = (symbol item).isNone)
    (items : List α)
    : (items.filterMap drawn?).length + (items.map symbol).countP Option.isNone = items.length := by
  induction items with
  | nil => rfl
  | cons item rest ih =>
      have same := named item
      cases hd : drawn? item with
      | none =>
          rw [hd, Option.isNone_none] at same
          rw [List.filterMap_cons_none hd, List.map_cons, List.countP_cons_of_pos same.symm,
            List.length_cons, ← ih, Nat.add_assoc]
      | some drawn =>
          rw [hd, Option.isNone_some] at same
          rw [List.filterMap_cons_some hd, List.map_cons,
            List.countP_cons_of_neg (by rw [← same]; decide), List.length_cons, List.length_cons,
            ← ih, Nat.add_right_comm]

/-- Building that drops tells of each unresolved member and supertype in the order of the visit, up
to the first declaration without a name, and building that rejects tells of none. What a built
diagram draws and what was told of are together all that was declared. Witness: each step tells of
what it leaves out of its part of the visit.
-/
theorem dropping_accounts_for_symbols (dump : Dump)
    : dropped (dump.diagram .drop) = (leftOut .drop dump.visit).map Mention.dropping
      ∧ dropped (dump.diagram .reject) = []
      ∧ ∀ diagram,
          (dump.diagram .drop).result = .ok diagram
          → dump.members.length
              = diagram.members.length
                + (dropped (dump.diagram .drop)).countP (tellsOf [.property, .method])
            ∧ dump.supertypes.length
              = diagram.edges.size
                + (dropped (dump.diagram .drop)).countP (tellsOf [.heritage]) := by
  refine ⟨dump.notes_diagram .drop, ?_, ?_⟩
  · rw [dump.notes_diagram .reject, leftOut_reject, List.map_nil]
  · intro diagram built
    rw [dump.result_diagram, outcome_eq_ok_iff] at built
    obtain ⟨accepted, rfl⟩ := built
    have named (member : Member) : member.drawn?.isNone = member.symbol.isNone :=
      Option.isNone_map
    have members := length_filterMap_add_countP Member.drawn? Member.symbol named dump.members
    have supertypes := length_filterMap_add_countP Supertype.identifier Supertype.identifier
      (fun _ => rfl) dump.supertypes
    rw [← dump.map_parent_edges_drawn, List.length_map, Array.length_toList] at supertypes
    rw [← dump.members_drawn] at members
    rw [countP_tellsOf_dropped accepted, countP_tellsOf_dropped accepted,
      dump.symbolsOf_visit_members, dump.symbolsOf_visit_supertypes]
    exact ⟨members.symm, supertypes.symm⟩

/-- The events about a class and an interface come in the order of the visit, the superclass last,
and a class without a name ends them.
-/
theorem unnamed_class_ends_events
    : let first : Class := { symbol := some "A", properties := [{}], superclass := some {} }
      let second : Interface := { symbol := some "I", methods := [{}, { symbol := some "m" }] }
      let whole : Dump := { files := [{ classes := [first], interfaces := [second] }] }
      let broken : Dump := { files := [{ classes := [first, {}], interfaces := [second] }] }
      let told (owner : String) (kind : SymbolKind) : Log.Event :=
        Mention.dropping ⟨owner, kind, none⟩
      dropped (whole.diagram .drop)
        = [told "A" .property, told "I" .method, told "A" .heritage]
      ∧ dropped (broken.diagram .drop) = [told "A" .property]
      ∧ ∃ diagram,
          (whole.diagram .drop).result = .ok diagram
          ∧ whole.members.length
            = diagram.members.length
              + (dropped (whole.diagram .drop)).countP (tellsOf [.property, .method])
          ∧ whole.supertypes.length
            = diagram.edges.size
              + (dropped (whole.diagram .drop)).countP (tellsOf [.heritage]) := by
  intro first second whole broken told
  obtain ⟨events, -, counts⟩ := dropping_accounts_for_symbols whole
  obtain ⟨brokenEvents, -, -⟩ := dropping_accounts_for_symbols broken
  obtain ⟨diagram, built⟩ : ∃ diagram, (whole.diagram .drop).result = .ok diagram := ⟨_, rfl⟩
  exact ⟨events, brokenEvents, diagram, built, counts diagram built⟩

end Declaration

end ClassDiagram
