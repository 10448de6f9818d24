import ClassDiagram.Proofs.Engine.MermaidDecoding
import ClassDiagram.Proofs.Engine.YumlDecoding

/-! Each member of a node is one line of its Mermaid block and one token of its yUML box, in the
order of the members. Names may hold anything but the signs at which the text is split.
-/

namespace ClassDiagram

-----------------------------------------------------------------------------------------
-- Lines of a block
-----------------------------------------------------------------------------------------

namespace Mermaid

def stereotypeTexts : Classifier.Kind → List String
  | .classNode => []
  | .interfaceNode => ["\t<<interface>>"]

/-- The text of a member up to the end of its name. -/
def markedName (member : Member) : String :=
  "\t" ++ member.visibility.marker.toString ++ member.name

/-- The lines of a block, from the header to the closing brace. -/
def blockLines (node : Classifier) : List String :=
  ["class " ++ node.name ++ " \x7b"]
  ++ stereotypeTexts node.kind
  ++ node.properties.map markedName
  ++ node.methods.map (markedName · ++ "()")
  ++ ["\x7d"]

theorem map_toList_blockLines (node : Classifier)
    : (blockLines node).map String.toList = entryLines (.node node) := by
  have property (member : Member) : (markedName member).toList = memberLine "" member := by
    simp [markedName, memberLine]
  have method (member : Member)
      : (markedName member ++ "()").toList = memberLine "()" member := by
    simp [markedName, memberLine]
  have stereotype : (stereotypeTexts node.kind).map String.toList = kindLines node.kind := by
    cases node.kind <;> rfl
  simp only [blockLines, List.map_append, List.map_map, Function.comp_def, property, method,
    stereotype]
  simp [entryLines, innerLines, threeWords, closingLine]

/-- A block splits into its lines, each of them ended, if no name has a newline. -/
theorem split_node {node : Classifier} (name : '\n' ∉ node.name.toList)
    (absent : ∀ member ∈ node.properties ++ node.methods, '\n' ∉ member.name.toList)
    : Text.split '\n' (engine.node node).toList = (blockLines node ++ [""]).map String.toList := by
  rw [toList_node, List.map_append, map_toList_blockLines]
  exact Text.split_terminated fun line member =>
    newline_notMem_of_mem_nodeLines name absent member

end Mermaid

-----------------------------------------------------------------------------------------
-- Parts of a box
-----------------------------------------------------------------------------------------

namespace Yuml

/-- The text of a node up to the end of the name in its second box. -/
def upToMembers (node : Classifier) : String :=
  "[" ++ node.name ++ "\x7bbg:" ++ colour node.kind ++ "\x7d][" ++ node.name

theorem toList_node_upToMembers (client : Client) (node : Classifier)
    : ((engine client).node node).toList
      = (upToMembers node).toList
        ++ '|' :: (memberPart "" node.properties
          ++ '|' :: (memberPart "()" node.methods ++ [']'])) := by
  have boxes := toList_fragment client (.node node)
  rw [Engine.fragment] at boxes
  simp [boxes, upToMembers, piece, frontInside, connection, backInside, background]

/-- A node splits at its bars into three parts if no name has one. -/
theorem split_node (client : Client) {node : Classifier} (name : '|' ∉ node.name.toList)
    (absent : ∀ member ∈ node.properties ++ node.methods, '|' ∉ member.name.toList)
    : Text.split '|' ((engine client).node node).toList
      = [(upToMembers node).toList, memberPart "" node.properties,
          memberPart "()" node.methods ++ [']']] := by
  have colours : '|' ∉ (colour node.kind).toList := by cases node.kind <;> decide
  have front : '|' ∉ (upToMembers node).toList := by simp [upToMembers, name, colours]
  obtain ⟨propertyPart, methodPart⟩ := bar_notMem_memberParts absent
  have closed : '|' ∉ memberPart "()" node.methods ++ [']'] := by simp [methodPart]
  rw [toList_node_upToMembers, Text.split_three front propertyPart closed]

/-- A part has one semicolon for each member, beside those of what follows it. -/
theorem count_memberPart {ending : String} {members : List Member}
    (absent : ∀ member ∈ members, ';' ∉ member.name.toList) (call : ';' ∉ ending.toList)
    (rest : List Char)
    : (memberPart ending members ++ rest).count ';' = members.length + rest.count ';' := by
  have pieces := congrArg List.length (split_memberPart absent call rest)
  rw [List.length_append, List.length_map, Text.length_split, Text.length_split] at pieces
  omega

end Yuml

-----------------------------------------------------------------------------------------
-- Members in the text of a node
-----------------------------------------------------------------------------------------

/-- If no name has a newline, a Mermaid block splits into its header, the stereotype of an
interface, a line for each property and each method, and the closing line. If no name has a bar and
no member a semicolon, a yUML node splits into three parts, of which the last two hold the names of
the properties and methods with as many semicolons as there are members. Witness: what a node is
put together from.
-/
theorem each_member_is_one_piece (node : Classifier)
    : ('\n' ∉ node.name.toList
        → (∀ member ∈ node.properties ++ node.methods, '\n' ∉ member.name.toList)
        → Text.split '\n' (Mermaid.engine.node node).toList
            = (Mermaid.blockLines node ++ [""]).map String.toList)
      ∧ ('|' ∉ node.name.toList
        → (∀ member ∈ node.properties ++ node.methods,
            '|' ∉ member.name.toList ∧ ';' ∉ member.name.toList)
        → ∀ client,
            ∃ properties methods,
              Text.split '|' ((Yuml.engine client).node node).toList
                = [(Yuml.upToMembers node).toList, properties, methods]
              ∧ properties = node.properties.flatMap (fun member => (member.name ++ ";").toList)
              ∧ methods
                = node.methods.flatMap (fun member => (member.name ++ "();").toList) ++ [']']
              ∧ properties.count ';' = node.properties.length
              ∧ methods.count ';' = node.methods.length
              ∧ Text.split ';' properties
                = node.properties.map (fun member => member.name.toList) ++ [[]]
              ∧ Text.split ';' methods
                = node.methods.map (fun member => (member.name ++ "()").toList) ++ [[']']]) := by
  refine ⟨Mermaid.split_node, ?_⟩
  intro name absent client
  have parts := Yuml.split_node client name fun member hm => (absent member hm).1
  obtain ⟨properties, methods⟩ := List.forall_mem_append.mp absent
  have inProperties := fun member hm => (properties member hm).2
  have inMethods := fun member hm => (methods member hm).2
  have calls : ';' ∉ "".toList ∧ ';' ∉ "()".toList := by decide
  have propertyCount := Yuml.count_memberPart inProperties calls.1 []
  have methodCount := Yuml.count_memberPart inMethods calls.2 [']']
  have propertyTokens := Yuml.split_memberPart inProperties calls.1 []
  have methodTokens := Yuml.split_memberPart inMethods calls.2 [']']
  rw [List.append_nil] at propertyCount propertyTokens
  refine ⟨_, _, parts, ?_, ?_, propertyCount, methodCount, ?_, ?_⟩
  · simp [Yuml.memberPart]
  · simp [Yuml.memberPart]
  · simpa [Text.split] using propertyTokens
  · simpa [Text.split] using methodTokens

/-- Repeated names, names of signs only and names with blanks stay apart and in order. -/
theorem members_named_by_signs_are_told_apart
    : let node : Classifier :=
        {
          name := "a; \x7b"
          kind := .interfaceNode
          properties := [⟨"()", .publicAccess⟩, ⟨"()", .privateAccess⟩, ⟨"", .publicAccess⟩]
          methods := [⟨"\x7d b", .protectedAccess⟩]
        }
      '\n' ∉ node.name.toList
      ∧ '|' ∉ node.name.toList
      ∧ (∀ member ∈ node.properties ++ node.methods,
          '\n' ∉ member.name.toList ∧ '|' ∉ member.name.toList ∧ ';' ∉ member.name.toList)
      ∧ Text.split '\n' (Mermaid.engine.node node).toList
        = ["class a; \x7b \x7b", "\t<<interface>>", "\t+()", "\t-()", "\t+", "\t#\x7d b()", "\x7d",
            ""].map String.toList
      ∧ Text.split '|' ((Yuml.engine ⟨""⟩).node node).toList
        = ["[a; \x7b\x7bbg:palegreen\x7d][a; \x7b", "();();;", "\x7d b();]"].map String.toList := by
  intro node
  have ownName : '\n' ∉ node.name.toList ∧ '|' ∉ node.name.toList := by decide
  have absent : ∀ member ∈ node.properties ++ node.methods,
      '\n' ∉ member.name.toList ∧ '|' ∉ member.name.toList ∧ ';' ∉ member.name.toList := by
    decide
  obtain ⟨lines, boxes⟩ := each_member_is_one_piece node
  obtain ⟨properties, methods, parts, rfl, rfl, -⟩ :=
    boxes ownName.2 (fun member hm => (absent member hm).2) ⟨""⟩
  refine ⟨ownName.1, ownName.2, absent, ?_, ?_⟩
  · rw [lines ownName.1 fun member hm => (absent member hm).1]
    rfl
  · rw [parts]
    rfl

end ClassDiagram
