import ClassDiagram.Proofs.Diagram.PushedEntries
import ClassDiagram.Proofs.Engine.RenderedBodies
import ClassDiagram.Proofs.Text.Splitting

/-! Reading entries back from a Mermaid body. The lines are read from the last one on, so that a
closing brace opens a block and the header that ends it is met later. Read the other way a line
may be misleading: a class named `<|--` has the header that the edge from `class` to a brace has.
-/

namespace ClassDiagram.Mermaid

-----------------------------------------------------------------------------------------
-- The lines of an entry
-----------------------------------------------------------------------------------------

/-- The line of a member, with what marks it as a property or method. -/
def memberLine (ending : String) (member : Member) : List Char :=
  '\t' :: member.visibility.marker :: (member.name.toList ++ ending.toList)

def stereotypeLine : List Char := '\t' :: "<<interface>>".toList

def kindLines : Classifier.Kind → List (List Char)
  | .classNode => []
  | .interfaceNode => [stereotypeLine]

def closingLine : List Char := ['\x7d']

/-- The first line of a block, or the one line of an edge. -/
def threeWords (first second third : List Char) : List Char :=
  first ++ ' ' :: (second ++ ' ' :: third)

/-- The lines of a node between its header and its end. -/
def innerLines (node : Classifier) : List (List Char) :=
  kindLines node.kind
  ++ (node.properties.map (memberLine "") ++ node.methods.map (memberLine "()"))

/-- All lines of an entry, without their ends. -/
def entryLines : Entry → List (List Char)
  | .node node =>
    threeWords "class".toList node.name.toList ['\x7b'] :: (innerLines node ++ [closingLine])
  | .edge edge => [threeWords edge.parent.toList "<|--".toList edge.child.toList]

theorem toList_line (text : String) : (line text).toList = '\t' :: (text.toList ++ ['\n']) := by
  simp [line]

theorem toList_propertyLine (member : Member)
    : (propertyLine member).toList = memberLine "" member ++ ['\n'] := by
  simp [propertyLine, toList_line, memberLine]

theorem toList_methodLine (member : Member)
    : (methodLine member).toList = memberLine "()" member ++ ['\n'] := by
  simp [methodLine, toList_line, memberLine]

/-- Both kinds of block are the header, the inner lines and the closing line. -/
theorem toList_node (node : Classifier)
    : (engine.node node).toList = (entryLines (.node node)).flatMap (· ++ ['\n']) := by
  have stereotype : (line ("<<" ++ "interface" ++ ">>")).toList = stereotypeLine ++ ['\n'] := rfl
  obtain ⟨name, kind, properties, methods⟩ := node
  cases kind <;>
    simp only [engine, Classifier.byKind, block, entryLines, innerLines, kindLines, threeWords,
      closingLine, String.toList_append, Text.toList_concat, List.flatMap_map, toList_propertyLine,
      toList_methodLine, stereotype, List.map_nil, List.map_cons, List.flatMap_nil,
      List.flatMap_cons, List.flatMap_append] <;>
    simp

theorem toList_fragment (entry : Entry)
    : (engine.fragment entry).toList = (entryLines entry).flatMap (· ++ ['\n']) := by
  cases entry with
  | node node => exact toList_node node
  | edge edge => simp [Engine.fragment, engine, connector, entryLines, threeWords]

/-- A body consists of the lines of its entries. -/
theorem toList_body (diagram : Diagram)
    : (engine.render diagram).toList
      = (diagram.entries.flatMap entryLines).flatMap (· ++ ['\n']) := by
  change (Text.concat (diagram.entries.map engine.fragment)).toList = _
  rw [Text.toList_concat, List.flatMap_map, List.flatMap_assoc]
  simp only [toList_fragment]

-----------------------------------------------------------------------------------------
-- Reading lines from the last one on
-----------------------------------------------------------------------------------------

def marked? (marker : Char) : Option Visibility :=
  Visibility.all.find? (·.marker == marker)

/-- The property that a line shows, if its text is not that of a method. -/
def property? : List Char → Option Member
  | '\t' :: marker :: text =>
    match "()".toList.isSuffixOf? text with
    | some _ => none
    | none => (marked? marker).map fun visibility => ⟨String.ofList text, visibility⟩
  | _ => none

def method? : List Char → Option Member
  | '\t' :: marker :: text => do
    let name ← "()".toList.isSuffixOf? text
    let visibility ← marked? marker
    pure ⟨String.ofList name, visibility⟩
  | _ => none

/-- The node whose header has a name and is followed by the given lines. -/
def readNode (name : String) (lines : List (List Char)) : Classifier where
  name := name
  kind := if stereotypeLine ∈ lines then .interfaceNode else .classNode
  properties := lines.filterMap property?
  methods := lines.filterMap method?

/-- What is known of a body from some line on. -/
structure Reading where
  /-- The lines of a block whose header is still to come. -/
  block : Option (List (List Char)) := none
  entries : List Entry := []

/-- What is known with one more line in front. Whether the line is a header or an edge depends on
whether a block is open, not on its words.
-/
def Reading.addLine (line : List Char) (reading : Reading) : Option Reading :=
  match reading.block, Text.split ' ' line with
  | none, [_] => if line = closingLine then some { reading with block := some [] } else none
  | none, [parent, _, child] =>
    some
      { reading with
        entries := .edge ⟨String.ofList parent, String.ofList child⟩ :: reading.entries }
  | some lines, [_] => some { reading with block := some (line :: lines) }
  | some lines, [_, name, _] =>
    some { entries := .node (readNode (String.ofList name) lines) :: reading.entries }
  | _, _ => none

/-- The entries that a body was rendered from. -/
def decode (body : String) : Option (List Entry) := do
  let reading ← (Text.split '\n' body.toList).dropLast.foldrM Reading.addLine {}
  match reading.block with
  | none => some reading.entries
  | some _ => none

-----------------------------------------------------------------------------------------
-- Names that leave lines and words intact
-----------------------------------------------------------------------------------------

/-- The text is a single word of a single line; it may well be empty. -/
def IsWord (text : List Char) : Prop :=
  ' ' ∉ text ∧ '\n' ∉ text

/-- All names are single words, and no property is named like a method. -/
def Legible : Entry → Prop
  | .node node =>
    IsWord node.name.toList
    ∧ (∀ member ∈ node.properties,
        IsWord member.name.toList ∧ ¬ "()".toList <:+ member.name.toList)
    ∧ ∀ member ∈ node.methods, IsWord member.name.toList
  | .edge edge => IsWord edge.parent.toList ∧ IsWord edge.child.toList

-----------------------------------------------------------------------------------------
-- Lines of members are read back
-----------------------------------------------------------------------------------------

theorem marked?_marker (visibility : Visibility)
    : marked? visibility.marker = some visibility := by
  cases visibility <;> rfl

theorem property?_propertyLine {member : Member}
    (plain : ¬ "()".toList <:+ member.name.toList)
    : property? (memberLine "" member) = some member := by
  have unmarked : member.name.toList ++ "".toList = member.name.toList := List.append_nil _
  simp only [memberLine, property?, unmarked, Text.isSuffixOf?_eq_none plain, marked?_marker,
    Option.map_some, String.ofList_toList]

theorem method?_propertyLine {member : Member}
    (plain : ¬ "()".toList <:+ member.name.toList)
    : method? (memberLine "" member) = none := by
  have unmarked : member.name.toList ++ "".toList = member.name.toList := List.append_nil _
  simp only [memberLine, method?, unmarked, Text.isSuffixOf?_eq_none plain, Option.bind_eq_bind,
    Option.bind_none]

theorem property?_methodLine (member : Member)
    : property? (memberLine "()" member) = none := by
  simp only [memberLine, property?, Text.isSuffixOf?_append]

theorem method?_methodLine (member : Member)
    : method? (memberLine "()" member) = some member := by
  simp only [memberLine, method?, Text.isSuffixOf?_append, marked?_marker, Option.bind_eq_bind,
    Option.bind_some, Option.pure_def, String.ofList_toList]

/-- The line of a member is no stereotype, since no marker is an angle bracket. -/
theorem memberLine_ne_stereotypeLine (ending : String) (member : Member)
    : memberLine ending member ≠ stereotypeLine := by
  intro same
  have marker : member.visibility.marker = '<' := (List.cons.inj (List.cons.inj same).2).1
  cases hv : member.visibility <;> simp [hv, Visibility.marker] at marker

theorem stereotypeLine_mem_innerLines (node : Classifier)
    : stereotypeLine ∈ innerLines node ↔ node.kind = .interfaceNode := by
  have notProperty : stereotypeLine ∉ node.properties.map (memberLine "") := by
    intro member
    obtain ⟨property, -, same⟩ := List.mem_map.mp member
    exact memberLine_ne_stereotypeLine "" property same
  have notMethod : stereotypeLine ∉ node.methods.map (memberLine "()") := by
    intro member
    obtain ⟨method, -, same⟩ := List.mem_map.mp member
    exact memberLine_ne_stereotypeLine "()" method same
  cases hk : node.kind <;> simp [innerLines, kindLines, hk, notProperty, notMethod]

theorem filterMap_property?_innerLines {node : Classifier}
    (plain : ∀ member ∈ node.properties, ¬ "()".toList <:+ member.name.toList)
    : (innerLines node).filterMap property? = node.properties := by
  have kind : (kindLines node.kind).filterMap property? = [] := by cases node.kind <;> rfl
  have properties : (node.properties.map (memberLine "")).filterMap property?
      = node.properties := by
    rw [List.filterMap_map]
    exact (List.filterMap_congr fun member hm => property?_propertyLine (plain member hm)).trans
      List.filterMap_some
  have methods : (node.methods.map (memberLine "()")).filterMap property? = [] := by
    rw [List.filterMap_map]
    exact List.filterMap_eq_nil_iff.mpr fun member _ => property?_methodLine member
  rw [innerLines, List.filterMap_append, List.filterMap_append, kind, properties, methods,
    List.nil_append, List.append_nil]

theorem filterMap_method?_innerLines {node : Classifier}
    (plain : ∀ member ∈ node.properties, ¬ "()".toList <:+ member.name.toList)
    : (innerLines node).filterMap method? = node.methods := by
  have kind : (kindLines node.kind).filterMap method? = [] := by cases node.kind <;> rfl
  have properties : (node.properties.map (memberLine "")).filterMap method? = [] := by
    rw [List.filterMap_map]
    exact List.filterMap_eq_nil_iff.mpr fun member hm => method?_propertyLine (plain member hm)
  have methods : (node.methods.map (memberLine "()")).filterMap method? = node.methods := by
    rw [List.filterMap_map]
    exact (List.filterMap_congr fun member _ => method?_methodLine member).trans
      List.filterMap_some
  rw [innerLines, List.filterMap_append, List.filterMap_append, kind, properties, methods,
    List.nil_append, List.nil_append]

/-- The inner lines of a node tell everything about it but its name. -/
theorem readNode_innerLines {node : Classifier}
    (plain : ∀ member ∈ node.properties, ¬ "()".toList <:+ member.name.toList)
    : readNode node.name (innerLines node) = node := by
  have kind : (if stereotypeLine ∈ innerLines node then Classifier.Kind.interfaceNode
      else .classNode) = node.kind := by
    simp only [stereotypeLine_mem_innerLines]
    cases node.kind <;> rfl
  rw [readNode, kind, filterMap_property?_innerLines plain, filterMap_method?_innerLines plain]

-----------------------------------------------------------------------------------------
-- Words of lines
-----------------------------------------------------------------------------------------

/-- What is added to the name of a member has no blanks. -/
theorem notMem_memberLine {c : Char} (blank : c = ' ' ∨ c = '\n') {ending : String}
    {member : Member} (name : c ∉ member.name.toList) (call : c ∉ ending.toList)
    : c ∉ memberLine ending member := by
  have sign : c ≠ '\t' ∧ c ≠ member.visibility.marker := by
    cases member.visibility <;> rcases blank with rfl | rfl <;> decide
  simp [memberLine, sign.1, sign.2, name, call]

/-- Inner lines have only those blanks that names bring with them. -/
theorem notMem_of_mem_innerLines {c : Char} (blank : c = ' ' ∨ c = '\n') {node : Classifier}
    (absent : ∀ member ∈ node.properties ++ node.methods, c ∉ member.name.toList)
    {line : List Char} (inner : line ∈ innerLines node)
    : c ∉ line := by
  have calls : c ∉ "".toList ∧ c ∉ "()".toList := by rcases blank with rfl | rfl <;> decide
  obtain ⟨properties, methods⟩ := List.forall_mem_append.mp absent
  simp only [innerLines, List.mem_append, List.mem_map] at inner
  rcases inner with kind | ⟨property, hp, rfl⟩ | ⟨method, hm, rfl⟩
  · cases hk : node.kind with
    | classNode => simp [hk, kindLines] at kind
    | interfaceNode =>
        have same : line = stereotypeLine := by simpa [hk, kindLines] using kind
        rw [same]
        rcases blank with rfl | rfl <;> decide
  · exact notMem_memberLine blank (properties property hp) calls.1
  · exact notMem_memberLine blank (methods method hm) calls.2

/-- No inner line of a legible node has a second word, unlike its header. -/
theorem isWord_of_mem_innerLines {node : Classifier} (legible : Legible (.node node))
    {line : List Char} (member : line ∈ innerLines node)
    : IsWord line := by
  have words : ∀ member ∈ node.properties ++ node.methods, IsWord member.name.toList :=
    List.forall_mem_append.mpr ⟨fun property hp => (legible.2.1 property hp).1, legible.2.2⟩
  exact ⟨notMem_of_mem_innerLines (.inl rfl) (fun other hm => (words other hm).1) member,
    notMem_of_mem_innerLines (.inr rfl) (fun other hm => (words other hm).2) member⟩

theorem split_threeWords {first second third : List Char} (hf : ' ' ∉ first)
    (hs : ' ' ∉ second) (ht : ' ' ∉ third)
    : Text.split ' ' (threeWords first second third) = [first, second, third] :=
  Text.split_three hf hs ht

theorem newline_notMem_threeWords {first second third : List Char} (hf : '\n' ∉ first)
    (hs : '\n' ∉ second) (ht : '\n' ∉ third)
    : '\n' ∉ threeWords first second third := by
  simp [threeWords, hf, hs, ht]

/-- The lines of a node stay whole if no name brings a newline with it. -/
theorem newline_notMem_of_mem_nodeLines {node : Classifier} (name : '\n' ∉ node.name.toList)
    (absent : ∀ member ∈ node.properties ++ node.methods, '\n' ∉ member.name.toList)
    {line : List Char} (member : line ∈ entryLines (.node node))
    : '\n' ∉ line := by
  simp only [entryLines, List.mem_cons, List.mem_append, List.not_mem_nil, or_false] at member
  rcases member with rfl | inner | rfl
  · exact newline_notMem_threeWords (by decide) name (by decide)
  · exact notMem_of_mem_innerLines (.inr rfl) absent inner
  · decide

theorem newline_notMem_of_mem_entryLines {entry : Entry} (legible : Legible entry)
    {line : List Char} (member : line ∈ entryLines entry)
    : '\n' ∉ line := by
  cases entry with
  | edge edge =>
      rw [List.mem_singleton.mp member]
      exact newline_notMem_threeWords legible.1.2 (by decide) legible.2.2
  | node node =>
      apply newline_notMem_of_mem_nodeLines legible.1.2 _ member
      exact List.forall_mem_append.mpr
        ⟨fun property hp => (legible.2.1 property hp).1.2,
          fun method hm => (legible.2.2 method hm).2⟩

-----------------------------------------------------------------------------------------
-- Bodies are read back
-----------------------------------------------------------------------------------------

/-- Lines of one word inside an open block are put aside, by induction on the lines. -/
theorem foldrM_addLine_inner {lines : List (List Char)} (words : ∀ line ∈ lines, ' ' ∉ line)
    (after : List (List Char)) (entries : List Entry)
    : lines.foldrM Reading.addLine { block := some after, entries }
      = some { block := some (lines ++ after), entries } := by
  induction lines with
  | nil => rfl
  | cons line rest ih =>
      have tail := ih fun later member => words later (List.mem_cons_of_mem line member)
      have single := Text.split_of_notMem (words line List.mem_cons_self)
      simp [List.foldrM_cons, tail, Reading.addLine, single]

/-- The lines of an entry in front of read ones add the entry to those read. -/
theorem foldrM_addLine_entry {entry : Entry} (legible : Legible entry) (entries : List Entry)
    : (entryLines entry).foldrM Reading.addLine { entries } = some { entries := entry :: entries }
    := by
  cases entry with
  | edge edge =>
      have arrow : ' ' ∉ "<|--".toList := by simp
      have words := split_threeWords legible.1.1 arrow legible.2.1
      simp only [entryLines, List.foldrM_cons, List.foldrM_nil, Option.pure_def,
        Option.bind_eq_bind, Option.bind_some, Reading.addLine, words, String.ofList_toList]
  | node node =>
      have keyword : ' ' ∉ "class".toList := by simp
      have brace : ' ' ∉ ['\x7b'] := by simp
      have words := split_threeWords keyword legible.1.1 brace
      have closing : [closingLine].foldrM Reading.addLine { entries }
          = some { block := some [], entries } := rfl
      have inner := foldrM_addLine_inner
        (fun line member => (isWord_of_mem_innerLines legible member).1) [] entries
      have read := readNode_innerLines fun member hm => (legible.2.1 member hm).2
      -- Met in this order: the closing line, the inner lines from the last one on, the header
      simp only [entryLines, List.foldrM_cons, List.foldrM_append, closing, inner,
        Option.bind_eq_bind, Option.bind_some, Reading.addLine, words, List.append_nil,
        String.ofList_toList, read]

/-- The lines of legible entries add all of them, by induction on the entries. -/
theorem foldrM_addLine_entries {entries : List Entry} (legible : ∀ entry ∈ entries, Legible entry)
    : (entries.flatMap entryLines).foldrM Reading.addLine {} = some { entries } := by
  induction entries with
  | nil => rfl
  | cons entry rest ih =>
      have tail := ih fun later member => legible later (List.mem_cons_of_mem entry member)
      rw [List.flatMap_cons, List.foldrM_append, tail]
      exact foldrM_addLine_entry (legible entry List.mem_cons_self) rest

/-- A body is read back to the entries it was rendered from. -/
theorem decode_render {diagram : Diagram} (legible : ∀ entry ∈ diagram.entries, Legible entry)
    : decode (engine.render diagram) = some diagram.entries := by
  have lines : Text.split '\n' (engine.render diagram).toList
      = diagram.entries.flatMap entryLines ++ [[]] := by
    rw [toList_body]
    apply Text.split_terminated
    intro line member
    obtain ⟨entry, he, hl⟩ := List.mem_flatMap.mp member
    exact newline_notMem_of_mem_entryLines (legible entry he) hl
  rw [decode, lines, List.dropLast_concat, foldrM_addLine_entries legible]
  rfl

/-- Two diagrams of legible entries have the same body exactly when they have the same entries in
the same order, and the body can be read back to them. Witness: `decode` is a left inverse of
rendering.
-/
theorem bodies_eq_iff_entries_eq {generator : Generator} {left right : Diagram}
    (active : generator.registry.active = .ok engine)
    (legibleLeft : ∀ entry ∈ left.entries, Legible entry)
    (legibleRight : ∀ entry ∈ right.entries, Legible entry)
    : ∃ leftBody rightBody,
        (generator.render left).result = .ok leftBody
        ∧ (generator.render right).result = .ok rightBody
        ∧ (leftBody = rightBody ↔ left.entries = right.entries)
        ∧ decode leftBody = some left.entries
        ∧ decode rightBody = some right.entries := by
  have readLeft := decode_render legibleLeft
  have readRight := decode_render legibleRight
  have renderedLeft := Generator.result_render_of_active active left
  have renderedRight := Generator.result_render_of_active active right
  refine ⟨_, _, renderedLeft, renderedRight, ⟨?_, ?_⟩, readLeft, readRight⟩
  · intro same
    rw [same] at readLeft
    exact Option.some.inj (readLeft.symm.trans readRight)
  · intro same
    simp only [Engine.render, same]

/-- A class named like the arrow and the edge from `class` to a brace have the same first line, and
their bodies are still told apart by the lines that follow.
-/
theorem bodies_differ_after_same_header
    : let generator : Generator := { registry := Registry.empty.add engine }
      let left := Diagram.ofEntries [.node { name := "<|--", kind := .classNode }]
      let right := Diagram.ofEntries [.edge ⟨"class", "\x7b"⟩]
      let leftBody : String := "class <|-- \x7b\n\x7d\n"
      let rightBody : String := "class <|-- \x7b\n"
      generator.registry.active = .ok engine
      ∧ (∀ entry ∈ left.entries, Legible entry)
      ∧ (∀ entry ∈ right.entries, Legible entry)
      ∧ (generator.render left).result = .ok leftBody
      ∧ (generator.render right).result = .ok rightBody
      ∧ leftBody ≠ rightBody
      ∧ decode leftBody = some left.entries
      ∧ decode rightBody = some right.entries := by
  intro generator left right leftBody rightBody
  have active : generator.registry.active = .ok engine := rfl
  have legibleLeft : ∀ entry ∈ left.entries, Legible entry := by simp [left, Legible, IsWord]
  have legibleRight : ∀ entry ∈ right.entries, Legible entry := by simp [right, Legible, IsWord]
  have renderedLeft : (generator.render left).result = .ok leftBody := rfl
  have renderedRight : (generator.render right).result = .ok rightBody := rfl
  have apart : left.entries ≠ right.entries := by simp [left, right]
  obtain ⟨_, _, againLeft, againRight, same, readLeft, readRight⟩ :=
    bodies_eq_iff_entries_eq active legibleLeft legibleRight
  obtain rfl := Except.ok.inj (renderedLeft.symm.trans againLeft)
  obtain rfl := Except.ok.inj (renderedRight.symm.trans againRight)
  exact ⟨active, legibleLeft, legibleRight, renderedLeft, renderedRight, mt same.mp apart, readLeft,
    readRight⟩

end ClassDiagram.Mermaid
