import ClassDiagram.Proofs.Diagram.PushedEntries
import ClassDiagram.Proofs.Engine.RenderedBodies
import ClassDiagram.Proofs.Text.Splitting

/-! Reading entries back from a yUML body, all but the visibilities, which no body shows. Each
entry is drawn as two boxes, and nothing but an opening bracket begins a box, so that splitting
there gives two pieces for each entry.
-/

namespace ClassDiagram

/-- The member as it is when all members may be used by anyone. -/
def Member.withoutVisibility (member : Member) : Member :=
  { member with visibility := .publicAccess }

def Entry.withoutVisibility : Entry → Entry
  | node classifier =>
    node
      { classifier with
        properties := classifier.properties.map Member.withoutVisibility
        methods := classifier.methods.map Member.withoutVisibility }
  | edge inheritance => edge inheritance

namespace Yuml

-----------------------------------------------------------------------------------------
-- The two boxes of an entry
-----------------------------------------------------------------------------------------

def colour : Classifier.Kind → String
  | .classNode => "skyblue"
  | .interfaceNode => "palegreen"

/-- What stands after the name in the coloured box of a node. -/
def background (kind : Classifier.Kind) : List Char :=
  "bg:".toList ++ (colour kind).toList ++ ['\x7d']

/-- The text of the members in one part of a box, each with its ending. -/
def memberPart (ending : String) (members : List Member) : List Char :=
  members.flatMap fun member => member.name.toList ++ ending.toList ++ [';']

/-- What the first box of an entry holds. -/
def frontInside : Entry → List Char
  | .node node => node.name.toList ++ '\x7b' :: background node.kind
  | .edge edge => edge.parent.toList

def connection : Entry → List Char
  | .node _ => []
  | .edge _ => "^-".toList

/-- What the second box of an entry holds. -/
def backInside : Entry → List Char
  | .node node =>
    node.name.toList
    ++ '|' :: (memberPart "" node.properties ++ '|' :: memberPart "()" node.methods)
  | .edge edge => edge.child.toList

/-- The piece from one opening bracket to the next. -/
def piece (inside after : List Char) : List Char :=
  inside ++ ']' :: after

theorem toList_memberPart {ending marked : String} (hm : marked.toList = ending.toList ++ [';'])
    (members : List Member)
    : (Text.concat (members.map fun member => member.name ++ marked)).toList
      = memberPart ending members := by
  rw [Text.toList_concat, List.flatMap_map, memberPart]
  simp only [String.toList_append, hm, List.append_assoc]

theorem toList_node (kind : Classifier.Kind) (name : String) (properties methods : List Member)
    : (node (colour kind) name properties methods).toList
      = '[' :: (piece (name.toList ++ '\x7b' :: background kind) []
          ++ '[' :: piece (name.toList
            ++ '|' :: (memberPart "" properties ++ '|' :: memberPart "()" methods)) []) := by
  have propertyPart
      : (Text.concat (properties.map fun member => member.name ++ ";")).toList
        = memberPart "" properties := toList_memberPart rfl properties
  have methodPart
      : (Text.concat (methods.map fun member => member.name ++ "();")).toList
        = memberPart "()" methods := toList_memberPart rfl methods
  simp only [node, String.toList_append, propertyPart, methodPart]
  simp [piece, background]

/-- A fragment consists of the two boxes of its entry. -/
theorem toList_fragment (client : Client) (entry : Entry)
    : ((engine client).fragment entry).toList
      = '[' :: (piece (frontInside entry) (connection entry)
          ++ '[' :: piece (backInside entry) []) := by
  cases entry with
  | edge edge =>
      simp [Engine.fragment, engine, connector, piece, frontInside, connection, backInside]
  | node node =>
      obtain ⟨name, kind, properties, methods⟩ := node
      cases kind with
      | classNode => exact toList_node .classNode name properties methods
      | interfaceNode => exact toList_node .interfaceNode name properties methods

/-- The pieces of a body, two for each entry; a comma goes with the piece before it. -/
def pieces : List Entry → List (List Char)
  | [] => []
  | [entry] => [piece (frontInside entry) (connection entry), piece (backInside entry) []]
  | entry :: rest =>
    piece (frontInside entry) (connection entry) :: piece (backInside entry) [',']
    :: pieces rest

-----------------------------------------------------------------------------------------
-- Reading pieces
-----------------------------------------------------------------------------------------

def readNames (text : List Char) : List (List Char) :=
  (Text.split ';' text).dropLast

def named (name : List Char) : Member where
  name := String.ofList name

def readNode (front back : List Char) : Option Entry :=
  match Text.split '\x7b' front, Text.split '|' back with
  | [name, rest], [_, properties, methods] =>
    some <| .node
      {
        name := String.ofList name
        kind := if rest = background .interfaceNode then .interfaceNode else .classNode
        properties := (readNames properties).map named
        methods := ((readNames methods).filterMap ("()".toList.isSuffixOf? ·)).map named
      }
  | _, _ => none

def readEntry (front back : List Char) : Option Entry :=
  match Text.split ']' front, Text.split ']' back with
  | [first, between], [second, _] =>
    if between = "^-".toList then some (.edge ⟨String.ofList first, String.ofList second⟩)
    else readNode first second
  | _, _ => none

def readPieces : List (List Char) → Option (List Entry)
  | [] => some []
  | [_] => none
  | front :: back :: rest => do
    let entry ← readEntry front back
    let entries ← readPieces rest
    pure (entry :: entries)

/-- The entries that a body was rendered from, without visibilities. -/
def decode (body : String) : Option (List Entry) :=
  readPieces (Text.split '[' body.toList).tail

-----------------------------------------------------------------------------------------
-- Names that leave boxes intact
-----------------------------------------------------------------------------------------

/-- The characters that a name must not contain. A comma is not among them, since none is looked for
inside a box.
-/
def delimiters : List Char := ['[', ']', '\x7b', '\x7d', '|', ';']

/-- The text has none of the characters that the notation is made of. -/
def IsPlain (text : List Char) : Prop :=
  ∀ c ∈ delimiters, c ∉ text

/-- All names are plain. -/
def Legible : Entry → Prop
  | .node node =>
    IsPlain node.name.toList ∧ ∀ member ∈ node.properties ++ node.methods,
      IsPlain member.name.toList
  | .edge edge => IsPlain edge.parent.toList ∧ IsPlain edge.child.toList

-----------------------------------------------------------------------------------------
-- Delimiters stand only where a box, a part or a member ends
-----------------------------------------------------------------------------------------

/-- Only calls and semicolons are added to the names of members. -/
theorem notMem_memberPart {c : Char} {ending : String} {members : List Member} (notEnd : c ≠ ';')
    (notEnding : c ∉ ending.toList) (absent : ∀ member ∈ members, c ∉ member.name.toList)
    : c ∉ memberPart ending members := by
  intro found
  obtain ⟨member, hm, hc⟩ := List.mem_flatMap.mp found
  simp only [List.mem_append, List.mem_singleton] at hc
  rcases hc with (name | text) | last
  · exact absent member hm name
  · exact notEnding text
  · exact notEnd last

theorem isPlain_members {node : Classifier} (legible : Legible (.node node))
    : (∀ member ∈ node.properties, IsPlain member.name.toList)
      ∧ ∀ member ∈ node.methods, IsPlain member.name.toList :=
  List.forall_mem_append.mp legible.2

/-- What the boxes of a legible entry hold has no brackets of its own. -/
theorem notMem_insides {entry : Entry} (legible : Legible entry) {c : Char}
    (bracket : c = '[' ∨ c = ']')
    : c ∉ frontInside entry ∧ c ∉ backInside entry := by
  have delimiter : c ∈ delimiters := by rcases bracket with rfl | rfl <;> simp [delimiters]
  cases entry with
  | edge edge => exact ⟨legible.1 c delimiter, legible.2 c delimiter⟩
  | node node =>
      have sign : c ≠ '\x7b' ∧ c ≠ '|' ∧ c ∉ background node.kind := by
        rcases bracket with rfl | rfl <;> cases node.kind <;> decide
      have call : c ≠ ';' ∧ c ∉ "".toList ∧ c ∉ "()".toList := by
        rcases bracket with rfl | rfl <;> simp
      have name := legible.1 c delimiter
      obtain ⟨properties, methods⟩ := isPlain_members legible
      have propertyPart := notMem_memberPart call.1 call.2.1 fun member hm =>
        properties member hm c delimiter
      have methodPart := notMem_memberPart call.1 call.2.2 fun member hm =>
        methods member hm c delimiter
      simp only [frontInside, backInside, List.mem_append, List.mem_cons, not_or]
      exact ⟨⟨name, sign.1, sign.2.2⟩, name, sign.2.1, propertyPart, sign.2.1, methodPart⟩

theorem notMem_connection (entry : Entry) {c : Char} (bracket : c = '[' ∨ c = ']')
    : c ∉ connection entry := by
  cases entry with
  | node _ => exact List.not_mem_nil
  | edge _ => rcases bracket with rfl | rfl <;> simp [connection]

theorem split_piece {inside after : List Char} (hi : ']' ∉ inside) (ha : ']' ∉ after)
    : Text.split ']' (piece inside after) = [inside, after] := by
  rw [piece, Text.split_append_cons, Text.split_of_notMem hi, Text.split_of_notMem ha]
  rfl

theorem openBracket_notMem_piece {inside after : List Char} (hi : '[' ∉ inside)
    (ha : '[' ∉ after)
    : '[' ∉ piece inside after := by
  simp [piece, hi, ha]

-----------------------------------------------------------------------------------------
-- Bodies fall into pieces
-----------------------------------------------------------------------------------------

/-- Two pieces in front of a text that begins with a bracket, or of nothing, are split off. -/
theorem split_boxes {front back rest : List Char} {later : List (List Char)} (hf : '[' ∉ front)
    (hb : '[' ∉ back) (hr : Text.split '[' rest = [] :: later)
    : Text.split '[' ('[' :: (front ++ '[' :: (back ++ rest))) = [] :: front :: back :: later := by
  rw [Text.split_cons_self, Text.split_append_cons, Text.split_of_notMem hf,
    Text.split_append_of_notMem hb hr, List.append_nil]
  rfl

/-- The brackets of a body lead to the pieces of its entries, by induction on the entries. -/
theorem split_join_fragments (client : Client) {entries : List Entry}
    (legible : ∀ entry ∈ entries, Legible entry)
    : Text.split '[' (Text.join "," (entries.map (engine client).fragment)).toList
      = [] :: pieces entries := by
  induction entries with
  | nil => rfl
  | cons entry rest ih =>
      have tail := ih fun later member => legible later (List.mem_cons_of_mem entry member)
      obtain ⟨front, back⟩ := notMem_insides (legible entry List.mem_cons_self) (.inl rfl)
      have frontPiece := openBracket_notMem_piece front (notMem_connection entry (.inl rfl))
      cases rest with
      | nil =>
          have backPiece := openBracket_notMem_piece back (List.not_mem_nil : '[' ∉ [])
          have whole := split_boxes frontPiece backPiece (rfl : Text.split '[' [] = [[]])
          simpa only [List.map_cons, List.map_nil, Text.join, toList_fragment, List.append_nil,
            pieces] using whole
      | cons next others =>
          have comma : '[' ∉ [','] := by simp
          have backPiece := openBracket_notMem_piece back comma
          -- The comma is the end of the second piece, up to the bracket of the next entry
          have whole := split_boxes frontPiece backPiece tail
          simp only [List.map_cons, Text.join, String.toList_append, toList_fragment,
            List.append_assoc, List.cons_append, piece, pieces] at whole ⊢
          exact whole

-----------------------------------------------------------------------------------------
-- Pieces are read back
-----------------------------------------------------------------------------------------

/-- The members of a part are split off what follows it, each with its ending. -/
theorem split_memberPart {ending : String} {members : List Member}
    (absent : ∀ member ∈ members, ';' ∉ member.name.toList) (call : ';' ∉ ending.toList)
    (rest : List Char)
    : Text.split ';' (memberPart ending members ++ rest)
      = members.map (fun member => member.name.toList ++ ending.toList) ++ Text.split ';' rest := by
  have terminated : memberPart ending members
      = (members.map fun member => member.name.toList ++ ending.toList).flatMap (· ++ [';']) := by
    rw [memberPart, List.flatMap_map]
  rw [terminated, Text.split_terminated_append]
  intro token found
  obtain ⟨member, hm, rfl⟩ := List.mem_map.mp found
  rw [List.mem_append, not_or]
  exact ⟨absent member hm, call⟩

/-- The members of a part are found again, each with its ending. -/
theorem readNames_memberPart {ending : String} {members : List Member}
    (plain : ∀ member ∈ members, IsPlain member.name.toList) (call : ';' ∉ ending.toList)
    : readNames (memberPart ending members)
      = members.map fun member => member.name.toList ++ ending.toList := by
  have semicolon : ';' ∈ delimiters := by simp [delimiters]
  have whole := split_memberPart (fun member hm => plain member hm ';' semicolon) call []
  rw [List.append_nil] at whole
  rw [readNames, whole]
  exact List.dropLast_concat

theorem kind_of_background (kind : Classifier.Kind)
    : (if background kind = background .interfaceNode then Classifier.Kind.interfaceNode
        else .classNode) = kind := by
  cases kind <;> decide

/-- A name of which nothing else is known is the member without its visibility. -/
theorem named_toList (member : Member) : named member.name.toList = member.withoutVisibility := by
  rw [named, String.ofList_toList]
  rfl

theorem split_frontInside {node : Classifier} (legible : Legible (.node node))
    : Text.split '\x7b' (frontInside (.node node))
      = [node.name.toList, background node.kind] := by
  have brace : '\x7b' ∈ delimiters := by simp [delimiters]
  have colours : '\x7b' ∉ background node.kind := by cases node.kind <;> decide
  rw [frontInside, Text.split_append_cons, Text.split_of_notMem (legible.1 '\x7b' brace),
    Text.split_of_notMem colours]
  rfl

/-- No part of a box has a bar of its own. -/
theorem bar_notMem_memberParts {node : Classifier}
    (absent : ∀ member ∈ node.properties ++ node.methods, '|' ∉ member.name.toList)
    : '|' ∉ memberPart "" node.properties ∧ '|' ∉ memberPart "()" node.methods := by
  have call : '|' ≠ ';' ∧ '|' ∉ "".toList ∧ '|' ∉ "()".toList := by simp
  obtain ⟨properties, methods⟩ := List.forall_mem_append.mp absent
  exact ⟨notMem_memberPart call.1 call.2.1 properties, notMem_memberPart call.1 call.2.2 methods⟩

/-- The box with the members of a legible node splits into its three parts. -/
theorem split_backInside {node : Classifier} (legible : Legible (.node node))
    : Text.split '|' (backInside (.node node))
      = [node.name.toList, memberPart "" node.properties, memberPart "()" node.methods] := by
  have bar : '|' ∈ delimiters := by simp [delimiters]
  obtain ⟨propertyPart, methodPart⟩ :=
    bar_notMem_memberParts fun member hm => legible.2 member hm '|' bar
  exact Text.split_three (legible.1 '|' bar) propertyPart methodPart

theorem filterMap_isSuffixOf?_call (methods : List Member)
    : (methods.map fun member => member.name.toList ++ "()".toList).filterMap
        ("()".toList.isSuffixOf? ·)
      = methods.map fun member => member.name.toList := by
  rw [List.filterMap_map, ← List.filterMap_eq_map]
  exact List.filterMap_congr fun member _ => Text.isSuffixOf?_append _ _

/-- The boxes of a legible node are read back, all but the visibilities. -/
theorem readNode_boxes {node : Classifier} (legible : Legible (.node node))
    : readNode (frontInside (.node node)) (backInside (.node node))
      = some (Entry.node node).withoutVisibility := by
  obtain ⟨properties, methods⟩ := isPlain_members legible
  have propertyNames : readNames (memberPart "" node.properties)
      = node.properties.map fun member => member.name.toList := by
    rw [readNames_memberPart properties (by simp)]
    exact List.map_congr_left fun member _ => List.append_nil _
  have methodNames : (readNames (memberPart "()" node.methods)).filterMap
        ("()".toList.isSuffixOf? ·)
      = node.methods.map fun member => member.name.toList := by
    rw [readNames_memberPart methods (by simp), filterMap_isSuffixOf?_call]
  simp only [readNode, split_frontInside legible, split_backInside legible, propertyNames,
    methodNames, List.map_map, kind_of_background, String.ofList_toList]
  simp only [Function.comp_def, named_toList, Entry.withoutVisibility]

/-- The two pieces of a legible entry are read back, whatever follows the second box. -/
theorem readEntry_pieces {entry : Entry} (legible : Legible entry) {after : List Char}
    (ha : ']' ∉ after)
    : readEntry (piece (frontInside entry) (connection entry)) (piece (backInside entry) after)
      = some entry.withoutVisibility := by
  obtain ⟨front, back⟩ := notMem_insides legible (.inr rfl)
  rw [readEntry, split_piece front (notMem_connection entry (.inr rfl)), split_piece back ha]
  cases entry with
  | edge edge => simp [connection, frontInside, backInside, Entry.withoutVisibility]
  | node node => simpa [connection] using readNode_boxes legible

/-- The pieces of legible entries are read back, by induction on the entries. -/
theorem readPieces_pieces {entries : List Entry} (legible : ∀ entry ∈ entries, Legible entry)
    : readPieces (pieces entries) = some (entries.map Entry.withoutVisibility) := by
  induction entries with
  | nil => rfl
  | cons entry rest ih =>
      have tail := ih fun later member => legible later (List.mem_cons_of_mem entry member)
      have head := legible entry List.mem_cons_self
      cases rest with
      | nil =>
          have last := readEntry_pieces head (List.not_mem_nil : ']' ∉ [])
          simp only [pieces, readPieces, last, Option.bind_eq_bind, Option.bind_some,
            Option.pure_def, List.map_cons, List.map_nil]
      | cons next others =>
          have comma : ']' ∉ [','] := by simp
          have first := readEntry_pieces head comma
          rw [pieces, readPieces, first, tail]
          -- The last clause of pieces holds only where another entry follows
          · rfl
          · exact List.cons_ne_nil next others

/-- A body is read back to the entries it was rendered from, all but the visibilities. -/
theorem decode_render (client : Client) {diagram : Diagram}
    (legible : ∀ entry ∈ diagram.entries, Legible entry)
    : decode ((engine client).render diagram)
      = some (diagram.entries.map Entry.withoutVisibility) := by
  change readPieces (Text.split '[' (Text.join "," _).toList).tail = _
  rw [split_join_fragments client legible, List.tail_cons, readPieces_pieces legible]

/-- No fragment shows a visibility, for any names. -/
theorem fragment_withoutVisibility (client : Client) (entry : Entry)
    : (engine client).fragment entry.withoutVisibility = (engine client).fragment entry := by
  have names (members : List Member) (ending : String)
      : (members.map Member.withoutVisibility).map (fun member => member.name ++ ending)
        = members.map fun member => member.name ++ ending := by
    rw [List.map_map]
    rfl
  cases entry with
  | edge edge => rfl
  | node node =>
      obtain ⟨name, kind, properties, methods⟩ := node
      cases kind <;>
        simp only [Entry.withoutVisibility, Engine.fragment, engine, Classifier.byKind, node, names]

/-- A body depends on the entries without their visibilities only. -/
theorem render_eq_of_withoutVisibility (client : Client) {left right : Diagram}
    (same : left.entries.map Entry.withoutVisibility = right.entries.map Entry.withoutVisibility)
    : (engine client).render left = (engine client).render right := by
  have fragments (diagram : Diagram)
      : diagram.entries.map (engine client).fragment
        = (diagram.entries.map Entry.withoutVisibility).map (engine client).fragment := by
    rw [List.map_map]
    exact List.map_congr_left fun entry _ => (fragment_withoutVisibility client entry).symm
  rw [Engine.render, Engine.render, fragments left, fragments right, same]

/-- Two diagrams have the same body when their entries are the same without visibilities, for any
names; for legible entries only then, and the body can be read back to all but the visibilities.
Witness: `decode` inverts rendering up to erasure.
-/
theorem bodies_eq_iff_erased_entries_eq {generator : Generator} {client : Client}
    (active : generator.registry.active = .ok (engine client)) (left right : Diagram)
    : ∃ leftBody rightBody,
        (generator.render left).result = .ok leftBody
        ∧ (generator.render right).result = .ok rightBody
        ∧ (left.entries.map Entry.withoutVisibility = right.entries.map Entry.withoutVisibility
            → leftBody = rightBody)
        ∧ ((∀ entry ∈ left.entries, Legible entry)
            → decode leftBody = some (left.entries.map Entry.withoutVisibility))
        ∧ ((∀ entry ∈ left.entries, Legible entry)
            → (∀ entry ∈ right.entries, Legible entry)
            → (leftBody = rightBody
                ↔ left.entries.map Entry.withoutVisibility
                  = right.entries.map Entry.withoutVisibility)) := by
  have renderedLeft := Generator.result_render_of_active active left
  have renderedRight := Generator.result_render_of_active active right
  refine ⟨_, _, renderedLeft, renderedRight, render_eq_of_withoutVisibility client,
    decode_render client, ?_⟩
  intro legibleLeft legibleRight
  refine ⟨?_, render_eq_of_withoutVisibility client⟩
  intro same
  have readLeft := decode_render client legibleLeft
  rw [same, decode_render client legibleRight] at readLeft
  exact (Option.some.inj readLeft).symm

/-- Two diagrams that differ in visibilities only, with a comma and a call in their names. -/
theorem bodies_of_commas_and_calls
    : let client := Client.ofUrl Client.publicUrl
      let generator : Generator := { registry := Registry.empty.add (engine client) }
      let diagram (visibility : Visibility) :=
        Diagram.ofEntries
          [
            .node
              {
                name := "a,b"
                kind := .interfaceNode
                properties := [⟨"", visibility⟩]
                methods := [⟨"f()", visibility⟩]
              },
            .edge ⟨"", "a,b"⟩
          ]
      let left := diagram .privateAccess
      let right := diagram .protectedAccess
      generator.registry.active = .ok (engine client)
      ∧ (∀ entry ∈ left.entries, Legible entry)
      ∧ (∀ entry ∈ right.entries, Legible entry)
      ∧ left.entries.map Entry.withoutVisibility = right.entries.map Entry.withoutVisibility
      ∧ ∃ leftBody rightBody,
          (generator.render left).result = .ok leftBody
          ∧ (generator.render right).result = .ok rightBody
          ∧ leftBody = rightBody
          ∧ decode leftBody = some (left.entries.map Entry.withoutVisibility) := by
  intro client generator diagram left right
  have active : generator.registry.active = .ok (engine client) := rfl
  have legible (visibility : Visibility)
      : ∀ entry ∈ (diagram visibility).entries, Legible entry := by
    simp [diagram, Legible, IsPlain, delimiters]
  have erased : left.entries.map Entry.withoutVisibility
      = right.entries.map Entry.withoutVisibility := rfl
  obtain ⟨leftBody, rightBody, rendered, other, same, read, -⟩ :=
    bodies_eq_iff_erased_entries_eq active left right
  exact ⟨active, legible _, legible _, erased, leftBody, rightBody, rendered, other, same erased,
    read (legible _)⟩

end Yuml

end ClassDiagram
