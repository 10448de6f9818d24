import ClassDiagram.Proofs.Declaration.Spelling
import ClassDiagram.Proofs.Json.ReaderInvariants

/-! Written declarations are read back up to modifiers that are kept as a text though the text is
the word of a keyword. Reading never gives such a modifier, so whatever was read once stays.
-/

namespace ClassDiagram

open Json

-----------------------------------------------------------------------------------------
-- Modifiers
-----------------------------------------------------------------------------------------

/-- The same modifier, as a keyword where its text is the word of one. -/
def Modifier.settled : Modifier → Modifier
  | keyword word => keyword word
  | other text => ((Keyword.all.find? (·.text == text)).map keyword).getD (other text)

theorem Modifier.settled_other (text : String) : (other text).settled = ofText text := by
  change ((Keyword.ofText? text).map keyword).getD (other text) = _
  unfold ofText
  cases Keyword.ofText? text <;> rfl

theorem Modifier.settled_spelledBy_toJson (modifier : Modifier)
    : modifier.settled.SpelledBy modifier.toJson := by
  cases modifier with
  | keyword word => exact .inl rfl
  | other text => exact ofText_eq_iff.mp (settled_other text).symm

/-- Only the words of keywords are changed. -/
theorem Modifier.settled_eq_self_iff {modifier : Modifier}
    : modifier.settled = modifier ↔ ∀ word : Keyword, modifier ≠ .other word.text := by
  cases modifier with
  | keyword word => simp [settled]
  | other text =>
      rw [settled_other, ofText_eq_iff]
      simp [SpelledBy, eq_comm]

theorem Modifier.SpelledBy.settled {modifier : Modifier} {json : Json}
    (spelled : modifier.SpelledBy json)
    : modifier.settled = modifier := by
  cases modifier with
  | keyword word => rfl
  | other text =>
      obtain ⟨-, free⟩ := spelled
      rw [settled_eq_self_iff]
      rintro word ⟨rfl⟩
      exact free word rfl

theorem Modifier.yields : Modifier.reader.Yields fun modifier => modifier.settled = modifier := by
  intro budget s modifier after taken
  unfold Modifier.reader at taken
  obtain ⟨read, -, taken⟩ := takes_bind_iff.mp taken
  split at taken
  · next found =>
      obtain ⟨rfl, -⟩ := takes_pure.mp taken
      exact (ofJson?_eq_some_iff.mp found).settled
  · exact absurd taken not_takes_error

namespace Declaration

-----------------------------------------------------------------------------------------
-- Modifiers of declarations
-----------------------------------------------------------------------------------------

section
variable (f : Modifier → Modifier)

/-! The same declarations with all modifiers changed. -/

def Member.mapModifiers (member : Member) : Member :=
  { member with modifiers := member.modifiers.map f }

def Body.mapModifiers (body : Body) : Body :=
  { body with
    properties := body.properties.map (Member.mapModifiers f)
    methods := body.methods.map (Member.mapModifiers f) }

def Class.mapModifiers (decl : Class) : Class :=
  { decl with toBody := decl.toBody.mapModifiers f }

def Interface.mapModifiers (decl : Interface) : Interface :=
  { decl with toBody := decl.toBody.mapModifiers f }

def File.mapModifiers (file : File) : File :=
  { file with
    classes := file.classes.map (Class.mapModifiers f)
    interfaces := file.interfaces.map (Interface.mapModifiers f) }

def Dump.mapModifiers (dump : Dump) : Dump :=
  { dump with files := dump.files.map (File.mapModifiers f) }

end

def Body.modifiers (body : Body) : List Modifier :=
  (body.properties ++ body.methods).flatMap (·.modifiers)

def File.modifiers (file : File) : List Modifier :=
  file.classes.flatMap (·.toBody.modifiers) ++ file.interfaces.flatMap (·.toBody.modifiers)

/-- All modifiers of all members. -/
def Dump.modifiers (dump : Dump) : List Modifier :=
  dump.files.flatMap (·.modifiers)

theorem map_eq_self_iff {α : Type} {f : α → α} {values : List α}
    : values.map f = values ↔ ∀ value ∈ values, f value = value := by
  simpa using List.map_inj_left (l := values) (f := f) (g := id)

section
variable {f : Modifier → Modifier}

theorem Member.mapModifiers_eq_self_iff {member : Member}
    : member.mapModifiers f = member ↔ ∀ modifier ∈ member.modifiers, f modifier = modifier := by
  obtain ⟨symbol, modifiers⟩ := member
  simp [mapModifiers, map_eq_self_iff]

theorem Body.mapModifiers_eq_self_iff {body : Body}
    : body.mapModifiers f = body ↔ ∀ modifier ∈ body.modifiers, f modifier = modifier := by
  obtain ⟨symbol, properties, methods⟩ := body
  simp only [mapModifiers, modifiers, Body.mk.injEq, map_eq_self_iff,
    Member.mapModifiers_eq_self_iff, List.forall_mem_flatMap, List.forall_mem_append, true_and]

theorem Class.mapModifiers_eq_self_iff {decl : Class}
    : decl.mapModifiers f = decl ↔ ∀ modifier ∈ decl.modifiers, f modifier = modifier := by
  obtain ⟨body, superclass, interfaces⟩ := decl
  simp [mapModifiers, Body.mapModifiers_eq_self_iff]

theorem Interface.mapModifiers_eq_self_iff {decl : Interface}
    : decl.mapModifiers f = decl ↔ ∀ modifier ∈ decl.modifiers, f modifier = modifier := by
  obtain ⟨body⟩ := decl
  simp [mapModifiers, Body.mapModifiers_eq_self_iff]

theorem File.mapModifiers_eq_self_iff {file : File}
    : file.mapModifiers f = file ↔ ∀ modifier ∈ file.modifiers, f modifier = modifier := by
  obtain ⟨path, classes, interfaces⟩ := file
  simp only [mapModifiers, modifiers, File.mk.injEq, map_eq_self_iff,
    Class.mapModifiers_eq_self_iff, Interface.mapModifiers_eq_self_iff, List.forall_mem_flatMap,
    List.forall_mem_append, true_and]

theorem Dump.mapModifiers_eq_self_iff {dump : Dump}
    : dump.mapModifiers f = dump ↔ ∀ modifier ∈ dump.modifiers, f modifier = modifier := by
  obtain ⟨files⟩ := dump
  simp only [mapModifiers, modifiers, Dump.mk.injEq, map_eq_self_iff,
    File.mapModifiers_eq_self_iff, List.forall_mem_flatMap]

end

/-- Exactly the declarations without the word of a keyword as a text are settled. -/
theorem Dump.settled_eq_self_iff {dump : Dump}
    : dump.mapModifiers Modifier.settled = dump
      ↔ ∀ word : Keyword, .other word.text ∉ dump.modifiers := by
  simp only [mapModifiers_eq_self_iff, Modifier.settled_eq_self_iff]
  constructor
  · exact fun free word found => free _ found word rfl
  · rintro free _ found word rfl
    exact free word found

-----------------------------------------------------------------------------------------
-- Written declarations
-----------------------------------------------------------------------------------------

theorem spellsOption_ofText? (text : Option String)
    : SpellsOption SpellsText text (.ofText? text) := by
  cases text <;> rfl

/-- A list is spelled by the list of what its values are written as. -/
theorem spellsList_map {α : Type} {Spells : α → Json → Prop} {f : α → α} {toJson : α → Json}
    (spelled : ∀ value, Spells (f value) (toJson value)) (values : List α)
    : SpellsList Spells (values.map f) (.list (values.map toJson)) := by
  refine ⟨_, rfl, ?_⟩
  rw [List.forall₂_map_left_iff, List.forall₂_map_right_iff, List.forall₂_same]
  exact fun value _ => spelled value

theorem Member.settled_spelledBy_toJson (member : Member)
    : (member.mapModifiers Modifier.settled).SpelledBy member.toJson := by
  refine spelledInObject_of_forall₂ madeOf.names_nodup (.cons ⟨rfl, ?_⟩ (.cons ⟨rfl, ?_⟩ .nil))
  · exact spellsOption_ofText? member.symbol
  · exact spellsList_map Modifier.settled_spelledBy_toJson member.modifiers

theorem Supertype.spelledBy_toJson (supertype : Supertype)
    : supertype.SpelledBy supertype.toJson := by
  refine spelledInObject_of_forall₂ madeOf.names_nodup (.cons ⟨rfl, ?_⟩ .nil)
  exact spellsOption_ofText? supertype.identifier

/-- Supertypes have no modifiers and are spelled as they are. -/
theorem Class.spellsList_interfaces (decl : Class)
    : SpellsList Supertype.SpelledBy decl.interfaces
        (.list (decl.interfaces.map Supertype.toJson)) := by
  simpa using spellsList_map (f := id) Supertype.spelledBy_toJson decl.interfaces

theorem Class.spellsOption_superclass (decl : Class)
    : SpellsOption Supertype.SpelledBy decl.superclass
        ((decl.superclass.map Supertype.toJson).getD .null) := by
  cases decl.superclass with
  | none => rfl
  | some superclass => exact superclass.spelledBy_toJson

theorem Class.settled_spelledBy_toJson (decl : Class)
    : (decl.mapModifiers Modifier.settled).SpelledBy decl.toJson := by
  refine spelledInObject_of_forall₂ madeOf.names_nodup
    (.cons ⟨rfl, ?_⟩ (.cons ⟨rfl, ?_⟩ (.cons ⟨rfl, ?_⟩ (.cons ⟨rfl, ?_⟩ (.cons ⟨rfl, ?_⟩ .nil)))))
  · exact spellsOption_ofText? decl.symbol
  · exact spellsList_map Member.settled_spelledBy_toJson decl.properties
  · exact spellsList_map Member.settled_spelledBy_toJson decl.methods
  · exact decl.spellsOption_superclass
  · exact decl.spellsList_interfaces

theorem Interface.settled_spelledBy_toJson (decl : Interface)
    : (decl.mapModifiers Modifier.settled).SpelledBy decl.toJson := by
  refine spelledInObject_of_forall₂ madeOf.names_nodup
    (.cons ⟨rfl, ?_⟩ (.cons ⟨rfl, ?_⟩ (.cons ⟨rfl, ?_⟩ .nil)))
  · exact spellsOption_ofText? decl.symbol
  · exact spellsList_map Member.settled_spelledBy_toJson decl.properties
  · exact spellsList_map Member.settled_spelledBy_toJson decl.methods

theorem File.settled_spelledBy_toJson (file : File)
    : (file.mapModifiers Modifier.settled).SpelledBy file.toJson := by
  refine spelledInObject_of_forall₂ madeOf.names_nodup
    (.cons ⟨rfl, ?_⟩ (.cons ⟨rfl, ?_⟩ (.cons ⟨rfl, ?_⟩ .nil)))
  · exact spellsOption_ofText? file.path
  · exact spellsList_map Class.settled_spelledBy_toJson file.classes
  · exact spellsList_map Interface.settled_spelledBy_toJson file.interfaces

theorem Dump.settled_spelledBy_toJson (dump : Dump)
    : (dump.mapModifiers Modifier.settled).SpelledBy dump.toJson := by
  refine spelledInObject_of_forall₂ madeOf.names_nodup (.cons ⟨rfl, ?_⟩ .nil)
  exact spellsList_map File.settled_spelledBy_toJson dump.files

/-- Whatever text declarations are written as, they are read back settled. -/
theorem Dump.parse_of_isText_toJson {dump : Dump} {text : String} (h : IsText text dump.toJson)
    : parse text = .ok (dump.mapModifiers Modifier.settled) :=
  (parse_eq_ok_iff_spelledBy h _).mpr dump.settled_spelledBy_toJson

-----------------------------------------------------------------------------------------
-- Read declarations
-----------------------------------------------------------------------------------------

/-- The modifiers are as they are read. -/
def Settled (modifiers : List Modifier) : Prop :=
  ∀ modifier ∈ modifiers, modifier.settled = modifier

theorem settled_nil : Settled [] := by
  simp [Settled]

theorem Body.settled_iff {body : Body}
    : Settled body.modifiers
      ↔ (∀ member ∈ body.properties, Settled member.modifiers)
        ∧ ∀ member ∈ body.methods, Settled member.modifiers := by
  simp only [Settled, modifiers, List.forall_mem_flatMap, List.forall_mem_append]

theorem File.settled_iff {file : File}
    : Settled file.modifiers
      ↔ (∀ decl ∈ file.classes, Settled decl.modifiers)
        ∧ ∀ decl ∈ file.interfaces, Settled decl.modifiers := by
  simp only [Settled, modifiers, List.forall_mem_flatMap, List.forall_mem_append]

theorem Dump.settled_iff {dump : Dump}
    : Settled dump.modifiers ↔ ∀ file ∈ dump.files, Settled file.modifiers := by
  simp only [Settled, modifiers, List.forall_mem_flatMap]

theorem Member.yields : reader.Yields fun member => Settled member.modifiers := by
  refine Reader.Record.yields ?_ settled_nil
  rw [record, List.forall_mem_cons, List.forall_mem_singleton]
  exact
    ⟨Reader.Yields.any.keeps _ _ fun _ _ _ => id,
      Modifier.yields.list.keeps _ _ fun _ _ settled _ => settled⟩

theorem Class.yields : reader.Yields fun decl => Settled decl.modifiers := by
  refine Reader.Record.yields ?_ settled_nil
  rw [record, List.forall_mem_cons, List.forall_mem_cons, List.forall_mem_cons,
    List.forall_mem_cons, List.forall_mem_singleton]
  exact
    ⟨Reader.Yields.any.keeps _ _ fun _ _ _ => id,
      Member.yields.list.keeps _ _ fun _ _ settled kept =>
        Body.settled_iff.mpr ⟨settled, (Body.settled_iff.mp kept).2⟩,
      Member.yields.list.keeps _ _ fun _ _ settled kept =>
        Body.settled_iff.mpr ⟨(Body.settled_iff.mp kept).1, settled⟩,
      Reader.Yields.any.keeps _ _ fun _ _ _ => id,
      Reader.Yields.any.keeps _ _ fun _ _ _ => id⟩

theorem Interface.yields : reader.Yields fun decl => Settled decl.modifiers := by
  refine Reader.Record.yields ?_ settled_nil
  rw [record, List.forall_mem_cons, List.forall_mem_cons, List.forall_mem_singleton]
  exact
    ⟨Reader.Yields.any.keeps _ _ fun _ _ _ => id,
      Member.yields.list.keeps _ _ fun _ _ settled kept =>
        Body.settled_iff.mpr ⟨settled, (Body.settled_iff.mp kept).2⟩,
      Member.yields.list.keeps _ _ fun _ _ settled kept =>
        Body.settled_iff.mpr ⟨(Body.settled_iff.mp kept).1, settled⟩⟩

theorem File.yields : reader.Yields fun file => Settled file.modifiers := by
  refine Reader.Record.yields ?_ settled_nil
  rw [record, List.forall_mem_cons, List.forall_mem_cons, List.forall_mem_singleton]
  exact
    ⟨Reader.Yields.any.keeps _ _ fun _ _ _ => id,
      Class.yields.list.keeps _ _ fun _ _ settled kept =>
        File.settled_iff.mpr ⟨settled, (File.settled_iff.mp kept).2⟩,
      Interface.yields.list.keeps _ _ fun _ _ settled kept =>
        File.settled_iff.mpr ⟨(File.settled_iff.mp kept).1, settled⟩⟩

theorem Dump.yields : reader.Yields fun dump => Settled dump.modifiers := by
  refine Reader.Record.yields ?_ settled_nil
  rw [record, List.forall_mem_singleton]
  exact File.yields.list.keeps _ _ fun _ _ settled _ => Dump.settled_iff.mpr settled

/-- Nothing that is read, from any text, has the word of a keyword as a text. -/
theorem Dump.settled_of_parse {text : String} {dump : Dump} (h : parse text = .ok dump)
    : dump.mapModifiers Modifier.settled = dump :=
  mapModifiers_eq_self_iff.mpr (yields.of_read (parse_eq_ok_iff.mp h))

/-- Written declarations are read back with each word of a keyword as that keyword and are otherwise
the same. They are unchanged exactly if no such word was kept as a text, as is the case for all that
was ever read.
-/
theorem Dump.reading_back_settles_modifiers (dump : Dump)
    : (∀ text,
          IsText text dump.toJson
          → Dump.parse text = .ok (dump.mapModifiers Modifier.settled))
      ∧ IsText dump.toJson.render dump.toJson
      ∧ (Dump.parse dump.toJson.render = .ok dump
        ↔ ∀ word : Keyword, .other word.text ∉ dump.modifiers)
      ∧ ∀ text,
          Dump.parse text = .ok dump
          → (∀ word : Keyword, .other word.text ∉ dump.modifiers)
            ∧ Dump.parse dump.toJson.render = .ok dump := by
  have rendered := parse_of_isText_toJson (isText_render dump.toJson)
  refine ⟨fun text => parse_of_isText_toJson, isText_render dump.toJson, ?_, fun text parsed => ?_⟩
  · rw [rendered, Except.ok.injEq, settled_eq_self_iff]
  · have settled := settled_of_parse parsed
    exact ⟨settled_eq_self_iff.mp settled, by rw [rendered, settled]⟩

/-- A text that differs from the word of a keyword in one letter is not changed. -/
theorem Dump.hidden_keyword_is_read_once
    : let declaring (modifiers : List Modifier) : Dump :=
        ⟨[{ classes := [{ properties := [⟨some "p", modifiers⟩], superclass := some {} }] }]⟩
      let hidden := declaring [.other "static", .other "Static"]
      let settled := declaring [.keyword .static, .other "Static"]
      (IsText hidden.toJson.render hidden.toJson
        ∧ Dump.parse hidden.toJson.render = .ok settled)
      ∧ Dump.parse hidden.toJson.render ≠ .ok hidden
      ∧ Dump.parse settled.toJson.render = .ok settled := by
  intro declaring hidden settled
  have text := (reading_back_settles_modifiers hidden).2.1
  have changed : hidden.mapModifiers Modifier.settled = settled := by decide
  have parsed : parse hidden.toJson.render = .ok settled := by
    rw [(reading_back_settles_modifiers hidden).1 _ text, changed]
  have different : settled ≠ hidden := by decide
  refine ⟨⟨text, parsed⟩, ?_, ((reading_back_settles_modifiers settled).2.2.2 _ parsed).2⟩
  rw [parsed, ne_eq, Except.ok.injEq]
  exact different

end Declaration

end ClassDiagram
