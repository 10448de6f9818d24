import ClassDiagram.Declaration.Format
import ClassDiagram.Proofs.Json.RenderedTexts
import ClassDiagram.Proofs.Json.SpelledRecords

/-! Reading declarations accepts exactly their spellings as JSON. A spelling says of each record, at
any depth, which values its fields may have and which of them may be left out; nothing in it depends
on how declarations are read.
-/

namespace ClassDiagram

open Json

-----------------------------------------------------------------------------------------
-- Modifiers
-----------------------------------------------------------------------------------------

/-- A keyword is spelled by its word, or by an object with that word as its only key and without a
value. All other texts spell themselves.
-/
def Modifier.SpelledBy : Modifier → Json → Prop
  | keyword word, json => json = .text word.text ∨ json = .object [(word.text, .null)]
  | other text, json => json = .text text ∧ ∀ word : Keyword, word.text ≠ text

theorem Keyword.mem_all (word : Keyword) : word ∈ all := by
  cases word with
  | access visibility => cases visibility <;> decide
  | static | readonly | abstract => decide

example : Keyword.all.map Keyword.text
    = ["public", "protected", "private", "static", "readonly", "abstract"] := by
  decide

/-- No two keywords have the same word. -/
theorem Keyword.text_injective : Function.Injective text := by
  have distinct : ∀ word ∈ all, ∀ other ∈ all, word.text = other.text → word = other := by decide
  exact fun word other => distinct word word.mem_all other other.mem_all

theorem Keyword.ofText?_eq_some_iff {text : String} {word : Keyword}
    : ofText? text = some word ↔ word.text = text := by
  constructor
  · intro found
    simpa using List.find?_some found
  · rintro rfl
    have found : (ofText? word.text).isSome := by
      rw [ofText?, List.find?_isSome]
      exact ⟨word, word.mem_all, by simp⟩
    obtain ⟨other, ho⟩ := Option.isSome_iff_exists.mp found
    have same : other.text = word.text := by simpa using List.find?_some ho
    rw [ho, text_injective same]

theorem Keyword.ofText?_eq_none_iff {text : String}
    : ofText? text = none ↔ ∀ word : Keyword, word.text ≠ text := by
  simp [Option.eq_none_iff_forall_ne_some, ofText?_eq_some_iff]

/-- A text stands for the modifier that it spells. -/
theorem Modifier.ofText_eq_iff {text : String} {modifier : Modifier}
    : ofText text = modifier ↔ modifier.SpelledBy (.text text) := by
  unfold ofText
  cases found : Keyword.ofText? text with
  | none =>
      have free := Keyword.ofText?_eq_none_iff.mp found
      cases modifier with
      | keyword word => simp [SpelledBy, (free word).symm]
      | other named =>
          constructor
          · rintro ⟨rfl⟩
            exact ⟨rfl, free⟩
          · rintro ⟨⟨rfl⟩, -⟩
            rfl
  | some word =>
      obtain rfl := Keyword.ofText?_eq_some_iff.mp found
      cases modifier with
      | keyword another => simp [SpelledBy, Keyword.text_injective.eq_iff]
      | other named =>
          simp only [reduceCtorEq, false_iff]
          rintro ⟨⟨rfl⟩, free⟩
          exact free word rfl

/-- A modifier is taken from a value if the value spells it. -/
theorem Modifier.ofJson?_eq_some_iff {json : Json} {modifier : Modifier}
    : ofJson? json = some modifier ↔ modifier.SpelledBy json := by
  unfold ofJson?
  split
  · next text => rw [Option.some.injEq, ofText_eq_iff]
  · next key =>
      simp only [Option.map_eq_some_iff, Keyword.ofText?_eq_some_iff]
      cases modifier with
      | keyword word => simp [SpelledBy, eq_comm]
      | other named => simp [SpelledBy]
  · next noText noObject =>
      simp only [reduceCtorEq, false_iff]
      cases modifier with
      | keyword word =>
          rintro (rfl | rfl)
          · exact noText _ rfl
          · exact noObject _ rfl
      | other named =>
          rintro ⟨rfl, -⟩
          exact noText _ rfl

/-- What spells a modifier is read with one open bracket at most. -/
theorem Modifier.SpelledBy.readable {modifier : Modifier} {json : Json}
    (spelled : modifier.SpelledBy json) {budget : Nat} (enough : 1 ≤ budget)
    : Readable budget json := by
  obtain ⟨inner, rfl⟩ := Nat.exists_eq_add_of_le' enough
  cases modifier with
  | keyword word => obtain rfl | rfl := spelled <;> simp [Readable]
  | other named =>
      obtain ⟨rfl, -⟩ := spelled
      simp [Readable]

theorem Modifier.reads : Modifier.reader.Reads 1 Modifier.SpelledBy := by
  intro budget enough s rest json h modifier after
  have any := agrees_readAny budget h
  unfold Modifier.reader
  constructor
  · intro taken
    obtain ⟨read, found, taken⟩ := takes_bind_iff.mp taken
    obtain ⟨⟨-, rfl⟩, rfl⟩ := (any read.value read.rest).mp ⟨read.shorter, found⟩
    split at taken
    · next spelled =>
        obtain ⟨rfl, rfl⟩ := takes_pure.mp taken
        exact ⟨ofJson?_eq_some_iff.mp spelled, rfl⟩
    · exact absurd taken not_takes_error
  · rintro ⟨spelled, rfl⟩
    obtain ⟨_, found⟩ := (any json after).mpr ⟨⟨spelled.readable enough, rfl⟩, rfl⟩
    refine takes_bind_iff.mpr ⟨_, found, ?_⟩
    dsimp only
    rw [ofJson?_eq_some_iff.mpr spelled]
    exact ⟨_, rfl⟩

-----------------------------------------------------------------------------------------
-- Records
-----------------------------------------------------------------------------------------

namespace Declaration

def Member.SpelledBy (member : Member) : Json → Prop :=
  SpelledAsRecord
    [
      .optional "symbol" SpellsText member.symbol,
      .list "modifiers" Modifier.SpelledBy member.modifiers
    ]

def Supertype.SpelledBy (supertype : Supertype) : Json → Prop :=
  SpelledAsRecord [.optional "identifier" SpellsText supertype.identifier]

def Class.SpelledBy (decl : Class) : Json → Prop :=
  SpelledAsRecord
    [
      .optional "symbol" SpellsText decl.symbol,
      .list "properties" Member.SpelledBy decl.properties,
      .list "methods" Member.SpelledBy decl.methods,
      .optional "extends" Supertype.SpelledBy decl.superclass,
      .list "implements" Supertype.SpelledBy decl.interfaces
    ]

def Interface.SpelledBy (decl : Interface) : Json → Prop :=
  SpelledAsRecord
    [
      .optional "symbol" SpellsText decl.symbol,
      .list "properties" Member.SpelledBy decl.properties,
      .list "methods" Member.SpelledBy decl.methods
    ]

def File.SpelledBy (file : File) : Json → Prop :=
  SpelledAsRecord
    [
      .optional "path" SpellsText file.path,
      .list "classes" Class.SpelledBy file.classes,
      .list "interfaces" Interface.SpelledBy file.interfaces
    ]

def Dump.SpelledBy (dump : Dump) : Json → Prop :=
  SpelledAsRecord [.list "files" File.SpelledBy dump.files]

-----------------------------------------------------------------------------------------
-- Readers of records
-----------------------------------------------------------------------------------------

def Member.parts : List (RecordPart Member) :=
  [
    .optional "symbol" Reader.text SpellsText symbol fun symbol member => { member with symbol },
    .list "modifiers" Modifier.reader Modifier.SpelledBy modifiers fun modifiers member =>
      { member with modifiers }
  ]

theorem Member.madeOf : record.MadeOf parts where
  fields_eq := rfl
  names_nodup := by decide
  get_set_other := by simp [parts, RecordPart.optional, RecordPart.list]
  ext := by
    rintro ⟨⟩ ⟨⟩
    simp [parts, RecordPart.optional, RecordPart.list]

theorem reads_symbol : (Reader.nullable Reader.text).Reads 0 (SpellsOption SpellsText) :=
  reads_text.nullable (by simp [SpellsText])

theorem Member.reads : reader.Reads 3 SpelledBy := by
  refine madeOf.reads ?_
  rw [parts, List.forall_mem_cons, List.forall_mem_singleton]
  exact ⟨reads_symbol.mono (by decide), Modifier.reads.list⟩

def Supertype.parts : List (RecordPart Supertype) :=
  [
    .optional "identifier" Reader.text SpellsText identifier fun identifier supertype =>
      { supertype with identifier }
  ]

theorem Supertype.madeOf : record.MadeOf parts where
  fields_eq := rfl
  names_nodup := by decide
  get_set_other := by simp [parts]
  ext := by
    rintro ⟨⟩ ⟨⟩
    simp [parts, RecordPart.optional]

theorem Supertype.reads : reader.Reads 1 SpelledBy := by
  refine madeOf.reads ?_
  rw [parts, List.forall_mem_singleton]
  exact reads_symbol

/-- An unresolved supertype is not the same as none. -/
theorem Supertype.not_spelledBy_null (supertype : Supertype) : ¬ supertype.SpelledBy .null :=
  id

def Class.parts : List (RecordPart Class) :=
  [
    .optional "symbol" Reader.text SpellsText (·.symbol) fun symbol decl => { decl with symbol },
    .list "properties" Member.reader Member.SpelledBy (·.properties) fun properties decl =>
      { decl with properties },
    .list "methods" Member.reader Member.SpelledBy (·.methods) fun methods decl =>
      { decl with methods },
    .optional "extends" Supertype.reader Supertype.SpelledBy superclass fun superclass decl =>
      { decl with superclass },
    .list "implements" Supertype.reader Supertype.SpelledBy interfaces fun interfaces decl =>
      { decl with interfaces }
  ]

theorem Class.madeOf : record.MadeOf parts where
  fields_eq := rfl
  names_nodup := by decide
  get_set_other := by simp [parts, RecordPart.optional, RecordPart.list]
  ext := by
    rintro ⟨⟨⟩⟩ ⟨⟨⟩⟩
    simp +contextual [parts, RecordPart.optional, RecordPart.list]

theorem Class.reads : reader.Reads 5 SpelledBy := by
  refine madeOf.reads ?_
  rw [parts, List.forall_mem_cons, List.forall_mem_cons, List.forall_mem_cons,
    List.forall_mem_cons, List.forall_mem_singleton]
  exact
    ⟨reads_symbol.mono (by decide), Member.reads.list, Member.reads.list,
      (Supertype.reads.nullable Supertype.not_spelledBy_null).mono (by decide),
      Supertype.reads.list.mono (by decide)⟩

def Interface.parts : List (RecordPart Interface) :=
  [
    .optional "symbol" Reader.text SpellsText (·.symbol) fun symbol decl => { decl with symbol },
    .list "properties" Member.reader Member.SpelledBy (·.properties) fun properties decl =>
      { decl with properties },
    .list "methods" Member.reader Member.SpelledBy (·.methods) fun methods decl =>
      { decl with methods }
  ]

theorem Interface.madeOf : record.MadeOf parts where
  fields_eq := rfl
  names_nodup := by decide
  get_set_other := by simp [parts, RecordPart.optional, RecordPart.list]
  ext := by
    rintro ⟨⟨⟩⟩ ⟨⟨⟩⟩
    simp +contextual [parts, RecordPart.optional, RecordPart.list]

theorem Interface.reads : reader.Reads 5 SpelledBy := by
  refine madeOf.reads ?_
  rw [parts, List.forall_mem_cons, List.forall_mem_cons, List.forall_mem_singleton]
  exact ⟨reads_symbol.mono (by decide), Member.reads.list, Member.reads.list⟩

def File.parts : List (RecordPart File) :=
  [
    .optional "path" Reader.text SpellsText path fun path file => { file with path },
    .list "classes" Class.reader Class.SpelledBy classes fun classes file =>
      { file with classes },
    .list "interfaces" Interface.reader Interface.SpelledBy interfaces fun interfaces file =>
      { file with interfaces }
  ]

theorem File.madeOf : record.MadeOf parts where
  fields_eq := rfl
  names_nodup := by decide
  get_set_other := by simp [parts, RecordPart.optional, RecordPart.list]
  ext := by
    rintro ⟨⟩ ⟨⟩
    simp +contextual [parts, RecordPart.optional, RecordPart.list]

theorem File.reads : reader.Reads 7 SpelledBy := by
  refine madeOf.reads ?_
  rw [parts, List.forall_mem_cons, List.forall_mem_cons, List.forall_mem_singleton]
  exact ⟨reads_symbol.mono (by decide), Class.reads.list, Interface.reads.list⟩

def Dump.parts : List (RecordPart Dump) :=
  [.list "files" File.reader File.SpelledBy files fun files dump => { dump with files }]

theorem Dump.madeOf : record.MadeOf parts where
  fields_eq := rfl
  names_nodup := by decide
  get_set_other := by simp [parts]
  ext := by
    rintro ⟨⟩ ⟨⟩
    simp [parts, RecordPart.list]

theorem Dump.reads : reader.Reads 9 SpelledBy := by
  refine madeOf.reads ?_
  rw [parts, List.forall_mem_singleton]
  exact File.reads.list

-----------------------------------------------------------------------------------------
-- Whole texts
-----------------------------------------------------------------------------------------

theorem Dump.parse_eq_ok_iff {text : String} {dump : Dump}
    : parse text = .ok dump ↔ Json.read reader text = .ok dump := by
  rw [parse]
  cases Json.read reader text <;> simp [Except.mapError]

/-- What a text of a value is parsed as, the value spells. -/
theorem Dump.parse_eq_ok_iff_spelledBy {text : String} {json : Json} (h : IsText text json)
    (dump : Dump)
    : parse text = .ok dump ↔ dump.SpelledBy json := by
  rw [parse_eq_ok_iff, reads.read_eq_ok_iff (by decide) h]

/-- A text that is not parsed is reported as invalid input. -/
theorem Dump.parse_eq_error_of_ne_ok {text : String} (h : ∀ dump, parse text ≠ .ok dump)
    : ∃ reason, parse text = .error (.invalidInput reason) := by
  unfold parse at h ⊢
  cases taken : Json.read reader text with
  | ok dump => exact absurd (by rw [taken]; rfl) (h dump)
  | error error => exact ⟨error.message, rfl⟩

/-- Each value has a text, and from all texts of a value exactly those declarations are parsed that
it spells. A value that spells none is invalid input.
-/
theorem Dump.parse_accepts_exactly_spellings (json : Json)
    : IsText json.render json
      ∧ ∀ text,
          IsText text json
          → (∀ dump : Dump, Dump.parse text = .ok dump ↔ dump.SpelledBy json)
            ∧ ((∀ dump : Dump, ¬ dump.SpelledBy json)
              → ∃ reason, Dump.parse text = .error (.invalidInput reason)) := by
  refine ⟨isText_render json, fun text h => ⟨parse_eq_ok_iff_spelledBy h, fun none => ?_⟩⟩
  apply parse_eq_error_of_ne_ok
  intro dump parsed
  exact none dump ((parse_eq_ok_iff_spelledBy h dump).mp parsed)

/-- Lists in place of objects, keys without a meaning and a keyword as an object are accepted, and
`null` in place of a list is not.
-/
theorem Dump.mixed_spelling_is_parsed
    : let property : Json :=
        .list [.text "p", .list [.object [("private", .null)], .text "override"]]
      let decl : Json :=
        .object
          [("extends", .list [.null]), ("properties", .list [property]), ("symbol", .text "A")]
      let numeral : Numeral := { whole := 1, exponent := some { leading := 9, further := [9, 9] } }
      let mixed : Json :=
        .object
          [
            ("note", .list [.number numeral, .object []]),
            ("files", .list [.list [.null, .list [decl]]]),
            ("note", .null)
          ]
      let absent : Json := .object [("files", .null)]
      let read : Class :=
        {
          symbol := some "A"
          properties := [⟨some "p", [.keyword (.access .privateAccess), .other "override"]⟩]
          superclass := some {}
        }
      (IsText mixed.render mixed ∧ Dump.parse mixed.render = .ok ⟨[{ classes := [read] }]⟩)
      ∧ IsText absent.render absent
      ∧ (∀ dump : Dump, ¬ dump.SpelledBy absent)
      ∧ ∃ reason, Dump.parse absent.render = .error (.invalidInput reason) := by
  intro property decl numeral mixed absent read
  have mixedText := (parse_accepts_exactly_spellings mixed).1
  have absentText := (parse_accepts_exactly_spellings absent).1
  have unspelled (dump : Dump) : ¬ dump.SpelledBy absent := by
    simp [absent, SpelledBy, SpelledAsRecord, SpelledInObject, FieldSpelling.list,
      FieldSpelling.SpelledByAll, SpellsList]
  have privateWord : (Keyword.access .privateAccess).text = "private" := rfl
  have free : ∀ word : Keyword, word.text ≠ "override" :=
    Keyword.ofText?_eq_none_iff.mp (by decide)
  refine ⟨⟨mixedText, ?_⟩, absentText, unspelled, ?_⟩
  · rw [((parse_accepts_exactly_spellings mixed).2 _ mixedText).1]
    simp [mixed, decl, property, read, SpelledBy, File.SpelledBy, Class.SpelledBy, Member.SpelledBy,
      Supertype.SpelledBy, Modifier.SpelledBy, privateWord, SpelledAsRecord,
      SpelledInObject, SpelledInList, FieldSpelling.list, FieldSpelling.optional,
      FieldSpelling.SpelledByAll, SpellsList, SpellsOption, SpellsText, valuesOf, free]
  · exact ((parse_accepts_exactly_spellings absent).2 _ absentText).2 unspelled

end Declaration

end ClassDiagram
