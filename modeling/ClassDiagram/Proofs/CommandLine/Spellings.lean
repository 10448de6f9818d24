import ClassDiagram.CommandLine.Parse
import Mathlib.Data.List.TakeWhile

/-! The ways to write options. However an option is written, reading its words comes to noting the
option, so that only the options and their order decide what a level of the command line comes to.
-/

namespace ClassDiagram.CommandLine

-----------------------------------------------------------------------------------------
-- Writing options
-----------------------------------------------------------------------------------------

/-- The names of an option. -/
structure OptionNames where
  long : String
  short : Option Char := none

/-- The words write an option with these names, with its value if there is one. -/
inductive OptionNames.Write (names : OptionNames) : Option String → List String → Prop
  | long : names.Write none ["--" ++ names.long]
  | longEquals (value : String) : names.Write (some value) ["--" ++ names.long ++ "=" ++ value]
  | longApart (value : String) : names.Write (some value) ["--" ++ names.long, value]
  | short (letter : Char) (known : names.short = some letter)
    : names.Write none ["-" ++ letter.toString]
  | shortJoined (letter : Char) (known : names.short = some letter) (value : String)
    : names.Write (some value) ["-" ++ letter.toString ++ value]
  | shortEquals (letter : Char) (known : names.short = some letter) (value : String)
    : names.Write (some value) ["-" ++ letter.toString ++ "=" ++ value]
  | shortApart (letter : Char) (known : names.short = some letter) (value : String)
    : names.Write (some value) ["-" ++ letter.toString, value]

/-- How settings are written: each sets an option, which has names, and perhaps gives it a value. -/
structure Writing (ι τ : Type) where
  option : τ → ι
  names : τ → OptionNames
  value : τ → Option String

/-- The words write the settings one after another. -/
inductive Writing.Write {ι τ : Type} (writing : Writing ι τ) : List τ → List String → Prop
  | nil : writing.Write [] []
  | cons {setting : τ} {settings : List τ} {words others : List String}
    (first : (writing.names setting).Write (writing.value setting) words)
    (later : writing.Write settings others)
    : writing.Write (setting :: settings) (words ++ others)

/-- A text that is taken for a value wherever one may stand. -/
structure IsPlainText (text : String) : Prop where
  nonempty : text ≠ ""
  noEquals : text.toList.head? ≠ some '='
  noDash : text.toList.head? = some '-' → text = "-"

instance (text : String) : Decidable (IsPlainText text) :=
  decidable_of_iff
    (text ≠ "" ∧ text.toList.head? ≠ some '=' ∧ (text.toList.head? = some '-' → text = "-"))
    ⟨fun ⟨nonempty, noEquals, noDash⟩ => ⟨nonempty, noEquals, noDash⟩,
      fun ⟨nonempty, noEquals, noDash⟩ => ⟨nonempty, noEquals, noDash⟩⟩

/-- The value of a setting, if it has one, is plain text. -/
def Writing.IsPlain {ι τ : Type} (writing : Writing ι τ) (setting : τ) : Prop :=
  ∀ text, writing.value setting = some text → IsPlainText text

namespace Level

variable {ι σ τ : Type} {level : Level ι σ}

/-- A level knows the names of the option that is set, and the value is as it has to be. -/
structure Understands (level : Level ι σ) (writing : Writing ι τ) (setting : τ) : Prop where
  long : level.long (writing.names setting).long = some (writing.option setting)
  noEquals : '=' ∉ (writing.names setting).long.toList
  named : (writing.names setting).long ≠ ""
  short
    : ∀ letter,
        (writing.names setting).short = some letter
        → letter ≠ '-' ∧ level.short letter = some (writing.option setting)
  takesValue : level.takesValue (writing.option setting) = (writing.value setting).isSome
  plain : writing.IsPlain setting

-----------------------------------------------------------------------------------------
-- Reading a word
-----------------------------------------------------------------------------------------

theorem cutLong_name {name : List Char} (noEquals : '=' ∉ name)
    : cutLong name = (String.ofList name, none) := by
  have whole : name.takeWhile (· ≠ '=') = name := by
    apply List.takeWhile_eq_self_iff.mpr
    intro c member
    simpa using ne_of_mem_of_not_mem member noEquals
  simp only [cutLong, whole, List.drop_length]

theorem cutLong_equals {name : List Char} (noEquals : '=' ∉ name) (value : List Char)
    : cutLong (name ++ '=' :: value) = (String.ofList name, some (String.ofList value)) := by
  have front : (name ++ '=' :: value).takeWhile (· ≠ '=') = name := by
    rw [List.takeWhile_append_of_pos]
    · simp
    · intro c member
      simpa using ne_of_mem_of_not_mem member noEquals
  simp only [cutLong, front, List.drop_left]

theorem readWords_long {word : String} {text : List Char}
    (written : word.toList = '-' :: '-' :: text) (nonempty : text ≠ [])
    (noCommand : word ∉ level.commands) {name : String} {value : Option String}
    (cut : cutLong text = (name, value)) {option : ι} (known : level.long name = some option)
    (progress : Progress ι σ) (rest : List String)
    : level.readWords progress (word :: rest)
      = (level.option option value progress >>= (level.readWords · rest)) := by
  obtain ⟨c, others, rfl⟩ := List.exists_cons_of_ne_nil nonempty
  simp [readWords, noCommand, written, cut, known]

theorem readWords_short {word : String} {letter : Char} {text : List Char}
    (written : word.toList = '-' :: letter :: text) (noDash : letter ≠ '-')
    (noCommand : word ∉ level.commands) (progress : Progress ι σ) (rest : List String)
    : level.readWords progress (word :: rest)
      = (level.readShort progress (letter :: text) >>= (level.readWords · rest)) := by
  simp [readWords, noCommand, written, noDash]

/-- A plain text after an option that waits for its value is that value. -/
theorem readWords_value {word : String} (plain : IsPlainText word) {option : ι} {known : σ}
    (rest : List String)
    : level.readWords { known, pending := some (option, none) } (word :: rest)
      = level.readWords { known, pending := some (option, some word) } rest := by
  by_cases dash : word = "-"
  · subst dash
    simp [readWords, Progress.awaitsValue]
  · cases hw : word.toList with
    | nil => simp [readWords, Progress.awaitsValue, hw]
    | cons c text =>
        have noDash : c ≠ '-' := by
          rintro rfl
          exact dash (plain.noDash (by rw [hw]; rfl))
        simp [readWords, Progress.awaitsValue, hw, noDash]

-----------------------------------------------------------------------------------------
-- Reading an option
-----------------------------------------------------------------------------------------

/-- Notes an option, with its value if it has one. -/
def note (level : Level ι σ) (option : ι) (value : Option String) (known : σ)
    : Except Refusal σ :=
  match value with
  | none => level.raise option known
  | some value => level.assign option value known

/-- An option with its value is noted once what is pending is settled. -/
theorem option_bind_readWords {option : ι} {value : Option String}
    (takesValue : level.takesValue option = value.isSome) (progress : Progress ι σ)
    (rest : List String)
    : (level.option option value progress >>= (level.readWords · rest))
      = (progress.settle level >>= fun known =>
          level.note option value known >>= fun known => level.readWords { known } rest) := by
  have noted : level.option option value progress
      = (progress.settle level >>= fun known =>
          level.note option value known >>= fun known => pure { known }) := by
    cases value <;> simp only [Level.option, takesValue] <;> rfl
  simp only [noted, bind_assoc, pure_bind]

/-- An option without its value is pending with the next word. -/
theorem option_none_bind_readWords {option : ι} (takesValue : level.takesValue option = true)
    {text : String} (plain : IsPlainText text) (progress : Progress ι σ) (rest : List String)
    : (level.option option none progress >>= (level.readWords · (text :: rest)))
      = (progress.settle level >>= fun known =>
          level.readWords { known, pending := some (option, some text) } rest) := by
  have waiting : level.option option none progress
      = (progress.settle level >>= fun known =>
          pure { known, pending := some (option, none) }) := by
    simp only [Level.option, takesValue]
  simp only [waiting, bind_assoc, pure_bind, readWords_value plain]

theorem readShort_alone {letter : Char} {option : ι} (known : level.short letter = some option)
    (progress : Progress ι σ)
    : level.readShort progress [letter] = level.option option none progress := by
  cases takesValue : level.takesValue option with
  | true => simp only [readShort, known, takesValue, if_true]
  | false =>
      simp only [readShort, known, takesValue, Bool.false_eq_true, if_false]
      cases level.option option none progress <;> rfl

/-- A value may follow the letter, with or without an equals sign. -/
theorem readShort_value {letter : Char} {option : ι} (known : level.short letter = some option)
    (takesValue : level.takesValue option = true) {text : String} (plain : IsPlainText text)
    (progress : Progress ι σ)
    : level.readShort progress (letter :: text.toList)
        = level.option option (some text) progress
      ∧ level.readShort progress (letter :: '=' :: text.toList)
        = level.option option (some text) progress := by
  constructor
  · cases hw : text.toList with
    | nil => exact absurd (String.toList_eq_nil_iff.mp hw) plain.nonempty
    | cons c others =>
        have noEquals : c ≠ '=' := by
          rintro rfl
          exact plain.noEquals (by rw [hw]; rfl)
        have whole : String.ofList (c :: others) = text := by rw [← hw, String.ofList_toList]
        simp [readShort, known, takesValue, noEquals, whole]
  · simp [readShort, known, takesValue]

/-- No command looks like an option. -/
def HasPlainCommands (level : Level ι σ) : Prop :=
  ∀ word ∈ level.commands, word.toList.head? ≠ some '-'

section Written

variable {writing : Writing ι τ} {setting : τ} (understood : level.Understands writing setting)
  (plainCommands : level.HasPlainCommands)

include understood plainCommands

theorem readWords_longName (progress : Progress ι σ) (rest : List String)
    : level.readWords progress (("--" ++ (writing.names setting).long) :: rest)
      = (level.option (writing.option setting) none progress >>= (level.readWords · rest)) := by
  have written : ("--" ++ (writing.names setting).long).toList
      = '-' :: '-' :: (writing.names setting).long.toList := by simp
  have noCommand : "--" ++ (writing.names setting).long ∉ level.commands :=
    fun member => plainCommands _ member (by rw [written]; rfl)
  have nonempty : (writing.names setting).long.toList ≠ [] := by simpa using understood.named
  have cut := cutLong_name understood.noEquals
  rw [String.ofList_toList] at cut
  exact readWords_long written nonempty noCommand cut understood.long progress rest

theorem readWords_longEquals (value : String) (progress : Progress ι σ) (rest : List String)
    : level.readWords progress (("--" ++ (writing.names setting).long ++ "=" ++ value) :: rest)
      = (level.option (writing.option setting) (some value) progress
          >>= (level.readWords · rest)) := by
  have written : ("--" ++ (writing.names setting).long ++ "=" ++ value).toList
      = '-' :: '-' :: ((writing.names setting).long.toList ++ '=' :: value.toList) := by simp
  have noCommand : "--" ++ (writing.names setting).long ++ "=" ++ value ∉ level.commands :=
    fun member => plainCommands _ member (by rw [written]; rfl)
  have cut := cutLong_equals understood.noEquals value.toList
  rw [String.ofList_toList, String.ofList_toList] at cut
  exact readWords_long written (by simp) noCommand cut understood.long progress rest

theorem readWords_letter {letter : Char} (known : (writing.names setting).short = some letter)
    {word : String} {text : List Char} (written : word.toList = '-' :: letter :: text)
    (progress : Progress ι σ) (rest : List String)
    : level.readWords progress (word :: rest)
      = (level.readShort progress (letter :: text) >>= (level.readWords · rest)) := by
  have noCommand : word ∉ level.commands :=
    fun member => plainCommands _ member (by rw [written]; rfl)
  exact readWords_short written (understood.short letter known).1 noCommand progress rest

/-- The words of an option first settle what is pending, and then note the option, at once or when
it is settled in turn; by cases on how the option is written.
-/
theorem readWords_of_write {words : List String}
    (written : (writing.names setting).Write (writing.value setting) words)
    (progress : Progress ι σ) (rest : List String)
    : level.readWords progress (words ++ rest)
        = (progress.settle level >>= fun known =>
            level.note (writing.option setting) (writing.value setting) known >>= fun known =>
              level.readWords { known } rest)
      ∨ ∃ text,
          writing.value setting = some text
          ∧ level.readWords progress (words ++ rest)
            = (progress.settle level >>= fun known =>
                level.readWords
                  { known, pending := some (writing.option setting, some text) } rest) := by
  have takesValue := understood.takesValue
  have plain : ∀ text, writing.value setting = some text → IsPlainText text := understood.plain
  generalize hv : writing.value setting = value at written takesValue plain
  cases written with
  | long =>
      left
      rw [List.singleton_append, readWords_longName understood plainCommands]
      exact option_bind_readWords takesValue progress rest
  | longEquals text =>
      left
      rw [List.singleton_append, readWords_longEquals understood plainCommands]
      exact option_bind_readWords takesValue progress rest
  | longApart text =>
      refine .inr ⟨text, rfl, ?_⟩
      rw [List.cons_append, readWords_longName understood plainCommands]
      exact option_none_bind_readWords takesValue (plain text rfl) progress rest
  | short letter known =>
      left
      have spelled : ("-" ++ letter.toString).toList = ['-', letter] := by simp
      rw [List.singleton_append, readWords_letter understood plainCommands known spelled,
        readShort_alone (understood.short letter known).2]
      exact option_bind_readWords takesValue progress rest
  | shortJoined letter known text =>
      left
      have spelled : ("-" ++ letter.toString ++ text).toList = '-' :: letter :: text.toList := by
        simp
      rw [List.singleton_append, readWords_letter understood plainCommands known spelled,
        (readShort_value (understood.short letter known).2 takesValue (plain text rfl) _).1]
      exact option_bind_readWords takesValue progress rest
  | shortEquals letter known text =>
      left
      have spelled : ("-" ++ letter.toString ++ "=" ++ text).toList
          = '-' :: letter :: '=' :: text.toList := by simp
      rw [List.singleton_append, readWords_letter understood plainCommands known spelled,
        (readShort_value (understood.short letter known).2 takesValue (plain text rfl) _).2]
      exact option_bind_readWords takesValue progress rest
  | shortApart letter known text =>
      refine .inr ⟨text, rfl, ?_⟩
      have spelled : ("-" ++ letter.toString).toList = ['-', letter] := by simp
      rw [List.cons_append, readWords_letter understood plainCommands known spelled,
        readShort_alone (understood.short letter known).2]
      exact option_none_bind_readWords takesValue (plain text rfl) progress rest

end Written

-----------------------------------------------------------------------------------------
-- Reading all options
-----------------------------------------------------------------------------------------

/-- Notes settings one after another. -/
def noteAll (level : Level ι σ) (writing : Writing ι τ) (settings : List τ) (known : σ)
    : Except Refusal σ :=
  settings.foldlM
    (fun known setting => level.note (writing.option setting) (writing.value setting) known) known

/-- Settles what is pending after words that were read. -/
def settleRead (level : Level ι σ) (read : Progress ι σ × Option (String × List String))
    : Except Refusal (σ × Option (String × List String)) :=
  read.1.settle level >>= fun known => pure (known, read.2)

/-- The words of settings come to noting the settings, whatever is read after them; by induction on
the settings. An option may be pending until the next one is read, so that the progress differs
from one way of writing to another, and only settled progress is compared.
-/
theorem readWords_bind_settleRead {writing : Writing ι τ} (plainCommands : level.HasPlainCommands)
    {settings : List τ} (understood : ∀ setting ∈ settings, level.Understands writing setting)
    {words : List String} (written : writing.Write settings words) {rest : List String}
    {next : Option (String × List String)}
    (ends : ∀ progress : Progress ι σ,
      progress.awaitsValue = false → level.readWords progress rest = .ok (progress, next))
    {progress : Progress ι σ} (ready : progress.awaitsValue = false)
    : (level.readWords progress (words ++ rest) >>= level.settleRead)
      = (progress.settle level >>= fun known =>
          level.noteAll writing settings known >>= fun known => pure (known, next)) := by
  induction written generalizing progress with
  | nil =>
      rw [List.nil_append, ends progress ready]
      rfl
  | @cons setting settings words others first later ih =>
      have following {progress : Progress ι σ} := @ih
        (fun other member => understood other (List.mem_cons_of_mem setting member)) progress
      have unfolded (known : σ)
          : level.noteAll writing (setting :: settings) known
            = (level.note (writing.option setting) (writing.value setting) known
                >>= level.noteAll writing settings) := List.foldlM_cons ..
      rw [List.append_assoc]
      rcases readWords_of_write (understood setting List.mem_cons_self) plainCommands first
        progress (others ++ rest) with together | ⟨text, hasValue, apart⟩
      · have settled (known : σ) := @following { known } rfl
        simp only [together, unfolded, bind_assoc, settled]
        rfl
      · have pending (known : σ) :=
          @following { known, pending := some (writing.option setting, some text) } rfl
        simp only [apart, unfolded, bind_assoc, pending, hasValue]
        rfl

/-- The settings of a level that none follows are noted in order. -/
theorem readLast_of_write {writing : Writing ι τ} (plainCommands : level.HasPlainCommands)
    {settings : List τ} (understood : ∀ setting ∈ settings, level.Understands writing setting)
    {words : List String} (written : writing.Write settings words) (start : σ)
    : readLast level start words = level.noteAll writing settings start := by
  have ends (progress : Progress ι σ) (_ : progress.awaitsValue = false)
      : level.readWords progress [] = .ok (progress, none) := rfl
  have ready : ({ known := start } : Progress ι σ).awaitsValue = false := rfl
  have read := readWords_bind_settleRead plainCommands understood written ends ready
  rw [List.append_nil] at read
  calc
    readLast level start words
      = ((level.readWords { known := start } words >>= level.settleRead)
          >>= fun settled => pure settled.1) := by
        simp only [readLast, settleRead, bind_assoc, pure_bind, bind_pure]
    _ = (level.noteAll writing settings start >>= fun known => pure known) := by
        rw [read]
        simp only [Progress.settle, bind_assoc, pure_bind]
        rfl
    _ = level.noteAll writing settings start := bind_pure _

/-- Settings that can be noted are read up to the command after them. -/
theorem exists_readWords_of_write {writing : Writing ι τ} (plainCommands : level.HasPlainCommands)
    {settings : List τ} (understood : ∀ setting ∈ settings, level.Understands writing setting)
    {words : List String} (written : writing.Write settings words) {command : String}
    (begins : command ∈ level.commands) (rest : List String) {start known : σ}
    (noted : level.noteAll writing settings start = .ok known)
    : ∃ progress,
        level.readWords { known := start } (words ++ command :: rest)
          = .ok (progress, some (command, rest))
        ∧ progress.settle level = .ok known := by
  have ends (progress : Progress ι σ) (ready : progress.awaitsValue = false)
      : level.readWords progress (command :: rest) = .ok (progress, some (command, rest)) := by
    simp [readWords, ready, begins]
  have ready : ({ known := start } : Progress ι σ).awaitsValue = false := rfl
  have read := readWords_bind_settleRead plainCommands understood written ends ready
  have settled : (level.readWords { known := start } (words ++ command :: rest)
      >>= level.settleRead) = .ok (known, some (command, rest)) := by
    rw [read]
    change (level.noteAll writing settings start >>= _) = _
    rw [noted]
    rfl
  cases hr : level.readWords { known := start } (words ++ command :: rest) with
  | error refusal =>
      rw [hr] at settled
      cases settled
  | ok pair =>
      obtain ⟨progress, next⟩ := pair
      rw [hr] at settled
      change (progress.settle level >>= fun known => pure (known, next)) = _ at settled
      cases hs : progress.settle level with
      | error refusal =>
          rw [hs] at settled
          cases settled
      | ok found =>
          rw [hs] at settled
          cases settled
          exact ⟨progress, rfl, hs⟩

end Level

end ClassDiagram.CommandLine
