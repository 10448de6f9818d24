import ClassDiagram.Proofs.CommandLine.Spellings

/-! Command lines that ask for a diagram. Only what they set decides what they ask for: neither the
order of the options, nor how each one is written, nor whether usual settings are written at all.
An option of `generate` that is set twice is refused wherever it stands.
-/

namespace ClassDiagram.CommandLine

-----------------------------------------------------------------------------------------
-- Options that may be set once
-----------------------------------------------------------------------------------------

section Once

variable {ι σ τ : Type} [DecidableEq ι] {level : Level ι σ} {writing : Writing ι τ}
  {get : σ → ι → Option τ} {set : τ → σ → σ}

/-- A level sets what was not set before and refuses what was; `get` tells how an option is set. -/
structure Level.NotesOnce (level : Level ι σ) (writing : Writing ι τ) (get : σ → ι → Option τ)
    (set : τ → σ → σ)
    : Prop where
  note
    : ∀ setting known,
        writing.IsPlain setting
        → level.note (writing.option setting) (writing.value setting) known
          = if (get known (writing.option setting)).isSome then .error .repeatedOption
            else .ok (set setting known)
  get_set
    : ∀ setting known option,
        get (set setting known) option
        = if option = writing.option setting then some setting else get known option

/-- Settings of different options are all noted, by induction on the settings. -/
theorem Level.NotesOnce.exists_noteAll (once : level.NotesOnce writing get set) {settings : List τ}
    (plain : ∀ setting ∈ settings, writing.IsPlain setting)
    (distinct : (settings.map writing.option).Nodup) {known : σ}
    (fresh : ∀ setting ∈ settings, get known (writing.option setting) = none)
    : ∃ after,
        level.noteAll writing settings known = .ok after
        ∧ ∀ setting,
            get after (writing.option setting) = some setting
            ↔ setting ∈ settings ∨ get known (writing.option setting) = some setting := by
  induction settings generalizing known with
  | nil => exact ⟨known, rfl, by simp⟩
  | cons first settings ih =>
      rw [List.map_cons, List.nodup_cons] at distinct
      rw [List.forall_mem_cons] at plain fresh
      have freshLater (later : τ) (member : later ∈ settings)
          : get (set first known) (writing.option later) = none := by
        have other : writing.option later ≠ writing.option first :=
          fun same => distinct.1 (same ▸ List.mem_map_of_mem member)
        rw [once.get_set, if_neg other, fresh.2 later member]
      obtain ⟨after, noted, found⟩ := ih plain.2 distinct.2 freshLater
      refine ⟨after, ?_, ?_⟩
      · rw [noteAll, List.foldlM_cons, once.note first known plain.1, fresh.1]
        exact noted
      · intro setting
        rw [found, once.get_set, List.mem_cons]
        by_cases same : writing.option setting = writing.option first
        · rw [if_pos same, same, fresh.1]
          simp [or_comm, eq_comm]
        · have other : setting ≠ first := fun equal => same (equal ▸ rfl)
          simp only [if_neg same, other, false_or]

/-- The settings make up what is asked for: no option is set twice, nothing else is set, and only
what is usual is left out.
-/
structure Writing.MakesUp (writing : Writing ι τ) (Asked IsUsual : τ → Prop) (settings : List τ)
    : Prop where
  once : (settings.map writing.option).Nodup
  sound : ∀ setting ∈ settings, Asked setting
  complete : ∀ setting, Asked setting → IsUsual setting ∨ setting ∈ settings

/-- Where nothing is set before, exactly the settings that make up something are found set. -/
theorem Level.NotesOnce.exists_noteAll_of_makesUp (once : level.NotesOnce writing get set)
    {Asked IsUsual : τ → Prop} {settings : List τ}
    (made : writing.MakesUp Asked IsUsual settings)
    (plain : ∀ setting, Asked setting → writing.IsPlain setting) {start : σ}
    (unset : ∀ option, get start option = none)
    : ∃ after,
        level.noteAll writing settings start = .ok after
        ∧ ∀ setting, get after (writing.option setting) = some setting ↔ setting ∈ settings := by
  obtain ⟨after, noted, found⟩ := once.exists_noteAll
    (fun setting member => plain setting (made.sound setting member)) made.once
    fun setting _ => unset (writing.option setting)
  refine ⟨after, noted, ?_⟩
  intro setting
  rw [found, unset]
  simp

/-- An option that is set twice is refused, by induction on the settings: the second time it is
found to be set already.
-/
theorem Level.NotesOnce.noteAll_eq_error (once : level.NotesOnce writing get set)
    {settings : List τ} (plain : ∀ setting ∈ settings, writing.IsPlain setting) {known : σ}
    (twice : ¬ (settings.map writing.option).Nodup
      ∨ ∃ setting ∈ settings, (get known (writing.option setting)).isSome)
    : level.noteAll writing settings known = .error .repeatedOption := by
  induction settings generalizing known with
  | nil => simp at twice
  | cons first settings ih =>
      rw [List.forall_mem_cons] at plain
      rw [noteAll, List.foldlM_cons, once.note first known plain.1]
      by_cases isSet : (get known (writing.option first)).isSome
      · rw [if_pos isSet]
        rfl
      · rw [if_neg isSet]
        apply ih plain.2
        simp only [List.map_cons, List.nodup_cons, List.mem_map, List.mem_cons,
          exists_eq_or_imp] at twice
        rcases twice with repeated | here | ⟨later, member, before⟩
        · by_cases again : ∃ later ∈ settings, writing.option later = writing.option first
          · obtain ⟨later, member, same⟩ := again
            exact .inr ⟨later, member, by rw [once.get_set, if_pos same]; rfl⟩
          · exact .inl fun distinct => repeated ⟨again, distinct⟩
        · exact absurd here isSet
        · refine .inr ⟨later, member, ?_⟩
          rw [once.get_set]
          split
          · rfl
          · exact before

end Once

-----------------------------------------------------------------------------------------
-- Settings of the whole program
-----------------------------------------------------------------------------------------

/-- What an option before the command can set. -/
inductive MainSetting where
  | verbose
  | logLevel (level : Log.Level)
  | logFormat (format : Log.Format)

/-- How the options before the command are written. -/
def mainWriting : Writing MainOption MainSetting where
  option
    | .verbose => .verbose
    | .logLevel _ => .logLevel
    | .logFormat _ => .logFormat
  names
    | .verbose => { long := "verbose", short := some 'v' }
    | .logLevel _ => { long := "log-level" }
    | .logFormat _ => { long := "log-format" }
  value
    | .verbose => none
    | .logLevel level => some level.text.toLower
    | .logFormat format => some format.text

theorem MainSetting.isPlain (setting : MainSetting) : mainWriting.IsPlain setting := by
  intro text hasValue
  cases setting with
  | verbose => cases hasValue
  | logLevel level =>
      cases hasValue
      cases level <;> decide +kernel
  | logFormat format =>
      cases hasValue
      cases format <;> decide

theorem mainLevel_understands (setting : MainSetting)
    : mainLevel.Understands mainWriting setting where
  long := by cases setting <;> rfl
  noEquals := by cases setting <;> simp [mainWriting]
  named := by cases setting <;> simp [mainWriting]
  short letter known := by
    cases setting <;> cases known
    exact ⟨by decide, rfl⟩
  takesValue := by cases setting <;> rfl
  plain := setting.isPlain

namespace MainGiven

/-- How an option before the command is set so far. -/
def get (given : MainGiven) : MainOption → Option MainSetting
  | .verbose => given.verbose.map fun _ => .verbose
  | .logLevel => given.logLevel.map .logLevel
  | .logFormat => given.logFormat.map .logFormat
  | .help | .version => none

def set (given : MainGiven) : MainSetting → MainGiven
  | .verbose => { given with verbose := some () }
  | .logLevel level => { given with logLevel := some level }
  | .logFormat format => { given with logFormat := some format }

end MainGiven

theorem setChoice_text {α : Type} {choices : List α} {text : α → String} {choice : α}
    (found : choices.find? (text · == text choice) = some choice) (before : Option α)
    : setChoice before choices text (text choice)
      = if before.isSome then .error .repeatedOption else .ok (some choice) := by
  rw [setChoice, found]

theorem mainLevel_notesOnce
    : mainLevel.NotesOnce mainWriting MainGiven.get (fun setting given => given.set setting) := by
  constructor
  case note =>
    rintro setting ⟨verbose, logLevel, logFormat⟩ _
    cases setting with
    | verbose => cases verbose <;> rfl
    | logLevel level =>
        have found : Log.Level.all.find? (·.text.toLower == level.text.toLower) = some level := by
          cases level <;> decide +kernel
        change (setChoice logLevel _ _ _ >>= fun logLevel => pure _) = _
        rw [setChoice_text found logLevel]
        cases logLevel <;> rfl
    | logFormat format =>
        have found : Log.Format.all.find? (·.text == format.text) = some format := by
          cases format <;> rfl
        change (setChoice logFormat _ _ _ >>= fun logFormat => pure _) = _
        rw [setChoice_text found logFormat]
        cases logFormat <;> rfl
  case get_set =>
    rintro (_ | _ | _) known (_ | _ | _ | _ | _) <;> rfl

-----------------------------------------------------------------------------------------
-- Settings of `generate`
-----------------------------------------------------------------------------------------

/-- What an option of `generate` can set. -/
inductive GenerateSetting where
  | input (path : String)
  | engine (kind : EngineKind)
  | output (path : String)
  | noOpen
  | strict
  | yumlUrl (url : String)

/-- How the options of `generate` are written. -/
def generateWriting : Writing GenerateOption GenerateSetting where
  option
    | .input _ => .input
    | .engine _ => .engine
    | .output _ => .output
    | .noOpen => .noOpen
    | .strict => .strict
    | .yumlUrl _ => .yumlUrl
  names
    | .input _ => { long := "input", short := some 'i' }
    | .engine _ => { long := "type", short := some 't' }
    | .output _ => { long := "output", short := some 'o' }
    | .noOpen => { long := "no-open" }
    | .strict => { long := "strict" }
    | .yumlUrl _ => { long := "yuml-url" }
  value
    | .input text | .output text | .yumlUrl text => some text
    | .engine kind => some kind.text
    | .noOpen | .strict => none

theorem generateLevel_understands {setting : GenerateSetting}
    (plain : generateWriting.IsPlain setting)
    : generateLevel.Understands generateWriting setting where
  long := by cases setting <;> rfl
  noEquals := by cases setting <;> simp [generateWriting]
  named := by cases setting <;> simp [generateWriting]
  short letter known := by
    cases setting <;> cases known <;> exact ⟨by decide, rfl⟩
  takesValue := by cases setting <;> rfl
  plain := plain

namespace GenerateGiven

/-- How an option of `generate` is set so far. -/
def get (given : GenerateGiven) : GenerateOption → Option GenerateSetting
  | .input => given.input.map .input
  | .engine => given.engine.map .engine
  | .output => given.output.map .output
  | .noOpen => given.noOpen.map fun _ => .noOpen
  | .strict => given.strict.map fun _ => .strict
  | .yumlUrl => given.yumlUrl.map .yumlUrl
  | .help => none

def set (given : GenerateGiven) : GenerateSetting → GenerateGiven
  | .input path => { given with input := some path }
  | .engine kind => { given with engine := some kind }
  | .output path => { given with output := some path }
  | .noOpen => { given with noOpen := some () }
  | .strict => { given with strict := some () }
  | .yumlUrl url => { given with yumlUrl := some url }

end GenerateGiven

theorem setPath_plain {path : String} (plain : IsPlainText path) (before : Option String)
    : setPath before path
      = if before.isSome then .error .repeatedOption else .ok (some path) := by
  have nonempty : path.isEmpty = false := by simpa using plain.nonempty
  simp [setPath, nonempty]

theorem generateLevel_notesOnce
    : generateLevel.NotesOnce generateWriting GenerateGiven.get
        (fun setting given => given.set setting) := by
  constructor
  case note =>
    rintro setting ⟨input, engine, output, noOpen, strict, yumlUrl⟩ plain
    cases setting with
    | input path =>
        change (setPath input path >>= fun input => pure _) = _
        rw [setPath_plain (plain path rfl) input]
        cases input <;> rfl
    | engine kind =>
        have found : EngineKind.all.find? (·.text == kind.text) = some kind := by
          cases kind <;> rfl
        change (setChoice engine _ _ _ >>= fun engine => pure _) = _
        rw [setChoice_text found engine]
        cases engine <;> rfl
    | output path =>
        change (setPath output path >>= fun output => pure _) = _
        rw [setPath_plain (plain path rfl) output]
        cases output <;> rfl
    | noOpen => cases noOpen <;> rfl
    | strict => cases strict <;> rfl
    | yumlUrl url => cases yumlUrl <;> rfl
  case get_set =>
    rintro (_ | _ | _ | _ | _ | _) known (_ | _ | _ | _ | _ | _ | _) <;> rfl

-----------------------------------------------------------------------------------------
-- What settings ask for
-----------------------------------------------------------------------------------------

/-- What a command line asks for before the command. -/
def Invocation.Asks (invocation : Invocation) : MainSetting → Prop
  | .verbose => invocation.verbose
  | .logLevel level => invocation.logLevel = level
  | .logFormat format => invocation.logFormat = format

/-- What holds before the command where nothing is said about it. -/
def MainSetting.IsUsual : MainSetting → Prop
  | verbose => False
  | logLevel level => level = .warn
  | logFormat format => format = .compact

/-- What a command line asks `generate` for. -/
def GenerateOptions.Asks (options : GenerateOptions) : GenerateSetting → Prop
  | .input path => options.input = some path
  | .engine kind => options.engine = kind
  | .output path => options.output = some path
  | .noOpen => options.noOpen
  | .strict => options.strict
  | .yumlUrl url => options.yumlUrl = url

/-- What holds for `generate` where nothing is said about it; no file and no flag is usual. -/
def GenerateSetting.IsUsual : GenerateSetting → Prop
  | engine kind => kind = .mermaid
  | yumlUrl url => url = "https://yuml.me"
  | input _ | output _ | noOpen | strict => False

/-- Something that is only left out where it is usual comes to what is asked. -/
theorem getD_eq_of_asked {α : Type} {set : Option α} {asked usual : α}
    (sound : ∀ value, set = some value → asked = value)
    (complete : asked = usual ∨ set = some asked)
    : set.getD usual = asked := by
  cases set with
  | none => simpa [eq_comm] using complete
  | some value => exact (sound value rfl).symm

namespace MainGiven

/-- What is set before the command so far. -/
def Has (given : MainGiven) : MainSetting → Prop
  | .verbose => given.verbose.isSome
  | .logLevel level => given.logLevel = some level
  | .logFormat format => given.logFormat = some format

theorem get_eq_some_iff (given : MainGiven) (setting : MainSetting)
    : given.get (mainWriting.option setting) = some setting ↔ given.Has setting := by
  cases setting <;> simp [get, Has, mainWriting, Option.isSome_iff_exists]

end MainGiven

namespace GenerateGiven

/-- What is set for `generate` so far. -/
def Has (given : GenerateGiven) : GenerateSetting → Prop
  | .input path => given.input = some path
  | .engine kind => given.engine = some kind
  | .output path => given.output = some path
  | .noOpen => given.noOpen.isSome
  | .strict => given.strict.isSome
  | .yumlUrl url => given.yumlUrl = some url

theorem get_eq_some_iff (given : GenerateGiven) (setting : GenerateSetting)
    : given.get (generateWriting.option setting) = some setting ↔ given.Has setting := by
  cases setting <;> simp [get, Has, generateWriting, Option.isSome_iff_exists]

end GenerateGiven

/-- What was set before the command is what the settings make up, with usual values for the rest. -/
theorem Invocation.eq_of_makesUp {invocation : Invocation} {given : MainGiven}
    {settings : List MainSetting}
    (made : mainWriting.MakesUp invocation.Asks MainSetting.IsUsual settings)
    (found : ∀ setting,
      given.get (mainWriting.option setting) = some setting ↔ setting ∈ settings)
    : ({
        command := invocation.command
        verbose := given.verbose.isSome
        logLevel := given.logLevel.getD .warn
        logFormat := given.logFormat.getD .compact
      } : Invocation) = invocation := by
  have sound (setting : MainSetting) (set : given.Has setting) : invocation.Asks setting :=
    made.sound setting ((found setting).mp ((given.get_eq_some_iff setting).mpr set))
  have complete (setting : MainSetting) (asked : invocation.Asks setting)
      : setting.IsUsual ∨ given.Has setting :=
    (made.complete setting asked).imp_right fun member =>
      (given.get_eq_some_iff setting).mp ((found setting).mpr member)
  obtain ⟨command, verbose, logLevel, logFormat⟩ := invocation
  have verbose : given.verbose.isSome = verbose :=
    Bool.eq_iff_iff.mpr ⟨sound .verbose, fun asked => (complete .verbose asked).resolve_left id⟩
  have logLevel : given.logLevel.getD .warn = logLevel :=
    getD_eq_of_asked (fun level => sound (.logLevel level)) (complete (.logLevel logLevel) rfl)
  have logFormat : given.logFormat.getD .compact = logFormat :=
    getD_eq_of_asked (fun format => sound (.logFormat format))
      (complete (.logFormat logFormat) rfl)
  rw [verbose, logLevel, logFormat]

/-- What was set for `generate` is what the settings make up, with the usual values for the rest. -/
theorem GenerateOptions.eq_of_makesUp {options : GenerateOptions} {given : GenerateGiven}
    {settings : List GenerateSetting}
    (made : generateWriting.MakesUp options.Asks GenerateSetting.IsUsual settings)
    (found : ∀ setting,
      given.get (generateWriting.option setting) = some setting ↔ setting ∈ settings)
    : given.options = options := by
  have sound (setting : GenerateSetting) (set : given.Has setting) : options.Asks setting :=
    made.sound setting ((found setting).mp ((given.get_eq_some_iff setting).mpr set))
  have complete (setting : GenerateSetting) (asked : options.Asks setting)
      : setting.IsUsual ∨ given.Has setting :=
    (made.complete setting asked).imp_right fun member =>
      (given.get_eq_some_iff setting).mp ((found setting).mpr member)
  obtain ⟨input, engine, output, noOpen, strict, yumlUrl⟩ := options
  have input : given.input = input :=
    Option.ext fun path =>
      ⟨sound (.input path), fun asked => (complete (.input path) asked).resolve_left id⟩
  have engine : given.engine.getD .mermaid = engine :=
    getD_eq_of_asked (fun kind => sound (.engine kind)) (complete (.engine engine) rfl)
  have output : given.output = output :=
    Option.ext fun path =>
      ⟨sound (.output path), fun asked => (complete (.output path) asked).resolve_left id⟩
  have noOpen : given.noOpen.isSome = noOpen :=
    Bool.eq_iff_iff.mpr ⟨sound .noOpen, fun asked => (complete .noOpen asked).resolve_left id⟩
  have strict : given.strict.isSome = strict :=
    Bool.eq_iff_iff.mpr ⟨sound .strict, fun asked => (complete .strict asked).resolve_left id⟩
  have yumlUrl : given.yumlUrl.getD "https://yuml.me" = yumlUrl :=
    getD_eq_of_asked (fun url => sound (.yumlUrl url)) (complete (.yumlUrl yumlUrl) rfl)
  rw [GenerateGiven.options, input, output, noOpen, strict]
  simp only [Yuml.Client.publicUrl, engine, yumlUrl]

-----------------------------------------------------------------------------------------
-- Command lines
-----------------------------------------------------------------------------------------

/-- The texts of the options can all be told from options. -/
structure GenerateOptions.HasPlainTexts (options : GenerateOptions) : Prop where
  input : ∀ path, options.input = some path → IsPlainText path
  output : ∀ path, options.output = some path → IsPlainText path
  yumlUrl : IsPlainText options.yumlUrl

theorem GenerateOptions.HasPlainTexts.isPlain {options : GenerateOptions}
    (plain : options.HasPlainTexts) {setting : GenerateSetting} (asked : options.Asks setting)
    : generateWriting.IsPlain setting := by
  intro text hasValue
  cases setting with
  | input path =>
      cases hasValue
      exact plain.input _ asked
  | engine kind =>
      cases hasValue
      cases kind <;> decide
  | output path =>
      cases hasValue
      exact plain.output _ asked
  | noOpen => cases hasValue
  | strict => cases hasValue
  | yumlUrl url =>
      cases hasValue
      exact asked ▸ plain.yumlUrl

/-- The settings of `generate` decide what a command line comes to, once what stands before the
command is as asked.
-/
theorem parse_generate {invocation : Invocation} {mainSettings : List MainSetting}
    (made : mainWriting.MakesUp invocation.Asks MainSetting.IsUsual mainSettings)
    {mainWords : List String} (mainWritten : mainWriting.Write mainSettings mainWords)
    {settings : List GenerateSetting}
    (plain : ∀ setting ∈ settings, generateWriting.IsPlain setting) {words : List String}
    (written : generateWriting.Write settings words)
    : parse (mainWords ++ "generate" :: words)
      = (generateLevel.noteAll generateWriting settings {}).map fun given =>
          { invocation with command := .generate given.options } := by
  have plainMain : mainLevel.HasPlainCommands := by
    simp [Level.HasPlainCommands, mainLevel]
  have plainGenerate : generateLevel.HasPlainCommands := by
    simp [Level.HasPlainCommands, generateLevel]
  have unset (option : MainOption) : MainGiven.get {} option = none := by
    cases option <;> rfl
  obtain ⟨given, noted, found⟩ := mainLevel_notesOnce.exists_noteAll_of_makesUp made
    (fun setting _ => setting.isPlain) unset
  obtain ⟨progress, read, settled⟩ := Level.exists_readWords_of_write plainMain
    (fun setting _ => mainLevel_understands setting) mainWritten
    (show "generate" ∈ mainLevel.commands by decide) words noted
  have last := Level.readLast_of_write plainGenerate
    (fun setting member => generateLevel_understands (plain setting member)) written {}
  have same := Invocation.eq_of_makesUp made found
  have command : readCommand "generate" words
      = (generateLevel.noteAll generateWriting settings {}).map fun own =>
          .generate own.options := by
    rw [readCommand, if_pos rfl, last]
  rw [parse, read]
  change (readCommand "generate" words >>= fun command =>
    progress.settle mainLevel >>= fun given => pure _) = _
  rw [command, settled]
  cases generateLevel.noteAll generateWriting settings {} with
  | error refusal => rfl
  | ok own =>
      exact congrArg
        (fun asked : Invocation =>
          (Except.ok { asked with command := .generate own.options } : Except Refusal Invocation))
        same

/-- Every way to write what is asked for is read as exactly that, whatever the order of the options
and their spellings and whether usual settings are written; and a command line that sets an option
of `generate` twice is refused for that. Witness: the words come to noting the settings in order,
and a setting that was noted is noticed when its option comes again.
-/
theorem every_spelling_is_read_alike {invocation : Invocation} {options : GenerateOptions}
    (asked : invocation.command = .generate options) (plain : options.HasPlainTexts)
    {mainSettings : List MainSetting}
    (mainMade : mainWriting.MakesUp invocation.Asks MainSetting.IsUsual mainSettings)
    {mainWords : List String} (mainWritten : mainWriting.Write mainSettings mainWords)
    : (∀ settings words,
        generateWriting.MakesUp options.Asks GenerateSetting.IsUsual settings
        → generateWriting.Write settings words
        → parse (mainWords ++ "generate" :: words) = .ok invocation)
      ∧ ∀ settings words,
          (∀ setting ∈ settings, generateWriting.IsPlain setting)
          → ¬ (settings.map generateWriting.option).Nodup
          → generateWriting.Write settings words
          → parse (mainWords ++ "generate" :: words) = .error .repeatedOption := by
  constructor
  · intro settings words made written
    have allPlain := fun setting member => plain.isPlain (made.sound setting member)
    have unset (option : GenerateOption) : GenerateGiven.get {} option = none := by
      cases option <;> rfl
    obtain ⟨given, noted, found⟩ := generateLevel_notesOnce.exists_noteAll_of_makesUp made
      (fun _ => plain.isPlain) unset
    rw [parse_generate mainMade mainWritten allPlain written, noted, Except.map,
      GenerateOptions.eq_of_makesUp made found, ← asked]
  · intro settings words allPlain repeated written
    have refused : generateLevel.noteAll generateWriting settings {} = .error .repeatedOption :=
      generateLevel_notesOnce.noteAll_eq_error allPlain (.inl repeated)
    rw [parse_generate mainMade mainWritten allPlain written, refused, Except.map]

/-- Values that look like commands or hold signs of options are read as values, and a second input
is refused.
-/
theorem odd_values_are_read
    : let options : GenerateOptions :=
        { input := some "-", output := some "generate", strict := true, yumlUrl := "http://a/?b=c" }
      let invocation : Invocation :=
        { command := .generate options, verbose := true, logFormat := .json }
      parse
          ["--log-format", "json", "-v", "generate", "--yuml-url=http://a/?b=c", "-ogenerate",
            "--strict", "-i=-", "--type", "mermaid"]
        = .ok invocation
      ∧ parse
          ["--log-format", "json", "-v", "generate", "--input", "-", "--strict", "-i-"]
        = .error .repeatedOption := by
  intro options invocation
  have plain : options.HasPlainTexts := by
    constructor
    case input => rintro _ ⟨⟩; decide
    case output => rintro _ ⟨⟩; decide
    case yumlUrl => decide
  have mainMade : mainWriting.MakesUp invocation.Asks MainSetting.IsUsual
      [.logFormat .json, .verbose] := by
    constructor
    case once => decide
    case sound => simp [Invocation.Asks, invocation]
    case complete =>
      rintro (_ | _ | _) <;>
        simp +contextual [Invocation.Asks, MainSetting.IsUsual, invocation, eq_comm]
  have made : generateWriting.MakesUp options.Asks GenerateSetting.IsUsual
      [.yumlUrl "http://a/?b=c", .output "generate", .strict, .input "-", .engine .mermaid] := by
    constructor
    case once => decide
    case sound => simp [GenerateOptions.Asks, options]
    case complete =>
      rintro (_ | _ | _ | _ | _ | _) <;>
        simp +contextual [GenerateOptions.Asks, GenerateSetting.IsUsual, options, eq_comm]
  have mainWritten : mainWriting.Write [.logFormat .json, .verbose]
      (["--log-format", "json"] ++ (["-v"] ++ [])) :=
    .cons (.longApart "json") (.cons (.short 'v' rfl) .nil)
  have written : generateWriting.Write
      [.yumlUrl "http://a/?b=c", .output "generate", .strict, .input "-", .engine .mermaid]
      (["--yuml-url=http://a/?b=c"]
        ++ (["-ogenerate"] ++ (["--strict"] ++ (["-i=-"] ++ (["--type", "mermaid"] ++ []))))) :=
    .cons (.longEquals "http://a/?b=c") <| .cons (.shortJoined 'o' rfl "generate") <|
      .cons .long <| .cons (.shortEquals 'i' rfl "-") <| .cons (.longApart "mermaid") .nil
  have twice : generateWriting.Write [.input "-", .strict, .input "-"]
      (["--input", "-"] ++ (["--strict"] ++ (["-i-"] ++ []))) :=
    .cons (.longApart "-") <| .cons .long <| .cons (.shortJoined 'i' rfl "-") .nil
  have asked : invocation.command = .generate options := rfl
  obtain ⟨accepted, refused⟩ := every_spelling_is_read_alike asked plain mainMade mainWritten
  refine ⟨accepted _ _ made written, refused _ _ ?_ (by decide) twice⟩
  have dash : IsPlainText "-" := by decide
  simpa [Writing.IsPlain, generateWriting] using dash

end ClassDiagram.CommandLine
