import ClassDiagram.CommandLine.Command

/-! Reading options. A long option is written `--name value` or `--name=value`, a short
one `-n value`, `-n=value` or `-nvalue`; short options without a value can share a dash. A
value that is a word of its own is looked at when the next option or the end of the
command line is reached.
-/

namespace ClassDiagram.CommandLine

/-- The options at one level of the command line, with what is known so far as a `σ`. -/
structure Level (ι σ : Type) where
  /-- The option with a long name. -/
  long : String → Option ι
  /-- The option with a short name. -/
  short : Char → Option ι
  takesValue : ι → Bool
  /-- Notes an option without a value. -/
  raise : ι → σ → Except Refusal σ
  /-- Notes an option with a value. -/
  assign : ι → String → σ → Except Refusal σ
  /-- The words that begin the next level. -/
  commands : List String
  /-- What is wrong with a word in no place for one. -/
  strayWord : Refusal

/-- What is known so far, and the option whose value is a word of its own, if it was just read. -/
structure Progress (ι σ : Type) where
  known : σ
  pending : Option (ι × Option String) := none

variable {ι σ : Type}

namespace Progress

/-- Whether the next word is the value of an option. -/
def awaitsValue (progress : Progress ι σ) : Bool :=
  match progress.pending with
  | some (_, none) => true
  | _ => false

/-- Notes the pending option; it has to have got its value. -/
def settle (level : Level ι σ) (progress : Progress ι σ) : Except Refusal σ :=
  match progress.pending with
  | none => .ok progress.known
  | some (_, none) => .error .invalidValue
  | some (option, some value) => level.assign option value progress.known

end Progress

namespace Level

/-- Reads an option with the value written with it, if there is one. -/
def option (level : Level ι σ) (option : ι) (value : Option String) (progress : Progress ι σ)
    : Except Refusal (Progress ι σ) :=
  match level.takesValue option, value with
  | false, some _ => .error .unexpectedValue
  | false, none => do
    let known ← progress.settle level
    return { known := ← level.raise option known }
  | true, some value => do
    let known ← progress.settle level
    return { known := ← level.assign option value known }
  | true, none => do
    let known ← progress.settle level
    return { known, pending := some (option, none) }

/-- The name of a long option, and the value after its equals sign. -/
def cutLong (word : List Char) : String × Option String :=
  let name := word.takeWhile (· ≠ '=')
  match word.drop name.length with
  | [] => (String.ofList name, none)
  | _ :: value => (String.ofList name, some (String.ofList value))

/-- Reads the options that share a dash. -/
def readShort (level : Level ι σ) (progress : Progress ι σ)
    : List Char → Except Refusal (Progress ι σ)
  | [] => .ok progress
  | name :: rest =>
    match level.short name with
    | none => .error .unknownArgument
    | some option =>
      if level.takesValue option then
        match rest with
        | [] => level.option option none progress
        | '=' :: value => level.option option (some (String.ofList value)) progress
        | value => level.option option (some (String.ofList value)) progress
      else do
        readShort level (← level.option option none progress) rest

/-- Reads words up to one that begins the next level, which is returned with the words after it. -/
def readWords (level : Level ι σ) (progress : Progress ι σ)
    : List String → Except Refusal (Progress ι σ × Option (String × List String))
  | [] => .ok (progress, none)
  | word :: rest =>
    if !progress.awaitsValue && level.commands.contains word then
      .ok (progress, some (word, rest))
    else
      match word.toList with
      | ['-', '-'] =>
        match rest with
        | [] => .ok (progress, none)
        | word :: _ =>
          .error (if level.commands.contains word then .unknownArgument else level.strayWord)
      | '-' :: '-' :: long =>
        let (name, value) := cutLong long
        match level.long name with
        | none => .error .unknownArgument
        | some option => do readWords level (← level.option option value progress) rest
      | '-' :: name :: others => do
        readWords level (← readShort level progress (name :: others)) rest
      | _ =>
        match progress.pending with
        | some (option, none) =>
          readWords level { progress with pending := some (option, some word) } rest
        | _ => .error level.strayWord

end Level

end ClassDiagram.CommandLine
