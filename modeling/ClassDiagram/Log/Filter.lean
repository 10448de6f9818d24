import ClassDiagram.Log.Record
import ClassDiagram.Text.Split

/-! Which records are let through, and the texts that ask for it. A filter is a list of
rules with commas between them, each a threshold, a target, or a target with a threshold
after an equals sign. Of the rules whose targets fit, the most specific one decides.
-/

namespace ClassDiagram.Log

/-- What is let through of some targets. -/
structure Rule where
  /-- What the names of the targets begin with. -/
  target : String := ""
  /-- The most verbose level that is let through, if any is. -/
  threshold : Option Level
  deriving DecidableEq, Repr

namespace Rule

/-- Whether a rule is about a target. -/
def fits (rule : Rule) (target : Target) : Bool :=
  rule.target.toList.isPrefixOf target.text.toList

/-- The threshold with the given name, in small or capital letters, or with the given number. -/
def threshold? (text : String) : Option (Option Level) :=
  let word := text.toLower
  if word = "off" || word = "0" then some none
  else
    (Level.all.find? fun level =>
      level.text.toLower == word || toString level.verbosity == word).map some

/-- Whether the name of a target may begin with a character; letters beyond ASCII are not told from
other characters. -/
def startsTarget (c : Char) : Bool :=
  c.isAlphanum || c = '_' || c = ':' || c = '-' || 0x80 ≤ c.toNat

/-- The rule that a text asks for; a target without a threshold is let through whole. There are no
rules about spans, which would be named in brackets. -/
def ofText? (text : List Char) : Option Rule :=
  let name := text.takeWhile (· ≠ '=')
  let target := String.ofList name
  if !name.head?.any startsTarget || name.contains '[' then
    none
  else
    match text.drop name.length with
    | [] =>
      match threshold? target with
      | some threshold => some { threshold }
      | none => some { target, threshold := some .trace }
    | [_] => some { target, threshold := some .trace }
    | _ :: level => (threshold? (String.ofList level)).map fun threshold => { target, threshold }

/-- The more specific of two rules; of two with targets of one length it is the later. -/
def moreSpecific (earlier : Option Rule) (later : Rule) : Option Rule :=
  match earlier with
  | none => some later
  | some rule => if rule.target.length ≤ later.target.length then some later else some rule

end Rule

/-- Lets through what its rules let through; what no rule is about is held back. -/
structure Filter where
  rules : List Rule
  deriving DecidableEq, Repr

namespace Filter

/-- The filter with one threshold for all targets. -/
def upTo (threshold : Option Level) : Filter where
  rules := [{ threshold }]

/-- Whether a filter lets through what a target reports at a level. -/
def admits (filter : Filter) (target : Target) (level : Level) : Bool :=
  ((filter.rules.filter (·.fits target)).foldl Rule.moreSpecific none).any fun rule =>
    rule.threshold.any (level.verbosity ≤ ·.verbosity)

/-- The filter that a text asks for. The empty text asks for errors only. -/
def ofText? (text : String) : Option Filter :=
  match ((Text.split ',' text.toList).filter (!·.isEmpty)).mapM Rule.ofText? with
  | none => none
  | some [] => some (upTo (some .error))
  | some rules => some { rules }

/-- The spans that a filter lets through. -/
def spans (filter : Filter) (around : List Span) : List Span :=
  around.filter fun span => filter.admits span.target span.level

/-- The record as a filter shows it; a span that is not let through does not exist. -/
def seen? (filter : Filter) : Record → Option Record
  | .event event around =>
    if filter.admits event.target event.level then some (.event event (filter.spans around))
    else none
  | .close span outer =>
    if filter.admits span.target span.level then some (.close span (filter.spans outer)) else none

end Filter

end ClassDiagram.Log
