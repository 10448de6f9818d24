import ClassDiagram.Proofs.Text.Replacing
import ClassDiagram.Text.Blank
import Mathlib.Data.List.DropRight

/-! What trimming leaves of a text, and what of it lasts when a pattern is replaced.
-/

namespace ClassDiagram.Text

/-- No white space stands at either end of a text. -/
structure IsTrimmed (text : List Char) : Prop where
  head : ∀ c ∈ text.head?, isBlank c = false
  last : ∀ c ∈ text.getLast?, isBlank c = false

/-- The end of a text is trimmed as the library drops from the right. -/
theorem trim_eq_rdropWhile (text : List Char)
    : trim text = (text.dropWhile isBlank).rdropWhile isBlank := rfl

/-- What drops at the end takes nothing from the beginning, so both ends are trimmed. -/
theorem isTrimmed_trim (text : List Char) : IsTrimmed (trim text) where
  head c first := by
    obtain ⟨after, whole⟩ := List.rdropWhile_prefix isBlank (text.dropWhile isBlank)
    have begins : (text.dropWhile isBlank).head? = some c := by
      rw [← whole, List.head?_append, ← trim_eq_rdropWhile, first]
      rfl
    have visible := List.head?_dropWhile_not isBlank text
    rw [begins] at visible
    exact visible
  last c final := by
    obtain ⟨some, rfl⟩ := List.mem_getLast?_eq_getLast final
    exact Bool.eq_false_iff.mpr (List.rdropWhile_last_not isBlank _ some)

/-- Nothing is left exactly of the texts that are all white space. -/
theorem trim_eq_nil_iff (text : List Char) : trim text = [] ↔ ∀ c ∈ text, isBlank c := by
  rw [trim_eq_rdropWhile, List.rdropWhile_eq_nil_iff]
  constructor
  · intro blank c member
    rw [← @List.takeWhile_append_dropWhile _ isBlank text, List.mem_append] at member
    exact member.elim List.mem_takeWhile_imp (blank c)
  · intro blank c member
    exact blank c ((List.dropWhile_suffix isBlank).subset member)

theorem trim_ne_nil_iff (text : List Char) : trim text ≠ [] ↔ ∃ c ∈ text, isBlank c = false := by
  simp [trim_eq_nil_iff]

/-- A text that differs only by visible characters begins as visibly. -/
theorem visible_head {replacement text changed : List Char}
    (visible : ∀ c ∈ replacement, isBlank c = false)
    (kept : List.Forall₂ (fun before after => after = before ∨ after ∈ replacement) text changed)
    (begins : ∀ c ∈ text.head?, isBlank c = false)
    : ∀ c ∈ changed.head?, isBlank c = false := by
  cases kept with
  | nil => exact begins
  | cons changes rest =>
      intro c first
      rw [List.head?_cons, Option.mem_some_iff] at first
      rw [first] at changes
      rcases changes with same | new
      · exact begins c (by rw [same]; rfl)
      · exact visible c new

/-- A replacement of the same length brings no white space to the ends unless it has some itself.
The end is the beginning of the reversed text. -/
theorem IsTrimmed.replaceAll {pattern replacement text : List Char} (trimmed : IsTrimmed text)
    (nonempty : pattern ≠ []) (sameLength : pattern.length = replacement.length)
    (visible : ∀ c ∈ replacement, isBlank c = false)
    : IsTrimmed (replaceAll pattern replacement text) := by
  have kept := forall₂_replaceAll nonempty sameLength text
  have ends := visible_head visible (List.rel_reverse kept)
  simp only [List.head?_reverse] at ends
  exact ⟨visible_head visible kept trimmed.head, ends trimmed.last⟩

end ClassDiagram.Text
