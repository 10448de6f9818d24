import ClassDiagram.Text.Split
import Mathlib.Data.List.Basic

/-! Splitting a text gives back the pieces that it was put together from, as long as no
piece contains the separator.
-/

namespace ClassDiagram.Text

-----------------------------------------------------------------------------------------
-- Splitting at a character
-----------------------------------------------------------------------------------------

/-- A split text has a first piece, by induction on the text. -/
theorem split_ne_nil (separator : Char) (text : List Char) : split separator text ≠ [] := by
  induction text with
  | nil => simp [split]
  | cons c rest ih =>
      cases hs : split separator rest with
      | nil => exact absurd hs ih
      | cons piece pieces =>
          simp only [split, hs]
          split <;> simp

theorem split_cons_self (separator : Char) (rest : List Char)
    : split separator (separator :: rest) = [] :: split separator rest := by
  cases hs : split separator rest with
  | nil => exact absurd hs (split_ne_nil separator rest)
  | cons piece pieces => simp [split, hs]

/-- A separator ends the piece before it, and what follows is split on its own. This one
equation is what all facts about joined texts come from.
-/
theorem split_append_cons (separator : Char) (left right : List Char)
    : split separator (left ++ separator :: right)
      = split separator left ++ split separator right := by
  induction left with
  | nil => exact split_cons_self separator right
  | cons c rest ih =>
      cases hs : split separator rest with
      | nil => exact absurd hs (split_ne_nil separator rest)
      | cons piece pieces =>
          rw [hs] at ih
          simp only [List.cons_append, split, ih, hs]
          split <;> rfl

/-- Text without the separator only makes the first piece longer. -/
theorem split_append_of_notMem {separator : Char} {left right first : List Char}
    {pieces : List (List Char)} (absent : separator ∉ left)
    (hs : split separator right = first :: pieces)
    : split separator (left ++ right) = (left ++ first) :: pieces := by
  induction left with
  | nil => exact hs
  | cons c rest ih =>
      rw [List.mem_cons, not_or] at absent
      simp [split, ih absent.2, Ne.symm absent.1]

theorem split_of_notMem {separator : Char} {text : List Char} (absent : separator ∉ text)
    : split separator text = [text] := by
  have whole := split_append_of_notMem absent (rfl : split separator [] = [[]])
  simpa only [List.append_nil] using whole

theorem split_three {separator : Char} {first second third : List Char} (hf : separator ∉ first)
    (hs : separator ∉ second) (ht : separator ∉ third)
    : split separator (first ++ separator :: (second ++ separator :: third))
      = [first, second, third] := by
  rw [split_append_cons, split_append_cons, split_of_notMem hf, split_of_notMem hs,
    split_of_notMem ht]
  rfl

/-- Pieces that each end with the separator are given back in front of what follows them, by
induction on the pieces.
-/
theorem split_terminated_append {separator : Char} {pieces : List (List Char)}
    (absent : ∀ piece ∈ pieces, separator ∉ piece) (rest : List Char)
    : split separator (pieces.flatMap (· ++ [separator]) ++ rest)
      = pieces ++ split separator rest := by
  induction pieces with
  | nil => rfl
  | cons piece later ih =>
      have tail := ih fun other member => absent other (List.mem_cons_of_mem piece member)
      rw [List.flatMap_cons, List.append_assoc, List.append_assoc, List.singleton_append,
        split_append_cons, split_of_notMem (absent piece List.mem_cons_self), tail]
      rfl

/-- Pieces that each end with the separator are given back, with an empty one at the end. -/
theorem split_terminated {separator : Char} {pieces : List (List Char)}
    (absent : ∀ piece ∈ pieces, separator ∉ piece)
    : split separator (pieces.flatMap (· ++ [separator])) = pieces ++ [[]] := by
  have whole := split_terminated_append absent []
  rwa [List.append_nil] at whole

/-- There is one piece more than there are separators, by induction on the text. -/
theorem length_split (separator : Char) (text : List Char)
    : (split separator text).length = text.count separator + 1 := by
  induction text with
  | nil => rfl
  | cons c rest ih =>
      by_cases same : c = separator
      · rw [same, split_cons_self, List.length_cons, ih, List.count_cons_self]
      · cases pieces : split separator rest with
        | nil => exact absurd pieces (split_ne_nil separator rest)
        | cons piece others =>
            rw [pieces] at ih
            simpa [split, pieces, same] using ih

-----------------------------------------------------------------------------------------
-- Joined texts as lists of characters
-----------------------------------------------------------------------------------------

/-- The characters of a concatenated text are those of its pieces, by induction on the pieces. -/
theorem toList_concat (pieces : List String)
    : (concat pieces).toList = pieces.flatMap String.toList := by
  induction pieces with
  | nil => rfl
  | cons piece rest ih =>
      cases rest with
      | nil => simp [concat, join]
      | cons next others =>
          have unfolded : concat (piece :: next :: others)
              = piece ++ "" ++ concat (next :: others) := rfl
          rw [unfolded, String.toList_append, String.toList_append, ih]
          simp

/-- Pieces are joined as by the standard library, by induction on the pieces. -/
theorem join_eq_intercalate (separator : String) (pieces : List String)
    : join separator pieces = separator.intercalate pieces := by
  induction pieces with
  | nil => simp [join]
  | cons piece rest ih =>
      cases rest with
      | nil => simp [join]
      | cons next others =>
          rw [String.intercalate_cons_cons, ← ih]
          rfl

-----------------------------------------------------------------------------------------
-- Endings
-----------------------------------------------------------------------------------------

theorem isSuffixOf?_append (front ending : List Char)
    : ending.isSuffixOf? (front ++ ending) = some front :=
  List.isSuffixOf?_eq_some_iff_append_eq.mpr rfl

/-- No ending is found in a text that does not end with it. -/
theorem isSuffixOf?_eq_none {ending text : List Char} (other : ¬ ending <:+ text)
    : ending.isSuffixOf? text = none := by
  cases hs : ending.isSuffixOf? text with
  | none => rfl
  | some front => exact absurd ⟨front, List.isSuffixOf?_eq_some_iff_append_eq.mp hs⟩ other

end ClassDiagram.Text
