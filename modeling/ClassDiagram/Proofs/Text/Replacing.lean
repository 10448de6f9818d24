import ClassDiagram.Text.Split
import Mathlib.Data.List.Forall2
import Mathlib.Data.List.Infix

/-! What replacing a pattern makes of a text. A text is gone through from the left: where the
pattern begins, it is passed as a whole, and elsewhere a single character is.
-/

namespace ClassDiagram.Text

variable {pattern replacement : List Char}

-----------------------------------------------------------------------------------------
-- One step
-----------------------------------------------------------------------------------------

theorem replaceAll_append (nonempty : pattern ≠ []) (rest : List Char)
    : replaceAll pattern replacement (pattern ++ rest)
      = replacement ++ replaceAll pattern replacement rest := by
  cases pattern with
  | nil => exact absurd rfl nonempty
  | cons first later =>
      have begins : (first :: later).isPrefixOf (first :: (later ++ rest)) = true :=
        List.isPrefixOf_iff_prefix.mpr (List.prefix_append (first :: later) rest)
      rw [List.cons_append, replaceAll, begins]
      simp

theorem replaceAll_cons {c : Char} {rest : List Char} (other : ¬ pattern <+: c :: rest)
    : replaceAll pattern replacement (c :: rest)
      = c :: replaceAll pattern replacement rest := by
  have begins : pattern.isPrefixOf (c :: rest) = false :=
    Bool.eq_false_iff.mpr fun found => other (List.isPrefixOf_iff_prefix.mp found)
  rw [replaceAll, begins]
  rfl

/-- Induction along the replacing, on the length of the text. -/
theorem replacing_induction {motive : List Char → Prop} (nonempty : pattern ≠ [])
    (nil : motive [])
    (found : ∀ rest, motive rest → motive (pattern ++ rest))
    (passed : ∀ c rest, ¬ pattern <+: c :: rest → motive rest → motive (c :: rest))
    (text : List Char)
    : motive text := by
  induction hl : text.length using Nat.strong_induction_on generalizing text with
  | _ length ih =>
      cases text with
      | nil => exact nil
      | cons c rest =>
          by_cases begins : pattern <+: c :: rest
          · obtain ⟨after, split⟩ := begins
            have positive := List.length_pos_iff.mpr nonempty
            have shorter : after.length < length := by
              rw [← hl, ← split, List.length_append]
              omega
            rw [← split]
            exact found after (ih after.length shorter after rfl)
          · have shorter : rest.length < length := by
              rw [← hl, List.length_cons]
              exact Nat.lt_succ_self _
            exact passed c rest begins (ih rest.length shorter rest rfl)

-----------------------------------------------------------------------------------------
-- Whole texts
-----------------------------------------------------------------------------------------

theorem replaceAll_of_not_infix {text : List Char} (absent : ¬ pattern <:+: text)
    : replaceAll pattern replacement text = text := by
  induction text with
  | nil => rw [replaceAll]
  | cons c rest ih =>
      rw [List.infix_cons_iff, not_or] at absent
      rw [replaceAll_cons absent.1, ih absent.2]

/-- The pieces between the occurrences stay, and every occurrence is replaced.
Witness: by induction along the replacing. An occurrence puts an empty piece before the others;
a character that is passed joins the first piece, where the pattern cannot begin with it.
-/
theorem exists_pieces (nonempty : pattern ≠ []) (replacement text : List Char)
    : ∃ first pieces,
        (∀ piece ∈ first :: pieces, ¬ pattern <:+: piece)
        ∧ text = pattern.intercalate (first :: pieces)
        ∧ replaceAll pattern replacement text = replacement.intercalate (first :: pieces) := by
  have unfound : ¬ pattern <:+: [] := fun found => nonempty (List.infix_nil.mp found)
  induction text using replacing_induction nonempty with
  | nil =>
      exact ⟨[], [], by simpa using unfound, by simp, by simp [replaceAll]⟩
  | found rest ih =>
      obtain ⟨first, pieces, absent, whole, replaced⟩ := ih
      refine ⟨[], first :: pieces, ?_, ?_, ?_⟩
      · rw [List.forall_mem_cons]
        exact ⟨unfound, absent⟩
      · rw [List.intercalate_cons_cons, ← whole, List.nil_append]
      · rw [replaceAll_append nonempty, replaced, List.intercalate_cons_cons, List.nil_append]
  | passed c rest other ih =>
      obtain ⟨first, pieces, absent, whole, replaced⟩ := ih
      have joined (separator : List Char)
          : separator.intercalate ((c :: first) :: pieces)
            = c :: separator.intercalate (first :: pieces) := by
        cases pieces <;> simp [List.intercalate_cons_cons]
      have within : first <+: rest := by
        rw [whole]
        cases pieces with
        | nil => simp
        | cons next others =>
            rw [List.intercalate_cons_cons, List.append_assoc]
            exact List.prefix_append first _
      rw [List.forall_mem_cons] at absent
      refine ⟨c :: first, pieces, ?_, ?_, ?_⟩
      · rw [List.forall_mem_cons, List.infix_cons_iff, not_or]
        have unbegun : ¬ pattern <+: c :: first := fun begun =>
          other (begun.trans (List.cons_prefix_cons.mpr ⟨rfl, within⟩))
        exact ⟨⟨unbegun, absent.1⟩, absent.2⟩
      · rw [joined, ← whole]
      · rw [replaceAll_cons other, replaced, joined]

/-- A replacement of the same length changes characters in their places. -/
theorem forall₂_replaceAll (nonempty : pattern ≠ [])
    (sameLength : pattern.length = replacement.length) (text : List Char)
    : List.Forall₂ (fun before after => after = before ∨ after ∈ replacement)
        text (replaceAll pattern replacement text) := by
  have replaced
      : List.Forall₂ (fun before after => after = before ∨ after ∈ replacement)
          pattern replacement := by
    refine List.forall₂_iff_get.mpr ⟨sameLength, fun place _ inside => .inr ?_⟩
    exact List.get_mem replacement ⟨place, inside⟩
  induction text using replacing_induction nonempty with
  | nil =>
      rw [replaceAll]
      exact .nil
  | found rest ih =>
      rw [replaceAll_append nonempty]
      exact List.rel_append replaced ih
  | passed c rest other ih =>
      rw [replaceAll_cons other]
      exact .cons (.inl rfl) ih

-----------------------------------------------------------------------------------------
-- Patterns whose occurrences cannot overlap
-----------------------------------------------------------------------------------------

variable {first : Char} {later : List Char}

/-- A pattern that begins in front of one of its occurrences ends in front of it as well, since
the first character of the occurrence cannot lie inside the pattern. -/
theorem prefix_of_prefix_append (once : first ∉ later) {left right : List Char} (some : left ≠ [])
    (begun : first :: later <+: left ++ (first :: later ++ right))
    : first :: later <+: left := by
  rcases List.prefix_or_prefix_of_prefix begun (List.prefix_append left _) with done | short
  · exact done
  · obtain ⟨inside, pattern_eq⟩ := short
    obtain ⟨after, text_eq⟩ := begun
    have after_eq : inside ++ after = first :: later ++ right := by
      have whole : left ++ (inside ++ after) = left ++ (first :: later ++ right) := by
        rw [← List.append_assoc, pattern_eq, text_eq]
      exact List.append_cancel_left whole
    cases inside with
    | nil => rw [← pattern_eq, List.append_nil]
    | cons c others =>
        have same : c = first := (List.cons.inj after_eq).1
        cases left with
        | nil => exact absurd rfl some
        | cons d rest =>
            have later_eq : rest ++ c :: others = later := (List.cons.inj pattern_eq).2
            exact absurd (by simp [← later_eq, same]) once

/-- What stands before an occurrence is replaced on its own, and so is what follows it. -/
theorem replaceAll_append_append (once : first ∉ later) (replacement left right : List Char)
    : replaceAll (first :: later) replacement (left ++ (first :: later ++ right))
      = replaceAll (first :: later) replacement left
        ++ (replacement ++ replaceAll (first :: later) replacement right) := by
  have nonempty : first :: later ≠ [] := List.cons_ne_nil first later
  induction left using replacing_induction nonempty with
  | nil => rw [List.nil_append, replaceAll_append nonempty, replaceAll, List.nil_append]
  | found rest ih =>
      rw [List.append_assoc, replaceAll_append nonempty, ih, replaceAll_append nonempty,
        List.append_assoc]
  | passed c rest other ih =>
      have unbegun : ¬ first :: later <+: c :: (rest ++ (first :: later ++ right)) := fun begun =>
        other (prefix_of_prefix_append once (List.cons_ne_nil c rest) begun)
      rw [List.cons_append, replaceAll_cons unbegun, ih, replaceAll_cons other, List.cons_append]

/-- A replacement of the same length leaves exactly those texts as they are that the pattern does
not occur in. -/
theorem replaceAll_eq_self_iff (once : first ∉ later)
    (sameLength : (first :: later).length = replacement.length)
    (other : first :: later ≠ replacement) (text : List Char)
    : replaceAll (first :: later) replacement text = text ↔ ¬ first :: later <:+: text := by
  refine ⟨?_, replaceAll_of_not_infix⟩
  rintro unchanged ⟨left, right, rfl⟩
  have kept := (forall₂_replaceAll (List.cons_ne_nil first later) sameLength left).length_eq
  rw [List.append_assoc, replaceAll_append_append once] at unchanged
  have rest_eq := (List.append_inj unchanged kept.symm).2
  exact other (List.append_inj rest_eq sameLength.symm).1.symm

end ClassDiagram.Text
