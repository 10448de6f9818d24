import ClassDiagram.Visibility
import Mathlib.Data.List.Basic

/-! The visibility of a member is that of the last of its modifiers that restricts access. The other
modifiers could as well be absent, also a text that only looks like a restriction.
-/

namespace ClassDiagram.Modifier

-----------------------------------------------------------------------------------------
-- Restrictions among modifiers
-----------------------------------------------------------------------------------------

/-- The modifiers that restrict access. -/
def restrictions : List Modifier :=
  [keyword (.access .privateAccess), keyword (.access .protectedAccess)]

/-- No modifier restricts access. -/
def Unrestricted (modifiers : List Modifier) : Prop :=
  ∀ modifier ∈ modifiers, modifier ∉ restrictions

/-- The visibility that a modifier restricts access to, if it does so. -/
def restriction? : Modifier → Option Visibility
  | keyword (.access .publicAccess) => none
  | keyword (.access visibility) => some visibility
  | _ => none

def lastRestriction? (modifiers : List Modifier) : Option Visibility :=
  (modifiers.filterMap restriction?).getLast?

theorem restriction?_eq_some_iff (modifier : Modifier) (visibility : Visibility)
    : restriction? modifier = some visibility
      ↔ modifier = keyword (.access visibility) ∧ modifier ∈ restrictions := by
  cases modifier with
  | other text => simp [restriction?]
  | keyword word =>
      cases word with
      | access spelled => cases spelled <;> cases visibility <;> decide
      | static | readonly | abstract => simp [restriction?]

theorem restriction?_eq_none_iff (modifier : Modifier)
    : restriction? modifier = none ↔ modifier ∉ restrictions := by
  cases modifier with
  | other text => simp [restriction?, restrictions]
  | keyword word =>
      cases word with
      | access spelled => cases spelled <;> decide
      | static | readonly | abstract => decide

theorem restrict_eq_getD (current : Visibility) (modifier : Modifier)
    : restrict current modifier = (restriction? modifier).getD current := by
  cases modifier with
  | other text => rfl
  | keyword word =>
      cases word with
      | access spelled => cases spelled <;> rfl
      | static | readonly | abstract => rfl

-----------------------------------------------------------------------------------------
-- The last restriction
-----------------------------------------------------------------------------------------

theorem lastRestriction?_append (earlier later : List Modifier)
    : lastRestriction? (earlier ++ later)
      = (lastRestriction? later).or (lastRestriction? earlier) := by
  simp only [lastRestriction?, List.filterMap_append, List.getLast?_append]

/-- Scanning modifiers comes to their last restriction, by induction on the modifiers. -/
theorem foldl_restrict (current : Visibility) (modifiers : List Modifier)
    : modifiers.foldl restrict current = (lastRestriction? modifiers).getD current := by
  induction modifiers generalizing current with
  | nil => rfl
  | cons modifier rest ih =>
      have first : lastRestriction? [modifier] = restriction? modifier := by
        cases found : restriction? modifier <;> simp [lastRestriction?, found]
      rw [List.foldl_cons, ih, restrict_eq_getD, ← List.singleton_append, lastRestriction?_append,
        first, Option.getD_or]

theorem lastRestriction?_eq_none_iff (modifiers : List Modifier)
    : lastRestriction? modifiers = none ↔ Unrestricted modifiers := by
  simp only [lastRestriction?, List.getLast?_eq_none_iff, List.filterMap_eq_nil_iff,
    restriction?_eq_none_iff, Unrestricted]

/-- The last restriction is found where no other one follows it. -/
theorem lastRestriction?_eq_some_iff {visibility : Visibility}
    (narrow : keyword (.access visibility) ∈ restrictions) (modifiers : List Modifier)
    : lastRestriction? modifiers = some visibility
      ↔ ∃ front rest,
          modifiers = front ++ keyword (.access visibility) :: rest ∧ Unrestricted rest := by
  rw [lastRestriction?, List.getLast?_filterMap, List.findSome?_eq_some_iff]
  constructor
  · rintro ⟨after, modifier, before, reversed, found, unfound⟩
    obtain ⟨rfl, -⟩ := (restriction?_eq_some_iff modifier visibility).mp found
    refine ⟨before.reverse, after.reverse, ?_, ?_⟩
    · rw [← List.reverse_reverse modifiers, reversed]
      simp
    · intro other member
      exact (restriction?_eq_none_iff other).mp (unfound other (List.mem_reverse.mp member))
  · rintro ⟨front, rest, rfl, unrestricted⟩
    refine ⟨rest.reverse, keyword (.access visibility), front.reverse, by simp, ?_, ?_⟩
    · exact (restriction?_eq_some_iff _ visibility).mpr ⟨rfl, narrow⟩
    · intro other member
      exact (restriction?_eq_none_iff other).mpr (unrestricted other (List.mem_reverse.mp member))

/-- A restriction is never one to public access. -/
theorem lastRestriction?_ne_some_public (modifiers : List Modifier)
    : lastRestriction? modifiers ≠ some .publicAccess := by
  intro found
  obtain ⟨modifier, -, wide⟩ := List.mem_filterMap.mp (List.mem_of_getLast? found)
  obtain ⟨rfl, restricting⟩ := (restriction?_eq_some_iff modifier .publicAccess).mp wide
  exact absurd restricting (by decide)

/-- Modifiers that are no restrictions can be left out. -/
theorem lastRestriction?_filter (modifiers : List Modifier)
    : lastRestriction? (modifiers.filter (· ∈ restrictions)) = lastRestriction? modifiers := by
  rw [lastRestriction?, List.filterMap_filter, lastRestriction?]
  congr 2
  funext modifier
  split
  · rfl
  · next other =>
      exact ((restriction?_eq_none_iff modifier).mpr (by simpa using other)).symm

-----------------------------------------------------------------------------------------
-- Visibilities
-----------------------------------------------------------------------------------------

theorem visibility_eq_getD (modifiers : List Modifier)
    : visibility modifiers = (lastRestriction? modifiers).getD .publicAccess :=
  foldl_restrict .publicAccess modifiers

theorem visibility_eq_public_iff (modifiers : List Modifier)
    : visibility modifiers = .publicAccess ↔ Unrestricted modifiers := by
  rw [visibility_eq_getD, ← lastRestriction?_eq_none_iff]
  cases found : lastRestriction? modifiers with
  | none => simp
  | some restricted =>
      have narrow : restricted ≠ .publicAccess := by
        rintro rfl
        exact lastRestriction?_ne_some_public modifiers found
      simp [narrow]

/-- A narrower visibility than public access is that of the last restriction. -/
theorem visibility_eq_iff {restricted : Visibility}
    (narrow : keyword (.access restricted) ∈ restrictions) (modifiers : List Modifier)
    : visibility modifiers = restricted
      ↔ ∃ front rest,
          modifiers = front ++ keyword (.access restricted) :: rest ∧ Unrestricted rest := by
  have other : Visibility.publicAccess ≠ restricted := by
    rintro rfl
    exact absurd narrow (by decide)
  rw [visibility_eq_getD, ← lastRestriction?_eq_some_iff narrow]
  cases lastRestriction? modifiers <;> simp [other]

/-- A member is private or protected exactly if its last restriction says so, and public exactly if
it has none. Of two lists of modifiers in a row the second decides if it has a restriction and the
first if not, and lists with the same restrictions in the same order lead to one visibility.
Witness: scanning keeps the last restriction.
-/
theorem last_restriction_decides_visibility
    : (∀ modifiers,
        (visibility modifiers = .privateAccess
          ↔ ∃ front rest,
              modifiers = front ++ keyword (.access .privateAccess) :: rest ∧ Unrestricted rest)
        ∧ (visibility modifiers = .protectedAccess
          ↔ ∃ front rest,
              modifiers = front ++ keyword (.access .protectedAccess) :: rest ∧ Unrestricted rest)
        ∧ (visibility modifiers = .publicAccess ↔ Unrestricted modifiers))
      ∧ (∀ earlier later : List Modifier,
          ((∃ modifier ∈ later, modifier ∈ restrictions)
            → visibility (earlier ++ later) = visibility later)
          ∧ (Unrestricted later → visibility (earlier ++ later) = visibility earlier))
      ∧ ∀ modifiers others : List Modifier,
          modifiers.filter (· ∈ restrictions) = others.filter (· ∈ restrictions)
          → visibility modifiers = visibility others := by
  refine ⟨?_, ?_, ?_⟩
  · intro modifiers
    exact ⟨visibility_eq_iff (by decide) modifiers, visibility_eq_iff (by decide) modifiers,
      visibility_eq_public_iff modifiers⟩
  · intro earlier later
    rw [visibility_eq_getD, visibility_eq_getD, visibility_eq_getD, lastRestriction?_append]
    constructor
    · rintro ⟨modifier, member, restricting⟩
      cases found : lastRestriction? later with
      | some restricted => rfl
      | none =>
          have unrestricted := (lastRestriction?_eq_none_iff later).mp found
          exact absurd restricting (unrestricted modifier member)
    · intro unrestricted
      rw [(lastRestriction?_eq_none_iff later).mpr unrestricted, Option.none_or]
  · intro modifiers others same
    rw [visibility_eq_getD, visibility_eq_getD, ← lastRestriction?_filter modifiers, same,
      lastRestriction?_filter]

/-- An explicit `public` after restrictions and texts that look like one change nothing. -/
theorem other_modifiers_leave_visibility
    : let restricting := [keyword (.access .privateAccess), keyword (.access .protectedAccess)]
      let modifiers :=
        [keyword .static, keyword (.access .privateAccess), other "private",
          keyword (.access .protectedAccess)]
      let others := [keyword (.access .publicAccess), other "private", keyword .abstract]
      modifiers.filter (· ∈ restrictions) = restricting
      ∧ Unrestricted others
      ∧ visibility (modifiers ++ others) = visibility restricting
      ∧ visibility (others ++ modifiers) = .protectedAccess := by
  intro restricting modifiers others
  obtain ⟨splits, appended, same⟩ := last_restriction_decides_visibility
  have restrictionsOnly : modifiers.filter (· ∈ restrictions) = restricting := by decide
  have unrestricted : Unrestricted others := by simp [Unrestricted, others, restrictions]
  have ended : visibility restricting = .protectedAccess :=
    (splits restricting).2.1.mpr
      ⟨[keyword (.access .privateAccess)], [], rfl, by simp [Unrestricted]⟩
  have equal : visibility modifiers = visibility restricting :=
    same modifiers restricting (by decide)
  refine ⟨restrictionsOnly, unrestricted, ?_, ?_⟩
  · exact ((appended modifiers others).2 unrestricted).trans equal
  · have last : ∃ modifier ∈ modifiers, modifier ∈ restrictions :=
      ⟨keyword (.access .privateAccess), by decide, by decide⟩
    exact (((appended others modifiers).1 last).trans equal).trans ended

end ClassDiagram.Modifier
