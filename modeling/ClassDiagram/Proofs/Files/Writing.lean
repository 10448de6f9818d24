import ClassDiagram.Files.Tree
import Mathlib.Data.List.Basic

/-! What writing a file changes. The file that the path names holds exactly what was written, it is
read back by the same path, and all other locations are as before. Paths keep their meaning because
a file never takes the place of a directory.
-/

namespace ClassDiagram.Files.Tree

-----------------------------------------------------------------------------------------
-- Locations
-----------------------------------------------------------------------------------------

/-- A location other than the root holds what was put there last. -/
theorem find?_put {location : Location} (below : location ≠ []) (tree : Tree) (node : Node)
    (other : Location)
    : (tree.put location node).find? other
      = if other = location then some node else tree.find? other := by
  by_cases same : other = location
  · subst same
    simp [find?, put, below]
  · have kept : (tree.nodes.filter (·.1 != location)).find? (·.1 == other)
        = tree.nodes.find? (·.1 == other) := by
      rw [List.find?_filter]
      congr 1
      funext stored
      by_cases hs : stored.1 = other <;> simp [hs, same]
    simp [find?, put, same, Ne.symm same, kept]

theorem find?_put_self {location : Location} (below : location ≠ []) (tree : Tree) (node : Node)
    : (tree.put location node).find? location = some node := by
  rw [find?_put below, if_pos rfl]

/-- A name that is not made of dots leads into a directory of that name. -/
theorem enter_cons_eq_ok_iff {tree : Tree} {name : String} (notDot : name ≠ ".")
    (notDots : name ≠ "..") {rest : List String} {start finish : Location}
    : tree.enter start (name :: rest) = .ok finish
      ↔ checkName name = .ok ()
        ∧ tree.find? (start ++ [name]) = some .directory
        ∧ tree.enter (start ++ [name]) rest = .ok finish := by
  rw [enter, if_neg notDot, if_neg notDots]
  cases hc : checkName name with
  | error fault => simp [bind, Except.bind]
  | ok _ =>
      cases hf : tree.find? (start ++ [name]) with
      | none => simp [bind, Except.bind]
      | some node => cases node <;> simp [bind, Except.bind]

/-- Names lead where they led before, as long as no directory was replaced; by induction on the
names.
-/
theorem enter_put {tree : Tree} {changed : Location} (below : changed ≠ [])
    (noDirectory : tree.find? changed ≠ some .directory) (node : Node) {names : List String}
    {start finish : Location} (entered : tree.enter start names = .ok finish)
    : (tree.put changed node).enter start names = .ok finish := by
  induction names generalizing start with
  | nil => exact entered
  | cons name rest ih =>
      by_cases dot : name = "."
      · rw [enter, if_pos dot] at entered ⊢
        exact ih entered
      · by_cases dots : name = ".."
        · rw [enter, if_neg dot, if_pos dots] at entered ⊢
          exact ih entered
        · -- The way leads through a directory, and what was replaced was none
          obtain ⟨short, directory, later⟩ := (enter_cons_eq_ok_iff dot dots).mp entered
          have other : start ++ [name] ≠ changed := fun same => noDirectory (same ▸ directory)
          have kept : (tree.put changed node).find? (start ++ [name]) = some .directory := by
            rw [find?_put below, if_neg other, directory]
          exact (enter_cons_eq_ok_iff dot dots).mpr ⟨short, kept, ih later⟩

/-- A path that names an entry still does so. -/
theorem locate_put {tree : Tree} {changed : Location} (below : changed ≠ [])
    (noDirectory : tree.find? changed ≠ some .directory) (node : Node) {path : String}
    {target : Target} (located : tree.locate path = .ok target)
    : (tree.put changed node).locate path = .ok target := by
  unfold locate at located ⊢
  split at located
  · cases located
  · next noNul =>
      split at located
      · cases located
      · next nonempty =>
          split at located
          · cases located
          · next short =>
              rw [if_neg noNul, if_neg nonempty, if_neg short]
              have start : (tree.put changed node).start path.toList = tree.start path.toList := rfl
              cases he : tree.enter (tree.start path.toList) (List.dropLast
                  (((Text.split '/' path.toList).filter (!·.isEmpty)).map String.ofList)) with
              | error fault => simp only [he] at located; cases located
              | ok location =>
                  simp only [start, enter_put below noDirectory node he]
                  simp only [he] at located
                  exact located

-----------------------------------------------------------------------------------------
-- Files
-----------------------------------------------------------------------------------------

/-- The path names a file that holds the content, and only that file may differ. -/
structure WroteOnly (path : String) (content : ByteArray) (before after : Tree) : Prop where
  read : after.read path = .ok content
  /-- The one location that may differ is the one that the path names. -/
  unchanged
    : ∃ directory name,
        before.locate path = .ok (.entry directory name false)
        ∧ after.find? (directory ++ [name]) = some (.file content)
        ∧ ∀ other, other ≠ directory ++ [name] → after.find? other = before.find? other
  workingDirectory : after.workingDirectory = before.workingDirectory

/-- Writing that succeeds has found a short name for a file, or for nothing so far. -/
theorem write_eq_ok_iff {tree after : Tree} {path : String} {content : ByteArray}
    : tree.write path content = .ok after
      ↔ ∃ directory name,
          tree.locate path = .ok (.entry directory name false)
          ∧ checkName name = .ok ()
          ∧ tree.find? (directory ++ [name]) ≠ some .directory
          ∧ after = tree.put (directory ++ [name]) (.file content) := by
  rw [write]
  cases hl : tree.locate path with
  | error fault => simp [bind, Except.bind]
  | ok target =>
      cases target with
      | directory => simp [bind, Except.bind]
      | entry directory name asDirectory =>
          cases asDirectory with
          | true => simp [bind, Except.bind]
          | false =>
              cases hc : checkName name with
              | error fault => simp [bind, Except.bind, hc]
              | ok _ =>
                  cases hf : tree.find? (directory ++ [name]) with
                  | none => simp [bind, Except.bind, hc, hf, eq_comm]
                  | some node => cases node <;> simp [bind, Except.bind, hc, hf, eq_comm]

theorem read_of_locate {tree : Tree} {path name : String} {directory : Location}
    {content : ByteArray} (located : tree.locate path = .ok (.entry directory name false))
    (short : checkName name = .ok ())
    (found : tree.find? (directory ++ [name]) = some (.file content))
    : tree.read path = .ok content := by
  rw [read, located]
  simp only [bind, Except.bind, short, found]
  rfl

/-- A write that succeeds leaves the content under its path and everything else as it was. -/
theorem wroteOnly_of_write {tree after : Tree} {path : String} {content : ByteArray}
    (written : tree.write path content = .ok after)
    : WroteOnly path content tree after := by
  obtain ⟨directory, name, located, short, noDirectory, rfl⟩ := write_eq_ok_iff.mp written
  have below : directory ++ [name] ≠ [] := by simp
  have found := find?_put_self below tree (.file content)
  constructor
  case read => exact read_of_locate (locate_put below noDirectory _ located) short found
  case unchanged =>
    refine ⟨directory, name, located, found, ?_⟩
    intro other differs
    rw [find?_put below, if_neg differs]
  case workingDirectory => rfl

end ClassDiagram.Files.Tree
