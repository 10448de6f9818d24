import ClassDiagram.Proofs.Json.ValueTexts

/-! What readers yield, from any text at all. Unlike agreement with a spelling, which is about texts
of JSON values, an invariant of the read values also covers the texts that readers are more tolerant
of.
-/

namespace ClassDiagram.Json

variable {α β : Type}

/-- All values that are read, from any text, have the property. -/
def Reader.Yields (reader : Reader α) (Has : α → Prop) : Prop :=
  ∀ ⦃budget s value after⦄, Takes (reader budget s) value after → Has value

/-- Each change that the field makes to a value keeps the property. -/
def Reader.Field.Keeps (field : Reader.Field α) (Has : α → Prop) : Prop :=
  ∀ ⦃budget s change after⦄, Takes (field.read budget s) change after → ∀ x, Has x → Has (change x)

theorem Reader.Yields.any {reader : Reader α} : reader.Yields fun _ => True :=
  fun _ _ _ _ _ => trivial

section
variable {reader : Reader α} {Has : α → Prop}

/-- Elements are yielded one by one, by induction on them. -/
theorem Reader.Yields.readElements (yields : reader.Yields Has) {budget : Nat} {first : Bool}
    {s after : List Char} {values : List α}
    (taken : Takes (Json.readElements (reader budget) first s) values after)
    : ∀ value ∈ values, Has value := by
  induction values generalizing first s after with
  | nil => simp
  | cons value values ih =>
      rw [Json.readElements] at taken
      obtain ⟨next, -, taken⟩ := takes_bind_iff.mp taken
      cases next with
      | closed rest shorter => simp at taken
      | item start bound =>
          obtain ⟨head, read, taken⟩ := takes_bind_iff.mp taken
          obtain ⟨tail, others, taken⟩ := takes_bind_iff.mp taken
          obtain ⟨⟨rfl, rfl⟩, -⟩ := takes_pure.mp taken
          exact List.forall_mem_cons.mpr
            ⟨yields (.of_eq_ok read), ih (.of_eq_ok others)⟩

theorem Reader.Yields.list (yields : reader.Yields Has)
    : (Reader.list reader).Yields fun values => ∀ value ∈ values, Has value := by
  intro budget s values after taken
  unfold Reader.list at taken
  split at taken
  · cases budget with
    | zero => exact absurd taken not_takes_error
    | succ inner =>
        obtain ⟨elements, read, taken⟩ := takes_bind_iff.mp taken
        obtain ⟨rfl, -⟩ := takes_pure.mp taken
        have found := takes_mapError_iff.mp (Takes.of_eq_ok read)
        exact yields.readElements found
  · exact absurd taken not_takes_error

end

theorem Reader.Yields.keeps {reader : Reader β} {Has : β → Prop} {Keeps : α → Prop}
    (yields : reader.Yields Has) (name : String) (set : β → α → α)
    (keeps : ∀ value x, Has value → Keeps x → Keeps (set value x))
    : (Field.optional name reader set).Keeps Keeps := by
  intro budget s change after taken
  obtain ⟨value, rfl, inner⟩ := takes_map_iff.mp taken
  exact fun x => keeps value x (yields inner)

section
variable {record : Reader.Record α} {Has : α → Prop}
  (keeps : ∀ field ∈ record.fields, field.Keeps Has)

include keeps

/-- By induction on the fields that are still to come. -/
theorem Reader.Record.has_of_takes_positional {budget : Nat} {fields : List (Field α)}
    (known : fields ⊆ record.fields) {first : Bool} {s after : List Char} {old new : α}
    (has : Has old) (taken : Takes (positional record budget old first s fields) new after)
    : Has new := by
  induction fields generalizing first s old after with
  | nil =>
      obtain ⟨_, rfl, -⟩ := takes_map_iff.mp taken
      exact has
  | cons field fields ih =>
      rw [Reader.positional] at taken
      obtain ⟨next, -, taken⟩ := takes_bind_iff.mp taken
      obtain ⟨hf, others⟩ := List.cons_subset.mp known
      cases next with
      | closed rest shorter =>
          dsimp only at taken
          split at taken
          · obtain ⟨rfl, -⟩ := takes_pure.mp taken
            exact has
          · exact absurd taken not_takes_error
      | item start bound =>
          obtain ⟨change, read, taken⟩ := takes_bind_iff.mp taken
          obtain ⟨tail, others, taken⟩ := takes_bind_iff.mp taken
          obtain ⟨rfl, -⟩ := takes_pure.mp taken
          have changed := keeps field (known List.mem_cons_self) (.of_eq_ok read) old has
          have later := Takes.of_eq_ok others
          exact ih (List.subset_of_cons_subset known) changed later

/-- By induction on the length of the text, as members without a field are passed over. -/
theorem Reader.Record.has_of_takes_named {budget : Nat} {seen : List String} {first : Bool}
    {s after : List Char} {old new : α} (has : Has old)
    (taken : Takes (named record budget old seen first s) new after)
    : Has new := by
  induction hn : s.length using Nat.strongRecOn generalizing seen first s old after with
  | _ length ih =>
      subst hn
      rw [Reader.named] at taken
      obtain ⟨next, -, taken⟩ := takes_bind_iff.mp taken
      cases next with
      | closed rest shorter =>
          dsimp only at taken
          split at taken
          · obtain ⟨rfl, -⟩ := takes_pure.mp taken
            exact has
          · exact absurd taken not_takes_error
      | item start bound =>
          have bound : start.length < s.length := bound
          obtain ⟨key, -, taken⟩ := takes_bind_iff.mp taken
          have := key.shorter
          dsimp only at taken
          split at taken
          · next field found =>
              have hf : field ∈ record.fields := List.mem_of_find?_eq_some found
              split at taken
              · exact absurd taken not_takes_error
              · obtain ⟨afterColon, -, taken⟩ := takes_bind_iff.mp taken
                obtain ⟨change, read, taken⟩ := takes_bind_iff.mp taken
                obtain ⟨tail, others, taken⟩ := takes_bind_iff.mp taken
                obtain ⟨rfl, -⟩ := takes_pure.mp taken
                have := afterColon.2
                have := change.shorter
                have changed := keeps field hf (.of_eq_ok read) old has
                have later := Takes.of_eq_ok others
                exact ih change.rest.length (by omega) changed later rfl
          · obtain ⟨afterColon, -, taken⟩ := takes_bind_iff.mp taken
            obtain ⟨skipped, -, taken⟩ := takes_bind_iff.mp taken
            obtain ⟨tail, others, taken⟩ := takes_bind_iff.mp taken
            obtain ⟨rfl, -⟩ := takes_pure.mp taken
            have := afterColon.2
            have := skipped.2
            have later := Takes.of_eq_ok others
            exact ih skipped.1.length (by omega) has later rfl

/-- What the record starts with and every change keeps, all read records have. -/
theorem Reader.Record.yields (has : Has record.start) : (Reader.record record).Yields Has := by
  intro budget s value after taken
  unfold Reader.record at taken
  split at taken
  · exact absurd taken not_takes_error
  · split at taken
    · cases budget with
      | zero => exact absurd taken not_takes_error
      | succ inner =>
          obtain ⟨read, found, taken⟩ := takes_bind_iff.mp taken
          obtain ⟨rfl, -⟩ := takes_pure.mp taken
          have found := takes_mapError_iff.mp (Takes.of_eq_ok found)
          exact has_of_takes_positional keeps (List.Subset.refl _) has found
    · split at taken
      · cases budget with
        | zero => exact absurd taken not_takes_error
        | succ inner =>
            obtain ⟨read, found, taken⟩ := takes_bind_iff.mp taken
            obtain ⟨rfl, -⟩ := takes_pure.mp taken
            have found := takes_mapError_iff.mp (Takes.of_eq_ok found)
            exact has_of_takes_named keeps has found
      · exact absurd taken not_takes_error

end

/-- What is read from a whole text has the property, too. -/
theorem Reader.Yields.of_read {reader : Reader α} {Has : α → Prop} (yields : reader.Yields Has)
    {text : String} {value : α} (h : read reader text = .ok value)
    : Has value := by
  obtain ⟨rest, taken, -⟩ := read_eq_ok_iff_takes.mp h
  exact yields taken

end ClassDiagram.Json
