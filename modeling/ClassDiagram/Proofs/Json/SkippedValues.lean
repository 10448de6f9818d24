import ClassDiagram.Proofs.Json.ValueTexts

/-! Passing over a value goes as far as reading it would, whatever the value, its size and its
depth. Strings and numbers are passed over by looser rules than they are read by; the brackets that
are open are kept in a list instead of calls, so that the statement is about any such list.
-/

namespace ClassDiagram.Json

-----------------------------------------------------------------------------------------
-- Strings
-----------------------------------------------------------------------------------------

theorem skipQuoted_quote (rest : List Char) : Leaves (skipQuoted ('"' :: rest)) rest := by
  unfold skipQuoted
  exact ⟨length_le_cons _ rest, if_pos rfl⟩

theorem skipQuoted_plain {c : Char} {s rest : List Char} (quote : c ≠ '"') (slash : c ≠ '\\')
    (printable : ¬ c.toNat < 0x20) (tail : Leaves (skipQuoted s) rest)
    : Leaves (skipQuoted (c :: s)) rest := by
  obtain ⟨bound, passed⟩ := tail
  unfold skipQuoted
  simp only [if_neg quote, if_neg slash, if_neg printable, passed]
  exact ⟨_, rfl⟩

theorem skipQuoted_short {letter : Char} {s rest : List Char} (unit : letter ≠ 'u')
    (known : (shortEscape? letter).isSome) (tail : Leaves (skipQuoted s) rest)
    : Leaves (skipQuoted ('\\' :: letter :: s)) rest := by
  obtain ⟨bound, passed⟩ := tail
  unfold skipQuoted
  rw [if_neg (by decide), if_pos rfl]
  dsimp only
  rw [if_neg unit, if_pos known, passed]
  exact ⟨_, rfl⟩

theorem skipQuoted_unit {s rest : List Char} {unit : Read Nat s} (taken : readUnit s = .ok unit)
    (tail : Leaves (skipQuoted unit.rest) rest)
    : Leaves (skipQuoted ('\\' :: 'u' :: s)) rest := by
  obtain ⟨bound, passed⟩ := tail
  unfold skipQuoted
  rw [if_neg (by decide), if_pos rfl]
  dsimp only
  rw [if_pos rfl, taken]
  change Leaves (skipQuoted unit.rest >>= _) rest
  rw [passed]
  exact ⟨_, rfl⟩

/-- A character is given by one unit, or by a second one in an escape of its own. -/
theorem readUnitEscape_cases {s : List Char} {c : Read Char s} (taken : readUnitEscape s = .ok c)
    : ∃ unit,
        readUnit s = .ok unit
        ∧ (c.rest = unit.rest
          ∨ ∃ t second,
              unit.rest = '\\' :: 'u' :: t ∧ readUnit t = .ok second ∧ c.rest = second.rest) := by
  unfold readUnitEscape at taken
  cases hu : readUnit s with
  | error fault => rw [hu] at taken; cases taken
  | ok unit =>
      refine ⟨unit, rfl, ?_⟩
      rw [hu] at taken
      change (if isLowSurrogate unit.value then _ else _) = _ at taken
      split at taken
      · cases taken
      · split at taken
        · split at taken
          · next t ht =>
              cases hs : readUnit t with
              | error fault => rw [hs] at taken; cases taken
              | ok second =>
                  rw [hs] at taken
                  change (if isLowSurrogate second.value then _ else _) = _ at taken
                  split at taken
                  · obtain rfl := Except.ok.inj taken
                    exact .inr ⟨t, second, ht, hs, rfl⟩
                  · cases taken
          · cases taken
          · cases taken
          · cases taken
          · cases taken
        · obtain rfl := Except.ok.inj taken
          exact .inl rfl

/-- An escape that can be read can be passed over; the second unit of a pair counts as an escape of
its own.
-/
theorem skipQuoted_escape {s rest : List Char} {c : Read Char s} (taken : readEscape s = .ok c)
    (tail : Leaves (skipQuoted c.rest) rest)
    : Leaves (skipQuoted ('\\' :: s)) rest := by
  cases s with
  | nil => cases taken
  | cons letter t =>
      unfold readEscape at taken
      dsimp only at taken
      split at taken
      · next hl =>
          subst hl
          cases hu : readUnitEscape t with
          | error fault => rw [hu] at taken; cases taken
          | ok read =>
              rw [hu] at taken
              obtain rfl := Except.ok.inj taken
              obtain ⟨unit, first, one | ⟨t', second, two, taken, pair⟩⟩ := readUnitEscape_cases hu
              · exact skipQuoted_unit first (one ▸ tail)
              · apply skipQuoted_unit first
                rw [two]
                exact skipQuoted_unit taken (pair ▸ tail)
      · next hl =>
          split at taken
          · next c' known =>
              obtain rfl := Except.ok.inj taken
              exact skipQuoted_short hl (by simp [known]) tail
          · cases taken

/-- A string that can be read can be passed over, by induction on its characters. -/
theorem skipQuoted_of_readQuoted {s chars rest : List Char}
    (taken : Takes (readQuoted s) chars rest)
    : Leaves (skipQuoted s) rest := by
  induction s using readQuoted.induct generalizing chars with
  | case1 =>
      unfold readQuoted at taken
      exact absurd taken not_takes_error
  | case2 tail =>
      unfold readQuoted at taken
      obtain ⟨-, rfl⟩ := takes_ok.mp taken
      exact skipQuoted_quote tail
  | case3 tail _ ih =>
      unfold readQuoted at taken
      rw [if_neg (by decide), if_pos rfl] at taken
      obtain ⟨c, escape, taken⟩ := takes_bind_iff.mp taken
      obtain ⟨others, read, final⟩ := takes_bind_iff.mp taken
      obtain ⟨-, rfl⟩ := takes_pure.mp final
      exact skipQuoted_escape escape (ih c ⟨_, read⟩)
  | case4 c tail quote slash control =>
      unfold readQuoted at taken
      rw [if_neg quote, if_neg slash, if_pos control] at taken
      exact absurd taken not_takes_error
  | case5 c tail quote slash printable ih =>
      unfold readQuoted at taken
      rw [if_neg quote, if_neg slash, if_neg printable] at taken
      obtain ⟨others, read, final⟩ := takes_bind_iff.mp taken
      obtain ⟨-, rfl⟩ := takes_pure.mp final
      exact skipQuoted_plain quote slash printable (ih ⟨_, read⟩)

-----------------------------------------------------------------------------------------
-- Numbers
-----------------------------------------------------------------------------------------

section
variable {known other : Cause} {s : List Char}

/-! What is reported at the end of a text matters only where reading fails. -/

theorem wholePart_of_eq_ok {read : Read Nat s} (taken : wholePart known s = .ok read)
    : wholePart other s = .ok read := by
  cases s with
  | nil => cases taken
  | cons c rest =>
      unfold wholePart at taken ⊢
      dsimp only at taken ⊢
      cases hd : digit? c with
      | none => rw [hd] at taken; cases taken
      | some first => rwa [hd] at taken

theorem fractionPart_of_eq_ok {read : List Digit × Rest s} (taken : fractionPart known s = .ok read)
    : fractionPart other s = .ok read := by
  unfold fractionPart at taken ⊢
  split at taken
  · split at taken
    · cases taken
    · exact taken
  · exact taken

theorem exponentPart_of_eq_ok {read : Option Exponent × Rest s}
    (taken : exponentPart known s = .ok read)
    : exponentPart other s = .ok read := by
  cases s with
  | nil => exact taken
  | cons c rest =>
      unfold exponentPart at taken ⊢
      dsimp only at taken ⊢
      split
      · next mark =>
          rw [if_pos mark] at taken
          split at taken
          · cases taken
          · exact taken
      · next mark => rwa [if_neg mark] at taken

theorem readNumeral_of_takes {numeral : Numeral} {rest : List Char}
    (taken : Takes (readNumeral known s) numeral rest)
    : Takes (readNumeral other s) numeral rest := by
  unfold readNumeral at taken ⊢
  dsimp only at taken ⊢
  obtain ⟨whole, hw, taken⟩ := takes_bind_iff.mp taken
  obtain ⟨fraction, hf, taken⟩ := takes_bind_iff.mp taken
  obtain ⟨exponent, he, taken⟩ := takes_bind_iff.mp taken
  apply takes_bind_iff.mpr ⟨whole, wholePart_of_eq_ok hw, ?_⟩
  apply takes_bind_iff.mpr ⟨fraction, fractionPart_of_eq_ok hf, ?_⟩
  exact takes_bind_iff.mpr ⟨exponent, exponentPart_of_eq_ok he, taken⟩

end

-----------------------------------------------------------------------------------------
-- Values
-----------------------------------------------------------------------------------------

theorem skipScalar_word {c : Char} {s rest : List Char} {passing : Except Fault (Rest s)}
    (step : skipScalar (c :: s) = passing.map (Read.afterFirst c ())) (passed : Leaves passing rest)
    : Takes (skipScalar (c :: s)) () rest := by
  obtain ⟨bound, rfl⟩ := passed
  rw [step]
  exact ⟨_, rfl⟩

theorem skipScalar_number {c : Char} {s rest : List Char} {numeral : Numeral}
    (first : startsNumber c = true) (taken : Takes (readNumeral .endInValue (c :: s)) numeral rest)
    : Takes (skipScalar (c :: s)) () rest := by
  have other {letter : Char} (hl : startsNumber letter = false) : c ≠ letter := by
    rintro rfl
    rw [hl] at first
    cases first
  unfold skipScalar
  dsimp only
  rw [if_neg (other (by decide)), if_neg (other (by decide)), if_neg (other (by decide)),
    if_neg (other (by decide)), if_pos first]
  exact takes_map_iff.mpr ⟨numeral, rfl, readNumeral_of_takes taken⟩

/-- A value that is not in brackets is passed over at once. -/
theorem skipOpen_scalar {s t rest : List Char} {c : Char} (start : skipSpace s = c :: t)
    (list : c ≠ '[') (object : c ≠ '\x7b') (passed : Takes (skipScalar (c :: t)) () rest)
    (brackets : List Bracket)
    : skipOpen brackets .value s = skipOpen brackets (.between false) rest := by
  rw [← start] at passed
  obtain ⟨shorter, passed⟩ := passed
  rw [skipOpen]
  split
  · next h => exact absurd (List.head_eq_of_cons_eq (start.symm.trans h)) list
  · next h => exact absurd (List.head_eq_of_cons_eq (start.symm.trans h)) object
  · rw [passed]

theorem skipOpen_list {s inner : List Char} (start : skipSpace s = '[' :: inner)
    (brackets : List Bracket)
    : skipOpen brackets .value s = skipOpen (.list :: brackets) (.between true) inner := by
  rw [skipOpen]
  split
  · next h => rw [List.tail_eq_of_cons_eq (start.symm.trans h)]
  · next h => cases start.symm.trans h
  · next other _ => exact (other _ start).elim

theorem skipOpen_object {s inner : List Char} (start : skipSpace s = '\x7b' :: inner)
    (brackets : List Bracket)
    : skipOpen brackets .value s = skipOpen (.object :: brackets) (.between true) inner := by
  rw [skipOpen]
  split
  · next h => cases start.symm.trans h
  · next h => rw [List.tail_eq_of_cons_eq (start.symm.trans h)]
  · next other => exact (other _ start).elim

/-- Blanks before a value are passed over with it. -/
theorem skipOpen_skipSpace (brackets : List Bracket) (s : List Char)
    : skipOpen brackets .value (skipSpace s) = skipOpen brackets .value s := by
  rw [skipOpen, skipOpen, skipSpace_skipSpace]

theorem skipOpen_closed {bracket : Bracket} {s rest : List Char}
    (start : skipSpace s = bracket.closing :: rest) (first : Bool) (outer : List Bracket)
    : skipOpen (bracket :: outer) (.between first) s = skipOpen outer (.between false) rest := by
  have passed : ∃ shorter, skipBetween bracket first s = .ok (.closed rest shorter) := by
    unfold skipBetween
    split
    · next h => cases h.symm.trans start
    · next h =>
        obtain ⟨rfl, rfl⟩ := List.cons.inj (h.symm.trans start)
        exact ⟨length_lt_of_skipSpace_eq start, if_pos rfl⟩
  obtain ⟨shorter, passed⟩ := passed
  rw [skipOpen, passed]

theorem skipOpen_item {bracket : Bracket} {first : Bool} {s rest : List Char}
    {shorter : rest.length < s.length + first.toNat}
    (reached : skipBetween bracket first s = .ok (.item rest shorter)) (outer : List Bracket)
    : skipOpen (bracket :: outer) (.between first) s = skipOpen (bracket :: outer) .value rest := by
  conv_lhs => rw [skipOpen]
  rw [reached]

theorem skipOpen_firstItem {s t : List Char} {c : Char} (start : skipSpace s = c :: t)
    (item : c ≠ ']') (outer : List Bracket)
    : skipOpen (.list :: outer) (.between true) s = skipOpen (.list :: outer) .value s := by
  have reached : ∃ shorter, skipBetween .list true s = .ok (.item (c :: t) shorter) := by
    unfold skipBetween
    split
    · next h => cases h.symm.trans start
    · next h =>
        obtain ⟨rfl, rfl⟩ := List.cons.inj (h.symm.trans start)
        exact ⟨length_lt_first (length_lt_of_skipSpace_eq start), if_neg item⟩
  obtain ⟨_, reached⟩ := reached
  rw [skipOpen_item reached, ← start, skipOpen_skipSpace]

theorem skipOpen_laterItem {s t : List Char} (comma : skipSpace s = ',' :: t)
    (outer : List Bracket)
    : skipOpen (.list :: outer) (.between false) s = skipOpen (.list :: outer) .value t := by
  have reached : ∃ shorter, skipBetween .list false s = .ok (.item t shorter) := by
    unfold skipBetween
    split
    · next h => cases h.symm.trans comma
    · next h =>
        obtain ⟨rfl, rfl⟩ := List.cons.inj (h.symm.trans comma)
        exact ⟨length_lt_of_skipSpace_eq comma, rfl⟩
  obtain ⟨_, reached⟩ := reached
  exact skipOpen_item reached outer

/-- A key and its colon are passed over, up to the value. -/
theorem skipKey_of_readQuoted {s quoted chars t u : List Char} (start : skipSpace s = '"' :: quoted)
    (key : Takes (readQuoted quoted) chars t) (colon : skipSpace t = ':' :: u)
    : Leaves (skipKey s) u := by
  obtain ⟨_, passed⟩ := skipQuoted_of_readQuoted key
  obtain ⟨_, after⟩ := readColon_of_skipSpace_eq colon
  unfold skipKey
  split
  · next h =>
      obtain rfl := List.tail_eq_of_cons_eq (h.symm.trans start)
      rw [passed]
      change Leaves (readColon t >>= _) u
      rw [after]
      exact ⟨_, rfl⟩
  · next h => cases h.symm.trans start
  · next other _ => exact (other _ start).elim

theorem skipOpen_firstMember {s t u : List Char} (start : skipSpace s = '"' :: t)
    (key : Leaves (skipKey ('"' :: t)) u) (outer : List Bracket)
    : skipOpen (.object :: outer) (.between true) s = skipOpen (.object :: outer) .value u := by
  have reached : ∃ shorter, skipBetween .object true s = .ok (.item u shorter) := by
    obtain ⟨bound, key⟩ := key
    refine ⟨Nat.lt_of_le_of_lt bound (length_lt_first (length_lt_of_skipSpace_eq start)), ?_⟩
    unfold skipBetween
    split
    · next h => cases h.symm.trans start
    · next h =>
        obtain ⟨rfl, rfl⟩ := List.cons.inj (start.symm.trans h)
        change (skipKey ('"' :: t) >>= _) = _
        rw [key]
        rfl
  obtain ⟨_, reached⟩ := reached
  exact skipOpen_item reached outer

theorem skipOpen_laterMember {s t u : List Char} (comma : skipSpace s = ',' :: t)
    (key : Leaves (skipKey t) u) (outer : List Bracket)
    : skipOpen (.object :: outer) (.between false) s = skipOpen (.object :: outer) .value u := by
  have reached : ∃ shorter, skipBetween .object false s = .ok (.item u shorter) := by
    obtain ⟨bound, key⟩ := key
    refine ⟨Nat.lt_of_le_of_lt bound (length_lt_of_skipSpace_eq comma), ?_⟩
    unfold skipBetween
    split
    · next h => cases h.symm.trans comma
    · next h =>
        obtain ⟨rfl, rfl⟩ := List.cons.inj (comma.symm.trans h)
        change (skipKey t >>= _) = _
        rw [key]
        rfl
  obtain ⟨_, reached⟩ := reached
  exact skipOpen_item reached outer

mutual

/-- A value is passed over whatever brackets are open, by induction on its text. -/
theorem Begins.skipOpen_value {s rest : List Char} {value : Json} (h : Begins s value rest)
    (brackets : List Bracket)
    : skipOpen brackets .value s = skipOpen brackets (.between false) rest := by
  cases h with
  | null start =>
      exact skipOpen_scalar start (by decide) (by decide)
        (skipScalar_word rfl (readWord_append ['u', 'l', 'l'] _)) brackets
  | true start =>
      exact skipOpen_scalar start (by decide) (by decide)
        (skipScalar_word rfl (readWord_append ['r', 'u', 'e'] _)) brackets
  | false start =>
      exact skipOpen_scalar start (by decide) (by decide)
        (skipScalar_word rfl (readWord_append ['a', 'l', 's', 'e'] _)) brackets
  | number start first taken =>
      refine skipOpen_scalar start ?_ ?_ (skipScalar_number first taken) brackets
      · rintro rfl
        cases first
      · rintro rfl
        cases first
  | text start taken =>
      exact skipOpen_scalar start (by decide) (by decide)
        (skipScalar_word rfl (skipQuoted_of_readQuoted taken)) brackets
  | list start inside =>
      rw [skipOpen_list start]
      exact inside.skipOpen_between brackets
  | object start inside =>
      rw [skipOpen_object start]
      exact inside.skipOpen_between brackets

theorem BeginsItems.skipOpen_between {first : Bool} {s rest : List Char} {items : List Json}
    (h : BeginsItems first s items rest) (outer : List Bracket)
    : skipOpen (.list :: outer) (.between first) s = skipOpen outer (.between false) rest := by
  cases h with
  | closed start => exact skipOpen_closed start first outer
  | first head tail =>
      obtain ⟨c, t, start, isFirst⟩ := head.exists_first
      rw [skipOpen_firstItem start isFirst.ne_bracket, head.skipOpen_value]
      exact tail.skipOpen_between outer
  | later comma head tail =>
      rw [skipOpen_laterItem comma, head.skipOpen_value]
      exact tail.skipOpen_between outer

theorem BeginsMembers.skipOpen_between {first : Bool} {s rest : List Char}
    {members : List (String × Json)} (h : BeginsMembers first s members rest)
    (outer : List Bracket)
    : skipOpen (.object :: outer) (.between first) s = skipOpen outer (.between false) rest := by
  cases h with
  | closed start => exact skipOpen_closed start first outer
  | first head tail =>
      cases head with
      | keyed start key colon value =>
          have passed := skipKey_of_readQuoted (start ▸ skipSpace_skipSpace _) key colon
          rw [skipOpen_firstMember start passed, value.skipOpen_value]
          exact tail.skipOpen_between outer
  | later comma head tail =>
      cases head with
      | keyed start key colon value =>
          have passed := skipKey_of_readQuoted start key colon
          rw [skipOpen_laterMember comma passed, value.skipOpen_value]
          exact tail.skipOpen_between outer

end

/-- Passing over a value leaves what comes after it. -/
theorem Begins.skipValue {s rest : List Char} {value : Json} (h : Begins s value rest)
    : Leaves (skipValue s) rest := by
  have passed : skipOpen [] .value s = .ok rest := by
    rw [h.skipOpen_value, skipOpen]
  unfold Json.skipValue
  split
  · next h =>
      obtain rfl := Except.ok.inj (h.symm.trans passed)
      exact ⟨length_skipOpen_le passed, rfl⟩
  · next h => cases h.symm.trans passed

end ClassDiagram.Json
