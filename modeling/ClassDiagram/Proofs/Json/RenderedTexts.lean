import ClassDiagram.Proofs.Json.ValueTexts

/-! The text that a value is rendered as is a text of that value: strings are escaped so that they
are read back, numerals keep all of their digits, and what follows a value cannot be taken for a
part of it.
-/

namespace ClassDiagram.Json

-----------------------------------------------------------------------------------------
-- Strings
-----------------------------------------------------------------------------------------

theorem takes_readQuoted_quote (rest : List Char) : Takes (readQuoted ('"' :: rest)) [] rest := by
  unfold readQuoted
  exact ⟨length_lt_cons _ rest, if_pos rfl⟩

theorem takes_readQuoted_plain {c : Char} {s chars rest : List Char} (quote : c ≠ '"')
    (slash : c ≠ '\\') (printable : ¬ c.toNat < 0x20) (tail : Takes (readQuoted s) chars rest)
    : Takes (readQuoted (c :: s)) (c :: chars) rest := by
  obtain ⟨shorter, taken⟩ := tail
  unfold readQuoted
  simp only [if_neg quote, if_neg slash, if_neg printable, taken]
  exact ⟨_, rfl⟩

theorem takes_readQuoted_escape {c : Char} {s t chars rest : List Char}
    (head : Takes (readEscape s) c t) (tail : Takes (readQuoted t) chars rest)
    : Takes (readQuoted ('\\' :: s)) (c :: chars) rest := by
  obtain ⟨_, first⟩ := head
  obtain ⟨_, others⟩ := tail
  unfold readQuoted
  rw [if_neg (by decide), if_pos rfl, first]
  change Takes (readQuoted t >>= _) _ _
  rw [others]
  exact ⟨_, rfl⟩

theorem takes_readEscape_short {letter c : Char} (short : shortEscape? letter = some c)
    (rest : List Char)
    : Takes (readEscape (letter :: rest)) c rest := by
  have unit : letter ≠ 'u' := by
    rintro rfl
    cases short
  unfold readEscape
  dsimp only
  rw [if_neg unit, short]
  exact ⟨_, rfl⟩

theorem takes_readUnit {a b c d : Char} {i j k l : Nat} (ha : Text.hexValue? a = some i)
    (hb : Text.hexValue? b = some j) (hc : Text.hexValue? c = some k)
    (hd : Text.hexValue? d = some l) (rest : List Char)
    : Takes (readUnit (a :: b :: c :: d :: rest)) (((i * 16 + j) * 16 + k) * 16 + l) rest := by
  have enough : ¬ left ((a :: b :: c :: d :: rest).take 4) < 4 := by
    have := a.utf8Size_pos
    have := b.utf8Size_pos
    have := c.utf8Size_pos
    have := d.utf8Size_pos
    simp only [left, List.take_succ_cons, List.take_zero, List.foldr_cons, List.foldr_nil]
    omega
  unfold readUnit
  rw [if_neg enough]
  simp only [ha, hb, hc, hd]
  exact ⟨_, rfl⟩

/-- The escape of a control character is read as that character. -/
theorem takes_readEscape_control {c : Char} (control : c.toNat < 0x20) (rest : List Char)
    : Takes
        (readEscape
          ('u' :: '0' :: '0' :: Nat.digitChar (c.toNat / 16) :: Nat.digitChar (c.toNat % 16)
            :: rest))
        c rest := by
  have digits : ∀ value : Fin 0x20,
      Text.hexValue? (Nat.digitChar (value.val / 16)) = some (value.val / 16)
      ∧ Text.hexValue? (Nat.digitChar (value.val % 16)) = some (value.val % 16) := by
    decide
  obtain ⟨high, low⟩ := digits ⟨c.toNat, control⟩
  have zero : Text.hexValue? '0' = some 0 := by decide
  obtain ⟨shorter, unit⟩ := takes_readUnit zero zero high low rest
  have value : ((0 * 16 + 0) * 16 + c.toNat / 16) * 16 + c.toNat % 16 = c.toNat := by omega
  have noLow : isLowSurrogate c.toNat = false := by
    simp [isLowSurrogate]
    omega
  have noHigh : isHighSurrogate c.toNat = false := by
    simp [isHighSurrogate]
    omega
  simp only [value] at unit
  unfold readEscape
  dsimp only
  rw [if_pos rfl, takes_bind_iff]
  refine ⟨⟨c, rest, shorter⟩, ?_, by simp [Read.within]⟩
  unfold readUnitEscape
  rw [unit]
  change (if isLowSurrogate c.toNat = true then _ else _) = _
  rw [noLow, if_neg (by decide)]
  simp only [noHigh]
  simp [Read.map, pure, Except.pure]

theorem escapeChar_cases (c : Char)
    : (∃ letter, escapeChar c = ['\\', letter] ∧ shortEscape? letter = some c)
      ∨ (c.toNat < 0x20
        ∧ escapeChar c
          = ['\\', 'u', '0', '0', Nat.digitChar (c.toNat / 16), Nat.digitChar (c.toNat % 16)])
      ∨ (escapeChar c = [c] ∧ c ≠ '"' ∧ c ≠ '\\' ∧ ¬ c.toNat < 0x20) := by
  unfold escapeChar
  split
  iterate 7 exact .inl ⟨_, rfl, rfl⟩
  next quote slash _ _ _ _ _ =>
    split
    · next control => exact .inr (.inl ⟨control, rfl⟩)
    · next printable => exact .inr (.inr ⟨rfl, quote, slash, printable⟩)

/-- Each character is read back from its escape. -/
theorem takes_readQuoted_escapeChar (c : Char) {s chars rest : List Char}
    (tail : Takes (readQuoted s) chars rest)
    : Takes (readQuoted (escapeChar c ++ s)) (c :: chars) rest := by
  obtain ⟨letter, escape, short⟩ | ⟨control, escape⟩ | ⟨escape, quote, slash, printable⟩ :=
    escapeChar_cases c
  · rw [escape]
    exact takes_readQuoted_escape (takes_readEscape_short short s) tail
  · rw [escape]
    exact takes_readQuoted_escape (takes_readEscape_control control s) tail
  · rw [escape]
    exact takes_readQuoted_plain quote slash printable tail

/-- All characters are read back up to the quote, by induction on them. -/
theorem takes_readQuoted_flatMap (chars rest : List Char)
    : Takes (readQuoted (chars.flatMap escapeChar ++ '"' :: rest)) chars rest := by
  induction chars with
  | nil => exact takes_readQuoted_quote rest
  | cons c chars ih =>
      rw [List.flatMap_cons, List.append_assoc]
      exact takes_readQuoted_escapeChar c ih

-----------------------------------------------------------------------------------------
-- Numerals
-----------------------------------------------------------------------------------------

/-- A text that does not go on with such a character. -/
def GoesOnWithout (unwanted : Char → Prop) (s : List Char) : Prop :=
  ∀ c ∈ s.head?, ¬ unwanted c

/-- Characters that would be taken for a part of the digits before them. -/
def IsDigit (c : Char) : Prop :=
  (digit? c).isSome

/-- Characters that would be taken for a part of the numeral before them. -/
def ContinuesNumeral (c : Char) : Prop :=
  IsDigit c ∨ c = '.' ∨ c = 'e' ∨ c = 'E'

theorem digit?_digitChar (digit : Digit) : digit? (Nat.digitChar digit.val) = some digit := by
  revert digit
  decide

theorem readDigits_stop {s : List Char} (stop : GoesOnWithout IsDigit s)
    : ∃ bound, readDigits s = ([], ⟨s, bound⟩) := by
  cases s with
  | nil => exact ⟨_, rfl⟩
  | cons c rest =>
      have none : digit? c = none := by simpa [GoesOnWithout, IsDigit] using stop
      rw [readDigits, none]
      exact ⟨_, rfl⟩

/-- All digits are read, by induction on them. -/
theorem readDigits_digitChars (digits : List Digit) {rest : List Char}
    (stop : GoesOnWithout IsDigit rest)
    : ∃ bound, readDigits (Numeral.digitChars digits ++ rest) = (digits, ⟨rest, bound⟩) := by
  induction digits with
  | nil => exact readDigits_stop stop
  | cons digit digits ih =>
      obtain ⟨bound, others⟩ := ih
      change ∃ bound, readDigits (_ :: (Numeral.digitChars digits ++ rest)) = _
      rw [readDigits, digit?_digitChar, others]
      exact ⟨_, rfl⟩

/-- The value of further digits after the first ones. -/
def valueAfter (start : Nat) (digits : List Digit) : Nat :=
  digits.foldl (fun value digit => value * 10 + digit.val) start

/-- The digits of a number, of which a zero stands alone; by induction on the number. -/
theorem exists_digits_of_toDigits (value : Nat)
    : ∃ first others,
        Nat.toDigits 10 value = Numeral.digitChars (first :: others)
        ∧ valueAfter first.val others = value
        ∧ (first.val = 0 → others = []) := by
  induction value using Nat.strongRecOn with
  | _ value ih =>
      by_cases small : value < 10
      · exact ⟨⟨value, small⟩, [], Nat.toDigits_of_lt_base small, rfl, fun _ => rfl⟩
      · have tens : 0 < value / 10 := by omega
        have last : value % 10 < 10 := by omega
        obtain ⟨first, others, written, valued, leading⟩ := ih (value / 10) (by omega)
        refine ⟨first, others ++ [⟨value % 10, last⟩], ?_, ?_, ?_⟩
        · have split := Nat.toDigits_append_toDigits (b := 10) (by decide) tens last
          rw [Nat.div_add_mod, Nat.toDigits_of_lt_base last, written] at split
          rw [← split]
          simp [Numeral.digitChars]
        · simp only [valueAfter] at valued
          simp only [valueAfter, List.foldl_append, valued, List.foldl_cons, List.foldl_nil]
          omega
        · intro zero
          rw [leading zero] at valued
          simp only [valueAfter, List.foldl_nil, zero] at valued
          omega

theorem takes_wholePart (known : Cause) (value : Nat) {rest : List Char}
    (stop : GoesOnWithout IsDigit rest)
    : Takes (wholePart known (Nat.toDigits 10 value ++ rest)) value rest := by
  obtain ⟨first, others, written, valued, leading⟩ := exists_digits_of_toDigits value
  obtain ⟨bound, read⟩ := readDigits_digitChars others stop
  rw [written]
  change Takes (wholePart known (_ :: (Numeral.digitChars others ++ rest))) value rest
  unfold wholePart
  simp only [digit?_digitChar, read]
  have alone : (first.val = 0 && !others.isEmpty) = false := by
    by_cases zero : first.val = 0
    · simp [leading zero]
    · simp [zero]
  rw [alone, if_neg (by decide), takes_ok]
  exact ⟨valued, rfl⟩

def fractionChars (fraction : List Digit) : List Char :=
  if fraction.isEmpty then [] else '.' :: Numeral.digitChars fraction

theorem fractionPart_fractionChars (known : Cause) (fraction : List Digit) {rest : List Char}
    (stop : GoesOnWithout IsDigit rest) (point : GoesOnWithout (· = '.') rest)
    : ∃ bound, fractionPart known (fractionChars fraction ++ rest) = .ok (fraction, ⟨rest, bound⟩)
    := by
  cases fraction with
  | nil =>
      change ∃ bound, fractionPart known rest = _
      unfold fractionPart
      split
      · simp [GoesOnWithout] at point
      · exact ⟨Nat.le_refl _, rfl⟩
  | cons digit digits =>
      obtain ⟨bound, read⟩ := readDigits_digitChars (digit :: digits) stop
      change ∃ bound, fractionPart known ('.' :: (Numeral.digitChars (digit :: digits) ++ rest)) = _
      rw [fractionPart, read]
      exact ⟨_, rfl⟩

def exponentChars : Option Exponent → List Char
  | none => []
  | some exponent =>
      'e' :: (if exponent.negative then ['-'] else [])
        ++ Numeral.digitChars (exponent.leading :: exponent.further)

theorem exponentSign_digitChar (digit : Digit) (rest : List Char)
    : ∃ bound,
        exponentSign (Nat.digitChar digit.val :: rest)
        = (false, ⟨Nat.digitChar digit.val :: rest, bound⟩) := by
  have sign : ∀ digit : Digit, Nat.digitChar digit.val ≠ '-' ∧ Nat.digitChar digit.val ≠ '+' := by
    decide
  obtain ⟨minus, plus⟩ := sign digit
  exact ⟨Nat.le_refl _, by rw [exponentSign] <;> simp [minus, plus]⟩

theorem exponentPart_of_readDigits (known : Cause) {negative : Bool} {leading : Digit}
    {further : List Digit} {s rest : List Char} {unsigned : Rest s} {after : Rest unsigned.1}
    (sign : exponentSign s = (negative, unsigned))
    (read : readDigits unsigned.1 = (leading :: further, after)) (left : after.1 = rest)
    : ∃ bound,
        exponentPart known ('e' :: s)
        = .ok (some { negative, leading, further }, ⟨rest, bound⟩) := by
  subst left
  rw [exponentPart, if_pos (by decide), sign]
  dsimp only
  rw [read]
  exact ⟨_, rfl⟩

theorem exponentPart_exponentChars (known : Cause) (exponent : Option Exponent) {rest : List Char}
    (stop : GoesOnWithout IsDigit rest) (letter : GoesOnWithout (fun c => c = 'e' ∨ c = 'E') rest)
    : ∃ bound, exponentPart known (exponentChars exponent ++ rest) = .ok (exponent, ⟨rest, bound⟩)
    := by
  cases exponent with
  | none =>
      change ∃ bound, exponentPart known rest = _
      unfold exponentPart
      split
      · exact ⟨Nat.le_refl _, rfl⟩
      · next c rest =>
          have other : ¬ (c = 'e' ∨ c = 'E') := by simpa [GoesOnWithout] using letter
          exact ⟨Nat.le_refl _, if_neg (by simpa using other)⟩
  | some exponent =>
      obtain ⟨negative, leading, further⟩ := exponent
      obtain ⟨bound, read⟩ := readDigits_digitChars (leading :: further) stop
      cases negative with
      | true => exact exponentPart_of_readDigits known rfl read rfl
      | false =>
          obtain ⟨unsigned, sign⟩ :=
            exponentSign_digitChar leading (Numeral.digitChars further ++ rest)
          exact exponentPart_of_readDigits known sign read rfl

/-- A numeral is read part by part. -/
theorem takes_readNumeral_of_parts {known : Cause} {numeral : Numeral} {s t u rest : List Char}
    (unsigned : ∀ t, s ≠ '-' :: t) (whole : Takes (wholePart known s) numeral.whole t)
    (fraction : ∃ bound, fractionPart known t = .ok (numeral.fraction, ⟨u, bound⟩))
    (exponent : ∃ bound, exponentPart known u = .ok (numeral.exponent, ⟨rest, bound⟩))
    : Takes (readNumeral known ((if numeral.negative then ['-'] else []) ++ s)) numeral rest := by
  obtain ⟨negative, value, digits, power⟩ := numeral
  obtain ⟨_, whole⟩ := whole
  obtain ⟨_, fraction⟩ := fraction
  obtain ⟨_, exponent⟩ := exponent
  generalize written : (if negative then ['-'] else []) ++ s = text
  unfold readNumeral
  split
  next isNegative afterSign sign =>
    obtain ⟨afterSign, bound⟩ := afterSign
    have signed : isNegative = negative ∧ afterSign = s := by
      cases negative with
      | true =>
          obtain rfl : '-' :: s = text := written
          cases sign
          exact ⟨rfl, rfl⟩
      | false =>
          obtain rfl : s = text := written
          split at sign
          · next minus => exact absurd rfl (unsigned _)
          · cases sign
            exact ⟨rfl, rfl⟩
    obtain ⟨rfl, rfl⟩ := signed
    dsimp only
    rw [whole]
    change Takes (fractionPart known t >>= _) _ rest
    rw [fraction]
    change Takes (exponentPart known u >>= _) _ rest
    rw [exponent]
    exact ⟨_, rfl⟩

theorem GoesOnWithout.mono {unwanted fewer : Char → Prop} {s : List Char}
    (h : GoesOnWithout unwanted s) (less : ∀ c, fewer c → unwanted c)
    : GoesOnWithout fewer s :=
  fun c hc found => h c hc (less c found)

theorem goesOnWithout_cons_iff {unwanted : Char → Prop} {c : Char} {rest : List Char}
    : GoesOnWithout unwanted (c :: rest) ↔ ¬ unwanted c := by
  simp [GoesOnWithout]

theorem goesOnWithout_exponentChars (exponent : Option Exponent) {rest : List Char}
    (ends : GoesOnWithout ContinuesNumeral rest)
    : GoesOnWithout (fun c => IsDigit c ∨ c = '.') (exponentChars exponent ++ rest) := by
  cases exponent with
  | none =>
      refine ends.mono fun c => ?_
      rintro (digit | point)
      · exact .inl digit
      · exact .inr (.inl point)
  | some exponent =>
      refine goesOnWithout_cons_iff.mpr ?_
      simp [IsDigit, digit?]

theorem goesOnWithout_fractionChars (fraction : List Digit) {rest : List Char}
    (ends : GoesOnWithout (fun c => IsDigit c ∨ c = '.') rest)
    : GoesOnWithout IsDigit (fractionChars fraction ++ rest) := by
  cases fraction with
  | nil => exact ends.mono fun c => .inl
  | cons digit digits =>
      refine goesOnWithout_cons_iff.mpr ?_
      simp [IsDigit, digit?]

theorem Numeral.chars_append (numeral : Numeral) (rest : List Char)
    : numeral.chars ++ rest
      = (if numeral.negative then ['-'] else [])
        ++ (Nat.toDigits 10 numeral.whole
          ++ (fractionChars numeral.fraction ++ (exponentChars numeral.exponent ++ rest))) := by
  obtain ⟨negative, whole, fraction, exponent⟩ := numeral
  cases exponent <;> simp [chars, fractionChars, exponentChars]

/-- A numeral is read back where nothing continues it. -/
theorem takes_readNumeral_chars (known : Cause) (numeral : Numeral) {rest : List Char}
    (ends : GoesOnWithout ContinuesNumeral rest)
    : Takes (readNumeral known (numeral.chars ++ rest)) numeral rest := by
  have afterFraction := goesOnWithout_exponentChars numeral.exponent ends
  have afterWhole := goesOnWithout_fractionChars numeral.fraction afterFraction
  obtain ⟨first, others, written, -, -⟩ := exists_digits_of_toDigits numeral.whole
  rw [numeral.chars_append]
  refine takes_readNumeral_of_parts ?_ (takes_wholePart known numeral.whole afterWhole)
    (fractionPart_fractionChars known numeral.fraction (afterFraction.mono fun c => .inl)
      (afterFraction.mono fun c => .inr))
    (exponentPart_exponentChars known numeral.exponent (ends.mono fun c => .inl)
      (ends.mono fun c found => .inr (.inr found)))
  intro t minus
  rw [written] at minus
  have digit : ∀ digit : Digit, Nat.digitChar digit.val ≠ '-' := by decide
  exact digit first (List.head_eq_of_cons_eq minus)

/-- A numeral starts with a minus or a digit. -/
theorem Numeral.exists_first (numeral : Numeral)
    : ∃ c tail, numeral.chars = c :: tail ∧ startsNumber c = true := by
  obtain ⟨first, others, written, -, -⟩ := exists_digits_of_toDigits numeral.whole
  have digit : ∀ digit : Digit, startsNumber (Nat.digitChar digit.val) = true := by decide
  have chars := numeral.chars_append []
  rw [List.append_nil, written] at chars
  cases hn : numeral.negative with
  | true => exact ⟨_, _, by simpa [hn] using chars, by decide⟩
  | false => exact ⟨_, _, by simpa [hn, digitChars] using chars, digit first⟩

-----------------------------------------------------------------------------------------
-- Values
-----------------------------------------------------------------------------------------

/-- A comma stands before each piece but the first. -/
theorem commaSeparated_cons (piece : List Char) (pieces : List (List Char))
    : commaSeparated (piece :: pieces) = piece ++ pieces.flatMap (',' :: ·) := by
  induction pieces generalizing piece with
  | nil => simp [commaSeparated]
  | cons next pieces ih => simp [commaSeparated, ih]

theorem skipSpace_cons {c : Char} (visible : isSpace c = false) (rest : List Char)
    : skipSpace (c :: rest) = c :: rest := by
  simp [skipSpace, visible]

/-- No blank starts a number. -/
theorem isSpace_of_startsNumber {c : Char} (first : startsNumber c = true) : isSpace c = false := by
  by_contra blank
  have spaces : c = ' ' ∨ c = '\t' ∨ c = '\n' ∨ c = '\r' := by
    simp [isSpace] at blank
    tauto
  obtain rfl | rfl | rfl | rfl := spaces <;> exact absurd first (by decide)

/-- What follows an item in its brackets continues no numeral. -/
theorem goesOnWithout_closing (pieces : List (List Char)) (closing : Char) (rest : List Char)
    (hc : closing = ']' ∨ closing = '\x7d')
    : GoesOnWithout ContinuesNumeral (pieces.flatMap (',' :: ·) ++ closing :: rest) := by
  cases pieces with
  | nil =>
      refine goesOnWithout_cons_iff.mpr ?_
      obtain rfl | rfl := hc <;> simp [ContinuesNumeral, IsDigit, digit?]
  | cons piece pieces =>
      refine goesOnWithout_cons_iff.mpr ?_
      simp [ContinuesNumeral, IsDigit, digit?]

theorem textChars_append (value : String) (rest : List Char)
    : textChars value ++ rest = '"' :: (value.toList.flatMap escapeChar ++ '"' :: rest) := by
  simp [textChars]

theorem beginsMember_textChars (key : String) {value : Json} {s rest : List Char}
    (head : Begins s value rest)
    : BeginsMember (textChars key ++ ':' :: s) (key, value) rest := by
  have start : skipSpace (textChars key ++ ':' :: s)
      = '"' :: (key.toList.flatMap escapeChar ++ '"' :: ':' :: s) := by
    rw [textChars_append]
    rfl
  have member := BeginsMember.keyed start (takes_readQuoted_flatMap key.toList (':' :: s)) rfl head
  rwa [String.ofList_toList] at member

mutual

/-- A rendered value is read back where nothing continues it, by induction on the value. -/
theorem begins_chars (value : Json) {rest : List Char} (ends : GoesOnWithout ContinuesNumeral rest)
    : Begins (value.chars ++ rest) value rest := by
  cases value with
  | null => exact .null rfl
  | bool value =>
      cases value with
      | true => exact .true rfl
      | false => exact .false rfl
  | number numeral =>
      obtain ⟨c, tail, written, first⟩ := numeral.exists_first
      have taken := takes_readNumeral_chars .endInValue numeral ends
      rw [written] at taken
      have start := skipSpace_cons (isSpace_of_startsNumber first) (tail ++ rest)
      rw [chars, written]
      exact .number start first taken
  | text value =>
      have start : skipSpace (textChars value ++ rest)
          = '"' :: (value.toList.flatMap escapeChar ++ '"' :: rest) := by
        rw [textChars_append]
        rfl
      have read := Begins.text start (takes_readQuoted_flatMap value.toList rest)
      rwa [String.ofList_toList] at read
  | list items =>
      refine .list ?_ (beginsItems_first items rest)
      simp only [chars, List.cons_append, List.append_assoc, List.nil_append]
      rfl
  | object members =>
      refine .object ?_ (beginsMembers_first members rest)
      simp only [chars, List.append_assoc]
      rfl

theorem beginsItems_first (items : List Json) (rest : List Char)
    : BeginsItems true (commaSeparated (itemChars items) ++ ']' :: rest) items rest := by
  cases items with
  | nil => exact .closed rfl
  | cons item items =>
      rw [itemChars, commaSeparated_cons, List.append_assoc]
      exact .first (begins_chars item (goesOnWithout_closing _ _ rest (.inl rfl)))
        (beginsItems_later items rest)

theorem beginsItems_later (items : List Json) (rest : List Char)
    : BeginsItems false ((itemChars items).flatMap (',' :: ·) ++ ']' :: rest) items rest := by
  cases items with
  | nil => exact .closed rfl
  | cons item items =>
      rw [itemChars, List.flatMap_cons, List.append_assoc]
      exact .later rfl (begins_chars item (goesOnWithout_closing _ _ rest (.inl rfl)))
        (beginsItems_later items rest)

theorem beginsMembers_first (members : List (String × Json)) (rest : List Char)
    : BeginsMembers true (commaSeparated (memberChars members) ++ '\x7d' :: rest) members rest := by
  cases members with
  | nil => exact .closed rfl
  | cons member members =>
      obtain ⟨key, value⟩ := member
      rw [memberChars, commaSeparated_cons, List.append_assoc, List.append_assoc, List.cons_append]
      have head := begins_chars value
        (goesOnWithout_closing (memberChars members) '\x7d' rest (.inr rfl))
      exact .first (beginsMember_textChars key head) (beginsMembers_later members rest)

theorem beginsMembers_later (members : List (String × Json)) (rest : List Char)
    : BeginsMembers false ((memberChars members).flatMap (',' :: ·) ++ '\x7d' :: rest) members rest
    := by
  cases members with
  | nil => exact .closed rfl
  | cons member members =>
      obtain ⟨key, value⟩ := member
      rw [memberChars, List.flatMap_cons, List.append_assoc]
      have head := begins_chars value
        (goesOnWithout_closing (memberChars members) '\x7d' rest (.inr rfl))
      have member := beginsMember_textChars key head
      exact .later rfl (by simpa using member) (beginsMembers_later members rest)

end

theorem isText_render (value : Json) : IsText value.render value := by
  refine ⟨[], ?_, rfl⟩
  have nothing : GoesOnWithout ContinuesNumeral [] := by simp [GoesOnWithout]
  have begins := begins_chars value nothing
  rwa [List.append_nil, ← String.toList_ofList (l := value.chars)] at begins

end ClassDiagram.Json
