import ChainCalculator.Json.Text
import ChainCalculator.Proofs.WrittenNumber

namespace ChainCalculator

/-!
# Strings and numbers in JSON are told apart

A string ends at its first quotation mark that is not escaped, so it can be told from whatever
follows it, and its text from every other text.  A finite number is written with digits and the
marks that belong to numbers, so it has no quotation mark and none of the letters of `null`.
-/

namespace Json

/-! ## Strings -/

/-- The number of a hexadecimal digit. -/
def hexValue
    (digit : Char) :
    Nat :=
  "0123456789abcdef".toList.idxOf digit

/-- What the characters behind a backslash stand for, and the rest. -/
def unescapeMark? :
    List Char → Option (Char × List Char)
  | [] => none
  | 'u' :: _ :: _ :: high :: low :: rest =>
      some (Char.ofNat (16 * hexValue high + hexValue low), rest)
  | 'b' :: rest => some ('\x08', rest)
  | 'f' :: rest => some ('\x0c', rest)
  | 'n' :: rest => some ('\n', rest)
  | 'r' :: rest => some ('\r', rest)
  | 't' :: rest => some ('\t', rest)
  | character :: rest => some (character, rest)

/-- The first character of what stands within a string, and the rest. -/
def unescape? :
    List Char → Option (Char × List Char)
  | [] => none
  | first :: rest => if first = '\\' then unescapeMark? rest else some (first, rest)

/-- A hexadecimal digit is read as the value that was written. -/
theorem hexValue_hexDigit
    {value : Nat}
    (small : value < 16) :
    hexValue (hexDigit value) = value := by
  revert value
  decide

/-- An escaped character is read back, whatever follows it. -/
theorem unescape?_escape
    (character : Char)
    (rest : List Char) :
    unescape? (escape character ++ rest) = some (character, rest) := by
  rw [escape.eq_def]
  split
  case h_8 notBackslash _ _ _ _ _ =>
    dsimp only
    split
    · have high := @hexValue_hexDigit (character.toNat / 16) (by omega)
      have low := @hexValue_hexDigit (character.toNat % 16) (by omega)
      simp [unescape?, unescapeMark?, high, low, Nat.div_add_mod]
    · exact if_neg notBackslash
  all_goals rfl

/-- Quotation marks within a string are escaped. -/
theorem head?_escape_append_ne
    (character : Char)
    (rest : List Char) :
    (escape character ++ rest).head? ≠ some '"' := by
  rw [escape.eq_def]
  split
  case h_8 notQuote _ _ _ _ _ _ =>
    dsimp only
    split
    · simp
    · simpa using notQuote
  all_goals simp

/-- A string ends at the first quotation mark that is not escaped. -/
private theorem flatMap_escape_append_inj
    {first second rest other : List Char}
    (same :
      first.flatMap escape ++ '"' :: rest = second.flatMap escape ++ '"' :: other) :
    first = second ∧ rest = other := by
  induction first generalizing second with
  | nil =>
      cases second with
      | nil =>
          exact ⟨rfl, (List.cons.inj same).2⟩
      | cons character later =>
          rw [List.flatMap_nil, List.nil_append, List.flatMap_cons, List.append_assoc] at same
          exact absurd (congrArg List.head? same).symm (head?_escape_append_ne character _)
  | cons character earlier inductionHypothesis =>
      cases second with
      | nil =>
          rw [List.flatMap_nil, List.nil_append, List.flatMap_cons, List.append_assoc] at same
          exact absurd (congrArg List.head? same) (head?_escape_append_ne character _)
      | cons otherCharacter later =>
          simp only [List.flatMap_cons, List.append_assoc] at same
          have read := congrArg unescape? same
          rw [unescape?_escape, unescape?_escape] at read
          obtain ⟨sameCharacter, sameRest⟩ := Prod.mk.inj (Option.some.inj read)
          obtain ⟨sameText, sameEnd⟩ := inductionHypothesis sameRest
          exact ⟨congrArg₂ List.cons sameCharacter sameText, sameEnd⟩

/-- A string can be told from what follows it. -/
theorem string_append_inj
    {first second : String}
    {rest other : List Char}
    (same : (string first).toList ++ rest = (string second).toList ++ other) :
    first = second ∧ rest = other := by
  simp only [string, String.toList_ofList, List.cons_append, List.append_assoc,
    List.nil_append, List.cons.injEq, true_and] at same
  obtain ⟨sameText, sameRest⟩ := flatMap_escape_append_inj same
  exact ⟨String.toList_inj.mp sameText, sameRest⟩

/-- Strings written in the same way are the same. -/
theorem string_inj
    {first second : String}
    (same : string first = string second) :
    first = second := by
  have sameLists : (string first).toList ++ [] = (string second).toList ++ [] := by
    rw [same]
  exact (string_append_inj sameLists).1

/-! ## Numbers -/

/-- A plain notation has the digits, zeros to fill up, and a point. -/
theorem mem_plainDigits
    {digits : List Char}
    {exponent : Int}
    {character : Char}
    (member : character ∈ plainDigits digits exponent) :
    character ∈ digits ∨ character = '0' ∨ character = '.' := by
  cases exponent with
  | ofNat places =>
      simp only [plainDigits, List.mem_append, List.mem_cons] at member
      rcases member with (inWhole | inZeros) | isPoint | inFraction
      · exact Or.inl (List.mem_of_mem_take inWhole)
      · exact Or.inr (Or.inl (List.eq_of_mem_replicate inZeros))
      · exact Or.inr (Or.inr isPoint)
      · split at inFraction
        · exact Or.inr (Or.inl (List.mem_singleton.mp inFraction))
        · exact Or.inl (List.mem_of_mem_drop inFraction)
  | negSucc zeros =>
      simp only [plainDigits, List.mem_cons, List.mem_append] at member
      rcases member with isZero | isPoint | inZeros | inDigits
      · exact Or.inr (Or.inl isZero)
      · exact Or.inr (Or.inr isPoint)
      · exact Or.inr (Or.inl (List.eq_of_mem_replicate inZeros))
      · exact Or.inl inDigits

/-- A notation with an exponent has digits and the marks of a decimal. -/
theorem mem_exponentDigits
    {digits : List Char}
    {exponent : Int}
    {character : Char}
    (member : character ∈ exponentDigits digits exponent) :
    character ∈ digits ∨ character.isDigit ∨ character ∈ ['.', 'e', '-', '+'] := by
  simp only [exponentDigits, List.mem_append, List.mem_cons] at member
  rcases member with (isFirst | inFraction) | isMark | isSign | inExponent
  · exact Or.inl (List.mem_of_mem_take isFirst)
  · split at inFraction
    · cases inFraction
    · rcases List.mem_cons.mp inFraction with isPoint | inPlaces
      · simp [isPoint]
      · exact Or.inl (List.mem_of_mem_drop inPlaces)
  · simp [isMark]
  · split at isSign <;> simp [isSign]
  · exact Or.inr (Or.inl (Digits.isDigit_of_mem_toDigits inExponent))

/-- A finite number is written with digits, signs, the point and the mark of an exponent. -/
theorem mem_number
    {value : Float}
    (finite : value.isFinite)
    {character : Char}
    (member : character ∈ (number value).toList) :
    character.isDigit ∨ character ∈ ['.', 'e', '-', '+'] := by
  rw [number, if_pos finite, String.toList_ofList] at member
  rcases List.mem_append.mp member with isSign | inMagnitude
  · split at isSign
    · simp [List.mem_singleton.mp isSign]
    · cases isSign
  · split at inMagnitude
    · simp only [List.mem_cons, List.not_mem_nil, or_false] at inMagnitude
      rcases inMagnitude with rfl | rfl | rfl <;> decide
    · rw [magnitudeDigits] at inMagnitude
      split at inMagnitude
      · rcases mem_plainDigits inMagnitude with inDigits | rfl | rfl
        · exact Or.inl (Shortest.Decimal.isDigit_of_mem_digits inDigits)
        · decide
        · decide
      · rcases mem_exponentDigits inMagnitude with inDigits | digitOrMark
        · exact Or.inl (Shortest.Decimal.isDigit_of_mem_digits inDigits)
        · exact digitOrMark

/-- A finite number is written with digits and the marks of a decimal. -/
theorem not_mem_number
    {value : Float}
    (finite : value.isFinite)
    {other : Char}
    (noPart : ¬(other.isDigit ∨ other ∈ ['.', 'e', '-', '+'])) :
    other ∉ (number value).toList :=
  fun member => noPart (mem_number finite member)

/-- A finite number is not written as the absent value. -/
theorem number_ne_null
    {value : Float}
    (finite : value.isFinite) :
    number value ≠ "null" := by
  intro same
  have absent := @not_mem_number value finite 'n' (by decide)
  rw [same] at absent
  exact absent (by decide)

end Json

end ChainCalculator
