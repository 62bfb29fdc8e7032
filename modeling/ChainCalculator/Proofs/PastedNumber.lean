import ChainCalculator.Proofs.FailedButtons
import ChainCalculator.Proofs.NumberParts

namespace ChainCalculator

/-!
# Calculating with a pasted number

A plain number may have the digits of any script, but only the digits `0` to `9` are read.  So a
pasted number can be calculated with exactly if all of its digits are those; with any other digit it
stands in the chain and on the screen until the next operator, percent or equals fails on it.
-/

namespace PlainNumber

/-- No digit of a text is from another script than that of `0` to `9`. -/
def UsesUsualDigits
    (text : String) :
    Prop :=
  ∀ character ∈ text.toList, Text.isDecimalDigit character → character.isDigit

instance (text : String) : Decidable (UsesUsualDigits text) :=
  List.decidableBAll
    (fun character : Char => Text.isDecimalDigit character → character.isDigit) text.toList

/-- A canonical number is read if and only if the text behind it has none but usual digits. -/
theorem isSome_read?_canonical_iff
    {text : String}
    (accepted : accepts text) :
    (Numeral.read? (canonical text).toList).isSome ↔ UsesUsualDigits text := by
  obtain ⟨parts, wellFormed, textShape⟩ := Parts.exists_of_accepts accepted
  rw [UsesUsualDigits, wellFormed.toList_canonical textShape, textShape]
  constructor
  · intro isRead character member decimal
    obtain ⟨numeral, read⟩ := Option.isSome_iff_exists.mp isRead
    -- A zero may be dropped, but then it is the usual one.
    by_cases isZero : character = '0'
    · rw [isZero]
      rfl
    · have kept := Parts.mem_text_canonical decimal isZero member
      exact isDigit_of_isDecimalDigit decimal (Numeral.isAscii_of_read? read character kept)
  · intro usual
    have wholeDigits : ∀ character ∈ wholePart parts.whole, character.isDigit := by
      intro character member
      rcases mem_wholePart member with rfl | inWhole
      · rfl
      · exact usual character (by simp [Parts.text, inWhole])
          (wellFormed.wholeDigits character inWhole)
    have fractionShape :
        parts.fraction = [] ∨
          ∃ places,
            parts.fraction = '.' :: places ∧ ∀ character ∈ places, character.isDigit := by
      rcases wellFormed.fractionShape with none | ⟨places, shape, placesDigits⟩
      · exact Or.inl none
      · refine Or.inr ⟨places, shape, fun character member => ?_⟩
        exact usual character (by simp [Parts.text, shape, member])
          (placesDigits character member)
    have read :=
      Numeral.read?_append parts.canonical.negative wholeDigits
        (wholePart_ne_nil parts.whole) fractionShape
    rw [Parts.text, List.append_assoc, Parts.canonical]
    exact Option.isSome_of_eq_some read

end PlainNumber

/-- Reading a typed text fails if the text is no numeral. -/
theorem Operand.fault?_typed
    {text : String}
    (nonempty : text ≠ "") :
    (Operand.typed text).fault? =
      if (Numeral.read? text.toList).isSome then none else some (.unreadableOperand text) := by
  cases read : Numeral.read? text.toList <;>
    simp [Operand.fault?, Operand.value, nonempty, readFloat?, read]

/-- An operand has no fault if it reads. -/
theorem Operand.fault?_eq_none_iff
    {number : Operand} :
    number.fault? = none ↔ ∃ value, number.value = .ok value := by
  cases read : number.value <;> simp [Operand.fault?, read]

namespace Calculator

/-- A pasted number is the operand at the end of the chain. -/
theorem Consistent.exists_paste_chain_eq
    {calculator : Calculator}
    (consistent : calculator.Consistent)
    {text : String}
    (accepted : PlainNumber.accepts (pasted text)) :
    ∃ front : Chain,
      (calculator.paste text).chain =
        front.push (.operand (.typed (PlainNumber.canonical (pasted text)))) := by
  cases consistent with
  | single number =>
      rw [paste_operand (Chain.single_eq_push number) accepted]
      exact ⟨_, rfl⟩
  | dangling operator leftRead =>
      rw [paste_operator (Chain.dangling_eq_push _ operator) accepted]
      exact ⟨_, rfl⟩
  | operation operator right leftRead =>
      rw [paste_operand (Chain.operation_eq_push _ operator right) accepted]
      exact ⟨_, rfl⟩

/--
After every run, a pasted plain number is the latest link of the chain, in canonical form.  It can be
read if and only if the pasted text has none but the digits `0` to `9`.  Then no operator, percent or
equals fails behind it; otherwise each of them fails, and on the pasted number.
-/
theorem run_pasted_number
    (actions : List Action)
    {text : String}
    (accepted : PlainNumber.accepts (pasted text)) :
    let number := PlainNumber.canonical (pasted text)
    let after := (fresh.actAll actions).paste text
    after.chain.latest? = some (.operand (.typed number)) ∧
      ((∃ value, (Operand.typed number).value = .ok value) ↔
        PlainNumber.UsesUsualDigits (pasted text)) ∧
      ∀ button,
        button.calculates →
          (after.attempt button).fault? =
            if PlainNumber.UsesUsualDigits (pasted text) then none
            else some (.unreadableOperand number) := by
  intro number after
  have before : (fresh.actAll actions).Consistent := Consistent.invariant.actAll actions
  have consistent : after.Consistent := before.paste text
  obtain ⟨front, chainShape⟩ := before.exists_paste_chain_eq accepted
  have faultShape :
      (Operand.typed number).fault? =
        if PlainNumber.UsesUsualDigits (pasted text) then none
        else some (.unreadableOperand number) := by
    rw [Operand.fault?_typed (PlainNumber.canonical_ne_empty accepted)]
    simp only [number, PlainNumber.isSome_read?_canonical_iff accepted]
  refine ⟨?_, ?_, ?_⟩
  · rw [chainShape, Chain.latest?_push]
  · rw [← Operand.fault?_eq_none_iff, faultShape]
    simp
  · intro button calculates
    rw [(consistent.leaves_attempt button).fault, if_pos calculates, chainShape,
      Chain.latestFault?_push_operand, faultShape]

/-- A digit of another script behind `2 *`: equals fails on it. -/
theorem run_pasted_number_of_other_script :
    let after := (fresh.actAll [.push (.digit 2), .push (.operator .multiply)]).paste " 0٣.5 "
    PlainNumber.accepts (pasted " 0٣.5 ") ∧
      after.chain.latest? = some (.operand (.typed "٣.5")) ∧
      (after.attempt .equals).fault? = some (.unreadableOperand "٣.5") := by
  intro after
  have accepted : PlainNumber.accepts (pasted " 0٣.5 ") := by
    decide +kernel
  have number : PlainNumber.canonical (pasted " 0٣.5 ") = "٣.5" := by
    decide +kernel
  have unusual : ¬PlainNumber.UsesUsualDigits (pasted " 0٣.5 ") := by
    decide +kernel
  obtain ⟨latest, -, faults⟩ :=
    run_pasted_number [.push (.digit 2), .push (.operator .multiply)] accepted
  have failed := faults .equals rfl
  rw [if_neg unusual, number] at failed
  rw [number] at latest
  exact ⟨accepted, latest, failed⟩

/-- The Arabic digit three is pasted as a number, but it is not read as one. -/
theorem not_forall_pasted_number_is_read :
    ¬∀ text : String,
        PlainNumber.accepts (pasted text) →
          ∃ value,
            (Operand.typed (PlainNumber.canonical (pasted text))).value = .ok value := by
  intro isRead
  obtain ⟨value, read⟩ := isRead "٣" (by decide +kernel)
  have unread :
      (Operand.typed (PlainNumber.canonical (pasted "٣"))).fault? =
        some (.unreadableOperand "٣") := by
    decide +kernel
  rw [Operand.fault?_of_value_eq_ok read] at unread
  cases unread

end Calculator

end ChainCalculator
