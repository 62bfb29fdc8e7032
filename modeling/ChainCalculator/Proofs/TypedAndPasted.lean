import ChainCalculator.Proofs.PendingOperation
import ChainCalculator.Proofs.RunningTotal

namespace ChainCalculator

/-!
# Typing a number or pasting it

A number can be typed mark by mark or pasted at once.  Where a chain waits for a number, both put the
same operand there and leave all else as it is.  A word without any digit can only be typed: its
points begin a number behind a zero, but they are no number that could be pasted.
-/

/-- The marks of a word in writing, without the points that follow the first one. -/
def Word.spelling
    (word : Word) :
    String :=
  String.ofList (Mark.keepFirstPoint word.marks)

namespace Word

/-- The spelling of a word is a plain number if and only if it has a digit. -/
theorem accepts_spelling_iff
    {word : Word} :
    PlainNumber.accepts word.spelling ↔ Mark.digits word.marks ≠ [] := by
  rw [spelling, Mark.digits_eq_append, Ne, List.append_eq_nil_iff, not_and_or]
  constructor
  · intro accepted
    by_contra digitFree
    obtain ⟨noWhole, noPlaces⟩ := not_or.mp digitFree
    rw [not_not] at noWhole noPlaces
    rw [Mark.keepFirstPoint_eq_append, noWhole, List.nil_append] at accepted
    rcases Mark.fraction_shape word.marks with none | ⟨places, fractionShape, -⟩
    · rw [none] at accepted
      revert accepted
      decide
    · rw [fractionShape, List.tail_cons] at noPlaces
      rw [fractionShape, noPlaces] at accepted
      revert accepted
      decide
  · intro someDigit
    have wellFormed : (Mark.parts word.marks).WellFormed :=
      ⟨Mark.digital_parts word.marks, someDigit⟩
    rw [← Mark.text_parts]
    exact wellFormed.accepts_text

/-- There is nothing in a spelling that pasting would cut off. -/
theorem pasted_spelling
    (word : Word) :
    Calculator.pasted word.spelling = word.spelling := by
  rw [Calculator.pasted, spelling, String.toList_ofList, ← Mark.text_parts,
    (Mark.digital_parts word.marks).trim_text]

end Word

namespace Chain

/-- A chain waits for a number behind an operator, and in place of a lone result shown as zero. -/
def AwaitsNumber
    (chain : Chain) :
    Prop :=
  chain.endsWithOperator ∨ ∃ zero, Figure.write zero = "0" ∧ chain = .ofValue zero

/-- The chain with a number where it waits for one. -/
def enter
    (chain : Chain)
    (number : Operand) :
    Chain :=
  if chain.endsWithOperator then chain.push (.operand number) else .single number

end Chain

namespace Calculator

namespace Consistent

variable
  {calculator : Calculator}
  (consistent : calculator.Consistent)
  (awaits : calculator.chain.AwaitsNumber)

include consistent awaits

/-- A word makes up one operand. -/
theorem passes_word
    (word : Word) :
    Passes calculator word.buttons
      { calculator with
        chain := calculator.chain.enter (.typed word.text)
        fault? := none } := by
  cases consistent with
  | single number operator? number? fault? =>
      rcases awaits with ends | ⟨zero, shown, chainShape⟩
      · cases ends
      · cases chainShape
        exact @passes_marks_zero ⟨.ofValue zero, operator?, number?, fault?⟩ .empty _ rfl shown _
          word.nonempty
  | @dangling left operator value leftRead fault? =>
      exact
        @passes_marks_operator ⟨.dangling left operator, some operator, some value, fault?⟩
          (.single left) operator rfl (by simp) _ word.nonempty
  | operation =>
      rcases awaits with ends | ⟨zero, -, chainShape⟩
      · cases ends
      · cases chainShape

/-- A pasted plain number is one operand. -/
theorem paste_of_accepts
    {text : String}
    (accepted : PlainNumber.accepts text) :
    calculator.paste text =
      { calculator with
        chain := calculator.chain.enter (.typed (PlainNumber.canonical text))
        fault? := none } := by
  have whole : pasted text = text := pasted_of_accepts accepted
  cases consistent with
  | single number =>
      rw [paste_operand (Chain.single_eq_push number) (whole.symm ▸ accepted), whole]
      rfl
  | dangling operator leftRead =>
      rw [paste_operator (Chain.dangling_eq_push _ operator) (whole.symm ▸ accepted), whole]
      rfl
  | operation =>
      rcases awaits with ends | ⟨zero, -, chainShape⟩
      · cases ends
      · cases chainShape

end Consistent

/--
Where the chain waits for a number after a run, the buttons of any word put one operand there: the
canonical form of what the word spells.  Nothing else changes, and no fault is left.  A spelling with
a digit is a plain number, and pasting it leads to the same; any other is ignored when it is pasted.
-/
theorem run_word_typed_or_pasted
    (actions : List Action)
    (awaits : (fresh.actAll actions).chain.AwaitsNumber)
    (word : Word) :
    let before := fresh.actAll actions
    let after := before.pushAll word.buttons
    after =
        { before with
          chain := before.chain.enter (.typed (PlainNumber.canonical word.spelling))
          fault? := none } ∧
      (PlainNumber.accepts word.spelling ↔ Mark.digits word.marks ≠ []) ∧
      before.paste word.spelling =
        if PlainNumber.accepts word.spelling then after else before := by
  intro before after
  have consistent : before.Consistent := Consistent.invariant.actAll actions
  have typed : after = _ := (consistent.passes_word awaits word).pushAll_eq
  refine ⟨typed, Word.accepts_spelling_iff, ?_⟩
  by_cases accepted : PlainNumber.accepts word.spelling
  · rw [if_pos accepted, consistent.paste_of_accepts awaits accepted, typed]
    rfl
  · rw [if_neg accepted]
    exact paste_of_not_accepts (word.pasted_spelling.symm ▸ accepted)

/-- Behind `5 +` and an unknown key, `.00.7` is typed as `0.007`, and `.007` pasted so. -/
theorem run_word_typed_or_pasted_behind_unknown_key :
    let before :=
      fresh.actAll
        [.push (.digit 5), .push (.operator .add), .press .standard "nothing"]
    let word : Word := ⟨[.point, .digit 0, .digit 0, .point, .digit 7], List.cons_ne_nil _ _⟩
    before.fault? = some (.unknownKey "nothing") ∧
      before.chain.AwaitsNumber ∧
        before.pushAll word.buttons =
            ⟨.operation (.typed "5") .add (.typed "0.007"), some .add, some 5, none⟩ ∧
          before.paste ".007" = before.pushAll word.buttons := by
  intro before word
  have awaits : before.chain.AwaitsNumber :=
    Or.inl (by decide +kernel)
  have spelling : word.spelling = ".007" := by
    decide
  obtain ⟨typed, accepted, pasted⟩ := run_word_typed_or_pasted _ awaits word
  rw [if_pos (accepted.mpr (by decide)), spelling] at pasted
  exact ⟨by decide +kernel, awaits, typed.trans (by decide +kernel), pasted⟩

end Calculator

end ChainCalculator
