import ChainCalculator.Proofs.PendingOperation

namespace ChainCalculator

/-!
# Properties of all operands

Every operand of a chain was computed, pasted, or typed mark by mark.  So a property that computed
and pasted operands have, and that further digits and points keep, is a property of all the operands
that a chain ever holds.  The point is treated apart from the digits, step by step, because there
are properties that only some points keep.
-/

/-- Every operand of a chain has a property. -/
def Chain.AllOperands
    (holds : Operand → Prop)
    (chain : Chain) :
    Prop :=
  ∀ number, .operand number ∈ chain.links → holds number

/-- A property that computed and pasted operands have, and that a further digit keeps. -/
structure Operand.Inherited
    (holds : Operand → Prop) :
    Prop where
  computed : ∀ value, holds (.computed value)
  pasted : ∀ {text}, PlainNumber.accepts text → holds (.typed (PlainNumber.canonical text))
  afterDigit : ∀ {number}, holds number → ∀ digit, holds (number.afterDigit digit)

variable {holds : Operand → Prop}

/-- The zero in front of a point that follows an operator could have been pasted with it. -/
theorem Operand.Inherited.zeroPoint
    (inherited : Operand.Inherited holds) :
    holds (.typed "0.") := by
  have accepted : PlainNumber.accepts "0." := by
    decide
  have canonical : PlainNumber.canonical "0." = "0." := by
    decide
  exact canonical ▸ inherited.pasted accepted

namespace Chain

/-- An operand more has to have the property too. -/
@[simp]
theorem allOperands_push_operand
    {front : Chain}
    {number : Operand} :
    (front.push (.operand number)).AllOperands holds ↔
      front.AllOperands holds ∧ holds number := by
  simp [AllOperands, push, or_imp, forall_and]

/-- An operator has no part in a property of operands. -/
@[simp]
theorem allOperands_push_operator
    {front : Chain}
    {operator : Operator} :
    (front.push (.operator operator)).AllOperands holds ↔ front.AllOperands holds := by
  simp [AllOperands, push]

@[simp]
theorem allOperands_single
    {number : Operand} :
    (single number).AllOperands holds ↔ holds number := by
  simp [AllOperands, single]

@[simp]
theorem allOperands_dangling
    {left : Operand}
    {operator : Operator} :
    (dangling left operator).AllOperands holds ↔ holds left := by
  rw [dangling_eq_push, allOperands_push_operator, allOperands_single]

@[simp]
theorem allOperands_operation
    {left right : Operand}
    {operator : Operator} :
    (operation left operator right).AllOperands holds ↔ holds left ∧ holds right := by
  rw [operation_eq_push, allOperands_push_operand, allOperands_dangling]

/-- The latest operand of a chain is one of its links. -/
theorem mem_of_latestOperand?_eq_some
    {chain : Chain}
    {number : Operand}
    (latest : chain.latestOperand? = some number) :
    .operand number ∈ chain.links := by
  obtain ⟨link, member, linkShape⟩ := List.exists_of_findSome?_eq_some latest
  cases link with
  | operand found =>
      cases linkShape
      exact List.mem_reverse.mp member
  | operator operation =>
      cases linkShape

end Chain

/-- A chain of one computed number has the property. -/
theorem Operand.Inherited.ofValue
    (inherited : Operand.Inherited holds)
    (value : Float) :
    (Chain.ofValue value).AllOperands holds :=
  Chain.allOperands_single.mpr (inherited.computed value)

namespace Calculator

/-- Handling that ended well left a chain whose operands have a property. -/
def Outcome.AllOperands
    (holds : Operand → Prop)
    (outcome : Outcome) :
    Prop :=
  outcome.fault? = none → outcome.calculator.chain.AllOperands holds

/-- Handling that ends well hands on the property. -/
theorem allOperands_done
    {calculator : Calculator}
    (held : calculator.chain.AllOperands holds) :
    (done calculator).AllOperands holds :=
  fun _ => held

/-- If an operand does not read, handling does not end well, and nothing is claimed. -/
theorem allOperands_whenRead
    {calculator : Calculator}
    {reading : Except Fault Float}
    {next : Float → Outcome}
    (goesOn : ∀ value, (next value).AllOperands holds) :
    (whenRead calculator reading next).AllOperands holds := by
  cases reading with
  | ok value => exact goesOn value
  | error fault => exact fun endedWell => nomatch endedWell

/-- A failed button leaves a computed zero, which has the property. -/
theorem Outcome.Sound.allOperands_settle
    {outcome : Outcome}
    (sound : outcome.Sound)
    (inherited : Operand.Inherited holds)
    (held : outcome.AllOperands holds) :
    outcome.settle.chain.AllOperands holds := by
  cases sound with
  | done consistent => exact held rfl
  | unreadable calculator text => exact inherited.ofValue 0

namespace Consistent

variable
  {calculator : Calculator}
  (consistent : calculator.Consistent)
  (inherited : Operand.Inherited holds)

include consistent inherited

/-- A digit is added to the latest operand, or to a zero behind an operator. -/
theorem allOperands_enterDigit
    (held : calculator.chain.AllOperands holds)
    (digit : Fin 10) :
    (calculator.enterDigit digit).AllOperands holds := by
  cases consistent with
  | single number =>
      rw [enterDigit_operand (Chain.single_eq_push number)]
      have numberHeld : holds number := Chain.allOperands_single.mp held
      exact allOperands_done
        (Chain.allOperands_single.mpr (inherited.afterDigit numberHeld digit))
  | dangling operator leftRead =>
      rw [enterDigit_operator (Chain.dangling_eq_push _ operator) (by simp)]
      have begun : holds ((Operand.computed 0).afterDigit digit) :=
        inherited.afterDigit (inherited.computed 0) digit
      exact allOperands_done (Chain.allOperands_push_operand.mpr ⟨held, begun⟩)
  | @operation left operator right value leftRead fault? =>
      rw [enterDigit_operand (Chain.operation_eq_push _ operator right)]
      obtain ⟨leftHeld, rightHeld⟩ := Chain.allOperands_operation.mp held
      exact allOperands_done
        (Chain.allOperands_operation.mpr ⟨leftHeld, inherited.afterDigit rightHeld digit⟩)

/-- A point is added to the latest operand, or to a zero behind an operator. -/
theorem allOperands_enterDot
    (held : calculator.chain.AllOperands holds)
    (afterPoint :
      ∀ number,
        calculator.chain.latest? = some (.operand number) → holds number →
          holds number.afterPoint) :
    calculator.enterDot.AllOperands holds := by
  cases consistent with
  | single number =>
      rw [enterDot_operand (Chain.single_eq_push number)]
      have numberHeld : holds number := Chain.allOperands_single.mp held
      exact allOperands_done (Chain.allOperands_single.mpr (afterPoint number rfl numberHeld))
  | dangling operator leftRead =>
      rw [enterDot_operator (Chain.dangling_eq_push _ operator)]
      exact allOperands_done
        (Chain.allOperands_push_operand.mpr ⟨held, inherited.zeroPoint⟩)
  | @operation left operator right value leftRead fault? =>
      rw [enterDot_operand (Chain.operation_eq_push _ operator right)]
      obtain ⟨leftHeld, rightHeld⟩ := Chain.allOperands_operation.mp held
      exact allOperands_done
        (Chain.allOperands_operation.mpr ⟨leftHeld, afterPoint right rfl rightHeld⟩)

/-- An operator keeps the operand in front of it, or replaces an operation by its result. -/
theorem allOperands_enterOperator
    (held : calculator.chain.AllOperands holds)
    (next : Operator) :
    (calculator.enterOperator next).AllOperands holds := by
  cases consistent with
  | single number =>
      rw [enterOperator_single rfl]
      exact allOperands_whenRead fun value =>
        allOperands_done (Chain.allOperands_dangling.mpr (Chain.allOperands_single.mp held))
  | dangling operator leftRead =>
      rw [enterOperator_operator (Chain.dangling_eq_push _ operator)]
      exact allOperands_done
        (Chain.allOperands_dangling.mpr (Chain.allOperands_dangling.mp held))
  | operation operator right leftRead =>
      rw [enterOperator_operation rfl]
      exact allOperands_whenRead fun rightValue =>
        allOperands_whenRead fun leftValue =>
          allOperands_done (Chain.allOperands_dangling.mpr (inherited.computed _))

/-- A percent sign replaces an operand by a computed one. -/
theorem allOperands_enterPercent
    (held : calculator.chain.AllOperands holds) :
    calculator.enterPercent.AllOperands holds := by
  cases consistent with
  | single number =>
      rw [enterPercent_operand (Chain.single_eq_push number)]
      exact allOperands_whenRead fun value => allOperands_done (inherited.ofValue _)
  | dangling operator leftRead =>
      rw [enterPercent_dangling rfl]
      exact allOperands_whenRead fun value => allOperands_done (inherited.ofValue _)
  | operation operator right leftRead =>
      rw [enterPercent_operand (Chain.operation_eq_push _ operator right)]
      have leftHeld := (Chain.allOperands_operation.mp held).1
      exact allOperands_whenRead fun value =>
        allOperands_done
          (Chain.allOperands_operation.mpr ⟨leftHeld, inherited.computed _⟩)

/-- Clearing the entry takes an operand away, or leaves a computed zero. -/
theorem allOperands_clearEntry
    (held : calculator.chain.AllOperands holds) :
    calculator.clearEntry.AllOperands holds := by
  cases consistent with
  | single number =>
      rw [clearEntry_single rfl]
      exact allOperands_done (inherited.ofValue _)
  | dangling operator leftRead =>
      rw [clearEntry_dangling rfl]
      exact allOperands_done
        (Chain.allOperands_single.mpr (Chain.allOperands_dangling.mp held))
  | operation operator right leftRead =>
      rw [clearEntry_operation rfl]
      exact allOperands_done
        (Chain.allOperands_dangling.mpr (Chain.allOperands_operation.mp held).1)

/-- Equals leaves a computed number, whatever was typed. -/
theorem allOperands_equals :
    calculator.equals.AllOperands holds := by
  cases consistent with
  | single number operator? number? fault? =>
      cases operator? with
      | none =>
          rw [equals_of_pendingOperator?_eq_none rfl]
          exact allOperands_whenRead fun value => allOperands_done (inherited.ofValue _)
      | some operator =>
          rw [equals_single rfl rfl]
          exact allOperands_whenRead fun right =>
            allOperands_whenRead fun value => allOperands_done (inherited.ofValue _)
  | dangling operator leftRead =>
      rw [equals_dangling rfl rfl]
      exact allOperands_whenRead fun right =>
        allOperands_whenRead fun value => allOperands_done (inherited.ofValue _)
  | operation operator right leftRead =>
      rw [equals_operation rfl rfl]
      exact allOperands_whenRead fun rightValue =>
        allOperands_whenRead fun leftValue => allOperands_done (inherited.ofValue _)

/-- Every button keeps the property, if the point does when it is entered. -/
theorem allOperands_handle
    (held : calculator.chain.AllOperands holds)
    (button : Button)
    (afterPoint :
      button = .dot →
        ∀ number,
          calculator.chain.latest? = some (.operand number) → holds number →
            holds number.afterPoint) :
    (calculator.handle button).AllOperands holds := by
  cases button with
  | digit value => exact consistent.allOperands_enterDigit inherited held value
  | dot => exact consistent.allOperands_enterDot inherited held (afterPoint rfl)
  | operator operator => exact consistent.allOperands_enterOperator inherited held operator
  | percent => exact consistent.allOperands_enterPercent inherited held
  | equals => exact consistent.allOperands_equals inherited
  | clearAll => exact allOperands_done (inherited.ofValue 0)
  | clearEntry => exact consistent.allOperands_clearEntry inherited held

/-- A button keeps the property, whether it fails or not. -/
theorem allOperands_push
    (held : calculator.chain.AllOperands holds)
    (button : Button)
    (afterPoint :
      button = .dot →
        ∀ number,
          calculator.chain.latest? = some (.operand number) → holds number →
            holds number.afterPoint) :
    (calculator.push button).chain.AllOperands holds :=
  (consistent.attempt button).allOperands_settle inherited
    ((consistent.withFault none).allOperands_handle inherited held button afterPoint)

/-- Pasting keeps the property: what is pasted has it, and a text that is no number is ignored. -/
theorem allOperands_paste
    (held : calculator.chain.AllOperands holds)
    (text : String) :
    (calculator.paste text).chain.AllOperands holds := by
  by_cases accepted : PlainNumber.accepts (pasted text)
  · have pastedHeld : holds (.typed (PlainNumber.canonical (pasted text))) :=
      inherited.pasted accepted
    cases consistent with
    | single number =>
        rw [paste_operand (Chain.single_eq_push number) accepted]
        exact Chain.allOperands_single.mpr pastedHeld
    | dangling operator leftRead =>
        rw [paste_operator (Chain.dangling_eq_push _ operator) accepted]
        exact Chain.allOperands_push_operand.mpr ⟨held, pastedHeld⟩
    | operation operator right leftRead =>
        rw [paste_operand (Chain.operation_eq_push _ operator right) accepted]
        exact Chain.allOperands_operation.mpr
          ⟨(Chain.allOperands_operation.mp held).1, pastedHeld⟩
  · rw [paste_of_not_accepts accepted]
    exact held

/-- One action keeps a property of all operands, if the point does when it is entered. -/
theorem allOperands_act
    (held : calculator.chain.AllOperands holds)
    {action : Action}
    (afterPoint :
      action.button? = some .dot →
        ∀ number,
          calculator.chain.latest? = some (.operand number) → holds number →
            holds number.afterPoint) :
    (calculator.act action).chain.AllOperands holds := by
  cases pushes : action.button? with
  | some button =>
      rw [act_of_button?_eq_some calculator pushes]
      apply consistent.allOperands_push inherited held
      rintro rfl
      exact afterPoint pushes
  | none =>
      cases action with
      | push button =>
          cases pushes
      | press bindings key =>
          have unknown : bindings.resolve? key = none := pushes
          simpa [act, press, unknown, report] using held
      | paste text =>
          exact consistent.allOperands_paste inherited held text

end Consistent

/-- A property that every point keeps holds of all operands after every run. -/
theorem allOperands_actAll
    (inherited : Operand.Inherited holds)
    (afterPoint : ∀ {number}, holds number → holds number.afterPoint)
    (actions : List Action) :
    (fresh.actAll actions).chain.AllOperands holds := by
  have invariant :
      Invariant fun calculator =>
        calculator.Consistent ∧ calculator.chain.AllOperands holds :=
    { fresh := ⟨Consistent.invariant.fresh, inherited.ofValue 0⟩
      push := fun before button =>
        ⟨Consistent.invariant.push before.1 button,
          before.1.allOperands_push inherited before.2 button fun _ _ _ => afterPoint⟩
      paste := fun before text =>
        ⟨Consistent.invariant.paste before.1 text,
          before.1.allOperands_paste inherited before.2 text⟩
      unknownKey := fun before key =>
        ⟨Consistent.invariant.unknownKey before.1 key, before.2⟩ }
  exact (invariant.actAll actions).2

end Calculator

end ChainCalculator
