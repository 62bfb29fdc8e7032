import Mathlib.Logic.Function.Iterate
import ChainCalculator.Proofs.OperandProperties
import ChainCalculator.Proofs.OperatorTotals

namespace ChainCalculator

/-!
# Equals again and again

The first equals carries out one operation on the first number of the chain.  It leaves the result
alone in the chain and remembers the operation, its operator and its right number, so that every
further equals does the same to the result.  Without an operator to carry out there is nothing to
repeat, and equals does no more than remember the number.
-/

/-- An operand stands for a number. -/
def Operand.IsReadable
    (number : Operand) :
    Prop :=
  ∃ value, number.value = .ok value

/-- The number of the operand that a chain begins with. -/
def Chain.leadingValue
    (chain : Chain) :
    Except Fault Float :=
  chain.leadingOperand.bind Operand.value

namespace Calculator

/--
The right number of the operation that equals carries out on a first number: the second operand, or
the first number itself behind an operator, or else the remembered number.  If no number is
remembered the first number takes its place again.
-/
def EqualsTakes
    (calculator : Calculator)
    (first right : Float) :
    Prop :=
  match calculator.chain.links with
  | [_, _, .operand number] => number.value = .ok right
  | [_, _] => right = first
  | _ => right = calculator.pendingNumber?.getD first

/-- Equals on a result carries out the remembered operation. -/
theorem attempt_equals_result
    (value : Float)
    (operator : Operator)
    (right : Float) :
    attempt ⟨.ofValue value, some operator, some right, none⟩ .equals =
      done ⟨.ofValue (operator.apply value right), some operator, some right, none⟩ := by
  rw [attempt, handle, @equals_single _ (.computed value) operator rfl rfl]
  rfl

/-- The remembered operation is applied as often as equals is pushed. -/
theorem passes_equals_result
    (value : Float)
    (operator : Operator)
    (right : Float)
    (times : Nat) :
    Passes ⟨.ofValue value, some operator, some right, none⟩
      (List.replicate times .equals)
      ⟨.ofValue ((operator.apply · right)^[times] value), some operator, some right, none⟩ := by
  induction times generalizing value with
  | zero =>
      exact .refl _
  | succ times inductionHypothesis =>
      exact .push (attempt_equals_result value operator right)
        (inductionHypothesis (operator.apply value right))

/-- Without an operator equals changes nothing once its number is the remembered one. -/
theorem passes_equals_bare
    (value : Float)
    (times : Nat) :
    Passes ⟨.ofValue value, none, some value, none⟩
      (List.replicate times .equals)
      ⟨.ofValue value, none, some value, none⟩ := by
  induction times with
  | zero =>
      exact .refl _
  | succ times inductionHypothesis =>
      exact .push rfl inductionHypothesis

namespace Consistent

variable
  {calculator : Calculator}
  (consistent : calculator.Consistent)
  (readable : calculator.chain.AllOperands Operand.IsReadable)

include consistent readable

/-- The first equals without an operator to carry out turns the operand into its number. -/
theorem attempt_equals_bare
    (nothing : calculator.pendingOperator? = none) :
    ∃ first,
      calculator.chain.leadingValue = .ok first ∧
        calculator.attempt .equals = done ⟨.ofValue first, none, some first, none⟩ := by
  cases consistent with
  | single number operator? number? fault? =>
      obtain ⟨first, read⟩ := Chain.allOperands_single.mp readable
      cases nothing
      have latest : latestValue ⟨.single number, none, number?, none⟩ = .ok first := read
      refine ⟨first, read, ?_⟩
      rw [Calculator.attempt, Calculator.handle, equals_of_pendingOperator?_eq_none rfl, latest]
      rfl
  | dangling => cases nothing
  | operation => cases nothing

/-- The first equals with an operator leaves the result and remembers the operation. -/
theorem attempt_equals_operation
    {pending : Operator}
    (remembered : calculator.pendingOperator? = some pending) :
    let operator := calculator.chain.latestOperator?.getD pending
    ∃ first right,
      calculator.chain.leadingValue = .ok first ∧
        calculator.EqualsTakes first right ∧
          calculator.attempt .equals =
            done ⟨.ofValue (operator.apply first right), some operator, some right, none⟩ := by
  cases consistent with
  | single number operator? number? fault? =>
      obtain ⟨first, read⟩ := Chain.allOperands_single.mp readable
      cases remembered
      refine ⟨first, number?.getD first, read, rfl, ?_⟩
      have repeated :
          repeatedNumber ⟨.single number, some pending, number?, none⟩ =
            .ok (number?.getD first) := by
        cases number? with
        | none => exact read
        | some right => rfl
      rw [Calculator.attempt, Calculator.handle, equals_single rfl rfl, repeated, whenRead_ok,
        read]
      rfl
  | dangling operator leftRead fault? =>
      cases remembered
      refine ⟨_, _, leftRead, rfl, ?_⟩
      rw [Calculator.attempt, Calculator.handle, equals_dangling rfl rfl, repeatedNumber,
        whenRead_ok, leftRead]
      rfl
  | operation operator right leftRead fault? =>
      obtain ⟨-, rightValue, rightRead⟩ := Chain.allOperands_operation.mp readable
      cases remembered
      exact
        ⟨_, rightValue, leftRead, rightRead,
          attempt_equals_of_read leftRead rightRead _ _ _⟩

end Consistent

/--
After every run that leaves operands that can be read, any positive number of equals meets no fault.
If there is no operator to carry out, the first number is left and remembered.  Otherwise the
operator of the chain, or else the remembered one, is applied that many times to the first number,
always with the same right number, and both are remembered.
-/
theorem run_repeated_equals
    (actions : List Action)
    (readable : (fresh.actAll actions).chain.AllOperands Operand.IsReadable)
    (times : Nat) :
    let before := fresh.actAll actions
    let after := before.pushAll (List.replicate (times + 1) .equals)
    ∃ first,
      before.chain.leadingValue = .ok first ∧
        (before.pendingOperator? = none → after = ⟨.ofValue first, none, some first, none⟩) ∧
        ∀ pending,
          before.pendingOperator? = some pending →
            let operator := before.chain.latestOperator?.getD pending
            ∃ right,
              before.EqualsTakes first right ∧
                after =
                  ⟨.ofValue ((operator.apply · right)^[times + 1] first), some operator,
                    some right, none⟩ := by
  intro before after
  have consistent : before.Consistent := Consistent.invariant.actAll actions
  cases remembered : before.pendingOperator? with
  | none =>
      obtain ⟨first, leading, handled⟩ := consistent.attempt_equals_bare readable remembered
      have passes := Passes.push handled (passes_equals_bare first times)
      exact ⟨first, leading, fun _ => passes.pushAll_eq, nofun⟩
  | some pending =>
      obtain ⟨first, right, leading, takes, handled⟩ :=
        consistent.attempt_equals_operation readable remembered
      have passes := Passes.push handled (passes_equals_result _ _ right times)
      refine ⟨first, leading, nofun, ?_⟩
      rintro _ ⟨⟩ operator
      exact ⟨right, takes, passes.pushAll_eq⟩

/-- Three times equals behind `2 * 3 - 50 %` takes a half from six three times. -/
theorem run_repeated_equals_of_subtraction :
    let before :=
      fresh.actAll
        [.push (.digit 2), .push (.operator .multiply), .push (.digit 3),
          .push (.operator .subtract), .paste "50", .push .percent]
    before.chain.AllOperands Operand.IsReadable ∧
      before.pendingOperator? = some .subtract ∧
        before.EqualsTakes 6 0.5 ∧
          before.pushAll [.equals, .equals, .equals] =
            ⟨.ofValue 4.5, some .subtract, some 0.5, none⟩ := by
  intro before
  have chainShape : before.chain = .operation (.computed 6) .subtract (.computed 0.5) := by
    decide +kernel
  have remembered : before.pendingOperator? = some .subtract := by
    decide +kernel
  have readable : before.chain.AllOperands Operand.IsReadable := by
    rw [chainShape, Chain.allOperands_operation]
    exact ⟨⟨6, rfl⟩, ⟨0.5, rfl⟩⟩
  have leadingSix : before.chain.leadingValue = .ok 6 := by
    rw [chainShape]
    rfl
  obtain ⟨first, leading, -, repeats⟩ := run_repeated_equals _ readable 2
  obtain ⟨right, takes, after⟩ := repeats .subtract remembered
  cases leadingSix.symm.trans leading
  have takesHalf : before.EqualsTakes 6 right := takes
  simp only [EqualsTakes, chainShape, Chain.operation] at takesHalf
  cases takesHalf
  exact ⟨readable, remembered, takes, after.trans (by decide +kernel)⟩

end Calculator

end ChainCalculator
