import ChainCalculator.Proofs.PendingOperation

namespace ChainCalculator

/-!
# What an operator finds in front of it

An operator takes the total of the chain for its left operand: the operand that stands there alone,
or the result of a complete operation.  It remembers the number of that total, and nothing is left
of what stood in the chain or was remembered before.

So it makes no difference whether the operator settles a complete operation or equals did so just
before it.  A further operator finds the same total again, and of several in a row the last one is
the only one to leave a trace.
-/

namespace Chain

/-- The operand that an operator finds in front of it, and its number. -/
inductive HasTotal : Chain → Operand → Float → Prop where
  | single
      {number : Operand}
      {value : Float}
      (read : number.value = .ok value) :
      HasTotal (.single number) number value
  | dangling
      {left : Operand}
      {value : Float}
      (leftRead : left.value = .ok value)
      (operator : Operator) :
      HasTotal (.dangling left operator) left value
  | operation
      {left right : Operand}
      {leftValue rightValue : Float}
      (leftRead : left.value = .ok leftValue)
      (rightRead : right.value = .ok rightValue)
      (operator : Operator) :
      HasTotal (.operation left operator right)
        (.computed (operator.apply leftValue rightValue)) (operator.apply leftValue rightValue)

end Chain

namespace Calculator

/-- Of operators in a row the last one counts. -/
theorem passes_operators_dangling
    (left : Operand)
    (number? : Option Float)
    (operator : Operator)
    (operators : List Operator) :
    let last := (operator :: operators).getLast (List.cons_ne_nil _ _)
    Passes ⟨.dangling left operator, some operator, number?, none⟩
      (operators.map .operator)
      ⟨.dangling left last, some last, number?, none⟩ := by
  induction operators generalizing operator with
  | nil =>
      exact .refl _
  | cons next rest inductionHypothesis =>
      have replaced :
          attempt ⟨.dangling left operator, some operator, number?, none⟩ (.operator next) =
            done ⟨.dangling left next, some next, number?, none⟩ := by
        rw [attempt, handle, enterOperator_operator (Chain.dangling_eq_push left operator)]
        rfl
      exact .push replaced (inductionHypothesis next)

/-- Equals leaves the result of a complete operation whose operands can be read. -/
theorem attempt_equals_of_read
    {left right : Operand}
    {leftValue rightValue : Float}
    (leftRead : left.value = .ok leftValue)
    (rightRead : right.value = .ok rightValue)
    (operator : Operator)
    (number? : Option Float)
    (fault? : Option Fault) :
    attempt ⟨.operation left operator right, some operator, number?, fault?⟩ .equals =
      done
        ⟨.ofValue (operator.apply leftValue rightValue), some operator, some rightValue, none⟩ := by
  rw [attempt, handle, equals_operation rfl rfl, rightRead, whenRead_ok, leftRead]
  rfl

namespace Consistent

variable
  {calculator : Calculator}
  (consistent : calculator.Consistent)

include consistent

/-- The left operand of a complete operation can be read, and the operation is remembered. -/
theorem exists_eq_of_operation
    {left right : Operand}
    {operator : Operator}
    (shape : calculator.chain = .operation left operator right) :
    ∃ leftValue,
      left.value = .ok leftValue ∧
        calculator =
          ⟨.operation left operator right, some operator, some leftValue, calculator.fault?⟩ := by
  cases consistent with
  | single => cases shape
  | dangling => cases shape
  | operation operator right leftRead fault? =>
      cases shape
      exact ⟨_, leftRead, rfl⟩

/-- The chain has a total as soon as its latest operand can be read. -/
theorem exists_hasTotal
    {number : Operand}
    {value : Float}
    (latest : calculator.chain.latestOperand? = some number)
    (read : number.value = .ok value) :
    ∃ total totalValue, calculator.chain.HasTotal total totalValue := by
  cases consistent with
  | single =>
      cases latest
      exact ⟨_, _, .single read⟩
  | dangling operator leftRead =>
      exact ⟨_, _, .dangling leftRead operator⟩
  | operation operator right leftRead =>
      cases latest
      exact ⟨_, _, .operation leftRead read operator⟩

variable
  {total : Operand}
  {totalValue : Float}
  (hasTotal : calculator.chain.HasTotal total totalValue)

include hasTotal

/-- An operator takes the total of the chain and remembers its number. -/
theorem attempt_operator
    (next : Operator) :
    calculator.attempt (.operator next) =
      done ⟨.dangling total next, some next, some totalValue, none⟩ := by
  cases consistent with
  | single =>
      cases hasTotal with
      | single read =>
          rw [Calculator.attempt, Calculator.handle, enterOperator_single rfl, read]
          rfl
  | dangling operator leftRead =>
      cases hasTotal with
      | dangling totalRead =>
          -- The number that was remembered with the operator is the one of its left operand.
          cases leftRead.symm.trans totalRead
          rw [Calculator.attempt, Calculator.handle,
            enterOperator_operator (Chain.dangling_eq_push _ operator)]
          rfl
  | operation operator right leftRead =>
      cases hasTotal with
      | operation totalLeftRead rightRead =>
          rw [Calculator.attempt, Calculator.handle, enterOperator_operation rfl, rightRead,
            whenRead_ok, totalLeftRead]
          rfl

/-- Operators in a row leave the total with the last of them behind it. -/
theorem passes_operators
    {operators : List Operator}
    (nonempty : operators ≠ []) :
    Passes calculator (operators.map .operator)
      ⟨.dangling total (operators.getLast nonempty), some (operators.getLast nonempty),
        some totalValue, none⟩ := by
  obtain ⟨first, rest, rfl⟩ := List.exists_cons_of_ne_nil nonempty
  exact
    .push (consistent.attempt_operator hasTotal first) (passes_operators_dangling _ _ first rest)

end Consistent

/--
After every run that leaves a complete operation whose right operand can be read, an operator leads
to the same calculator with and without equals in front of it: the result stands in the chain with
the operator behind it, both are remembered, and nothing failed.  So the screens under whatever
follows are the same, too.
-/
theorem run_equals_before_operator
    (actions : List Action)
    {left right : Operand}
    {operator : Operator}
    (shape : (fresh.actAll actions).chain = .operation left operator right)
    {rightValue : Float}
    (rightRead : right.value = .ok rightValue)
    (next : Operator) :
    let before := fresh.actAll actions
    let direct := before.push (.operator next)
    let viaEquals := (before.push .equals).push (.operator next)
    viaEquals = direct ∧
      (before.attempt .equals).fault? = none ∧
      (∃ leftValue,
        left.value = .ok leftValue ∧
          let total := operator.apply leftValue rightValue
          direct = ⟨.dangling (.computed total) next, some next, some total, none⟩) ∧
      ∀ later, viaEquals.record later = direct.record later := by
  intro before direct viaEquals
  have consistent : before.Consistent := Consistent.invariant.actAll actions
  obtain ⟨leftValue, leftRead, beforeShape⟩ := consistent.exists_eq_of_operation shape
  have hasTotal : before.chain.HasTotal _ _ :=
    shape ▸ Chain.HasTotal.operation leftRead rightRead operator
  have settled := Passes.single (consistent.attempt_operator hasTotal next)
  have computed :
      before.attempt .equals =
        done
          ⟨.ofValue (operator.apply leftValue rightValue), some operator, some rightValue,
            none⟩ := by
    rw [beforeShape]
    exact attempt_equals_of_read leftRead rightRead operator _ _
  -- What equals leaves is the total already, as a lone operand.
  have result := Consistent.single (.computed (operator.apply leftValue rightValue))
    (some operator) (some rightValue) none
  have continued :=
    Passes.push computed (.single (result.attempt_operator (.single rfl) next))
  have same : viaEquals = direct := continued.pushAll_eq.trans settled.pushAll_eq.symm
  refine ⟨same, ?_, ⟨leftValue, leftRead, settled.pushAll_eq⟩, ?_⟩
  · rw [computed]
    rfl
  · intro later
    rw [same]

/-- Behind `2 + 3 * 4` and an unknown key, minus finds the total twenty with and without equals. -/
theorem run_equals_before_operator_of_product :
    let before :=
      fresh.actAll
        [.push (.digit 2), .push (.operator .add), .push (.digit 3), .push (.operator .multiply),
          .paste " 4 ", .press .standard "nothing"]
    before.chain = .operation (.computed 5) .multiply (.typed "4") ∧
      before.fault? = some (.unknownKey "nothing") ∧
        (Operand.typed "4").value = .ok 4 ∧
          (before.push .equals).push (.operator .subtract) =
            ⟨.dangling (.computed 20) .subtract, some .subtract, some 20, none⟩ := by
  intro before
  have shape : before.chain = .operation (.computed 5) .multiply (.typed "4") := by
    decide +kernel
  have numeral : readFloat? "4" = some 4 := by
    decide +kernel
  have rightRead : (Operand.typed "4").value = .ok 4 := by
    simp [Operand.value, numeral]
  obtain ⟨same, -, ⟨leftValue, leftRead, direct⟩, -⟩ :=
    run_equals_before_operator _ shape rightRead .subtract
  cases leftRead
  have product : Operator.multiply.apply 5 4 = 20 := by
    decide +kernel
  rw [product] at direct
  exact ⟨shape, by decide +kernel, rightRead, same.trans direct⟩

/--
After every run whose latest operand can be read, operators in a row lead to the same calculator as
the last of them alone, and none of them fails.  That calculator holds the total of the chain before
the first of them, which is computed once, with the operator that stood in the chain.
-/
theorem run_operators_in_a_row
    (actions : List Action)
    {number : Operand}
    {value : Float}
    (latest : (fresh.actAll actions).chain.latestOperand? = some number)
    (read : number.value = .ok value)
    {operators : List Operator}
    (nonempty : operators ≠ []) :
    let before := fresh.actAll actions
    let last := operators.getLast nonempty
    let after := before.pushAll (operators.map .operator)
    after = before.push (.operator last) ∧
      (∀ earlier operator later,
        operators = earlier ++ operator :: later →
          ((before.pushAll (earlier.map .operator)).attempt (.operator operator)).fault? = none) ∧
      ∃ total totalValue,
        before.chain.HasTotal total totalValue ∧
          after = ⟨.dangling total last, some last, some totalValue, none⟩ := by
  intro before last after
  have consistent : before.Consistent := Consistent.invariant.actAll actions
  obtain ⟨total, totalValue, hasTotal⟩ := consistent.exists_hasTotal latest read
  have allPushed := consistent.passes_operators hasTotal nonempty
  have lastPushed := Passes.single (consistent.attempt_operator hasTotal last)
  refine
    ⟨allPushed.pushAll_eq.trans lastPushed.pushAll_eq.symm, ?_,
      total, totalValue, hasTotal, allPushed.pushAll_eq⟩
  rintro earlier operator later rfl
  rw [List.map_append, List.map_cons] at allPushed
  exact allPushed.fault?_attempt_eq_none

/-- Behind `8 - 2.5` three operators leave the difference with the last of them. -/
theorem run_operators_in_a_row_behind_difference :
    let before :=
      fresh.actAll
        [.push (.digit 8), .push (.operator .subtract), .push (.digit 2), .push .dot,
          .push (.digit 5)]
    before.chain.latestOperand? = some (.typed "2.5") ∧
      (Operand.typed "2.5").value = .ok 2.5 ∧
        [Operator.multiply, .add, .divide] ≠ [] ∧
          before.pushAll [.operator .multiply, .operator .add, .operator .divide] =
            before.push (.operator .divide) ∧
          before.push (.operator .divide) =
            ⟨.dangling (.computed 5.5) .divide, some .divide, some 5.5, none⟩ := by
  intro before
  have latest : before.chain.latestOperand? = some (.typed "2.5") := by
    decide +kernel
  have numeral : readFloat? "2.5" = some 2.5 := by
    decide +kernel
  have read : (Operand.typed "2.5").value = .ok 2.5 := by
    simp [Operand.value, numeral]
  have nonempty : [Operator.multiply, .add, .divide] ≠ [] :=
    List.cons_ne_nil _ _
  obtain ⟨same, -, -⟩ := run_operators_in_a_row _ latest read nonempty
  exact ⟨latest, read, nonempty, same, by decide +kernel⟩

end Calculator

end ChainCalculator
