import ChainCalculator.Calculator.Push
import ChainCalculator.Proofs.ChainShape
import ChainCalculator.Proofs.NumberParts

namespace ChainCalculator

/-!
# What each button does to a short chain

For every button and every shape of the chain one equation says what handling the button leaves
behind.  An equation whose right side reads an operand also says where handling stops when that
operand is no number.  Later modules rely on these equations and not on how a button is handled.
-/

namespace Operand

/-- An operand after a digit: a lone zero and a computed number give way to the digit. -/
def afterDigit
    (digit : Fin 10) :
    Operand → Operand
  | .typed text =>
      let single := String.singleton (Button.digitChar digit)
      .typed (if text = "0" then single else text ++ single)
  | .computed _ =>
      .typed (String.singleton (Button.digitChar digit))

/-- An operand after a point: it takes one unless it has one. -/
def afterPoint
    (number : Operand) :
    Operand :=
  if number.hasPoint then number else .typed (number.text ++ ".")

/-- The only fault of an operand is that its text is no number. -/
theorem eq_unreadableOperand_of_value_eq_error
    {number : Operand}
    {fault : Fault}
    (unread : number.value = .error fault) :
    ∃ text, number = .typed text ∧ fault = .unreadableOperand text := by
  cases number with
  | computed found =>
      cases unread
  | typed text =>
      refine ⟨text, rfl, ?_⟩
      simp only [value] at unread
      split at unread
      · cases unread
      · split at unread
        · cases unread
        · injection unread with faultShape
          exact faultShape.symm

end Operand

namespace Calculator

variable {calculator : Calculator} {front : Chain}

@[simp]
theorem whenRead_ok
    {α : Type}
    (calculator : Calculator)
    (found : α)
    (next : α → Outcome) :
    whenRead calculator (.ok found) next = next found :=
  rfl

@[simp]
theorem whenRead_error
    {α : Type}
    (calculator : Calculator)
    (fault : Fault)
    (next : α → Outcome) :
    whenRead calculator (.error fault) next = stopped calculator fault :=
  rfl

/-- A digit changes the operand at the end of a chain and nothing before it. -/
theorem enterDigit_operand
    {number : Operand}
    (shape : calculator.chain = front.push (.operand number))
    (digit : Fin 10) :
    calculator.enterDigit digit =
      done { calculator with chain := front.push (.operand (number.afterDigit digit)) } := by
  cases number <;> simp [enterDigit, shape, retype, Operand.afterDigit]

/-- A digit behind an operator begins an operand. -/
theorem enterDigit_operator
    {operator : Operator}
    (shape : calculator.chain = front.push (.operator operator))
    (short : front.size ≤ 1)
    (digit : Fin 10) :
    calculator.enterDigit digit =
      done
        { calculator with
          chain :=
            calculator.chain.push
              (.operand (.typed (String.singleton (Button.digitChar digit)))) } := by
  have latestShape : calculator.chain.latest? = some (.operator operator) := by
    rw [shape, Chain.latest?_push]
  have chainSize : calculator.chain.size ≤ 2 := by
    rw [shape, Chain.size_push]
    omega
  simp [enterDigit, latestShape, append, Chain.settle_push_of_size_le chainSize, done]

/-- A point changes the operand at the end of a chain and nothing before it. -/
theorem enterDot_operand
    {number : Operand}
    (shape : calculator.chain = front.push (.operand number)) :
    calculator.enterDot =
      done { calculator with chain := front.push (.operand number.afterPoint) } := by
  by_cases pointed : number.hasPoint
  · have latestShape : calculator.chain.latest? = some (.operand number) := by
      rw [shape, Chain.latest?_push]
    simp [enterDot, latestShape, pointed, Operand.afterPoint, ← shape]
  · simp [enterDot, shape, pointed, retype, Operand.afterPoint]

/-- A point behind an operator begins an operand with a zero. -/
theorem enterDot_operator
    {operator : Operator}
    (shape : calculator.chain = front.push (.operator operator)) :
    calculator.enterDot =
      done
        { calculator with chain := calculator.chain.push (.operand (.typed "0.")) } := by
  have latestShape : calculator.chain.latest? = some (.operator operator) := by
    rw [shape, Chain.latest?_push]
  simp [enterDot, latestShape]

/-- An operator takes the place of an operator at the end of a chain. -/
theorem enterOperator_operator
    {operator : Operator}
    (shape : calculator.chain = front.push (.operator operator))
    (next : Operator) :
    calculator.enterOperator next =
      done
        { calculator with
          chain := front.push (.operator next)
          pendingOperator? := some next } := by
  simp [enterOperator, shape]

/-- An operator behind a lone operand remembers its number. -/
theorem enterOperator_single
    {number : Operand}
    (shape : calculator.chain = .single number)
    (next : Operator) :
    calculator.enterOperator next =
      whenRead { calculator with pendingOperator? := some next } number.value fun value =>
        done
          { calculator with
            chain := .dangling number next
            pendingOperator? := some next
            pendingNumber? := some value } := by
  cases read : number.value <;>
    simp [enterOperator, append, shape, read, Chain.single, Chain.latest?, Chain.push,
      Chain.settle, Chain.settleFrom, Chain.dangling, done]

/-- An operator behind a complete operation takes the result for its left operand. -/
theorem enterOperator_operation
    {left right : Operand}
    {operator : Operator}
    (shape : calculator.chain = .operation left operator right)
    (next : Operator) :
    calculator.enterOperator next =
      whenRead { calculator with pendingOperator? := some next } right.value fun rightValue =>
        whenRead
          { calculator with
            chain := calculator.chain.push (.operator next)
            pendingOperator? := some next
            pendingNumber? := some rightValue } left.value fun leftValue =>
          done
            { calculator with
              chain := .dangling (.computed (operator.apply leftValue rightValue)) next
              pendingOperator? := some next
              pendingNumber? := some (operator.apply leftValue rightValue) } := by
  have latestShape : calculator.chain.latest? = some (.operand right) := by
    rw [shape, Chain.operation_eq_push, Chain.latest?_push]
  cases rightRead : right.value with
  | error fault =>
      simp [enterOperator, latestShape, rightRead]
  | ok rightValue =>
      have long : 3 < (calculator.chain.push (.operator next)).size := by
        simp [shape]
      have front :
          (calculator.chain.push (.operator next)).frontResult =
            left.value.map (operator.apply · rightValue) := by
        rw [shape]
        exact Chain.frontResult_of_links_eq rfl rightRead
      simp only [enterOperator, latestShape, rightRead, whenRead_ok, append]
      cases leftRead : left.value with
      | error fault =>
          rw [Chain.settle_of_frontResult_error long (by rw [front, leftRead]; rfl)]
          rfl
      | ok leftValue =>
          rw [Chain.settle_of_frontResult_ok long (by rw [front, leftRead]; rfl), shape]
          rfl

/-- What is left of a text to paste: the text without the blanks at both ends. -/
def pasted
    (text : String) :
    String :=
  String.ofList (Text.trim text.toList)

/-- There is nothing to cut off a text that is a plain number. -/
theorem pasted_of_accepts
    {text : String}
    (accepted : PlainNumber.accepts text) :
    pasted text = text := by
  rw [pasted, PlainNumber.trim_of_accepts accepted, String.ofList_toList]

/-- A pasted number takes the place of the operand at the end of a chain. -/
theorem paste_operand
    {number : Operand}
    {text : String}
    (shape : calculator.chain = front.push (.operand number))
    (accepted : PlainNumber.accepts (pasted text)) :
    calculator.paste text =
      { calculator with
        chain := front.push (.operand (.typed (PlainNumber.canonical (pasted text))))
        fault? := none } := by
  rw [pasted] at accepted
  simp [paste, accepted, shape, Link.holdsOperator, pasted]

/-- A pasted number becomes the operand behind an operator. -/
theorem paste_operator
    {operator : Operator}
    {text : String}
    (shape : calculator.chain = front.push (.operator operator))
    (accepted : PlainNumber.accepts (pasted text)) :
    calculator.paste text =
      { calculator with
        chain :=
          calculator.chain.push (.operand (.typed (PlainNumber.canonical (pasted text))))
        fault? := none } := by
  rw [pasted] at accepted
  simp [paste, accepted, shape, Link.holdsOperator, pasted]

/-- A pasted text that is no plain number changes nothing. -/
theorem paste_of_not_accepts
    {text : String}
    (rejected : ¬PlainNumber.accepts (pasted text)) :
    calculator.paste text = calculator := by
  rw [pasted] at rejected
  simp [paste, rejected]

/-- Percent turns the operand at the end of a chain into a hundredth of it. -/
theorem enterPercent_operand
    {number : Operand}
    (shape : calculator.chain = front.push (.operand number)) :
    calculator.enterPercent =
      whenRead calculator number.value fun value =>
        done { calculator with chain := front.push (.operand (.computed (value / 100))) } := by
  simp only [enterPercent, shape, Chain.dropOperator_push_operand, Chain.latest?_push,
    Chain.replaceLatest_push]
  rw [← shape]

/-- Percent drops an operator that stands behind the operand. -/
theorem enterPercent_dangling
    {left : Operand}
    {operator : Operator}
    (shape : calculator.chain = .dangling left operator) :
    calculator.enterPercent =
      whenRead { calculator with chain := .single left } left.value fun value =>
        done { calculator with chain := .single (.computed (value / 100)) } := by
  rw [Chain.dangling_eq_push] at shape
  simp [enterPercent, shape, Chain.single_eq_push]

/-- A lone operand gives way to the remembered number. -/
theorem clearEntry_single
    {number : Operand}
    (shape : calculator.chain = .single number) :
    calculator.clearEntry =
      done { calculator with chain := .ofValue (calculator.pendingNumber?.getD 0) } := by
  simp [clearEntry, shape, Chain.single, Chain.latest?, Chain.dropLatest]

/-- An operator at the end is taken back and forgotten. -/
theorem clearEntry_dangling
    {left : Operand}
    {operator : Operator}
    (shape : calculator.chain = .dangling left operator) :
    calculator.clearEntry =
      done { calculator with chain := .single left, pendingOperator? := none } := by
  simp [clearEntry, shape, Chain.dangling, Chain.latest?, Chain.dropLatest, Chain.single]

/-- The right operand of an operation is taken back. -/
theorem clearEntry_operation
    {left right : Operand}
    {operator : Operator}
    (shape : calculator.chain = .operation left operator right) :
    calculator.clearEntry =
      done { calculator with chain := .dangling left operator } := by
  simp [clearEntry, shape, Chain.operation, Chain.latest?, Chain.dropLatest, Chain.dangling]

/-- Equals without an operator to repeat turns the latest operand into a number. -/
theorem equals_of_pendingOperator?_eq_none
    (nothing : calculator.pendingOperator? = none) :
    calculator.equals =
      whenRead calculator calculator.latestValue fun value =>
        done { calculator with chain := .ofValue value, pendingNumber? := some value } := by
  simp [equals, nothing]

/-- Completing an operation remembers its right operand and leaves its result. -/
theorem rememberOperand_operation
    {left right : Operand}
    {operator : Operator}
    (shape : calculator.chain = .operation left operator right) :
    calculator.rememberOperand =
      whenRead calculator right.value fun rightValue =>
        whenRead { calculator with pendingNumber? := some rightValue } left.value fun leftValue =>
          done
            { calculator with
              chain := .ofValue (operator.apply leftValue rightValue)
              pendingNumber? := some rightValue } := by
  have rightShape : calculator.chain.rightOperand? = some right := by
    rw [shape]
    rfl
  have latestShape : calculator.chain.latest? = some (.operand right) := by
    rw [shape, Chain.operation_eq_push, Chain.latest?_push]
  cases rightRead : right.value with
  | error fault =>
      simp [rememberOperand, rightShape, rightRead]
  | ok rightValue =>
      have front :
          calculator.chain.frontResult = left.value.map (operator.apply · rightValue) := by
        rw [shape]
        exact Chain.frontResult_of_links_eq rfl rightRead
      simp only [rememberOperand, rightShape, rightRead, whenRead_ok, completeOperation,
        latestShape, showResult, front]
      cases left.value <;> rfl

/-- Equals on a complete operation computes it and remembers its right operand. -/
theorem equals_operation
    {left right : Operand}
    {operator pending : Operator}
    (shape : calculator.chain = .operation left operator right)
    (remembered : calculator.pendingOperator? = some pending) :
    calculator.equals =
      whenRead { calculator with pendingOperator? := some operator } right.value fun rightValue =>
        whenRead
          { calculator with
            pendingOperator? := some operator
            pendingNumber? := some rightValue } left.value fun leftValue =>
          done
            { calculator with
              chain := .ofValue (operator.apply leftValue rightValue)
              pendingOperator? := some operator
              pendingNumber? := some rightValue } := by
  have operatorShape : calculator.chain.latestOperator? = some operator := by
    rw [shape]
    rfl
  have complete : ¬calculator.chain.size < 3 := by
    simp [shape]
  simp [equals, remembered, operatorShape, carryOut, complete,
    @rememberOperand_operation { calculator with pendingOperator? := some operator } _ _ _ shape]

/--
Without a complete operation, the operation is repeated that the chain ends with or that is pending.
-/
private theorem equals_of_size_lt
    {left : Operand}
    {pending operator : Operator}
    (small : calculator.chain.size < 3)
    (leading : calculator.chain.leadingOperand = .ok left)
    (remembered : calculator.pendingOperator? = some pending)
    (repeats : calculator.chain.latestOperator?.getD pending = operator) :
    calculator.equals =
      whenRead { calculator with pendingOperator? := some operator }
          calculator.repeatedNumber fun right =>
        whenRead
          { calculator with
            chain := .operation left operator (.computed right)
            pendingOperator? := some operator
            pendingNumber? := some right } left.value fun leftValue =>
          done
            { calculator with
              chain := .ofValue (operator.apply leftValue right)
              pendingOperator? := some operator
              pendingNumber? := some right } := by
  have sameNumber :
      repeatedNumber { calculator with pendingOperator? := some operator } =
        calculator.repeatedNumber :=
    rfl
  simp only [equals, remembered, repeats, carryOut, small, ↓reduceIte, sameNumber, leading,
    whenRead_ok]
  congr 1
  funext right
  rw [rememberOperand_operation rfl]
  rfl

/-- Equals on a lone operand repeats the remembered operation. -/
theorem equals_single
    {number : Operand}
    {operator : Operator}
    (shape : calculator.chain = .single number)
    (remembered : calculator.pendingOperator? = some operator) :
    calculator.equals =
      whenRead { calculator with pendingOperator? := some operator }
          calculator.repeatedNumber fun right =>
        whenRead
          { calculator with
            chain := .operation number operator (.computed right)
            pendingOperator? := some operator
            pendingNumber? := some right } number.value fun value =>
          done
            { calculator with
              chain := .ofValue (operator.apply value right)
              pendingOperator? := some operator
              pendingNumber? := some right } := by
  apply equals_of_size_lt _ _ remembered
  · rw [shape]
    rfl
  · simp [shape]
  · rw [shape]
    rfl

/-- Equals behind a dangling operator uses the remembered number on its right. -/
theorem equals_dangling
    {left : Operand}
    {operator pending : Operator}
    (shape : calculator.chain = .dangling left operator)
    (remembered : calculator.pendingOperator? = some pending) :
    calculator.equals =
      whenRead { calculator with pendingOperator? := some operator }
          calculator.repeatedNumber fun right =>
        whenRead
          { calculator with
            chain := .operation left operator (.computed right)
            pendingOperator? := some operator
            pendingNumber? := some right } left.value fun leftValue =>
          done
            { calculator with
              chain := .ofValue (operator.apply leftValue right)
              pendingOperator? := some operator
              pendingNumber? := some right } := by
  apply equals_of_size_lt _ _ remembered
  · rw [shape]
    rfl
  · simp [shape]
  · rw [shape]
    rfl

end Calculator

end ChainCalculator
