import Mathlib.Data.List.Induction
import ChainCalculator.Proofs.OperatorTotals
import ChainCalculator.Proofs.Typing

namespace ChainCalculator

/-!
# The running total

An expression is typed from left to right: a number, and again and again operators with a number
behind them.  The calculator computes it without precedence.  While it is typed, the chain holds the
total of what stands before the latest operator, and an operator brings the total so far to the
screen; equals leaves the total of the whole expression.
-/

/-- A number under way: at least one mark. -/
structure Word where
  marks : List Mark
  nonempty : marks ≠ []
  deriving Repr, DecidableEq

namespace Word

def text
    (word : Word) :
    String :=
  Mark.text word.marks

def number
    (word : Word) :
    Float :=
  Mark.number word.marks

def buttons
    (word : Word) :
    List Button :=
  word.marks.map Mark.button

/-- A word reads as its number. -/
theorem value_typed_text
    (word : Word) :
    (Operand.typed word.text).value = .ok word.number :=
  Mark.value_typed_text word.marks

end Word

/-- Operators in a row, and the number that is typed behind them. -/
structure Step where
  operators : List Operator
  nonempty : operators ≠ []
  word : Word
  deriving Repr, DecidableEq

namespace Step

/-- The operator that counts is the last one. -/
def operator
    (step : Step) :
    Operator :=
  step.operators.getLast step.nonempty

def buttons
    (step : Step) :
    List Button :=
  step.operators.map .operator ++ step.word.buttons

end Step

/-- A first number, and steps that go on from it. -/
structure Expression where
  first : Word
  steps : List Step
  deriving Repr, DecidableEq

namespace Expression

def buttons
    (expression : Expression) :
    List Button :=
  expression.first.buttons ++ expression.steps.flatMap Step.buttons

/-- The operations of an expression, carried out from left to right. -/
def total
    (expression : Expression) :
    Float :=
  expression.steps.foldl
    (fun total step => step.operator.apply total step.word.number)
    expression.first.number

def lastNumber
    (expression : Expression) :
    Float :=
  match expression.steps.getLast? with
  | none => expression.first.number
  | some step => step.word.number

def lastOperator?
    (expression : Expression) :
    Option Operator :=
  expression.steps.getLast?.map Step.operator

/-- The operand that stands for an expression once an operator follows. -/
def operand
    (expression : Expression) :
    Operand :=
  match expression.steps with
  | [] => .typed expression.first.text
  | _ :: _ => .computed expression.total

/-- What an operator behind an expression brings to the screen. -/
def screen
    (expression : Expression) :
    Screen :=
  match expression.steps with
  | [] => .number expression.first.text
  | _ :: _ => .ofValue expression.total

/-- The total is carried on from step to step. -/
theorem total_concat
    (first : Word)
    (earlier : List Step)
    (step : Step) :
    total ⟨first, earlier ++ [step]⟩ =
      step.operator.apply (total ⟨first, earlier⟩) step.word.number := by
  simp [total]

/-- Behind a step the operand is the total computed so far. -/
theorem operand_concat
    (first : Word)
    (earlier : List Step)
    (step : Step) :
    operand ⟨first, earlier ++ [step]⟩ = .computed (total ⟨first, earlier ++ [step]⟩) := by
  cases earlier <;> rfl

/-- The buttons of a further step come behind all others. -/
theorem buttons_concat
    (first : Word)
    (earlier : List Step)
    (step : Step) :
    buttons ⟨first, earlier ++ [step]⟩ = buttons ⟨first, earlier⟩ ++ step.buttons := by
  simp [buttons]

/-- The operand of an expression reads as its total. -/
theorem value_operand
    (expression : Expression) :
    expression.operand.value = .ok expression.total := by
  rcases expression with ⟨first, steps⟩
  cases steps with
  | nil => exact first.value_typed_text
  | cons step rest => rfl

/-- The operand of an expression shows as the expression should. -/
theorem ofOperand_operand
    (expression : Expression) :
    Screen.ofOperand expression.operand = expression.screen := by
  rcases expression with ⟨first, steps⟩
  cases steps with
  | nil => exact if_neg (Mark.text_ne_empty first.marks)
  | cons step rest => rfl

end Expression

namespace Calculator

/-- A word makes up the first operand. -/
theorem passes_word_fresh
    (word : Word) :
    Passes fresh word.buttons ⟨.single (.typed word.text), none, none, none⟩ :=
  @passes_marks_zero fresh .empty _ rfl Figure.write_zero _ word.nonempty

/-- A word behind an operator makes up the right operand. -/
theorem passes_word_dangling
    (left : Operand)
    (operator : Operator)
    (operator? : Option Operator)
    (number? : Option Float)
    (word : Word) :
    Passes ⟨.dangling left operator, operator?, number?, none⟩ word.buttons
      ⟨.operation left operator (.typed word.text), operator?, number?, none⟩ :=
  @passes_marks_operator ⟨.dangling left operator, operator?, number?, none⟩ (.single left) operator
    rfl (by simp) _ word.nonempty

/-- The calculator after an expression was typed on a fresh one. -/
inductive Entered : Expression → Calculator → Prop where
  | word
      (first : Word) :
      Entered ⟨first, []⟩ ⟨.single (.typed first.text), none, none, none⟩
  | step
      (first : Word)
      (earlier : List Step)
      (step : Step) :
      Entered ⟨first, earlier ++ [step]⟩
        ⟨.operation (Expression.operand ⟨first, earlier⟩) step.operator (.typed step.word.text),
          some step.operator,
          some (Expression.total ⟨first, earlier⟩),
          none⟩

namespace Entered

variable {expression : Expression} {calculator : Calculator}

/-- What an expression leads to is a consistent state. -/
theorem consistent
    (entered : Entered expression calculator) :
    calculator.Consistent := by
  cases entered with
  | word first => exact .single _ _ _ _
  | step first earlier step =>
      exact .operation step.operator _ (Expression.value_operand ⟨first, earlier⟩) _

/-- The total of the chain is that of the expression. -/
theorem hasTotal
    (entered : Entered expression calculator) :
    calculator.chain.HasTotal expression.operand expression.total := by
  cases entered with
  | word first =>
      exact .single first.value_typed_text
  | step first earlier step =>
      rw [Expression.operand_concat, Expression.total_concat]
      exact
        .operation (Expression.value_operand ⟨first, earlier⟩) step.word.value_typed_text
          step.operator

/-- An operator takes the total of what was typed before it. -/
theorem attempt_operator
    (entered : Entered expression calculator)
    (next : Operator) :
    calculator.attempt (.operator next) =
      done ⟨.dangling expression.operand next, some next, some expression.total, none⟩ :=
  entered.consistent.attempt_operator entered.hasTotal next

/-- Of several operators in a row only the last one counts. -/
theorem passes_operators
    (entered : Entered expression calculator)
    {operators : List Operator}
    (nonempty : operators ≠ []) :
    Passes calculator (operators.map .operator)
      ⟨.dangling expression.operand (operators.getLast nonempty),
        some (operators.getLast nonempty), some expression.total, none⟩ :=
  entered.consistent.passes_operators entered.hasTotal nonempty

/-- Equals leaves the total and remembers the last operator and the last number. -/
theorem attempt_equals
    (entered : Entered expression calculator) :
    calculator.attempt .equals =
      done
        ⟨.ofValue expression.total, expression.lastOperator?, some expression.lastNumber,
          none⟩ := by
  cases entered with
  | word first =>
      have read : latestValue ⟨.single (.typed first.text), none, none, none⟩ = .ok first.number :=
        first.value_typed_text
      rw [attempt, handle, equals_of_pendingOperator?_eq_none rfl, read]
      rfl
  | step first earlier step =>
      have rightRead := step.word.value_typed_text
      have leftRead := Expression.value_operand ⟨first, earlier⟩
      rw [attempt_equals_of_read leftRead rightRead, Expression.total_concat]
      simp [Expression.lastOperator?, Expression.lastNumber]

/-- Every expression can be typed without a fault. -/
theorem exists_passes
    (expression : Expression) :
    ∃ calculator, Entered expression calculator ∧ Passes fresh expression.buttons calculator := by
  rcases expression with ⟨first, steps⟩
  -- What an expression leaves behind is said of its last step, so the induction is from the end.
  induction steps using List.reverseRecOn with
  | nil =>
      have buttonsShape : Expression.buttons ⟨first, []⟩ = first.buttons := by
        simp [Expression.buttons]
      rw [buttonsShape]
      exact ⟨_, .word first, passes_word_fresh first⟩
  | append_singleton earlier step inductionHypothesis =>
      obtain ⟨before, entered, typedBefore⟩ := inductionHypothesis
      have chosen := entered.passes_operators step.nonempty
      have typedBehind :=
        passes_word_dangling (Expression.operand ⟨first, earlier⟩) step.operator
          (some step.operator) (some (Expression.total ⟨first, earlier⟩)) step.word
      rw [Expression.buttons_concat]
      exact ⟨_, .step first earlier step, typedBefore.append (chosen.append typedBehind)⟩

end Entered

/--
Typing any expression on a fresh calculator and pressing equals meets no fault, computes the
expression from left to right and leaves its total alone in the chain, together with the last
operator and the last number to be repeated.  Every operator on the way shows the total of what was
typed before it, which is the first number as typed as long as there is no other.
-/
theorem run_total
    (expression : Expression) :
    (∀ word : Word, (Operand.typed word.text).value = .ok word.number) ∧
      (∀ earlier button later,
        expression.buttons ++ [.equals] = earlier ++ button :: later →
          ((fresh.pushAll earlier).attempt button).fault? = none) ∧
      fresh.pushAll (expression.buttons ++ [.equals]) =
        ⟨.ofValue expression.total, expression.lastOperator?, some expression.lastNumber, none⟩ ∧
      ∀ earlier step later,
        expression.steps = earlier ++ step :: later →
          ∀ shown,
            shown ≠ [] →
              shown <+: step.operators →
                let before : Expression := ⟨expression.first, earlier⟩
                (fresh.pushAll (before.buttons ++ shown.map .operator)).screen = before.screen := by
  obtain ⟨calculator, entered, typed⟩ := Entered.exists_passes expression
  have completed := typed.append (.single entered.attempt_equals)
  refine ⟨Word.value_typed_text, ?_, completed.pushAll_eq, ?_⟩
  · intro earlier button later split
    rw [split] at completed
    exact completed.fault?_attempt_eq_none
  · -- Whatever comes later, the steps before an operator are an expression of their own.
    intro earlier step later _ shown nonempty _ before
    obtain ⟨calculatorBefore, enteredBefore, typedBefore⟩ := Entered.exists_passes before
    have shownAfter := typedBefore.append (enteredBefore.passes_operators nonempty)
    rw [shownAfter.pushAll_eq, ← Expression.ofOperand_operand]
    rfl

end Calculator

end ChainCalculator
