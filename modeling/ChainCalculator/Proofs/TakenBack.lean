import ChainCalculator.Proofs.Runs

namespace ChainCalculator

/-!
# Taking back what was entered

Behind an operator a digit, a point or a pasted number begins an operand.  Digits, points, percent
and pasted texts then change that operand, and neither what stands in front of it nor the operation
to repeat.  So clearing the entry leads back to where the operand was begun, however long it was
worked on.

There is one exception.  Percent of a text that is no number fails and clears the chain.  From then
on a lone operand is worked on, and clearing it never leads back behind the operator.
-/

namespace Button

/-- Whether a button types a part of a number. -/
def typesNumber :
    Button → Bool
  | .digit _ => true
  | .dot => true
  | _ => false

/-- Whether a button works on an operand alone. -/
def editsOperand :
    Button → Bool
  | .percent => true
  | button => button.typesNumber

end Button

namespace Action

/-- An action that begins an operand behind an operator. -/
inductive BeginsOperand : Action → Prop where
  | push
      {action : Action}
      {button : Button}
      (pushes : action.button? = some button)
      (types : button.typesNumber) :
      BeginsOperand action
  | paste
      {text : String}
      (accepted : PlainNumber.accepts (Calculator.pasted text)) :
      BeginsOperand (.paste text)

/-- An action that works on an operand alone, or does nothing. -/
inductive EditsOperand : Action → Prop where
  | push
      {action : Action}
      {button : Button}
      (pushes : action.button? = some button)
      (edits : button.editsOperand) :
      EditsOperand action
  | paste
      (text : String) :
      EditsOperand (.paste text)

end Action

namespace Calculator

/-- Several actions, one after the other, leave no fault at any time. -/
def FaultFree
    (calculator : Calculator) :
    List Action → Prop
  | [] => True
  | action :: rest =>
      (calculator.act action).fault? = none ∧ (calculator.act action).FaultFree rest

instance FaultFree.decidable :
    (calculator : Calculator) →
      (actions : List Action) →
        Decidable (calculator.FaultFree actions)
  | _, [] => .isTrue trivial
  | calculator, action :: rest =>
      have := decidable (calculator.act action) rest
      inferInstanceAs (Decidable (_ ∧ _))

/-- What work on the operand behind a front leaves: another operand there, or a cleared chain. -/
inductive Edited
    (front : Chain)
    (before : Calculator) :
    Calculator → Prop where
  | operand
      (number : Operand)
      {fault? : Option Fault}
      (forgotten : fault? = none ∨ fault? = before.fault?) :
      Edited front before
        { before with chain := front.push (.operand number), fault? := fault? }
  | unreadable
      (text : String) :
      Edited front before
        { before with chain := .zero, fault? := some (.unreadableOperand text) }

variable {calculator : Calculator} {front : Chain} {number : Operand}

/-- A button that edits the operand leaves all in front of it as it was. -/
theorem edited_push
    (shape : calculator.chain = front.push (.operand number))
    {button : Button}
    (edits : button.editsOperand) :
    Edited front calculator (calculator.push button) := by
  have shapeBare : { calculator with fault? := none }.chain = front.push (.operand number) := shape
  cases button with
  | digit value =>
      rw [push, attempt, handle, enterDigit_operand shapeBare]
      exact .operand _ (Or.inl rfl)
  | dot =>
      rw [push, attempt, handle, enterDot_operand shapeBare]
      exact .operand _ (Or.inl rfl)
  | percent =>
      rw [push, attempt, handle, enterPercent_operand shapeBare]
      cases read : number.value with
      | ok value =>
          exact .operand _ (Or.inl rfl)
      | error fault =>
          obtain ⟨text, -, rfl⟩ := Operand.eq_unreadableOperand_of_value_eq_error read
          exact .unreadable text
  | _ => cases edits

/-- Work on the operand at the end of a chain leaves all else alone unless it fails. -/
theorem edited_act
    (shape : calculator.chain = front.push (.operand number))
    {action : Action}
    (edits : action.EditsOperand) :
    Edited front calculator (calculator.act action) := by
  cases edits with
  | push pushes edits =>
      rw [act_of_button?_eq_some calculator pushes]
      exact edited_push shape edits
  | paste text =>
      rw [act]
      by_cases accepted : PlainNumber.accepts (pasted text)
      · rw [paste_operand shape accepted]
        exact .operand _ (Or.inl rfl)
      · have unchanged :
            { calculator with chain := front.push (.operand number) } = calculator := by
          rw [← shape]
        rw [paste_of_not_accepts accepted]
        exact unchanged ▸ Edited.operand number (Or.inr rfl)

/-- Behind an operator an operand is begun without a fault. -/
theorem exists_act_eq_of_beginsOperand
    {operator : Operator}
    (shape : calculator.chain = front.push (.operator operator))
    (short : front.size ≤ 1)
    {action : Action}
    (begins : action.BeginsOperand) :
    ∃ begun,
      calculator.act action =
        { calculator with chain := calculator.chain.push (.operand begun), fault? := none } := by
  have shapeBare : { calculator with fault? := none }.chain = front.push (.operator operator) :=
    shape
  cases begins with
  | @push _ button pushes types =>
      rw [act_of_button?_eq_some calculator pushes]
      cases button with
      | digit value =>
          rw [push, attempt, handle, enterDigit_operator shapeBare short]
          exact ⟨_, rfl⟩
      | dot =>
          rw [push, attempt, handle, enterDot_operator shapeBare]
          exact ⟨_, rfl⟩
      | _ => cases types
  | paste accepted =>
      rw [act, paste_operator shape accepted]
      exact ⟨_, rfl⟩

section

variable {actions : List Action} (edits : ∀ action ∈ actions, action.EditsOperand)

include edits

/-- A lone operand stays alone, whatever fails. -/
theorem exists_chain_actAll_eq_single
    (shape : calculator.chain = .single number) :
    ∃ edited, (calculator.actAll actions).chain = .single edited := by
  induction actions generalizing calculator number with
  | nil =>
      exact ⟨number, shape⟩
  | cons action rest inductionHypothesis =>
      obtain ⟨firstEdits, restEdits⟩ := List.forall_mem_cons.mp edits
      rw [actAll, List.foldl_cons, ← actAll]
      generalize afterShape : calculator.act action = after
      have edited : Edited .empty calculator after :=
        afterShape ▸ edited_act (shape.trans (Chain.single_eq_push number)) firstEdits
      cases edited with
      | operand edited => exact inductionHypothesis restEdits (Chain.single_eq_push edited).symm
      | unreadable text => exact inductionHypothesis restEdits rfl

/--
Without a fault, work on the operand at the end of a chain changes that operand only.  Once it has
failed there is but a lone operand.
-/
theorem actAll_edits
    (front : Chain)
    (number : Operand)
    (operator? : Option Operator)
    (number? : Option Float) :
    let before : Calculator := ⟨front.push (.operand number), operator?, number?, none⟩
    (before.FaultFree actions ∧
        ∃ edited,
          before.actAll actions = ⟨front.push (.operand edited), operator?, number?, none⟩) ∨
      (¬before.FaultFree actions ∧
        ∃ edited, (before.actAll actions).chain = .single edited) := by
  induction actions generalizing number with
  | nil =>
      exact Or.inl ⟨trivial, number, rfl⟩
  | cons action rest inductionHypothesis =>
      intro before
      obtain ⟨firstEdits, restEdits⟩ := List.forall_mem_cons.mp edits
      rw [FaultFree, actAll, List.foldl_cons, ← actAll]
      generalize afterShape : before.act action = after
      have edited : Edited front before after := afterShape ▸ edited_act rfl firstEdits
      -- The first failure decides: up to it the front is kept, and behind it there is none.
      cases edited with
      | operand edited forgotten =>
          obtain rfl := forgotten.elim id id
          rcases inductionHypothesis restEdits edited with ⟨faultFree, entered⟩ | ⟨fails, lone⟩
          · exact Or.inl ⟨⟨rfl, faultFree⟩, entered⟩
          · exact Or.inr ⟨fun faultFree => fails faultFree.2, lone⟩
      | unreadable text =>
          exact
            Or.inr ⟨fun faultFree => Option.some_ne_none _ faultFree.1,
              exists_chain_actAll_eq_single restEdits rfl⟩

end

/--
Behind an operator, and with no fault on the screen, an operand is begun and worked on by digits,
points, percent and pasted texts in any number and order.  Clearing the entry then leads back to the
calculator before the operand, in its chain, its operation to repeat and its screen, if and only if
nothing failed in between.
-/
theorem clearEntry_takes_back_iff
    {before : Calculator}
    {left : Operand}
    {operator : Operator}
    (shape : before.chain = .dangling left operator)
    (unlatched : before.fault? = none)
    {first : Action}
    (begins : first.BeginsOperand)
    {rest : List Action}
    (edits : ∀ action ∈ rest, action.EditsOperand) :
    (before.actAll (first :: rest)).push .clearEntry = before ↔
      before.FaultFree (first :: rest) := by
  rcases before with ⟨chain, operator?, number?, fault?⟩
  obtain rfl : chain = .dangling left operator := shape
  obtain rfl : fault? = none := unlatched
  obtain ⟨begun, begunShape⟩ :
      ∃ begun,
        act ⟨.dangling left operator, operator?, number?, none⟩ first =
          ⟨(Chain.dangling left operator).push (.operand begun), operator?, number?, none⟩ :=
    exists_act_eq_of_beginsOperand (Chain.dangling_eq_push left operator) (by simp) begins
  rw [actAll, List.foldl_cons, ← actAll, FaultFree, begunShape]
  rcases actAll_edits edits (.dangling left operator) begun operator? number? with
    ⟨faultFree, edited, entered⟩ | ⟨fails, edited, lone⟩
  · refine iff_of_true ?_ ⟨rfl, faultFree⟩
    rw [entered, push, attempt, handle,
      clearEntry_operation (Chain.operation_eq_push left operator edited).symm]
    rfl
  · refine iff_of_false ?_ fun faultFree => fails faultFree.2
    intro takenBack
    have cleared := @clearEntry_single { actAll _ rest with fault? := none } edited lone
    rw [push, attempt, handle, cleared] at takenBack
    have sizes := congrArg (fun calculator => calculator.chain.size) takenBack
    cases sizes

/-- Behind `12 +` a point, a key, two percents, a digit and two pasted texts are taken back. -/
theorem clearEntry_takes_back_percent_of_pasted :
    let before :=
      fresh.actAll [.push (.digit 1), .push (.digit 2), .push (.operator .add)]
    let rest : List Action :=
      [.press .standard "3", .push .percent, .paste "hello", .paste " 07.5 ", .push (.digit 0),
        .push .percent]
    before.chain = .dangling (.typed "12") .add ∧
      before.fault? = none ∧
        (Action.push .dot).BeginsOperand ∧
          (∀ action ∈ rest, action.EditsOperand) ∧
            before.FaultFree (.push .dot :: rest) ∧
              (before.actAll (.push .dot :: rest)).chain =
                  .operation (.typed "12") .add (.computed 0.075) ∧
                (before.actAll (.push .dot :: rest)).push .clearEntry = before := by
  intro before rest
  have shape : before.chain = .dangling (.typed "12") .add := by
    decide +kernel
  have unlatched : before.fault? = none := by
    decide +kernel
  have begins : (Action.push .dot).BeginsOperand :=
    .push rfl rfl
  have three : Bindings.standard.resolve? "3" = some (.digit 3) := by
    decide +kernel
  have edits : ∀ action ∈ rest, action.EditsOperand := by
    simp only [rest, List.forall_mem_cons]
    exact
      ⟨.push three rfl, .push rfl rfl, .paste _, .paste _, .push rfl rfl, .push rfl rfl, nofun⟩
  have faultFree : before.FaultFree (.push .dot :: rest) := by
    decide +kernel
  exact
    ⟨shape, unlatched, begins, edits, faultFree, by decide +kernel,
      (clearEntry_takes_back_iff shape unlatched begins edits).mpr faultFree⟩

end Calculator

end ChainCalculator
