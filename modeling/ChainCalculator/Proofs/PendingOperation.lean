import ChainCalculator.Proofs.Runs

namespace ChainCalculator

/-!
# The pending operation agrees with the chain

One invariant ties the remembered operation to the chain.  Whenever an operator stands behind the
first operand, that operator is the remembered one, the operand can be read, and its number is the
remembered number.  The chain has one of its three shapes throughout.

The handling of a button either keeps the invariant or stops at an operand that is no number, after
which the chain is cleared.
-/

namespace Calculator

/-- A short chain with an operator agrees with the remembered operation. -/
inductive Consistent : Calculator → Prop where
  | single
      (number : Operand)
      (operator? : Option Operator)
      (number? : Option Float)
      (fault? : Option Fault) :
      Consistent ⟨.single number, operator?, number?, fault?⟩
  | dangling
      {left : Operand}
      (operator : Operator)
      {value : Float}
      (leftRead : left.value = .ok value)
      (fault? : Option Fault) :
      Consistent ⟨.dangling left operator, some operator, some value, fault?⟩
  | operation
      {left : Operand}
      (operator : Operator)
      (right : Operand)
      {value : Float}
      (leftRead : left.value = .ok value)
      (fault? : Option Fault) :
      Consistent ⟨.operation left operator right, some operator, some value, fault?⟩

/-- What handling a button of a consistent calculator leaves behind. -/
inductive Outcome.Sound : Outcome → Prop where
  | done
      {calculator : Calculator}
      (consistent : calculator.Consistent) :
      Sound (Calculator.done calculator)
  | unreadable
      (calculator : Calculator)
      (text : String) :
      Sound (stopped calculator (.unreadableOperand text))

/-- Handling is sound if it is so for every number that an operand may read as. -/
theorem sound_whenRead
    {calculator : Calculator}
    {number : Operand}
    {next : Float → Outcome}
    (goesOn : ∀ value, number.value = .ok value → (next value).Sound) :
    (whenRead calculator number.value next).Sound := by
  cases read : number.value with
  | ok value =>
      exact goesOn value read
  | error fault =>
      obtain ⟨text, -, rfl⟩ := Operand.eq_unreadableOperand_of_value_eq_error read
      exact .unreadable calculator text

/-- Sound handling leads to a consistent state, and so does the reset after a fault. -/
theorem Outcome.Sound.settle
    {outcome : Outcome}
    (sound : outcome.Sound) :
    outcome.settle.Consistent := by
  cases sound with
  | done consistent => exact consistent
  | unreadable calculator text => exact .single _ _ _ _

namespace Consistent

variable {calculator : Calculator}

/-- A consistent state has one of the three shapes. -/
theorem short
    (consistent : calculator.Consistent) :
    calculator.chain.Short := by
  cases consistent with
  | single => exact .single _
  | dangling => exact .dangling _ _
  | operation => exact .operation _ _ _

/-- A latched fault has no part in consistency. -/
theorem withFault
    (consistent : calculator.Consistent)
    (fault? : Option Fault) :
    { calculator with fault? := fault? }.Consistent := by
  cases consistent with
  | single => exact .single _ _ _ _
  | dangling operator leftRead => exact .dangling operator leftRead _
  | operation operator right leftRead => exact .operation operator right leftRead _

/-- A digit keeps the state consistent. -/
theorem enterDigit
    (consistent : calculator.Consistent)
    (digit : Fin 10) :
    (calculator.enterDigit digit).Sound := by
  cases consistent with
  | single number =>
      rw [enterDigit_operand (Chain.single_eq_push number)]
      exact .done (.single _ _ _ _)
  | dangling operator leftRead =>
      rw [enterDigit_operator (Chain.dangling_eq_push _ operator) (by simp)]
      exact .done (.operation operator _ leftRead _)
  | operation operator right leftRead =>
      rw [enterDigit_operand (Chain.operation_eq_push _ operator right)]
      exact .done (.operation operator _ leftRead _)

/-- A point keeps the state consistent. -/
theorem enterDot
    (consistent : calculator.Consistent) :
    calculator.enterDot.Sound := by
  cases consistent with
  | single number =>
      rw [enterDot_operand (Chain.single_eq_push number)]
      exact .done (.single _ _ _ _)
  | dangling operator leftRead =>
      rw [enterDot_operator (Chain.dangling_eq_push _ operator)]
      exact .done (.operation operator _ leftRead _)
  | operation operator right leftRead =>
      rw [enterDot_operand (Chain.operation_eq_push _ operator right)]
      exact .done (.operation operator _ leftRead _)

/-- An operator remembers itself and the number of the operand before it. -/
theorem enterOperator
    (consistent : calculator.Consistent)
    (next : Operator) :
    (calculator.enterOperator next).Sound := by
  cases consistent with
  | single number =>
      rw [enterOperator_single rfl]
      exact sound_whenRead fun value read => .done (.dangling next read _)
  | dangling operator leftRead =>
      rw [enterOperator_operator (Chain.dangling_eq_push _ operator)]
      exact .done (.dangling next leftRead _)
  | operation operator right leftRead =>
      rw [enterOperator_operation rfl]
      exact sound_whenRead fun value read =>
        sound_whenRead fun leftValue leftRead => .done (.dangling next rfl _)

/-- Percent leaves the left operand alone unless it is the only one. -/
theorem enterPercent
    (consistent : calculator.Consistent) :
    calculator.enterPercent.Sound := by
  cases consistent with
  | single number =>
      rw [enterPercent_operand (Chain.single_eq_push number)]
      exact sound_whenRead fun value read => .done (.single _ _ _ _)
  | dangling operator leftRead =>
      rw [enterPercent_dangling rfl]
      exact sound_whenRead fun value read => .done (.single _ _ _ _)
  | operation operator right leftRead =>
      rw [enterPercent_operand (Chain.operation_eq_push _ operator right)]
      exact sound_whenRead fun value read => .done (.operation operator _ leftRead _)

/-- Taking back the right operand keeps the remembered operation, which still is the chain's. -/
theorem clearEntry
    (consistent : calculator.Consistent) :
    calculator.clearEntry.Sound := by
  cases consistent with
  | single number =>
      rw [clearEntry_single rfl]
      exact .done (.single _ _ _ _)
  | dangling operator leftRead =>
      rw [clearEntry_dangling rfl]
      exact .done (.single _ _ _ _)
  | operation operator right leftRead =>
      rw [clearEntry_operation rfl]
      exact .done (.dangling operator leftRead _)

/-- Equals keeps the state consistent, whatever it repeats. -/
theorem equals
    (consistent : calculator.Consistent) :
    calculator.equals.Sound := by
  cases consistent with
  | single number operator? number? fault? =>
      have latest : latestValue ⟨.single number, operator?, number?, fault?⟩ = number.value :=
        rfl
      cases operator? with
      | none =>
          rw [equals_of_pendingOperator?_eq_none rfl, latest]
          exact sound_whenRead fun value read => .done (.single _ _ _ _)
      | some operator =>
          rw [equals_single rfl rfl]
          cases number? with
          | none =>
              rw [repeatedNumber, latest]
              exact sound_whenRead fun right rightRead =>
                sound_whenRead fun value read => .done (.single _ _ _ _)
          | some right =>
              exact sound_whenRead fun value read => .done (.single _ _ _ _)
  | dangling operator leftRead =>
      -- The invariant has a number here, so that the repeated one is never read off the chain.
      rw [equals_dangling rfl rfl]
      exact sound_whenRead fun value read => .done (.single _ _ _ _)
  | operation operator right leftRead =>
      rw [equals_operation rfl rfl]
      exact sound_whenRead fun value read =>
        sound_whenRead fun leftValue leftRead => .done (.single _ _ _ _)

/-- Whatever button is handled, a consistent calculator stays so or meets an unreadable operand. -/
theorem handle
    (consistent : calculator.Consistent)
    (button : Button) :
    (calculator.handle button).Sound := by
  cases button with
  | digit value => exact consistent.enterDigit value
  | dot => exact consistent.enterDot
  | operator operator => exact consistent.enterOperator operator
  | percent => exact consistent.enterPercent
  | equals => exact consistent.equals
  | clearAll => exact .done (.single _ _ _ _)
  | clearEntry => exact consistent.clearEntry

/-- Every button is handled soundly. -/
theorem attempt
    (consistent : calculator.Consistent)
    (button : Button) :
    (calculator.attempt button).Sound :=
  (consistent.withFault none).handle button

/-- A pushed button keeps the state consistent. -/
theorem push
    (consistent : calculator.Consistent)
    (button : Button) :
    (calculator.push button).Consistent :=
  (consistent.attempt button).settle

/-- Pasting keeps the state consistent. -/
theorem paste
    (consistent : calculator.Consistent)
    (text : String) :
    (calculator.paste text).Consistent := by
  by_cases accepted : PlainNumber.accepts (pasted text)
  · cases consistent with
    | single number =>
        rw [paste_operand (Chain.single_eq_push number) accepted]
        exact .single _ _ _ _
    | dangling operator leftRead =>
        rw [paste_operator (Chain.dangling_eq_push _ operator) accepted]
        exact .operation operator _ leftRead _
    | operation operator right leftRead =>
        rw [paste_operand (Chain.operation_eq_push _ operator right) accepted]
        exact .operation operator _ leftRead _
  · rw [paste_of_not_accepts accepted]
    exact consistent

/-- Every state that a run leads to is consistent. -/
theorem invariant :
    Invariant Consistent where
  fresh := .single _ _ _ _
  push := push
  paste := paste
  unknownKey consistent key := consistent.withFault (some (.unknownKey key))

end Consistent

/--
Every run leaves a short chain, whether or not its last action met a fault.  So whatever is done
next, one more link takes at most one round to settle, and a button meets no fault but an operand
that is no number: the chain is never empty, begins with an operand and can be reduced.
-/
theorem run_chain_short
    (actions : List Action)
    (action : Action) :
    let before := fresh.actAll actions
    before.chain.Short ∧
      (before.act action).chain.Short ∧
      (∀ link, (before.chain.push link).rounds ≤ 1) ∧
      ∀ button,
        (before.attempt button).fault? = none ∨
          ∃ text, (before.attempt button).fault? = some (.unreadableOperand text) := by
  intro before
  have consistent : before.Consistent := Consistent.invariant.actAll actions
  refine ⟨consistent.short, (Consistent.invariant.act consistent action).short,
    consistent.short.rounds_push_le, ?_⟩
  intro button
  generalize outcomeShape : before.attempt button = outcome
  have sound : outcome.Sound := outcomeShape ▸ consistent.attempt button
  cases sound with
  | done => exact Or.inl rfl
  | unreadable stoppedAt text => exact Or.inr ⟨text, rfl⟩

/--
After every run, an operator behind the first operand is the remembered one, and the remembered
number is the number of that operand.
-/
theorem run_pending_agrees
    (actions : List Action)
    {left : Operand}
    {operator : Operator}
    {rest : List Link}
    (shape :
      (fresh.actAll actions).chain.links = .operand left :: .operator operator :: rest) :
    (fresh.actAll actions).pendingOperator? = some operator ∧
      ∃ value,
        left.value = .ok value ∧
          (fresh.actAll actions).pendingNumber? = some value := by
  have consistent : (fresh.actAll actions).Consistent := Consistent.invariant.actAll actions
  generalize fresh.actAll actions = calculator at shape consistent ⊢
  cases consistent with
  | single number operator? number? fault? =>
      cases shape
  | dangling operator leftRead =>
      cases shape
      exact ⟨rfl, _, leftRead, rfl⟩
  | operation operator right leftRead =>
      cases shape
      exact ⟨rfl, _, leftRead, rfl⟩

/-- Folding, taking back and replacing leave `5 -` with the operation that belongs to it. -/
theorem run_pending_agrees_after_replacing :
    let actions : List Action :=
      [.push (.digit 2), .push (.operator .add), .push (.digit 3), .push (.operator .multiply),
        .paste " 4 ", .push .clearEntry, .press .standard "SUBTRACT"]
    (fresh.actAll actions).chain.links = [.operand (.computed 5), .operator .subtract] ∧
      (fresh.actAll actions).pendingOperator? = some .subtract ∧
        ∃ value,
          (Operand.computed 5).value = .ok value ∧
            (fresh.actAll actions).pendingNumber? = some value := by
  intro actions
  have shape :
      (fresh.actAll actions).chain.links = [.operand (.computed 5), .operator .subtract] := by
    decide +kernel
  exact ⟨shape, run_pending_agrees actions shape⟩

end Calculator

end ChainCalculator
