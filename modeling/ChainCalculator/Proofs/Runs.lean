import ChainCalculator.Proofs.Handling

namespace ChainCalculator

/-!
# Runs

A run works a fresh calculator by any sequence of actions: buttons that are pushed, keys that are
pressed under any bindings, and texts that are pasted.  A property that the fresh calculator has and
that every kind of action keeps holds after every run.
-/

/-- One way to work a calculator. -/
inductive Action where
  | push (button : Button)
  | press (bindings : Bindings) (key : String)
  | paste (text : String)

/-- The button that an action pushes, if it pushes one. -/
def Action.button? :
    Action → Option Button
  | .push button => some button
  | .press bindings key => bindings.resolve? key
  | .paste _ => none

namespace Calculator

/-- The calculator after one action. -/
def act
    (calculator : Calculator) :
    Action → Calculator
  | .push button => calculator.push button
  | .press bindings key => calculator.press bindings key
  | .paste text => calculator.paste text

/-- The calculator after several actions, one after the other. -/
def actAll
    (calculator : Calculator)
    (actions : List Action) :
    Calculator :=
  actions.foldl act calculator

/-- The last action of a run is taken in the state that the others lead to. -/
theorem actAll_concat
    (calculator : Calculator)
    (earlier : List Action)
    (action : Action) :
    calculator.actAll (earlier ++ [action]) = (calculator.actAll earlier).act action := by
  simp [actAll]

/-- Several actions, one after the other, each with the screen that it leads to. -/
def record
    (calculator : Calculator) :
    List Action → List (Action × Screen)
  | [] => []
  | action :: rest =>
      let after := calculator.act action
      (action, after.screen) :: after.record rest

/-- Pushing buttons is a run of its own. -/
theorem actAll_map_push
    (calculator : Calculator)
    (buttons : List Button) :
    calculator.actAll (buttons.map .push) = calculator.pushAll buttons := by
  rw [actAll, List.foldl_map]
  rfl

/-- An action that pushes a button is that push. -/
theorem act_of_button?_eq_some
    (calculator : Calculator)
    {action : Action}
    {button : Button}
    (pushes : action.button? = some button) :
    calculator.act action = calculator.push button := by
  cases action with
  | push pushed =>
      injection pushes with buttonShape
      subst buttonShape
      rfl
  | press bindings key =>
      have resolved : bindings.resolve? key = some button := pushes
      simp [act, press, resolved]
  | paste text =>
      cases pushes

/-- A property that a fresh calculator has and that every kind of action keeps. -/
structure Invariant
    (holds : Calculator → Prop) :
    Prop where
  fresh : holds fresh
  push : ∀ {calculator}, holds calculator → ∀ button, holds (calculator.push button)
  paste : ∀ {calculator}, holds calculator → ∀ text, holds (calculator.paste text)
  unknownKey :
    ∀ {calculator}, holds calculator → ∀ key, holds (calculator.report (.unknownKey key))

namespace Invariant

/-- An invariant is kept by every action. -/
theorem act
    {holds : Calculator → Prop}
    (invariant : Invariant holds)
    {calculator : Calculator}
    (before : holds calculator)
    (action : Action) :
    holds (calculator.act action) := by
  cases action with
  | push button =>
      exact invariant.push before button
  | press bindings key =>
      cases resolved : bindings.resolve? key with
      | some button =>
          simpa [Calculator.act, press, resolved] using invariant.push before button
      | none =>
          simpa [Calculator.act, press, resolved] using invariant.unknownKey before key
  | paste text =>
      exact invariant.paste before text

/-- An invariant holds after every run. -/
theorem actAll
    {holds : Calculator → Prop}
    (invariant : Invariant holds)
    (actions : List Action) :
    holds (Calculator.fresh.actAll actions) := by
  suffices run :
      ∀ calculator, holds calculator → holds (calculator.actAll actions) from
    run _ invariant.fresh
  induction actions with
  | nil =>
      exact fun calculator before => before
  | cons action rest inductionHypothesis =>
      exact fun calculator before => inductionHypothesis _ (invariant.act before action)

end Invariant

/-- Buttons work one calculator into another, and none of them meets a fault. -/
inductive Passes : Calculator → List Button → Calculator → Prop where
  | refl
      (calculator : Calculator) :
      Passes calculator [] calculator
  | push
      {before between after : Calculator}
      {button : Button}
      {rest : List Button}
      (handled : before.attempt button = done between)
      (passes : Passes between rest after) :
      Passes before (button :: rest) after

namespace Passes

theorem single
    {before after : Calculator}
    {button : Button}
    (handled : before.attempt button = done after) :
    Passes before [button] after :=
  .push handled (.refl after)

/-- Runs without a fault may be put one behind the other. -/
theorem append
    {before between after : Calculator}
    {earlier later : List Button}
    (first : Passes before earlier between)
    (second : Passes between later after) :
    Passes before (earlier ++ later) after := by
  induction first with
  | refl => exact second
  | push handled _ inductionHypothesis => exact .push handled (inductionHypothesis second)

/-- Buttons that pass lead to the state that they pass to. -/
theorem pushAll_eq
    {before after : Calculator}
    {buttons : List Button}
    (passes : Passes before buttons after) :
    before.pushAll buttons = after := by
  induction passes with
  | refl => rfl
  | push handled _ inductionHypothesis =>
      rw [← inductionHypothesis, pushAll, List.foldl_cons, Calculator.push, handled]
      rfl

/-- None of the buttons meets a fault, wherever it stands among them. -/
theorem fault?_attempt_eq_none
    {before after : Calculator}
    {earlier later : List Button}
    {button : Button}
    (passes : Passes before (earlier ++ button :: later) after) :
    ((before.pushAll earlier).attempt button).fault? = none := by
  induction earlier generalizing before with
  | nil =>
      cases passes with
      | push handled _ =>
          change (before.attempt button).fault? = none
          rw [handled]
          rfl
  | cons first rest inductionHypothesis =>
      cases passes with
      | @push _ between _ _ _ handled passes =>
          have pushed : before.pushAll (first :: rest) = between.pushAll rest := by
            rw [pushAll, List.foldl_cons, Calculator.push, handled]
            rfl
          rw [pushed]
          exact inductionHypothesis passes

end Passes

end Calculator

end ChainCalculator
