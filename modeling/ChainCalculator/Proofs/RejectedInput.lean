import ChainCalculator.Proofs.Runs

namespace ChainCalculator

/-!
# Rejected input

A key that stands for no button and a pasted text that is no plain number are rejected.  The only
thing that a rejected action can leave behind is a remembered fault, and every other action begins
by forgetting the fault.  So two calculators that differ in nothing but the fault stay so under the
same accepted actions, under more rejected ones on either side, and they show the same screens.
-/

/-- Whether an action is taken up: a button, a key of a button, or a text that is a plain number. -/
def Action.isAccepted :
    Action → Bool
  | .push _ => true
  | .press bindings key => (bindings.resolve? key).isSome
  | .paste text => PlainNumber.accepts (Calculator.pasted text)

namespace Calculator

/-- A calculator that has forgotten its fault. -/
def withoutFault
    (calculator : Calculator) :
    Calculator :=
  { calculator with fault? := none }

/-- An accepted action does not depend on the fault before it. -/
theorem act_withoutFault
    (calculator : Calculator)
    {action : Action}
    (accepted : action.isAccepted) :
    calculator.withoutFault.act action = calculator.act action := by
  cases action with
  | push button =>
      rfl
  | press bindings key =>
      obtain ⟨button, resolved⟩ := Option.isSome_iff_exists.mp accepted
      simp only [act, press, resolved]
      rfl
  | paste text =>
      have plain : PlainNumber.accepts (String.ofList (Text.trim text.toList)) := accepted
      simp only [act, paste, if_pos plain]
      rfl

/-- A rejected action leaves nothing but a fault. -/
theorem withoutFault_act
    (calculator : Calculator)
    {action : Action}
    (rejected : ¬action.isAccepted) :
    (calculator.act action).withoutFault = calculator.withoutFault := by
  cases action with
  | push button =>
      exact absurd rfl rejected
  | press bindings key =>
      have unknown : bindings.resolve? key = none := by
        simpa [Action.isAccepted] using rejected
      simp only [act, press, unknown]
      rfl
  | paste text =>
      rw [act, paste_of_not_accepts rejected]

/-- Calculators that differ in nothing but the fault are worked alike by the same accepted actions. -/
theorem actAll_filter_isAccepted
    {whole kept : Calculator}
    (agree : whole.withoutFault = kept.withoutFault)
    (actions : List Action) :
    (whole.actAll actions).withoutFault =
        (kept.actAll (actions.filter Action.isAccepted)).withoutFault ∧
      (whole.record actions).filter (fun entry => entry.1.isAccepted) =
        kept.record (actions.filter Action.isAccepted) := by
  induction actions generalizing whole kept with
  | nil =>
      exact ⟨agree, rfl⟩
  | cons action rest inductionHypothesis =>
      by_cases accepted : action.isAccepted
      · have sameAfter : whole.act action = kept.act action := by
          rw [← act_withoutFault whole accepted, agree, act_withoutFault kept accepted]
        obtain ⟨sameEnd, sameScreens⟩ :=
          inductionHypothesis (congrArg withoutFault sameAfter)
        rw [List.filter_cons_of_pos accepted]
        refine ⟨sameEnd, ?_⟩
        simpa [record, accepted, sameAfter] using sameScreens
      · have agreeAfter : (whole.act action).withoutFault = kept.withoutFault :=
          (withoutFault_act whole accepted).trans agree
        obtain ⟨sameEnd, sameScreens⟩ := inductionHypothesis agreeAfter
        rw [List.filter_cons_of_neg accepted]
        refine ⟨sameEnd, ?_⟩
        simpa [record, accepted] using sameScreens

/--
Leaving out every rejected action of a run changes neither the chain nor the operation to repeat at
its end, and every other action leads to the same screen with and without the rejected ones.
-/
theorem run_without_rejected
    (actions : List Action) :
    let whole := fresh.actAll actions
    let kept := fresh.actAll (actions.filter Action.isAccepted)
    whole.chain = kept.chain ∧
      whole.pendingOperator? = kept.pendingOperator? ∧
      whole.pendingNumber? = kept.pendingNumber? ∧
      (fresh.record actions).filter (fun entry => entry.1.isAccepted) =
        fresh.record (actions.filter Action.isAccepted) := by
  intro whole kept
  obtain ⟨agree, sameScreens⟩ := actAll_filter_isAccepted (Eq.refl fresh.withoutFault) actions
  have sameChain : whole.withoutFault.chain = kept.withoutFault.chain :=
    congrArg chain agree
  have sameOperator : whole.withoutFault.pendingOperator? = kept.withoutFault.pendingOperator? :=
    congrArg pendingOperator? agree
  have sameNumber : whole.withoutFault.pendingNumber? = kept.withoutFault.pendingNumber? :=
    congrArg pendingNumber? agree
  exact ⟨sameChain, sameOperator, sameNumber, sameScreens⟩

end Calculator

end ChainCalculator
