import ChainCalculator.Proofs.Handling

namespace ChainCalculator

/-!
# Settling chains of any length

Settling is a loop: while more than three links remain, the front is replaced by its result.  Every
round takes two links away, so the loop ends for every chain.

A chain of operands with operators between them, and possibly one behind them, is settled by carrying
out its operations from the left, all of them or all but the last.  The number of the chain stays the
same.  An operand that cannot be read stops the loop before the operation that needs it, and the
operations before that one are already carried out.
-/

namespace Chain

/--
The loop that replaces the front of a chain by its result: after how many rounds it ends, and what
it leaves.  It goes on while more than three links remain, and a front without a result ends it.
-/
inductive Loop : Chain → Nat → Settled → Prop where
  | short
      {chain : Chain}
      (short : chain.size ≤ 3) :
      Loop chain 0 ⟨chain, none, none⟩
  | stopped
      {chain : Chain}
      {fault : Fault}
      (long : 3 < chain.size)
      (irreducible : chain.frontResult = .error fault) :
      Loop chain 1 ⟨chain, none, some fault⟩
  | again
      {chain : Chain}
      {total : Float}
      {rounds : Nat}
      {settled : Settled}
      (long : 3 < chain.size)
      (reduced : chain.frontResult = .ok total)
      (rest : Loop (chain.replaceFront total) rounds settled) :
      Loop chain (rounds + 1) { settled with total? := settled.total?.or (some total) }

/-- The loop ends for every chain. -/
theorem loop_settle
    (chain : Chain) :
    chain.Loop chain.rounds chain.settle := by
  by_cases short : chain.size ≤ 3
  · rw [rounds_of_size_le short, settle_of_size_le short]
    exact .short short
  · have long : 3 < chain.size := Nat.lt_of_not_le short
    cases front : chain.frontResult with
    | error fault =>
        rw [rounds_of_frontResult_error long front, settle_of_frontResult_error long front]
        exact .stopped long front
    | ok total =>
        rw [rounds_of_frontResult_ok long front, settle_of_frontResult_ok long front]
        exact .again long front (loop_settle (chain.replaceFront total))
termination_by chain.size
decreasing_by
  rw [size_replaceFront]
  omega

/-- Settling is the loop, and it takes as many rounds as `rounds` counts. -/
theorem loop_iff
    {chain : Chain}
    {rounds : Nat}
    {settled : Settled} :
    chain.Loop rounds settled ↔ rounds = chain.rounds ∧ settled = chain.settle := by
  constructor
  · intro loop
    induction loop with
    | short short =>
        exact ⟨(rounds_of_size_le short).symm, (settle_of_size_le short).symm⟩
    | stopped long irreducible =>
        exact
          ⟨(rounds_of_frontResult_error long irreducible).symm,
            (settle_of_frontResult_error long irreducible).symm⟩
    | again long reduced _ inductionHypothesis =>
        obtain ⟨roundsShape, settledShape⟩ := inductionHypothesis
        rw [rounds_of_frontResult_ok long reduced, settle_of_frontResult_ok long reduced,
          roundsShape, settledShape]
        exact ⟨rfl, rfl⟩
  · rintro ⟨rfl, rfl⟩
    exact loop_settle chain

end Chain

/-- An operand, operations with their right operands, and possibly an operator behind them. -/
structure Alternation where
  first : Operand
  operations : List (Operator × Operand)
  dangling? : Option Operator
  deriving Repr, DecidableEq

namespace Alternation

/-- The links of an alternation, one behind the other. -/
def chain
    (alternation : Alternation) :
    Chain :=
  ⟨.operand alternation.first ::
    ((alternation.operations.flatMap fun operation =>
      [.operator operation.1, .operand operation.2]) ++
        alternation.dangling?.toList.map .operator)⟩

/-- The operations carried out from left to right; an operator behind them does not count. -/
def total
    (alternation : Alternation) :
    Except Fault Float :=
  alternation.first.value.bind fun value =>
    alternation.operations.foldlM
      (fun value operation => operation.2.value.map (operation.1.apply value))
      value

/--
How many operations settling carries out: all of them if an operator stands behind them, else all
but the last.
-/
def folds
    (alternation : Alternation) :
    Nat :=
  match alternation.dangling? with
  | some _ => alternation.operations.length
  | none => alternation.operations.length - 1

/-- The operands of the operations that settling carries out. -/
def foldedOperands
    (alternation : Alternation) :
    List Operand :=
  alternation.first :: (alternation.operations.take alternation.folds).map Prod.snd

/-- The first operations by themselves. -/
def front
    (alternation : Alternation)
    (count : Nat) :
    Alternation :=
  ⟨alternation.first, alternation.operations.take count, none⟩

/-- A number in place of the first operations, with everything behind them as it was. -/
def carriedOut
    (alternation : Alternation)
    (count : Nat)
    (value : Float) :
    Alternation :=
  ⟨.computed value, alternation.operations.drop count, alternation.dangling?⟩

variable
  {alternation : Alternation}
  {count : Nat}
  {value : Float}

/-- Every operation has two links, the first operand and a dangling operator one each. -/
theorem size_chain
    (alternation : Alternation) :
    alternation.chain.size =
      2 * alternation.operations.length + 1 + alternation.dangling?.toList.length := by
  rcases alternation with ⟨first, operations, dangling?⟩
  induction operations with
  | nil =>
      simp [chain, Chain.size]
      omega
  | cons operation rest inductionHypothesis =>
      simp only [chain, Chain.size, List.flatMap_cons, List.length_cons, List.length_append,
        List.length_map, List.length_nil] at inductionHypothesis ⊢
      omega

/-- A chain with more than three links has an operation to carry out. -/
theorem lt_size_chain_iff :
    3 < alternation.chain.size ↔ 0 < alternation.folds := by
  rw [size_chain, folds]
  cases alternation.dangling? with
  | none =>
      simp only [Option.toList_none, List.length_nil]
      omega
  | some operator =>
      simp only [Option.toList_some, List.length_singleton]
      omega

/-- No more operations are carried out than there are. -/
theorem folds_le_length
    (alternation : Alternation) :
    alternation.folds ≤ alternation.operations.length := by
  rw [folds]
  cases alternation.dangling? with
  | none => exact Nat.sub_le _ _
  | some operator => exact Nat.le_refl _

/-- If something is to be carried out, there is a first operation. -/
theorem exists_operations_eq_cons
    (some : 0 < alternation.folds) :
    ∃ operator right rest, alternation.operations = (operator, right) :: rest := by
  obtain ⟨⟨operator, right⟩, rest, shape⟩ :=
    List.exists_cons_of_length_pos (Nat.lt_of_lt_of_le some alternation.folds_le_length)
  exact ⟨operator, right, rest, shape⟩

/-- Of the operations that are to be carried out, some are done. -/
theorem folds_carriedOut :
    (alternation.carriedOut count value).folds = alternation.folds - count := by
  rcases alternation with ⟨first, operations, dangling?⟩
  cases dangling? with
  | none =>
      simp only [folds, carriedOut, List.length_drop]
      omega
  | some operator =>
      simp only [folds, carriedOut, List.length_drop]

/-! ## One operation -/

section

variable
  {first right : Operand}
  {operator : Operator}
  {rest : List (Operator × Operand)}
  {dangling? : Option Operator}

/-- The first operation gives way to its result. -/
theorem total_cons :
    total ⟨first, (operator, right) :: rest, dangling?⟩ =
      first.value.bind fun firstValue =>
        right.value.bind fun rightValue =>
          total ⟨.computed (operator.apply firstValue rightValue), rest, dangling?⟩ := by
  rw [total]
  cases first.value with
  | error fault =>
      rfl
  | ok firstValue =>
      simp only [Except.bind, List.foldlM_cons]
      cases right.value <;> rfl

/-- Carrying out the first operation leaves the total as it is. -/
theorem total_cons_of_read
    {firstValue rightValue : Float}
    (firstRead : first.value = .ok firstValue)
    (rightRead : right.value = .ok rightValue) :
    total ⟨first, (operator, right) :: rest, dangling?⟩ =
      total ⟨.computed (operator.apply firstValue rightValue), rest, dangling?⟩ := by
  rw [total_cons, firstRead, rightRead]
  rfl

/-- A total needs the operands of the first operation to read. -/
theorem exists_of_total_cons
    (computed : total ⟨first, (operator, right) :: rest, dangling?⟩ = .ok value) :
    ∃ firstValue rightValue,
      first.value = .ok firstValue ∧
        right.value = .ok rightValue ∧
        total ⟨.computed (operator.apply firstValue rightValue), rest, dangling?⟩ = .ok value := by
  rw [total_cons] at computed
  cases firstRead : first.value with
  | error fault =>
      rw [firstRead] at computed
      cases computed
  | ok firstValue =>
      cases rightRead : right.value with
      | error fault =>
          rw [firstRead, rightRead] at computed
          cases computed
      | ok rightValue =>
          rw [firstRead, rightRead] at computed
          exact ⟨firstValue, rightValue, rfl, rfl, computed⟩

/-- The front of a chain is its first operation. -/
theorem frontResult_chain :
    (chain ⟨first, (operator, right) :: rest, dangling?⟩).frontResult =
      first.value.bind fun firstValue => right.value.map (operator.apply firstValue) := by
  have shape :
      (chain ⟨first, (operator, right) :: rest, dangling?⟩).links =
        .operand first :: .operator operator :: .operand right ::
          (chain ⟨right, rest, dangling?⟩).links.tail :=
    rfl
  cases firstRead : first.value with
  | error fault =>
      simp [Chain.frontResult, shape, firstRead, Except.bind]
  | ok firstValue =>
      cases rightRead : right.value <;>
        simp [Chain.frontResult, shape, firstRead, rightRead, Except.bind, Except.map]

/-- One round carries out the first operation. -/
theorem loop_cons
    {firstValue rightValue : Float}
    {rounds : Nat}
    {settled : Chain.Settled}
    (long : 0 < folds ⟨first, (operator, right) :: rest, dangling?⟩)
    (firstRead : first.value = .ok firstValue)
    (rightRead : right.value = .ok rightValue)
    (loop :
      (chain ⟨.computed (operator.apply firstValue rightValue), rest, dangling?⟩).Loop
        rounds settled) :
    (chain ⟨first, (operator, right) :: rest, dangling?⟩).Loop (rounds + 1)
      { settled with
        total? := settled.total?.or (some (operator.apply firstValue rightValue)) } := by
  refine .again (lt_size_chain_iff.mpr long) ?_ loop
  rw [frontResult_chain, firstRead, rightRead]
  rfl

/-- The first operation cannot be carried out if one of its operands cannot be read. -/
theorem loop_of_unreadable
    {fault : Fault}
    (long : 0 < alternation.folds)
    (shape : alternation.operations = (operator, right) :: rest)
    (unreadable :
      alternation.first.value = .error fault ∨
        (∃ value, alternation.first.value = .ok value) ∧ right.value = .error fault) :
    alternation.chain.Loop 1 ⟨alternation.chain, none, some fault⟩ := by
  obtain ⟨first, operations, dangling?⟩ := alternation
  subst shape
  refine .stopped (lt_size_chain_iff.mpr long) ?_
  rw [frontResult_chain]
  rcases unreadable with unread | ⟨⟨value, firstRead⟩, unread⟩
  · rw [unread]
    rfl
  · rw [firstRead, unread]
    rfl

end

/-! ## Operations one after the other -/

/-- Readable operands have a total. -/
theorem exists_total
    (readable :
      ∀ number ∈ alternation.first :: alternation.operations.map Prod.snd,
        ∃ value, number.value = .ok value) :
    ∃ value, alternation.total = .ok value := by
  rcases alternation with ⟨first, operations, dangling?⟩
  induction operations generalizing first with
  | nil =>
      obtain ⟨value, read⟩ := readable first List.mem_cons_self
      exact ⟨value, by simp [total, read, Except.bind, pure, Except.pure]⟩
  | cons operation rest inductionHypothesis =>
      rcases operation with ⟨operator, right⟩
      obtain ⟨⟨firstValue, firstRead⟩, ⟨rightValue, rightRead⟩, others⟩ :
          (∃ value, first.value = .ok value) ∧
            (∃ value, right.value = .ok value) ∧
            ∀ number ∈ rest.map Prod.snd, ∃ value, number.value = .ok value := by
        simpa using readable
      rw [total_cons_of_read firstRead rightRead]
      exact
        inductionHypothesis (.computed (operator.apply firstValue rightValue))
          (List.forall_mem_cons.mpr ⟨⟨_, rfl⟩, others⟩)

/-- Carrying out the first operations keeps the total. -/
theorem total_carriedOut
    (computed : (alternation.front count).total = .ok value) :
    (alternation.carriedOut count value).total = alternation.total := by
  rcases alternation with ⟨first, operations, dangling?⟩
  cases firstRead : first.value with
  | error fault =>
      rw [front, total, firstRead] at computed
      cases computed
  | ok firstValue =>
      rw [front, total, firstRead] at computed
      rw [total, total, firstRead]
      simp only [Except.bind] at computed ⊢
      conv => rhs; rw [← List.take_append_drop count operations, List.foldlM_append, computed]
      rfl

/--
The rounds of the first operations come before all others, and the result of the last of them is the
latest result unless a later round has one.
-/
theorem loop_carriedOut
    {rounds : Nat}
    {settled : Chain.Settled}
    (within : count < alternation.folds)
    (computed : (alternation.front (count + 1)).total = .ok value)
    (loop : (alternation.carriedOut (count + 1) value).chain.Loop rounds settled) :
    alternation.chain.Loop (rounds + (count + 1))
      { settled with total? := settled.total?.or (some value) } := by
  obtain ⟨first, operations, dangling?⟩ := alternation
  -- The first operation takes one round, and what it leaves has one operation less.
  induction count generalizing first operations with
  | zero =>
      obtain ⟨operator, right, rest, rfl⟩ := exists_operations_eq_cons within
      obtain ⟨firstValue, rightValue, firstRead, rightRead, computedBehind⟩ :=
        exists_of_total_cons computed
      cases computedBehind
      exact loop_cons within firstRead rightRead loop
  | succ earlier inductionHypothesis =>
      have long := Nat.zero_lt_of_lt within
      obtain ⟨operator, right, rest, rfl⟩ := exists_operations_eq_cons long
      obtain ⟨firstValue, rightValue, firstRead, rightRead, computedBehind⟩ :=
        exists_of_total_cons computed
      have fewer :
          folds ⟨.computed (operator.apply firstValue rightValue), rest, dangling?⟩ =
            folds ⟨first, (operator, right) :: rest, dangling?⟩ - 1 :=
        @folds_carriedOut ⟨first, (operator, right) :: rest, dangling?⟩ 1 _
      have withinBehind :
          earlier < folds ⟨.computed (operator.apply firstValue rightValue), rest, dangling?⟩ := by
        rw [fewer]
        exact Nat.lt_sub_of_add_lt within
      have behind := inductionHypothesis _ _ withinBehind computedBehind loop
      have all := loop_cons long firstRead rightRead behind
      rwa [Option.or_assoc, Option.some_or] at all

/-- The operands before a given one are those of the first operations, and it belongs to the next. -/
theorem exists_of_operands_eq_append
    {good others : List Operand}
    {bad : Operand}
    (split : (alternation.operations.take alternation.folds).map Prod.snd = good ++ bad :: others) :
    good.length < alternation.folds ∧
      (alternation.operations.take good.length).map Prod.snd = good ∧
      ∃ operator rest, alternation.operations.drop good.length = (operator, bad) :: rest := by
  obtain ⟨done, remaining, shape, rfl, remainingShape⟩ := List.map_eq_append_iff.mp split
  obtain ⟨⟨operator, right⟩, later, rfl, rfl, -⟩ := List.map_eq_cons_iff.mp remainingShape
  have within : done.length < alternation.folds := by
    have bounded := List.length_take_le alternation.folds alternation.operations
    rw [shape, List.length_append, List.length_cons] at bounded
    omega
  have operationsShape :
      alternation.operations =
        done ++ (operator, right) :: (later ++ alternation.operations.drop alternation.folds) := by
    conv => lhs; rw [← List.take_append_drop alternation.folds alternation.operations, shape]
    simp
  rw [List.length_map]
  refine ⟨within, ?_, operator, later ++ alternation.operations.drop alternation.folds, ?_⟩
  · rw [operationsShape, List.take_left]
  · conv => lhs; rw [operationsShape]
    rw [List.drop_left]

/-- All operations but the last one, or all of them, are carried out in as many rounds. -/
theorem exists_loop_of_readable
    (long : 0 < alternation.folds)
    (readable : ∀ number ∈ alternation.foldedOperands, ∃ value, number.value = .ok value) :
    ∃ value,
      (alternation.front alternation.folds).total = .ok value ∧
        alternation.chain.Loop alternation.folds
          ⟨(alternation.carriedOut alternation.folds value).chain, some value, none⟩ := by
  obtain ⟨value, computed⟩ :=
    @exists_total (alternation.front alternation.folds) readable
  have settled : (alternation.carriedOut alternation.folds value).chain.size ≤ 3 := by
    rw [← Nat.not_lt, lt_size_chain_iff, folds_carriedOut]
    omega
  obtain ⟨earlier, count⟩ := Nat.exists_eq_succ_of_ne_zero (Nat.ne_of_gt long)
  rw [count] at computed settled ⊢
  have loop := loop_carriedOut (by omega) computed (.short settled)
  rw [Nat.zero_add] at loop
  exact ⟨value, computed, loop⟩

/-- One operation is left, or an operand with an operator behind it. -/
theorem size_carriedOut_folds
    (long : 0 < alternation.folds) :
    (alternation.carriedOut alternation.folds value).chain.size =
      2 + alternation.chain.size % 2 := by
  rcases alternation with ⟨first, operations, dangling?⟩
  rw [size_chain, size_chain]
  cases dangling? with
  | none =>
      simp only [folds, carriedOut, List.length_drop, Option.toList_none, List.length_nil]
        at long ⊢
      omega
  | some operator =>
      simp only [folds, carriedOut, List.length_drop, Option.toList_some, List.length_singleton]
      omega

section

variable
  {good others : List Operand}
  {bad : Operand}
  {fault : Fault}
  (split : alternation.foldedOperands = good ++ bad :: others)
  (readable : ∀ number ∈ good, ∃ value, number.value = .ok value)
  (unread : bad.value = .error fault)

include split readable unread

/-- An operand of the first operation that cannot be read leaves everything as it is. -/
theorem loop_of_length_le
    (long : 0 < alternation.folds)
    (short : good.length ≤ 1) :
    alternation.chain.Loop 1 ⟨alternation.chain, none, some fault⟩ := by
  obtain ⟨operator, right, rest, shape⟩ := exists_operations_eq_cons long
  apply loop_of_unreadable long shape
  cases good with
  | nil =>
      obtain ⟨rfl, -⟩ := List.cons.inj split
      exact Or.inl unread
  | cons first behind =>
      cases List.length_eq_zero_iff.mp (Nat.le_zero.mp (Nat.le_of_succ_le_succ short))
      obtain ⟨rfl, operands⟩ := List.cons.inj split
      obtain ⟨-, -, _, _, single⟩ := exists_of_operands_eq_append operands
      rw [List.length_nil, List.drop_zero, shape] at single
      cases single
      exact Or.inr ⟨readable _ List.mem_cons_self, unread⟩

/-- The operations before an operand that cannot be read are carried out. -/
theorem exists_loop_of_length_eq
    (longer : good.length = count + 2) :
    ∃ value,
      (alternation.front (count + 1)).total = .ok value ∧
        alternation.chain.Loop (count + 2)
          ⟨(alternation.carriedOut (count + 1) value).chain, some value, some fault⟩ := by
  obtain ⟨first, behind, rfl⟩ := List.exists_cons_of_length_eq_add_one longer
  obtain ⟨rfl, operands⟩ := List.cons.inj split
  have behindLength : behind.length = count + 1 := Nat.succ.inj longer
  obtain ⟨within, done, operator, rest, remaining⟩ := exists_of_operands_eq_append operands
  rw [behindLength] at within done remaining
  obtain ⟨value, computed⟩ :=
    @exists_total (alternation.front (count + 1)) (by rw [front, done]; exact readable)
  have left : 0 < (alternation.carriedOut (count + 1) value).folds := by
    rw [folds_carriedOut]
    exact Nat.sub_pos_of_lt within
  have stopped := loop_of_unreadable left remaining (Or.inr ⟨⟨value, rfl⟩, unread⟩)
  have loop := loop_carriedOut (Nat.lt_of_succ_lt within) computed stopped
  rw [Nat.add_comm] at loop
  exact ⟨value, computed, loop⟩

end

/--
Settling a chain of operands and operators in turn is a loop that ends, and it carries out operations
from the left.  If their operands can be read, two links remain of an even number and three of an odd
one: the result, and what stood behind the operations.  The total stays the same.  The first operand
that cannot be read is reported, and the operations in front of its own are carried out.
-/
theorem settle_folds_left
    (alternation : Alternation) :
    (∀ rounds settled,
      alternation.chain.Loop rounds settled ↔
        rounds = alternation.chain.rounds ∧ settled = alternation.chain.settle) ∧
      (alternation.chain.size ≤ 3 →
        alternation.chain.Loop 0 ⟨alternation.chain, none, none⟩) ∧
      (3 < alternation.chain.size →
        (∀ number ∈ alternation.foldedOperands, ∃ value, number.value = .ok value) →
          ∃ value,
            let settled := alternation.carriedOut alternation.folds value
            (alternation.front alternation.folds).total = .ok value ∧
              alternation.chain.Loop alternation.folds ⟨settled.chain, some value, none⟩ ∧
              settled.chain.size = 2 + alternation.chain.size % 2 ∧
              settled.total = alternation.total) ∧
      (3 < alternation.chain.size →
        ∀ good bad others,
          alternation.foldedOperands = good ++ bad :: others →
          (∀ number ∈ good, ∃ value, number.value = .ok value) →
          (∀ value, bad.value ≠ .ok value) →
            ∃ text,
              bad = .typed text ∧
                (good.length ≤ 1 →
                  alternation.chain.Loop 1
                    ⟨alternation.chain, none, some (.unreadableOperand text)⟩) ∧
                ∀ count,
                  good.length = count + 2 →
                    ∃ value,
                      (alternation.front (count + 1)).total = .ok value ∧
                        alternation.chain.Loop (count + 2)
                          ⟨(alternation.carriedOut (count + 1) value).chain, some value,
                            some (.unreadableOperand text)⟩) := by
  refine ⟨fun rounds settled => Chain.loop_iff, .short, ?_, ?_⟩
  · intro size readable
    have long := lt_size_chain_iff.mp size
    obtain ⟨value, computed, loop⟩ := exists_loop_of_readable long readable
    exact ⟨value, computed, loop, size_carriedOut_folds long, total_carriedOut computed⟩
  · intro size good bad others split readable unreadable
    have long := lt_size_chain_iff.mp size
    cases unread : bad.value with
    | ok value =>
        exact absurd unread (unreadable value)
    | error fault =>
        obtain ⟨text, typed, rfl⟩ := Operand.eq_unreadableOperand_of_value_eq_error unread
        exact
          ⟨text, typed, loop_of_length_le split readable unread long,
            fun count => exists_loop_of_length_eq split readable unread⟩

/-- The text `1.2.3` does not matter until an operator stands behind it. -/
theorem settle_folds_left_up_to_unreadable :
    let alternation : Alternation :=
      ⟨.typed "2",
        [(.add, .typed "3"), (.multiply, .typed "4"), (.subtract, .typed "1.2.3")], none⟩
    let longer : Alternation := { alternation with dangling? := some .divide }
    alternation.chain.settle =
        ⟨(alternation.carriedOut 2 20).chain, some 20, none⟩ ∧
      (alternation.carriedOut 2 20).chain =
        .operation (.computed 20) .subtract (.typed "1.2.3") ∧
      longer.chain.settle =
        ⟨(longer.carriedOut 2 20).chain, some 20, some (.unreadableOperand "1.2.3")⟩ ∧
      longer.chain.rounds = 3 := by
  intro alternation longer
  have two : (Operand.typed "2").value = .ok 2 := by
    have numeral : readFloat? "2" = some 2 := by
      decide +kernel
    simp [Operand.value, numeral]
  have three : (Operand.typed "3").value = .ok 3 := by
    have numeral : readFloat? "3" = some 3 := by
      decide +kernel
    simp [Operand.value, numeral]
  have four : (Operand.typed "4").value = .ok 4 := by
    have numeral : readFloat? "4" = some 4 := by
      decide +kernel
    simp [Operand.value, numeral]
  have unread : (Operand.typed "1.2.3").value = .error (.unreadableOperand "1.2.3") := by
    have noNumeral : readFloat? "1.2.3" = none := by
      decide +kernel
    simp [Operand.value, noNumeral]
  have readable :
      ∀ number ∈ [Operand.typed "2", .typed "3", .typed "4"], ∃ value, number.value = .ok value := by
    simp [two, three, four]
  have total : (alternation.front 2).total = .ok 20 := by
    have product : Operator.multiply.apply (Operator.add.apply 2 3) 4 = 20 := by
      decide +kernel
    calc
      (alternation.front 2).total =
          Alternation.total ⟨.computed (Operator.add.apply 2 3), [(.multiply, .typed "4")], none⟩ :=
        total_cons_of_read two three
      _ = Alternation.total
            ⟨.computed (Operator.multiply.apply (Operator.add.apply 2 3) 4), [], none⟩ :=
        total_cons_of_read rfl four
      _ = .ok 20 := congrArg Except.ok product
  obtain ⟨ends, -, folded, -⟩ := settle_folds_left alternation
  obtain ⟨value, computed, loop, -⟩ := folded (by decide) readable
  cases total.symm.trans computed
  obtain ⟨longerEnds, -, -, stopped⟩ := settle_folds_left longer
  obtain ⟨text, typed, -, behind⟩ :=
    stopped (by decide) [.typed "2", .typed "3", .typed "4"] (.typed "1.2.3") [] rfl readable
      (fun value read => by rw [unread] at read; cases read)
  cases typed
  obtain ⟨longerValue, longerComputed, longerLoop⟩ := behind 1 rfl
  cases total.symm.trans longerComputed
  obtain ⟨-, settled⟩ := (ends _ _).mp loop
  obtain ⟨rounds, longerSettled⟩ := (longerEnds _ _).mp longerLoop
  exact ⟨settled.symm, rfl, longerSettled.symm, rounds.symm⟩

end Alternation

end ChainCalculator
