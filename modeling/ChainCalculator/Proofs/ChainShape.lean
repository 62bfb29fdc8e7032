import ChainCalculator.Chain

namespace ChainCalculator

/-!
# The shapes of a chain under way

Between two buttons a chain holds an operand, an operand with an operator behind it, or one complete
operation.  The operations on chains are given here for a chain with a known latest link, whatever
stands before it, and settling is counted in rounds: a short chain with one more link is settled
within one round.
-/

namespace Chain

/-- The chain of one operand. -/
def single
    (number : Operand) :
    Chain :=
  ⟨[.operand number]⟩

/-- The chain of an operand with an operator behind it. -/
def dangling
    (left : Operand)
    (operator : Operator) :
    Chain :=
  ⟨[.operand left, .operator operator]⟩

/-- The three shapes that a chain has between two buttons. -/
inductive Short : Chain → Prop where
  | single
      (number : Operand) :
      Short (single number)
  | dangling
      (left : Operand)
      (operator : Operator) :
      Short (dangling left operator)
  | operation
      (left : Operand)
      (operator : Operator)
      (right : Operand) :
      Short (operation left operator right)

/-- The chain without any link, which is what stands before a lone operand. -/
def empty : Chain :=
  ⟨[]⟩

/-- A lone operand stands behind nothing. -/
theorem single_eq_push
    (number : Operand) :
    single number = empty.push (.operand number) :=
  rfl

/-- The operator of a dangling chain is its latest link. -/
theorem dangling_eq_push
    (left : Operand)
    (operator : Operator) :
    dangling left operator = (single left).push (.operator operator) :=
  rfl

/-- The right operand of an operation is its latest link. -/
theorem operation_eq_push
    (left : Operand)
    (operator : Operator)
    (right : Operand) :
    operation left operator right = (dangling left operator).push (.operand right) :=
  rfl

@[simp]
theorem size_single
    (number : Operand) :
    (single number).size = 1 :=
  rfl

@[simp]
theorem size_dangling
    (left : Operand)
    (operator : Operator) :
    (dangling left operator).size = 2 :=
  rfl

@[simp]
theorem size_operation
    (left : Operand)
    (operator : Operator)
    (right : Operand) :
    (operation left operator right).size = 3 :=
  rfl

/-- A link that was just pushed is the one that is replaced. -/
@[simp]
theorem replaceLatest_push
    (chain : Chain)
    (latest link : Link) :
    (chain.push latest).replaceLatest link = chain.push link := by
  simp [push, replaceLatest]

/-- A chain is its latest link behind what stands before it. -/
theorem exists_push_of_latest?_eq_some
    {chain : Chain}
    {link : Link}
    (latestShape : chain.latest? = some link) :
    ∃ front : Chain, chain = front.push link := by
  obtain ⟨earlier, linksShape⟩ := List.getLast?_eq_some_iff.mp latestShape
  rcases chain with ⟨links⟩
  exact ⟨⟨earlier⟩, congrArg Chain.mk linksShape⟩

/-- Whether a chain ends with an operator is a matter of its latest link. -/
@[simp]
theorem endsWithOperator_push
    (chain : Chain)
    (link : Link) :
    (chain.push link).endsWithOperator = link.holdsOperator := by
  simp [endsWithOperator]

/-- A chain that ends with an operand has no operator to drop. -/
@[simp]
theorem dropOperator_push_operand
    (chain : Chain)
    (number : Operand) :
    (chain.push (.operand number)).dropOperator = chain.push (.operand number) := by
  simp [dropOperator, Link.holdsOperator]

/-- An operator that was just pushed is dropped. -/
@[simp]
theorem dropOperator_push_operator
    (chain : Chain)
    (operator : Operator) :
    (chain.push (.operator operator)).dropOperator = chain := by
  simp only [dropOperator, endsWithOperator_push, Link.holdsOperator, ↓reduceIte]
  simp [push]

/-- The result of the front takes the place of three links. -/
theorem size_replaceFront
    (chain : Chain)
    (value : Float) :
    (chain.replaceFront value).size = chain.size - 3 + 1 := by
  simp [size, replaceFront]

/-- A link behind at most two others leaves nothing to settle. -/
theorem settle_push_of_size_le
    {chain : Chain}
    (short : chain.size ≤ 2)
    (link : Link) :
    (chain.push link).settle = ⟨chain.push link, none, none⟩ := by
  apply settle_of_size_le
  rw [size_push]
  exact Nat.succ_le_succ short

/-- The front of a chain that begins with an operation has a result if its operands can be read. -/
theorem frontResult_of_links_eq
    {chain : Chain}
    {left right : Operand}
    {operator : Operator}
    {rest : List Link}
    (shape : chain.links = .operand left :: .operator operator :: .operand right :: rest)
    {rightValue : Float}
    (rightRead : right.value = .ok rightValue) :
    chain.frontResult = left.value.map (operator.apply · rightValue) := by
  cases leftRead : left.value <;> simp [frontResult, shape, leftRead, rightRead, Except.map]

/-- How often settling a first link and the links after it reduces the front, or tries to. -/
def roundsFrom
    (first : Link) :
    List Link → Nat
  | second :: third :: fourth :: rest =>
      match Chain.frontResult ⟨first :: second :: third :: fourth :: rest⟩ with
      | .error _ => 1
      | .ok total => roundsFrom (.operand (.computed total)) (fourth :: rest) + 1
  | _ => 0

/-- How often settling a chain reduces its front, or tries to. -/
def rounds
    (chain : Chain) :
    Nat :=
  match chain.links with
  | [] => 0
  | first :: rest => roundsFrom first rest

/-- A chain of three links is settled already. -/
theorem rounds_of_size_le
    {chain : Chain}
    (short : chain.size ≤ 3) :
    chain.rounds = 0 := by
  rcases chain with ⟨links⟩
  match links, short with
  | [], _ =>
      rfl
  | [_], _ =>
      rfl
  | [_, _], _ =>
      rfl
  | [_, _, _], _ =>
      rfl

/-- A longer chain takes one round more than what the result of its front leaves. -/
theorem rounds_of_frontResult_ok
    {chain : Chain}
    {total : Float}
    (long : 3 < chain.size)
    (reduced : chain.frontResult = .ok total) :
    chain.rounds = (chain.replaceFront total).rounds + 1 := by
  rcases chain with ⟨links⟩
  match links, long with
  | first :: second :: third :: fourth :: rest, _ =>
      simp only [rounds, roundsFrom, reduced, replaceFront, List.drop_succ_cons, List.drop_zero]

/-- A front without a result ends the round that finds it. -/
theorem rounds_of_frontResult_error
    {chain : Chain}
    {fault : Fault}
    (long : 3 < chain.size)
    (irreducible : chain.frontResult = .error fault) :
    chain.rounds = 1 := by
  rcases chain with ⟨links⟩
  match links, long with
  | first :: second :: third :: fourth :: rest, _ =>
      simp only [rounds, roundsFrom, irreducible]

/-- The longest of the three shapes is an operation. -/
theorem Short.size_le
    {chain : Chain}
    (short : chain.Short) :
    chain.size ≤ 3 := by
  cases short <;> simp

/-- One more link behind a short chain takes at most one round. -/
theorem Short.rounds_push_le
    {chain : Chain}
    (short : chain.Short)
    (link : Link) :
    (chain.push link).rounds ≤ 1 := by
  have sizeShape : (chain.push link).size ≤ 4 := by
    rw [size_push]
    exact Nat.succ_le_succ short.size_le
  by_cases settled : (chain.push link).size ≤ 3
  · rw [rounds_of_size_le settled]
    exact Nat.zero_le 1
  · have long : 3 < (chain.push link).size := Nat.lt_of_not_le settled
    cases front : (chain.push link).frontResult with
    | error fault =>
        exact Nat.le_of_eq (rounds_of_frontResult_error long front)
    | ok total =>
        have reducedSize : ((chain.push link).replaceFront total).size ≤ 3 := by
          rw [size_replaceFront]
          omega
        have once : (chain.push link).rounds = 0 + 1 := by
          rw [rounds_of_frontResult_ok long front, rounds_of_size_le reducedSize]
        exact Nat.le_of_eq once

end Chain

end ChainCalculator
