import ChainCalculator.Operand

namespace ChainCalculator

/-!
# Chains

A chain is the calculation under way: operands and operators in the order in which they were
entered.  There is no precedence.  The front of a chain, an operand, an operator and an operand, is
replaced by the result of that one operation, and `settle` repeats this while more than three
links remain.

The operations are defined for chains of any length and shape.  Those that ask for something that a
chain may lack answer with an option or a fault.
-/

/-- Operands and operators, the oldest first. -/
structure Chain where
  links : List Link
  deriving Repr, DecidableEq

namespace Chain

/-- The chain that holds one number. -/
def ofValue
    (value : Float) :
    Chain :=
  ⟨[.operand (.computed value)]⟩

/-- The chain of a calculator that was just switched on. -/
def zero : Chain :=
  ofValue 0

/-- How many links a chain holds. -/
def size
    (chain : Chain) :
    Nat :=
  chain.links.length

/-- The latest link. -/
def latest?
    (chain : Chain) :
    Option Link :=
  chain.links.getLast?

/-- Whether the latest link is an operator. -/
def endsWithOperator
    (chain : Chain) :
    Bool :=
  chain.latest?.any Link.holdsOperator

/-- The latest operand. -/
def latestOperand?
    (chain : Chain) :
    Option Operand :=
  chain.links.reverse.findSome? Link.operand?

/-- The latest operator. -/
def latestOperator?
    (chain : Chain) :
    Option Operator :=
  chain.links.reverse.findSome? Link.operator?

/-- The operand that a chain begins with. -/
def leadingOperand
    (chain : Chain) :
    Except Fault Operand :=
  match chain.links with
  | .operand number :: _ => .ok number
  | .operator _ :: _ => .error .leadingOperator
  | [] => .error .emptyChain

/-- The right operand of the operation that a chain begins with. -/
def rightOperand?
    (chain : Chain) :
    Option Operand :=
  (chain.links[2]?).bind Link.operand?

/-- The chain with one more link. -/
def push
    (chain : Chain)
    (link : Link) :
    Chain :=
  ⟨chain.links ++ [link]⟩

/-- The chain with its latest link replaced. -/
def replaceLatest
    (chain : Chain)
    (link : Link) :
    Chain :=
  ⟨chain.links.dropLast ++ [link]⟩

/-- The chain without its latest link; a chain that would be empty holds the fallback instead. -/
def dropLatest
    (chain : Chain)
    (fallback : Float) :
    Chain :=
  match chain.links.dropLast with
  | [] => ofValue fallback
  | links => ⟨links⟩

/-- The chain without the operator that it ends with, if it ends with one. -/
def dropOperator
    (chain : Chain) :
    Chain :=
  if chain.endsWithOperator then
    ⟨chain.links.dropLast⟩
  else
    chain

/-- The chain of one complete operation. -/
def operation
    (left : Operand)
    (operator : Operator)
    (right : Operand) :
    Chain :=
  ⟨[.operand left, .operator operator, .operand right]⟩

/-- A chain in writing, a space between two links. -/
def text
    (chain : Chain) :
    String :=
  String.intercalate " " (chain.links.map Link.text)

/-- The result of the operation that a chain begins with. -/
def frontResult
    (chain : Chain) :
    Except Fault Float :=
  match chain.links with
  | .operand left :: .operator operator :: .operand right :: _ =>
      match left.value with
      | .error fault => .error fault
      | .ok leftValue =>
          match right.value with
          | .error fault => .error fault
          | .ok rightValue => .ok (operator.apply leftValue rightValue)
  | _ => .error (.irreducible chain.text)

/-- The chain with its first three links replaced by a number. -/
def replaceFront
    (chain : Chain)
    (value : Float) :
    Chain :=
  ⟨.operand (.computed value) :: chain.links.drop 3⟩

/-- What settling a chain leaves: the chain, the latest result, and the fault that ended it early. -/
structure Settled where
  chain : Chain
  total? : Option Float
  fault? : Option Fault
  deriving Repr, DecidableEq

/-- Settle the chain of a first link and the links after it. -/
def settleFrom
    (first : Link) :
    List Link → Settled
  | second :: third :: fourth :: rest =>
      let chain : Chain := ⟨first :: second :: third :: fourth :: rest⟩
      match chain.frontResult with
      | .error fault => ⟨chain, none, some fault⟩
      | .ok total =>
          let settled := settleFrom (.operand (.computed total)) (fourth :: rest)
          { settled with total? := settled.total?.or (some total) }
  | rest => ⟨⟨first :: rest⟩, none, none⟩

/-- Replace the front of a chain by its result while more than three links remain. -/
def settle
    (chain : Chain) :
    Settled :=
  match chain.links with
  | [] => ⟨chain, none, none⟩
  | first :: rest => settleFrom first rest

/-- A pushed link is the latest one. -/
@[simp]
theorem latest?_push
    (chain : Chain)
    (link : Link) :
    (chain.push link).latest? = some link := by
  simp [push, latest?]

/-- A replaced latest link is the latest one. -/
@[simp]
theorem latest?_replaceLatest
    (chain : Chain)
    (link : Link) :
    (chain.replaceLatest link).latest? = some link := by
  simp [replaceLatest, latest?]

/-- A pushed link makes a chain longer by one. -/
@[simp]
theorem size_push
    (chain : Chain)
    (link : Link) :
    (chain.push link).size = chain.size + 1 := by
  simp [push, size]

/-- A chain of at most three links is settled already. -/
theorem settle_of_size_le
    {chain : Chain}
    (short : chain.size ≤ 3) :
    chain.settle = ⟨chain, none, none⟩ := by
  rcases chain with ⟨links⟩
  match links, short with
  | [], _ =>
      rfl
  | [_], _ =>
      rfl
  | [_, _], _ =>
      rfl
  | [_, _, _], _ =>
      rfl

/-- A longer chain is settled by settling what the result of its front leaves. -/
theorem settle_of_frontResult_ok
    {chain : Chain}
    {total : Float}
    (long : 3 < chain.size)
    (reduced : chain.frontResult = .ok total) :
    chain.settle =
      { (chain.replaceFront total).settle with
        total? := (chain.replaceFront total).settle.total?.or (some total) } := by
  rcases chain with ⟨links⟩
  match links, long with
  | first :: second :: third :: fourth :: rest, _ =>
      simp only [settle, settleFrom, reduced, replaceFront, List.drop_succ_cons, List.drop_zero]

/-- A longer chain whose front has no result stays as it is. -/
theorem settle_of_frontResult_error
    {chain : Chain}
    {fault : Fault}
    (long : 3 < chain.size)
    (irreducible : chain.frontResult = .error fault) :
    chain.settle = ⟨chain, none, some fault⟩ := by
  rcases chain with ⟨links⟩
  match links, long with
  | first :: second :: third :: fourth :: rest, _ =>
      simp only [settle, settleFrom, irreducible]

end Chain

end ChainCalculator
