namespace ChainCalculator

/-!
# Rounding a quotient

An exact quotient of two naturals is rounded to the nearest natural.  A quotient halfway between
two naturals goes to the even one.  Binary fractions, decimal places and digits read from text are
all rounded by this one rule.
-/

/-- The natural nearest to `numerator / denominator`; a half goes to the even neighbour. -/
def roundHalfEven
    (numerator denominator : Nat) :
    Nat :=
  let below := numerator / denominator
  let rest := numerator % denominator
  if 2 * rest < denominator then
    below
  else if denominator < 2 * rest then
    below + 1
  else
    below + below % 2

/-- A quotient without remainder is kept. -/
theorem roundHalfEven_mul
    (quotient : Nat)
    {denominator : Nat}
    (positive : 0 < denominator) :
    roundHalfEven (quotient * denominator) denominator = quotient := by
  simp [roundHalfEven, Nat.mul_div_cancel _ positive, positive]

end ChainCalculator
