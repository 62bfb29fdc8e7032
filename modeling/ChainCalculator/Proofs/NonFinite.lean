import ChainCalculator.Operator

namespace ChainCalculator

/-!
# Arithmetic with numbers that are not finite

The two infinities and the undefined number are not finite.  An operation with such a number on its
left has no finite result, whatever stands on its right.  The same holds for such a number on the
right, with one exception: a finite number divided by an infinity is a zero.

The laws are proved for unpacked floats, where the cases are constructors, and carried over to floats
of 64 bits.
-/

open Float.Model (UnpackedFloat Format)

namespace NonFinite

/-- What is not finite is no number or an infinity. -/
theorem isFinite_eq_false_iff
    {value : UnpackedFloat} :
    value.isFinite = false ↔ value.isNaN ∨ value.isInf := by
  cases value with
  | notANumber => exact iff_of_true rfl (Or.inl rfl)
  | infinity sign => exact iff_of_true rfl (Or.inr rfl)
  | zero sign => exact iff_of_false nofun (not_or.mpr ⟨nofun, nofun⟩)
  | finite sign mantissa exponent positive =>
      exact iff_of_false nofun (not_or.mpr ⟨nofun, nofun⟩)

theorem isNaN_iff
    {value : UnpackedFloat} :
    value.isNaN ↔ value = .notANumber := by
  cases value with
  | notANumber => exact iff_of_true rfl rfl
  | infinity sign => exact iff_of_false nofun nofun
  | zero sign => exact iff_of_false nofun nofun
  | finite sign mantissa exponent positive => exact iff_of_false nofun nofun

theorem isInf_iff
    {value : UnpackedFloat} :
    value.isInf ↔ ∃ sign, value = .infinity sign := by
  cases value with
  | infinity sign => exact iff_of_true rfl ⟨sign, rfl⟩
  | notANumber => exact iff_of_false nofun nofun
  | zero sign => exact iff_of_false nofun nofun
  | finite sign mantissa exponent positive => exact iff_of_false nofun nofun

/-- No number survives packing as such. -/
theorem unpack_pack_notANumber :
    (Float.Model.pack .notANumber).unpack = .notANumber :=
  rfl

/-- An infinity survives packing with its sign. -/
theorem unpack_pack_infinity
    (sign : UnpackedFloat.Sign) :
    (Float.Model.pack (.infinity sign)).unpack = .infinity sign := by
  cases sign <;> rfl

/-- A number that is not finite is packed without loss. -/
theorem unpack_pack_of_isFinite_eq_false
    {value : UnpackedFloat}
    (nonFinite : value.isFinite = false) :
    (Float.Model.pack value).unpack = value := by
  rcases isFinite_eq_false_iff.mp nonFinite with undefined | infinite
  · rw [isNaN_iff.mp undefined]
    exact unpack_pack_notANumber
  · obtain ⟨sign, rfl⟩ := isInf_iff.mp infinite
    exact unpack_pack_infinity sign

end NonFinite

namespace Operator

/-- The result of an operation before it is packed into 64 bits. -/
def applyUnpacked :
    Operator → UnpackedFloat → UnpackedFloat → UnpackedFloat
  | .add, left, right => left.add Format.binary64 right
  | .subtract, left, right => left.sub Format.binary64 right
  | .multiply, left, right => left.mul Format.binary64 right
  | .divide, left, right => left.div Format.binary64 right

/-- An operation is carried out on unpacked numbers. -/
theorem unpack_apply
    (operator : Operator)
    (left right : Float) :
    (operator.apply left right).toModel.unpack =
      (Float.Model.pack
        (operator.applyUnpacked left.toModel.unpack right.toModel.unpack)).unpack := by
  cases operator <;> rfl

/-- A result that is not finite stays so when it is packed. -/
theorem isFinite_apply_of_applyUnpacked
    {operator : Operator}
    {left right : Float}
    (result :
      (operator.applyUnpacked left.toModel.unpack right.toModel.unpack).isFinite = false) :
    (operator.apply left right).isFinite = false := by
  change (operator.apply left right).toModel.unpack.isFinite = false
  rw [unpack_apply, NonFinite.unpack_pack_of_isFinite_eq_false result]
  exact result

/-- A left operand that is not finite leads to a result that is not finite. -/
theorem isFinite_applyUnpacked_of_left
    {left : UnpackedFloat}
    (nonFinite : left.isFinite = false)
    (operator : Operator)
    (right : UnpackedFloat) :
    (operator.applyUnpacked left right).isFinite = false := by
  cases left with
  | notANumber =>
      cases operator <;> rfl
  | infinity sign =>
      cases right with
      | infinity other => cases operator <;> cases sign <;> cases other <;> rfl
      | _ => cases operator <;> rfl
  | zero sign =>
      cases nonFinite
  | finite sign mantissa exponent positive =>
      cases nonFinite

/-- A right operand that is not finite leads to such a result, unless it divides a finite number. -/
theorem isFinite_applyUnpacked_of_right
    {operator : Operator}
    {left right : UnpackedFloat}
    (nonFinite : right.isFinite = false)
    (lasts : operator = .divide → left.isFinite → right.isNaN) :
    (operator.applyUnpacked left right).isFinite = false := by
  cases right with
  | notANumber =>
      cases operator <;> cases left <;> rfl
  | infinity sign =>
      cases operator with
      | divide =>
          -- An infinity is not undefined, so the dividend cannot be finite.
          have dividend : left.isFinite = false :=
            Bool.eq_false_iff.mpr fun finite => nomatch lasts rfl finite
          exact isFinite_applyUnpacked_of_left dividend .divide _
      | _ =>
          cases left with
          | infinity other => cases sign <;> cases other <;> rfl
          | _ => rfl
  | zero sign =>
      cases nonFinite
  | finite sign mantissa exponent positive =>
      cases nonFinite

/-- A finite number divided by an infinity is a zero. -/
theorem exists_divide_infinity_eq_zero
    {left : UnpackedFloat}
    (finite : left.isFinite)
    (sign : UnpackedFloat.Sign) :
    ∃ zeroSign, divide.applyUnpacked left (.infinity sign) = .zero zeroSign := by
  cases left with
  | notANumber => cases finite
  | infinity other => cases finite
  | zero other => exact ⟨other / sign, rfl⟩
  | finite other mantissa exponent positive => exact ⟨other / sign, rfl⟩

/-- A left operand that is not finite makes every result so. -/
theorem isFinite_apply_of_left
    {left : Float}
    (nonFinite : left.isFinite = false)
    (operator : Operator)
    (right : Float) :
    (operator.apply left right).isFinite = false :=
  isFinite_apply_of_applyUnpacked (isFinite_applyUnpacked_of_left nonFinite operator _)

/-- A right operand that is not finite makes the result so, unless a finite number is divided by it. -/
theorem isFinite_apply_of_right
    {operator : Operator}
    {left right : Float}
    (nonFinite : right.isFinite = false)
    (lasts : operator = .divide → left.isFinite → right.isNaN) :
    (operator.apply left right).isFinite = false :=
  isFinite_apply_of_applyUnpacked (isFinite_applyUnpacked_of_right nonFinite lasts)

/-- A finite number divided by an infinity is a zero. -/
theorem exists_divide_eq_zero_of_isInf
    {left right : Float}
    (finite : left.isFinite)
    (infinite : right.isInf) :
    ∃ zeroSign, divide.apply left right = ⟨Float.Model.pack (.zero zeroSign)⟩ := by
  obtain ⟨sign, rightHeld⟩ := NonFinite.isInf_iff.mp infinite
  obtain ⟨zeroSign, quotient⟩ := exists_divide_infinity_eq_zero finite sign
  rw [← rightHeld] at quotient
  exact ⟨zeroSign, congrArg (Float.ofModel ∘ Float.Model.pack) quotient⟩

/-- A hundredth of the undefined number is undefined. -/
theorem isNaN_hundredth
    {value : Float}
    (undefined : value.isNaN) :
    (value / 100).isNaN := by
  have held := NonFinite.isNaN_iff.mp undefined
  change (divide.apply value 100).toModel.unpack.isNaN
  rw [unpack_apply, held]
  rfl

/-- A hundredth of an infinity is an infinity. -/
theorem isInf_hundredth
    {value : Float}
    (infinite : value.isInf) :
    (value / 100).isInf := by
  obtain ⟨sign, held⟩ := NonFinite.isInf_iff.mp infinite
  change (divide.apply value 100).toModel.unpack.isInf
  rw [unpack_apply, held]
  cases sign <;> rfl

end Operator

end ChainCalculator
