/-!
# Powers of two and of ten

The steps between the numbers of a binary or a decimal grid.
-/
namespace SessionGate
set_option autoImplicit false

/-- The power of two that is a unit in the place `k`. -/
def twoPow (k : Nat) : Nat := Nat.pow 2 k

/-- The power of ten that is a unit in the place `k`. -/
def tenPow (k : Nat) : Nat := Nat.pow 10 k

@[simp] theorem twoPow_zero : twoPow 0 = 1 := rfl

theorem twoPow_succ (k : Nat) : twoPow (k + 1) = 2 * twoPow k := by
  simp [twoPow, Nat.pow_succ, Nat.mul_comm]

@[simp] theorem tenPow_zero : tenPow 0 = 1 := rfl

theorem tenPow_succ (k : Nat) : tenPow (k + 1) = 10 * tenPow k := by
  simp [tenPow, Nat.pow_succ, Nat.mul_comm]

end SessionGate
