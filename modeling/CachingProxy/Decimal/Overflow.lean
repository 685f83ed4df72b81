namespace CachingProxy.Decimal

def limit : Nat := Nat.pow 2 1024 - Nat.pow 2 970

/-- Whether digits · 10^(exponent) is too large for a double. Very large and very small exponents
are told apart by the number of digits alone. -/
def overflows (digits : Nat) (exponent : Int) : Bool :=
  let size := exponent + (toString digits).length
  digits ≠ 0 && 308 < size && (310 < size ||
    limit * Nat.pow 10 (-exponent).toNat ≤ digits * Nat.pow 10 exponent.toNat)

end CachingProxy.Decimal
