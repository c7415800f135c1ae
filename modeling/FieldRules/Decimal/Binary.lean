/-
# `Decimal.Binary` — finite doubles as exact numbers

A finite double is a sign and a magnitude `significand * 2 ^ exponent`.  Everything this library
says about the decimal text of a number starts from that magnitude, in exact `Nat` and `Int`
arithmetic: `Binary.ofBits` decodes it, `Scaled` is a decimal beside it, and `Binary.readsBack`
decides whether a decimal lies among the reals that round to it.
-/

namespace FieldRules.Decimal

/-- The magnitude of a finite double. -/
structure Binary where
  significand : Nat
  exponent : Int
  /-- The gap to the double below is half the gap to the double above. -/
  narrowBelow : Bool

/-- A decimal magnitude, `digits * 10 ^ exponent`. -/
structure Scaled where
  digits : Nat
  exponent : Int
deriving DecidableEq, Repr

/-- The magnitude that a bit pattern denotes.  The patterns of NaN and of the infinities denote
none, so they are told apart before. -/
def Binary.ofBits (bits : UInt64) : Binary :=
  let biased := ((bits >>> 52) &&& 0x7FF).toNat
  let field := (bits &&& 0xFFFFFFFFFFFFF).toNat
  if biased = 0 then ⟨field, -1074, false⟩
  else ⟨0x10000000000000 + field, (biased : Int) - 1075, field == 0 && biased > 1⟩

/-- Compares a decimal with `n * 2 ^ e`: both sides are multiplied by the denominators, so the
comparison is one of naturals. -/
def Scaled.compareBinary (d : Scaled) (n : Nat) (e : Int) : Ordering :=
  compare (d.digits * Nat.pow 10 d.exponent.toNat * Nat.pow 2 (-e).toNat)
    (n * Nat.pow 2 e.toNat * Nat.pow 10 (-d.exponent).toNat)

/-- Whether `d` is one of the reals that round to `x`: they reach half way to the doubles beside
it, and the two ends belong to it when its significand is even. -/
def Binary.readsBack (x : Binary) (d : Scaled) : Bool :=
  let low := if x.narrowBelow then 4 * x.significand - 1 else 4 * x.significand - 2
  let high := 4 * x.significand + 2
  let closed := x.significand % 2 == 0
  let atLow := d.compareBinary low (x.exponent - 2)
  let atHigh := d.compareBinary high (x.exponent - 2)
  (atLow == .gt || (closed && atLow == .eq)) && (atHigh == .lt || (closed && atHigh == .eq))

/-- The greatest multiple of `10 ^ grid` that is not above `x`, counted in that unit. -/
def Binary.floorAt (x : Binary) (grid : Int) : Nat :=
  (x.significand * Nat.pow 2 x.exponent.toNat * Nat.pow 10 (-grid).toNat)
    / (Nat.pow 2 (-x.exponent).toNat * Nat.pow 10 grid.toNat)

/-- The magnitude itself as a decimal, which always exists. -/
def Binary.exact (x : Binary) : Scaled :=
  if 0 ≤ x.exponent then ⟨x.significand * Nat.pow 2 x.exponent.toNat, 0⟩
  else ⟨x.significand * Nat.pow 5 (-x.exponent).toNat, x.exponent⟩

end FieldRules.Decimal
