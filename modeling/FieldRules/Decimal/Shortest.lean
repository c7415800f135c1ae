/-
# `Decimal.Shortest` — the fewest digits that read back

Among the decimals that read back to a double, `shortest` selects one with as few digits as
possible, and of those the nearest.  The search runs over grids of one digit, two digits and so on;
on each grid only the two neighbours of the value can read back.
-/
import FieldRules.Decimal.Binary

namespace FieldRules.Decimal

/-- Which of two equally near candidates is taken. -/
inductive Tie where
  | toEven
  | upward
deriving DecidableEq, Repr

/-- Moves the trailing zeros of the digits into the exponent. -/
def Scaled.strip (d : Scaled) : Scaled :=
  if h : d.digits ≠ 0 ∧ d.digits % 10 = 0 then
    Scaled.strip ⟨d.digits / 10, d.exponent + 1⟩
  else d
termination_by d.digits
decreasing_by exact Nat.div_lt_self (Nat.pos_of_ne_zero h.1) (by decide)

/-- The least `k` with `x < 10 ^ k`, for a positive `x`.  The binary logarithm gives it up to a
step or two, and exact comparison the rest. -/
def Binary.scale (x : Binary) : Int :=
  let bits : Int := (Nat.log2 x.significand : Int) + x.exponent
  let guess := (bits * 30103) / 100000 - 1
  ((List.range 5).map fun (n : Nat) => guess + (n : Int)).find?
    (fun k => Scaled.compareBinary ⟨1, k⟩ x.significand x.exponent == .gt) |>.getD (guess + 5)

/-- The candidate on one grid: the neighbour that reads back, or the nearer one if both do. -/
def Binary.candidate (tie : Tie) (x : Binary) (grid : Int) : Option Scaled :=
  let below : Scaled := ⟨x.floorAt grid, grid⟩
  let above : Scaled := ⟨below.digits + 1, grid⟩
  match x.readsBack below, x.readsBack above with
  | true, false => some below
  | false, true => some above
  | false, false => none
  | true, true =>
    match Scaled.compareBinary ⟨2 * below.digits + 1, grid⟩ x.significand (x.exponent + 1), tie with
    | .gt, _ => some below
    | .lt, _ => some above
    | .eq, .upward => some above
    | .eq, .toEven => some (if below.digits % 2 = 0 then below else above)

/-- The decimal with the fewest digits that reads back to `x`; zero is written with one digit. -/
def Binary.shortest (tie : Tie) (x : Binary) : Scaled :=
  if x.significand = 0 then ⟨0, 0⟩
  else
    let top := x.scale
    ((List.range 17).findSome? fun (n : Nat) => x.candidate tie (top - ((n : Int) + 1)))
      |>.getD x.exact |>.strip

end FieldRules.Decimal
