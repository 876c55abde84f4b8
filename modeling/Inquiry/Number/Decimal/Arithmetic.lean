import Inquiry.Number.Decimal.Basic

/-!
# Decimal arithmetic

Results are exact where they fit. A result with too many digits drops the fewest places that make it
fit and rounds there, a half to the even neighbour; it overflows when its whole part does not fit.
-/

namespace Inquiry.Decimal

open Number (roundDiv tenTo twoTo)

/-- The fewest places to drop from a coefficient with `scale` places so that both fit. -/
def excess? (coefficient scale : Nat) : Option Nat :=
  (List.range (scale + 1)).find? fun drop =>
    scale - drop ≤ maxScale && coefficient / tenTo drop < limit

/-- The decimal nearest to `coefficient / 10 ^ scale`, a half to the even neighbour. -/
def fit? (negative : Bool) (coefficient scale : Nat) : Option Decimal := do
  let drop ← excess? coefficient scale
  let rounded := roundDiv coefficient (tenTo drop)
  if rounded < limit then ofParts? negative rounded (scale - drop)
  else if scale - drop = 0 then none
  else ofParts? negative (roundDiv rounded 10) (scale - drop - 1)

/-- The sum of two decimals, with the places of the longer one. Zero leaves the other operand as it
is. -/
def add? (a b : Decimal) : Option Decimal :=
  if a.isZero then some b
  else if b.isZero then some a
  else
    let scale := max a.scale b.scale
    let sum := a.signed * tenTo (scale - a.scale) + b.signed * tenTo (scale - b.scale)
    fit? (sum < 0) sum.natAbs scale

/-- The difference of two decimals, with the places of the longer one. -/
def sub? (a b : Decimal) : Option Decimal :=
  if b.isZero then if a.isZero then some b else some a else add? a b.neg

/-- The product of two decimals, with the places of both. A product that vanishes keeps its sign,
unless both coefficients are single words; then it has none, and beyond 47 places it is plain zero. -/
def mul? (a b : Decimal) : Option Decimal :=
  let negative := a.negative != b.negative
  let product := fit? negative (a.coefficient * b.coefficient) (a.scale + b.scale)
  if a.isZero || b.isZero then some zero
  else if a.coefficient < twoTo 32 && b.coefficient < twoTo 32 then
    if 47 < a.scale + b.scale then some zero else product.map unsignedZero
  else product

end Inquiry.Decimal
