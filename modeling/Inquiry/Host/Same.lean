import Inquiry.Host.Expr

/-!
# Sameness of host expressions
-/

namespace Inquiry.Host

mutual
/-- Whether two expressions are built alike from the same values. -/
def Expr.same : Expr → Expr → Bool
  | .binary a op b, .binary c oq d => a.same c && op == oq && b.same d
  | .call m as, .call n bs => m == n && sameExprs as bs
  | .conditional a b c, .conditional x y z => a.same x && b.same y && c.same z
  | .constant v s, .constant w t => v.same w && s == t
  | .convert a s, .convert b t => a.same b && s == t
  | .input s, .input t => s == t
  | .member a r s, .member b q t => a.same b && r == q && s == t
  | .construct s as, .construct t bs => s == t && sameMembers as bs
  | .array s as, .array t bs => s == t && sameExprs as bs
  | .typeIs a i, .typeIs b j => a.same b && i == j
  | .not a, .not b => a.same b
  | .negate a, .negate b => a.same b
  | _, _ => false

def sameExprs : List Expr → List Expr → Bool
  | [], [] => true
  | a :: as, b :: bs => a.same b && sameExprs as bs
  | _, _ => false

def sameMembers : List (String × Expr) → List (String × Expr) → Bool
  | [], [] => true
  | (m, a) :: as, (n, b) :: bs => m == n && a.same b && sameMembers as bs
  | _, _ => false
end

end Inquiry.Host
