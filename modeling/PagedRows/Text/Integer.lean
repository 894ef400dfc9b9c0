/-!
# The text of integers
-/

namespace PagedRows.Text

/-- The decimal digits of an integer, after a minus sign if it is negative. -/
def integer (value : Int) : List Char :=
  match value with
  | .ofNat magnitude => Nat.toDigits 10 magnitude
  | .negSucc below => '-' :: Nat.toDigits 10 (below + 1)

end PagedRows.Text
