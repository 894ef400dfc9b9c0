/-!
# Powers

Inside this library powers of natural numbers and of integers are those of the
core library, also where another library has powers of its own.  The instances
count in the namespace of this library only.  An exponent that is a literal has no
type before a default instance gives it one, and those cannot be scoped, so that
they are kept to the two types that need them.
-/

namespace PagedRows

scoped instance naturalPower : Pow Nat Nat :=
  instPowNat

scoped instance integerPower : Pow Int Nat :=
  instPowNat

attribute [default_instance high] integerPower naturalPower

end PagedRows
