import PagedRows.Power

/-!
# Row positions

A row is named by its position in the whole result, of which a window holds
one slice.  Positions fill a 64-bit word, so the last one has no successor.
-/

namespace PagedRows

/-- The global position of a row. -/
abbrev Position := Fin (2 ^ 64)

namespace Position

/-- Literals stand for positions by this one fact, in whatever module they are. -/
instance neZero : @NeZero Nat Zero.ofOfNat0 (2 ^ 64) where
  out := by decide

def last : Position := ⟨2 ^ 64 - 1, by decide⟩

/-- The position `distance` rows further on, unless it would pass the last. -/
def advance? (position : Position) (distance : Nat) : Option Position :=
  if inside : position.val + distance < 2 ^ 64 then
    some ⟨position.val + distance, inside⟩
  else
    none

def next? (position : Position) : Option Position :=
  position.advance? 1

/-- How far a position lies after `start`, when it does not precede it. -/
def offsetFrom? (position start : Position) : Option Nat :=
  if start ≤ position then some (position.val - start.val) else none

theorem advance?_of_lt {position : Position} {distance : Nat}
    (inside : position.val + distance < 2 ^ 64) :
    position.advance? distance = some ⟨position.val + distance, inside⟩ :=
  dif_pos inside

theorem advance?_of_not_lt {position : Position} {distance : Nat}
    (outside : ¬ position.val + distance < 2 ^ 64) :
    position.advance? distance = none :=
  dif_neg outside

theorem offsetFrom?_eq_some_iff {position start : Position} {distance : Nat} :
    position.offsetFrom? start = some distance ↔ start.val + distance = position.val := by
  unfold offsetFrom?
  split
  next ordered =>
    rw [Fin.le_def] at ordered
    rw [Option.some.injEq]
    omega
  next unordered =>
    rw [Fin.le_def] at unordered
    constructor
    · intro impossible
      cases impossible
    · omega

end Position

end PagedRows
