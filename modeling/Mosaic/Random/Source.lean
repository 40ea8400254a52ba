/-!
# Sources of chance

Goals and mazes are drawn from a source of chance.  Nothing is known of a source except that its
answers are in range, so what holds for every source holds whatever is drawn.  A fraction is drawn as
a whole number below 2^53, the numerator over that denominator.
-/

namespace Mosaic

class RandomSource (σ : Type) where
  below : Nat -> σ -> Nat × σ
  fraction : σ -> Nat × σ
  below_lt : ∀ (n : Nat) (source : σ), 0 < n -> (below n source).1 < n
  fraction_lt : ∀ source : σ, (fraction source).1 < Nat.pow 2 53

abbrev Draw (σ : Type) (α : Type) : Type := StateM σ α

namespace Draw

variable {σ : Type} [RandomSource σ]

def below (n : Nat) : Draw σ Nat := fun source => RandomSource.below n source

def between (low high : Nat) : Draw σ Nat := do return low + (<- below (high - low + 1))

def choose {α : Type} (first : α) (others : List α) : Draw σ α := do
  let index <- below (others.length + 1)
  return ((first :: others)[index]?).getD first

def fraction : Draw σ Nat := fun source => RandomSource.fraction source

def isBelowQuarters (quarters numerator : Nat) : Bool := 4 * numerator < quarters * Nat.pow 2 53

def coin : Draw σ Bool := do return isBelowQuarters 2 (<- fraction)

/-- The first places of a row, up to an index, put in random order from the last of them down. -/
def shuffledUpTo {α : Type} : Nat -> Array α -> Draw σ (Array α)
  | 0, xs => pure xs
  | i + 1, xs => do
      let j <- below (i + 2)
      shuffledUpTo i (xs.swapIfInBounds (i + 1) j)

def shuffled {α : Type} (xs : List α) : Draw σ (List α) := do
  return (<- shuffledUpTo (xs.length - 1) xs.toArray).toList

/-- So many different values of a pool, of which so many are left; a value that is taken is replaced
by the last one of the pool. -/
def sampleFrom : Nat -> Nat -> List Nat -> Draw σ (List Nat)
  | 0, _, _ => pure []
  | count + 1, left, pool => do
      let j <- below left
      let taken := (pool[j]?).getD 0
      let others <- sampleFrom count (left - 1) (pool.set j ((pool[left - 1]?).getD 0))
      return taken :: others

def sample (count bound : Nat) : Draw σ (List Nat) := sampleFrom count bound (List.range bound)

def times {α : Type} : Nat -> Draw σ α -> Draw σ (List α)
  | 0, _ => pure []
  | count + 1, action => do
      let first <- action
      let others <- times count action
      return first :: others

end Draw
end Mosaic
