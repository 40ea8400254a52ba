import Mosaic.Random.Source

/-!
# The 32-bit Mersenne twister

The generator keeps 624 words of 32 bits, which it renews all together when they are used up.  A seed
is any whole number; its sign does not count, and its words of 32 bits, least significant first, are
mixed into the starting state.
-/

namespace Mosaic

/-- The state of the generator: its words, and the index of the next one to use. -/
structure Twister where
  words : Array UInt32
  index : Nat
  deriving Inhabited

namespace Twister

def size : Nat := 624

def reach : Nat := 397

def word (words : Array UInt32) (i : Nat) : UInt32 := words.getD i 0

def spread (w : UInt32) : UInt32 := w ^^^ (w >>> 30)

def plainWords (seed : UInt32) : Array UInt32 :=
  (List.range (size - 1)).foldl
    (fun words i => words.push (1812433253 * spread (word words i) + UInt32.ofNat (i + 1)))
    #[seed]

def wrapped (words : Array UInt32) (i : Nat) : Array UInt32 × Nat :=
  if i + 1 < size then (words, i + 1) else (words.setIfInBounds 0 (word words (size - 1)), 1)

def mixKey (key : Array UInt32) : Nat -> Array UInt32 -> Nat -> Nat -> Array UInt32 × Nat
  | 0, words, i, _ => (words, i)
  | count + 1, words, i, j =>
      let mixed := (word words i ^^^ (spread (word words (i - 1)) * 1664525)) + key.getD j 0 +
        UInt32.ofNat j
      let (next, following) := wrapped (words.setIfInBounds i mixed) i
      mixKey key count next following (if j + 1 < key.size then j + 1 else 0)

def mixAgain : Nat -> Array UInt32 -> Nat -> Array UInt32
  | 0, words, _ => words
  | count + 1, words, i =>
      let mixed := (word words i ^^^ (spread (word words (i - 1)) * 1566083941)) - UInt32.ofNat i
      let (next, following) := wrapped (words.setIfInBounds i mixed) i
      mixAgain count next following

def keyedWords (key : Array UInt32) : Array UInt32 :=
  let (words, i) := mixKey key (max size key.size) (plainWords 19650218) 1 0
  (mixAgain (size - 1) words i).setIfInBounds 0 0x80000000

def digits (n : Nat) : List UInt32 :=
  if n < Nat.pow 2 32 then [UInt32.ofNat n]
  else UInt32.ofNat (n % Nat.pow 2 32) :: digits (n / Nat.pow 2 32)
termination_by n
decreasing_by
  rename_i hlarge
  exact Nat.div_lt_self (Nat.lt_of_lt_of_le (by decide) (Nat.le_of_not_lt hlarge)) (by decide)

def ofSeed (seed : Int) : Twister := ⟨keyedWords (digits seed.natAbs).toArray, size⟩

/-- A renewed word, from the high bit of one word, the low bits of the next, and a word ahead. -/
def renewedWord (current next ahead : UInt32) : UInt32 :=
  let y := (current &&& 0x80000000) ||| (next &&& 0x7FFFFFFF)
  ahead ^^^ (y >>> 1) ^^^ (if y &&& 1 = 0 then 0 else 0x9908B0DF)

def renewed (words : Array UInt32) : Array UInt32 :=
  (List.range size).foldl
    (fun words i =>
      words.setIfInBounds i (renewedWord (word words i) (word words ((i + 1) % size))
        (word words ((i + reach) % size))))
    words

def tempered (w : UInt32) : UInt32 :=
  let a := w ^^^ (w >>> 11)
  let b := a ^^^ ((a <<< 7) &&& 0x9D2C5680)
  let c := b ^^^ ((b <<< 15) &&& 0xEFC60000)
  c ^^^ (c >>> 18)

def next (twister : Twister) : UInt32 × Twister :=
  let ready := if twister.index < size then twister else ⟨renewed twister.words, 0⟩
  (tempered (word ready.words ready.index), { ready with index := ready.index + 1 })

def bits (count : Nat) (twister : Twister) : Nat × Twister :=
  if count ≤ 32 then
    let (w, after) := twister.next
    (w.toNat >>> (32 - count), after)
  else
    let (low, between) := twister.next
    let (high, after) := bits (count - 32) between
    (low.toNat + Nat.pow 2 32 * high, after)

/-- How many answers out of range are thrown away before the last one is brought into range. -/
def patience : Nat := 256

/-- A number below a positive bound: bits are drawn until they make one. -/
def belowWithin (n : Nat) : Nat -> Twister -> Nat × Twister
  | 0, twister =>
      let (value, after) := twister.bits (Nat.log2 n + 1)
      (value % n, after)
  | tries + 1, twister =>
      let (value, after) := twister.bits (Nat.log2 n + 1)
      if value < n then (value, after) else belowWithin n tries after

theorem belowWithin_lt {n : Nat} (h : 0 < n) (tries : Nat) (twister : Twister) :
    (belowWithin n tries twister).1 < n := by
  induction tries generalizing twister with
  | zero =>
      simp only [belowWithin]
      exact Nat.mod_lt _ h
  | succ tries ih =>
      simp only [belowWithin]
      split
      · assumption
      · exact ih _

/-- The 53 bits of a fraction: the upper 27 of one word and the upper 26 of the next. -/
def fraction (twister : Twister) : Nat × Twister :=
  let (high, between) := twister.next
  let (low, after) := between.next
  ((high >>> 5).toNat * Nat.pow 2 26 + (low >>> 6).toNat, after)

theorem fraction_lt (twister : Twister) : twister.fraction.1 < Nat.pow 2 53 := by
  simp only [fraction, UInt32.toNat_shiftRight]
  have hhigh := twister.next.1.toNat_lt
  have hlow := twister.next.2.next.1.toNat_lt
  simp only [UInt32.reduceToNat, Nat.reduceMod, Nat.shiftRight_eq_div_pow]
  change _ * 67108864 + _ < 9007199254740992
  omega

instance : RandomSource Twister where
  below := fun n twister => belowWithin n patience twister
  fraction := fraction
  below_lt := fun _ twister h => belowWithin_lt h patience twister
  fraction_lt := fraction_lt

end Twister
end Mosaic
