import SuspicionMonitor.Random.Source

/-!
# Samples without repetition

`amount` different numbers below `length`, in random order.  Samples that are
large for their range are the beginning of a shuffled list.  Small ones are
built up by Floyd's method, and samples from a very large range by drawing again
what was drawn before; neither needs a list of all numbers.
-/

namespace SuspicionMonitor

namespace Random

variable {σ : Type} [WordSource σ]

/-- Whether a sample is large enough to shuffle the whole list for it.  Large
amounts are compared in single precision. -/
def shufflesWholeList (length amount : Nat) : Bool :=
  if amount < 163 then
    11 < amount && 5 * length < (50 + 8 * amount) * amount
  else
    let most := if length < 500000 then 270.0 else 330.0 / 9.0
    (UInt32.ofNat length).toFloat32 < most * (UInt32.ofNat amount).toFloat32

/-- Draws the first `amount` places of a shuffled list. -/
def sampleByShuffling (length amount : Nat) : StateM σ (List Nat) := do
  let shuffled ← (List.range amount).foldlM
    (fun (indices : Array Nat) i => do
      let offset ← below32 (length - i)
      return indices.swapIfInBounds i (i + offset))
    (Array.range length)
  return shuffled.toList.take amount

/-- Puts `new` in front of `old`. -/
def insertBefore (new old : Nat) : List Nat → List Nat
  | [] => [new]
  | first :: rest =>
      if first = old then new :: first :: rest else first :: insertBefore new old rest

/-- Draws a number up to `last`, and takes `last` itself if the drawn number
was taken before.  A small sample keeps the order random by putting `last` in
front of the drawn number. -/
def floydStep (amount : Nat) (chosen : List Nat) (last : Nat) : StateM σ (List Nat) := do
  let drawn ← below32 (last + 1)
  if chosen.contains drawn then
    if amount < 50 then return insertBefore last drawn chosen
    else return chosen ++ [last]
  else
    return chosen ++ [drawn]

/-- Swaps the places from `top` down to one with a place not above. -/
def shuffleDown : (top : Nat) → Array Nat → StateM σ (Array Nat)
  | 0, numbers => return numbers
  | top + 1, numbers => do
      let other ← below32 (top + 2)
      shuffleDown top (numbers.swapIfInBounds (top + 1) other)

def sampleByFloyd (length amount : Nat) : StateM σ (List Nat) := do
  let chosen ← (List.range' (length - amount) amount).foldlM (floydStep amount) []
  if amount < 50 then
    return chosen
  else
    return (← shuffleDown (amount - 1) chosen.toArray).toList

/-- The least number that has not been chosen. -/
def leastFree (chosen : List Nat) : Nat :=
  ((List.range (chosen.length + 1)).find? fun number => !chosen.contains number).getD 0

/-- Draws `amount` numbers that have not been chosen, from words of `width`
bits. -/
def sampleByRejection (width : Nat) (draw : StateM σ Nat) (length : Nat) :
    (amount : Nat) → (chosen : List Nat) → StateM σ (List Nat)
  | 0, chosen => return chosen
  | amount + 1, chosen => do
      let fresh? := fun word =>
        (scaleClosely? width length word).filter fun number => !chosen.contains number
      let number ← drawUntil draw fresh? (leastFree chosen) attempts
      sampleByRejection width draw length amount (chosen ++ [number])

def sample (length amount : Nat) : StateM σ (List Nat) :=
  if UInt32.size ≤ length then sampleByRejection 64 word64 length amount []
  else if shufflesWholeList length amount then sampleByShuffling length amount
  else if amount < 163 then sampleByFloyd length amount
  else sampleByRejection 32 word32 length amount []

end Random

end SuspicionMonitor
