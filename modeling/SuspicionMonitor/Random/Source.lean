/-!
# Uniform numbers from random words

A source yields one 32-bit word after another.  Everything drawn from it is
defined for every source, so what holds of a draw holds of every sequence of
words.
-/

namespace SuspicionMonitor

class WordSource (σ : Type) where
  next : σ → UInt32 × σ

namespace Random

-- The powers of the core library, whatever else is in scope.
attribute [local instance (2000)] instPowNat instNatPowNat

variable {σ : Type} [WordSource σ]

def word32 : StateM σ Nat := fun source =>
  let (word, source) := WordSource.next source
  (word.toNat, source)

/-- Two words, the low half first. -/
def word64 : StateM σ Nat := do
  let low ← word32
  let high ← word32
  return low + high * 2 ^ (32 : Nat)

/-- How often a draw is repeated at most.  Each is refused with a chance of
less than one half. -/
def attempts : Nat := 1024

/-- Draws words until one is accepted as a number. -/
def drawUntil (draw : StateM σ Nat) (accept? : Nat → Option Nat) (otherwise : Nat) :
    (attempts : Nat) → StateM σ Nat
  | 0 => return otherwise
  | attempts + 1 => do
      let word ← draw
      match accept? word with
      | some number => return number
      | none => drawUntil draw accept? otherwise attempts

/-- Scales a word of `width` bits down to a number below `bound`.  Words that
would make some numbers more likely than others are refused, and some more
that it is quicker to refuse than to tell from them. -/
def scale? (width bound word : Nat) : Option Nat :=
  let accepted := bound * 2 ^ (width - (Nat.log2 bound + 1))
  let product := word * bound
  if product % 2 ^ width < accepted then some (product / 2 ^ width) else none

/-- Scales a word of `width` bits down to a number below `bound`, and refuses
no more words than it has to. -/
def scaleClosely? (width bound word : Nat) : Option Nat :=
  let accepted := 2 ^ width - 2 ^ width % bound
  let product := word * bound
  if product % 2 ^ width < accepted then some (product / 2 ^ width) else none

/-- A number below `bound`, from words of 32 bits. -/
def below32 (bound : Nat) : StateM σ Nat := drawUntil word32 (scale? 32 bound) 0 attempts

/-- A number below `bound`, from words of 64 bits. -/
def below64 (bound : Nat) : StateM σ Nat := drawUntil word64 (scale? 64 bound) 0 attempts

end Random

end SuspicionMonitor
