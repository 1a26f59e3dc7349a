import FareSearch.Number.Binary64

/-!
# Random draws

A source of draws turns its state into a number and the next state. A generator advances its word
by a fixed odd step and mixes the result; equal seeds give equal draws.
-/

namespace FareSearch

/-- Whole numbers up to a bound, and numbers from zero to below one. -/
structure RandomSource (ρ : Type) where
  upTo : Nat → ρ → Nat × ρ
  unit : ρ → Float × ρ

/-- The state of a generator. -/
structure Generator where
  word : UInt64
  deriving DecidableEq, Inhabited

namespace Generator

def ofSeed (seed : Nat) : Generator :=
  ⟨UInt64.ofNat seed⟩

/-- The next 64 bits. -/
def next (generator : Generator) : UInt64 × Generator :=
  let word := generator.word + 0x9E3779B97F4A7C15
  let mixed := (word ^^^ (word >>> 30)) * 0xBF58476D1CE4E5B9
  let mixed := (mixed ^^^ (mixed >>> 27)) * 0x94D049BB133111EB
  (mixed ^^^ (mixed >>> 31), ⟨word⟩)

/-- A number from 0 to `most`. -/
def upTo (most : Nat) (generator : Generator) : Nat × Generator :=
  let (bits, generator) := generator.next
  (bits.toNat % (most + 1), generator)

/-- A number from zero to below one, a multiple of 2^-53. -/
def unit (generator : Generator) : Float × Generator :=
  let (bits, generator) := generator.next
  (Number.ofRatio (bits.toNat / Number.twoPow 11) (Number.twoPow 53), generator)

def source : RandomSource Generator :=
  ⟨upTo, unit⟩

end Generator

/-- What was asked of a source. -/
inductive Draw where
  | upTo (most : Nat)
  | unit
  deriving DecidableEq

def Draw.text : Draw → String
  | .upTo most => "up_to " ++ toString most
  | .unit => "unit"

/-- Draws that follow two lists, each from its start again when it is used up, and the record of
what was asked. -/
structure Rehearsal where
  wholes : List Nat := []
  units : List Float := []
  wholesDrawn : Nat := 0
  unitsDrawn : Nat := 0
  asked : List Draw := []

instance : Inhabited Rehearsal :=
  ⟨{}⟩

namespace Rehearsal

def upTo (most : Nat) (rehearsal : Rehearsal) : Nat × Rehearsal :=
  let planned := rehearsal.wholes[rehearsal.wholesDrawn % rehearsal.wholes.length]?.getD 0
  (min planned most,
    { rehearsal with
      wholesDrawn := rehearsal.wholesDrawn + 1
      asked := rehearsal.asked ++ [.upTo most] })

def unit (rehearsal : Rehearsal) : Float × Rehearsal :=
  let planned := rehearsal.units[rehearsal.unitsDrawn % rehearsal.units.length]?.getD 0
  (planned,
    { rehearsal with
      unitsDrawn := rehearsal.unitsDrawn + 1
      asked := rehearsal.asked ++ [.unit] })

def source : RandomSource Rehearsal :=
  ⟨upTo, unit⟩

end Rehearsal

end FareSearch
