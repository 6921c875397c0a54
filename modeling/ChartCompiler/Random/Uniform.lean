import ChartCompiler.Field.Kind
import ChartCompiler.Random.Seed
import ChartCompiler.Value.Access

/-!
# Uniform random numbers

A permuted congruential generator: a 128-bit state goes through a linear recurrence, and each state
gives 64 bits by folding its halves and rotating them by its top six bits. The upper 53 of these
bits are a number between zero and one.

Offsets are such numbers, multiplied by a spread. One number is the spread of all of them; a list
gives each offset a spread of its own, and a list of one number counts as that number.
-/

namespace ChartCompiler.Random

open scoped ChartCompiler.CorePower

/-- The state of the generator, below `2 ^ 128`, and the increment of its recurrence. -/
structure Generator where
  state : Nat
  increment : Nat

namespace Generator

def modulus : Nat := 2 ^ (128 : Nat)

def multiplier : Nat := 0x2360ed051fc65da44385df649fccf645

/-- Goes on to the next state. -/
def advance (generator : Generator) : Generator :=
  { generator with
    state := (generator.state * multiplier + generator.increment) % modulus }

/-- The 64 bits that a state gives. -/
def bits (generator : Generator) : Nat :=
  let folded := (generator.state / 2 ^ (64 : Nat)) ^^^ (generator.state % 2 ^ (64 : Nat))
  let turn := generator.state / 2 ^ (122 : Nat)
  (folded / 2 ^ turn + folded * 2 ^ (64 - turn)) % 2 ^ (64 : Nat)

/-- The number of 128 bits that four words hold, the upper half first and in each half the lower
word first. -/
def wide : List UInt32 → Nat
  | [second, first, fourth, third] =>
      ((first.toNat * 2 ^ (32 : Nat) + second.toNat) * 2 ^ (32 : Nat) + third.toNat) *
        2 ^ (32 : Nat) + fourth.toNat
  | _ => 0

/-- The generator of a seed. -/
def ofSeed (seed : Value) : Except Failure Generator := do
  let words := drawWords (pool (← seedWords seed)) 8
  let start := wide (words.take 4)
  let increment := (2 * wide (words.drop 4) + 1) % modulus
  let first : Generator := ⟨(increment + start) % modulus, increment⟩
  return first.advance

/-- The next `count` outcomes of 53 bits. -/
def draw (generator : Generator) : Nat → List Nat
  | 0 => []
  | count + 1 =>
      let next := generator.advance
      next.bits / 2 ^ 11 :: next.draw count

end Generator

/-- The number between zero and one that 53 bits stand for. -/
def unitInterval (outcome : Nat) : Binary64 := .ofUnits false (outcome * 2 ^ (1021 : Nat))

/-! ## Spreads -/

/-- Whether a value multiplies offsets as text, which it cannot. -/
def isTextual (spread : Value) : Bool :=
  spread.elementTypes.any (·.isText) || spread.entries.any fun entry => match entry with
    | .text _ | .bytes _ => true
    | _ => false

/-- An entry of a spread as a factor. -/
def factorOf (entry : Value) : Except Failure Binary64 :=
  match entry with
  | .bool _ | .number _ => entry.toReal
  | _ => .error .unsupportedKind

/-- The factors for a number of offsets, from the entries of a list of a length. -/
def spreadOver (count length : Nat) (factors : List Binary64) : Except Failure (List Binary64) :=
  if length = 1 then .ok (List.replicate count (factors.headD .zero))
  else if length = count then .ok factors
  else if count = 1 then .ok (factors.take 1)
  else .error .unusableValue

/-- The factors that a spread gives to a number of offsets. A list of lists has a row for each
offset where a number has to be. -/
def factors (spread : Value) (count : Nat) : Except Failure (List Binary64) :=
  match spread.extents? with
  | none => .error .unusableValue
  | some extents =>
      if isTextual spread && !spread.entries.any Value.isMixing then .error .unsupportedElements
      else do
        let _ ← spreadOver count (extents.getLastD 1) []
        let factors ← spread.entries.mapM factorOf
        match extents with
        | [] => spreadOver count 1 factors
        | [length] => spreadOver count length factors
        | 0 :: _ => return []
        | _ => .error .unsupportedKind

/-- Random offsets, uniform between minus and plus half of a spread. -/
def offsets (seed : Value) (count : Nat) (spread : Value) : Except Failure (List Binary64) := do
  let generator ← Generator.ofSeed seed
  let factors ← factors spread count
  return ((generator.draw count).zip factors).map fun (outcome, factor) =>
    (unitInterval outcome - 0.5) * factor

end ChartCompiler.Random
