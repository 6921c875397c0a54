import ChartCompiler.Value.Access

/-!
# Seeds of random generators

A seed is a whole number of any size, or a list of seeds; in a list a text may stand for a number.
Its 32-bit words are hashed into a pool of four words, and the pool is hashed again into as many
words as a generator needs. Each hash multiplies by a constant that itself changes from word to
word.
-/

namespace ChartCompiler.Random

/-- The 32-bit words of a whole number, least significant first; at least one. -/
def wordsOf (number : Nat) : List UInt32 :=
  (List.range (number.log2 / 32 + 1)).map fun place => UInt32.ofNat (number >>> (32 * place))

/-- The number that a text stands for in a list of seeds: hexadecimal digits after `0x`, or decimal
ones. -/
def textSeed? (content : String) : Option Int :=
  match content.toList with
  | '0' :: 'x' :: digits => (Text.readHexadecimal? (Text.asciiForm digits)).map Int.ofNat
  | first :: _ => if first.isDigit then Text.whole? content else none
  | [] => none

def wordsOfInt (number : Int) : Except Failure (List UInt32) :=
  match number with
  | .ofNat size => .ok (wordsOf size)
  | .negSucc _ => .error .unusableValue

/-- The words of a text in a list of seeds. -/
def textWords (content : String) : Except Failure (List UInt32) :=
  match textSeed? content with
  | some number => wordsOfInt number
  | none => .error .unusableValue

/-- The words of an element of an array; real numbers and truth values are no seeds. -/
def elementWords : Value → Except Failure (List UInt32)
  | .number (.whole number) => wordsOfInt number
  | .text content => textWords content
  | _ => .error .unsupportedKind

mutual

/-- The words of a part of a seed. -/
def partWords : Value → Except Failure (List UInt32)
  | .number (.whole number) => wordsOfInt number
  | .bool value => .ok (wordsOf (if value then 1 else 0))
  | .text content => textWords content
  | .list items | .tuple items | .set items => listWords items
  | .array _ _ items => do return (← items.mapM elementWords).flatten
  | .bytes codes => .ok (codes.flatMap fun code => wordsOf code.toNat)
  | .map members => do return (← members.mapM fun member => textWords member.1).flatten
  | .null | .number (.real _) => .error .unsupportedKind

def listWords : List Value → Except Failure (List UInt32)
  | [] => .ok []
  | item :: rest => do return (← partWords item) ++ (← listWords rest)

end

/-- The words of a seed: a whole number, or a list of parts. -/
def seedWords (seed : Value) : Except Failure (List UInt32) :=
  match seed with
  | .number (.whole _) | .bool _ | .list _ | .tuple _ | .array _ _ _ => partWords seed
  | _ => .error .unsupportedKind

/-! ## Hashing -/

/-- A hash in progress: the current constant, and the factor by which it changes. -/
structure Hash where
  constant : UInt32
  factor : UInt32

/-- Folds the upper half of a word into the lower one. -/
def fold (word : UInt32) : UInt32 := word ^^^ (word >>> 16)

/-- Hashes a word and goes on to the next constant. -/
def Hash.next (hash : Hash) (word : UInt32) : UInt32 × Hash :=
  let constant := hash.constant * hash.factor
  (fold ((word ^^^ hash.constant) * constant), { hash with constant })

/-- Mixes a hashed word into a word of the pool. -/
def mix (word hashed : UInt32) : UInt32 :=
  fold (0xca01f9dd * word - 0x4973f715 * hashed)

/-- Hashes words one after the other. -/
def Hash.all (hash : Hash) : List UInt32 → List UInt32 × Hash
  | [] => ([], hash)
  | word :: rest =>
      let (hashed, following) := hash.next word
      let (others, last) := following.all rest
      (hashed :: others, last)

/-- Mixes a word into all words of the pool but the one at the place `except?`. -/
def mixInto (except? : Option Nat) (word : UInt32) (hash : Hash) :
    Nat → List UInt32 → List UInt32 × Hash
  | _, [] => ([], hash)
  | place, target :: rest =>
      if except? = some place then
        let (others, last) := mixInto except? word hash (place + 1) rest
        (target :: others, last)
      else
        let (hashed, following) := hash.next word
        let (others, last) := mixInto except? word following (place + 1) rest
        (mix target hashed :: others, last)

/-- The number of words in the pool. -/
def poolSize : Nat := 4

/-- Mixes each word of the pool into the others. -/
def mixPool (pool : List UInt32) (hash : Hash) : List UInt32 × Hash :=
  (List.range poolSize).foldl
    (fun (pool, hash) place => mixInto (some place) (pool.getD place 0) hash 0 pool) (pool, hash)

/-- The pool of a seed. -/
def pool (words : List UInt32) : List UInt32 :=
  let first := words.take poolSize ++ List.replicate (poolSize - words.length) 0
  let (hashed, hash) := Hash.all ⟨0x43b0d7e5, 0x931e8875⟩ first
  ((words.drop poolSize).foldl (fun (pool, hash) word => mixInto none word hash 0 pool)
    (mixPool hashed hash)).1

/-- The first `count` words drawn from a pool, which is gone through again and again. -/
def drawWords (pool : List UInt32) (count : Nat) : List UInt32 :=
  (Hash.all ⟨0x8b51f9dd, 0x58f38ded⟩
    ((List.range count).map fun place => pool.getD (place % poolSize) 0)).1

end ChartCompiler.Random
