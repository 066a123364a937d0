import OAuthClient.Octets

/-!
# Digests

The digests with 256, 384 and 512 bits of the second generation of the secure hash algorithm. All
three are one construction over words of 32 or 64 bits, whose constants are bits of roots of the
first primes.

## Main declarations

* `Sha2`: what the three digests differ in.
* `Sha2.digest`: the digest of a message.
* `Digest`: the three digests; `Digest.hash` is the digest of a message.
-/

namespace OAuthClient

-- Powers are those of core, whatever else is imported.
attribute [local instance (high)] instPowNat

/-! ### Constants -/

/-- The largest number that exceeds `r` by less than `2 ^ bits` and whose `k`-th power is at most
`n`, if that of `r` is. -/
def floorRoot (k n : Nat) : Nat → Nat → Nat
  | 0, r => r
  | bits + 1, r => floorRoot k n bits (if (r + 2 ^ bits) ^ k ≤ n then r + 2 ^ bits else r)

/-- The first `w` bits after the point of the `k`-th root of `p`. -/
def rootFraction (w k p : Nat) : BitVec w :=
  BitVec.ofNat w (floorRoot k (p * 2 ^ (k * w)) (w + 5) 0)

/-- Whether a number below 441 is prime: no smaller number up to 20 divides it. -/
def isPrime (n : Nat) : Bool :=
  2 ≤ n && (List.range 21).all fun d => d < 2 || n ≤ d || n % d ≠ 0

/-- The first eighty primes. -/
def firstPrimes : List Nat := (List.range 410).filter isPrime

example : firstPrimes.length = 80 := by decide +kernel

/-! ### The construction -/

/-- Amounts of bits: two rotations, and a third rotation or a shift. -/
structure BitMoves where
  first : Nat
  second : Nat
  third : Nat

/-- What a digest over words of `w` bits consists of. -/
structure Sha2 (w : Nat) where
  /-- The number of rounds for a block. -/
  rounds : Nat
  /-- Rotations of the first and of the fifth working word. -/
  bigSigma0 : BitMoves
  bigSigma1 : BitMoves
  /-- Rotations and a shift of words of the schedule. -/
  smallSigma0 : BitMoves
  smallSigma1 : BitMoves
  /-- The words before the first block. -/
  start : List (BitVec w)
  /-- The number of words of the digest. -/
  size : Nat

namespace Sha2

variable {w : Nat}

/-- The sum of three rotations. -/
def rotations (m : BitMoves) (x : BitVec w) : BitVec w :=
  x.rotateRight m.first ^^^ x.rotateRight m.second ^^^ x.rotateRight m.third

/-- The sum of two rotations and a shift. -/
def rotationsShift (m : BitMoves) (x : BitVec w) : BitVec w :=
  x.rotateRight m.first ^^^ x.rotateRight m.second ^^^ (x >>> m.third)

/-- The eight working words. -/
structure Working (w : Nat) where
  a : BitVec w
  b : BitVec w
  c : BitVec w
  d : BitVec w
  e : BitVec w
  f : BitVec w
  g : BitVec w
  h : BitVec w

/-- One round, with a constant and a word of the schedule. -/
def Working.next (v : Sha2 w) (s : Working w) (constant word : BitVec w) : Working w :=
  let choice := (s.e &&& s.f) ^^^ (~~~s.e &&& s.g)
  let majority := (s.a &&& s.b) ^^^ (s.a &&& s.c) ^^^ (s.b &&& s.c)
  let t1 := s.h + rotations v.bigSigma1 s.e + choice + constant + word
  let t2 := rotations v.bigSigma0 s.a + majority
  { a := t1 + t2, b := s.a, c := s.b, d := s.c, e := s.d + t1, f := s.e, g := s.f, h := s.g }

/-- The word of the schedule that follows sixteen words. -/
def nextWord (v : Sha2 w) (window : List (BitVec w)) : BitVec w :=
  let word (i : Nat) : BitVec w := window[i]?.getD 0
  rotationsShift v.smallSigma1 (word 14) + word 9 + rotationsShift v.smallSigma0 (word 1) + word 0

/-- The rounds with given constants; `window` holds the next sixteen words of the schedule. -/
def runRounds (v : Sha2 w) (s : Working w) (window : List (BitVec w)) :
    List (BitVec w) → Working w
  | [] => s
  | constant :: constants =>
    let word := window.headD 0
    runRounds v (s.next v constant word) (window.drop 1 ++ [nextWord v window]) constants

/-- The words after a block from those before it. -/
def compress (v : Sha2 w) (constants words block : List (BitVec w)) : List (BitVec w) :=
  match words with
  | [a, b, c, d, e, f, g, h] =>
    let s := runRounds v { a, b, c, d, e, f, g, h } block constants
    [a + s.a, b + s.b, c + s.c, d + s.d, e + s.e, f + s.f, g + s.g, h + s.h]
  | _ => words

/-- The message with what fills its last block: a set bit, clear bits, the number of its bits. -/
def pad (w : Nat) (message : List UInt8) : List UInt8 :=
  let block := 2 * w
  let lengthSize := w / 4
  let free := (block - (message.length + 1 + lengthSize) % block) % block
  message ++ 0x80 :: List.replicate free 0 ++ Octets.ofNat lengthSize (8 * message.length)

/-- The digest of a message. -/
def digest (v : Sha2 w) (message : List UInt8) : List UInt8 :=
  let constants := (firstPrimes.take v.rounds).map (rootFraction w 3)
  let words := (Octets.groups (w / 8) (pad w message)).map fun g => BitVec.ofNat w (Octets.toNat g)
  let final := (Octets.groups 16 words).foldl (compress v constants) v.start
  (final.take v.size).flatMap fun x => Octets.ofNat (w / 8) x.toNat

end Sha2

/-! ### The digests -/

/-- The digest of eight words of 32 bits. -/
def sha256 : Sha2 32 where
  rounds := 64
  bigSigma0 := ⟨2, 13, 22⟩
  bigSigma1 := ⟨6, 11, 25⟩
  smallSigma0 := ⟨7, 18, 3⟩
  smallSigma1 := ⟨17, 19, 10⟩
  start := (firstPrimes.take 8).map (rootFraction 32 2)
  size := 8

/-- The digest of eight words of 64 bits. -/
def sha512 : Sha2 64 where
  rounds := 80
  bigSigma0 := ⟨28, 34, 39⟩
  bigSigma1 := ⟨14, 18, 41⟩
  smallSigma0 := ⟨1, 8, 7⟩
  smallSigma1 := ⟨19, 61, 6⟩
  start := (firstPrimes.take 8).map (rootFraction 64 2)
  size := 8

/-- The digest of six words of 64 bits, with a start of its own. -/
def sha384 : Sha2 64 :=
  { sha512 with start := ((firstPrimes.drop 8).take 8).map (rootFraction 64 2), size := 6 }

/-- The digests. -/
inductive Digest where
  | sha256 | sha384 | sha512
  deriving DecidableEq, Repr

/-- The digest of a message. -/
def Digest.hash : Digest → List UInt8 → List UInt8
  | sha256, message => OAuthClient.sha256.digest message
  | sha384, message => OAuthClient.sha384.digest message
  | sha512, message => OAuthClient.sha512.digest message

/-- The number of octets of a digest. -/
def Digest.size : Digest → Nat
  | sha256 => 32
  | sha384 => 48
  | sha512 => 64

end OAuthClient
