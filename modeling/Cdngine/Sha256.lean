import Mathlib.Algebra.Group.Nat.Defs
import Mathlib.Tactic.Common

/-!
# SHA-256

The SHA-256 digest of a byte sequence, as natural-number arithmetic modulo `2 ^ 32`. The
code under study takes its digests from the platform; this is the digest it gets there,
for use on concrete inputs.
-/

namespace Sha256

/-- The round constants. -/
def roundConstants : List Nat :=
  [0x428a2f98, 0x71374491, 0xb5c0fbcf, 0xe9b5dba5, 0x3956c25b, 0x59f111f1,
    0x923f82a4, 0xab1c5ed5, 0xd807aa98, 0x12835b01, 0x243185be, 0x550c7dc3,
    0x72be5d74, 0x80deb1fe, 0x9bdc06a7, 0xc19bf174, 0xe49b69c1, 0xefbe4786,
    0x0fc19dc6, 0x240ca1cc, 0x2de92c6f, 0x4a7484aa, 0x5cb0a9dc, 0x76f988da,
    0x983e5152, 0xa831c66d, 0xb00327c8, 0xbf597fc7, 0xc6e00bf3, 0xd5a79147,
    0x06ca6351, 0x14292967, 0x27b70a85, 0x2e1b2138, 0x4d2c6dfc, 0x53380d13,
    0x650a7354, 0x766a0abb, 0x81c2c92e, 0x92722c85, 0xa2bfe8a1, 0xa81a664b,
    0xc24b8b70, 0xc76c51a3, 0xd192e819, 0xd6990624, 0xf40e3585, 0x106aa070,
    0x19a4c116, 0x1e376c08, 0x2748774c, 0x34b0bcb5, 0x391c0cb3, 0x4ed8aa4a,
    0x5b9cca4f, 0x682e6ff3, 0x748f82ee, 0x78a5636f, 0x84c87814, 0x8cc70208,
    0x90befffa, 0xa4506ceb, 0xbef9a3f7, 0xc67178f2]

/-- The eight working words. -/
structure Words where
  a : Nat
  b : Nat
  c : Nat
  d : Nat
  e : Nat
  f : Nat
  g : Nat
  h : Nat

/-- The initial hash value. -/
def initial : Words :=
  ⟨0x6a09e667, 0xbb67ae85, 0x3c6ef372, 0xa54ff53a, 0x510e527f, 0x9b05688c, 0x1f83d9ab, 0x5be0cd19⟩

/-- Addition modulo `2 ^ 32`. -/
def add32 (x y : Nat) : Nat := (x + y) % 2 ^ 32

/-- Rotation to the right. -/
def rotateRight (x n : Nat) : Nat := ((x >>> n) ||| (x <<< (32 - n))) % 2 ^ 32

/-- The bitwise complement. -/
def complement (x : Nat) : Nat := 2 ^ 32 - 1 - x

def choose (x y z : Nat) : Nat := (x &&& y) ^^^ (complement x &&& z)

def majority (x y z : Nat) : Nat := (x &&& y) ^^^ (x &&& z) ^^^ (y &&& z)

def bigSigma0 (x : Nat) : Nat := rotateRight x 2 ^^^ rotateRight x 13 ^^^ rotateRight x 22

def bigSigma1 (x : Nat) : Nat := rotateRight x 6 ^^^ rotateRight x 11 ^^^ rotateRight x 25

def smallSigma0 (x : Nat) : Nat := rotateRight x 7 ^^^ rotateRight x 18 ^^^ (x >>> 3)

def smallSigma1 (x : Nat) : Nat := rotateRight x 17 ^^^ rotateRight x 19 ^^^ (x >>> 10)

/-- A byte sequence padded to whole blocks. -/
def pad (bytes : List UInt8) : List Nat :=
  let length := bytes.length
  let zeros := (119 - length % 64) % 64
  bytes.map UInt8.toNat ++ 0x80 :: List.replicate zeros 0 ++
    (List.range 8).map fun i => (8 * length) >>> (8 * (7 - i)) % 256

/-- The sixteen words of a block. -/
def blockWords (block : List Nat) : List Nat :=
  (List.range 16).map fun i =>
    ((block.drop (4 * i)).take 4).foldl (fun word byte => 256 * word + byte) 0

/-- Extend the message schedule by `n` words; the words are kept latest first. -/
def extend : Nat → List Nat → List Nat
  | 0, words => words
  | n + 1, words =>
      let word i := words.getD i 0
      extend n
        (add32 (add32 (smallSigma1 (word 1)) (word 6)) (add32 (smallSigma0 (word 14)) (word 15)) ::
          words)

/-- One round of the compression function. -/
def round (s : Words) (constant word : Nat) : Words :=
  let t1 := add32 (add32 s.h (bigSigma1 s.e)) (add32 (choose s.e s.f s.g) (add32 constant word))
  let t2 := add32 (bigSigma0 s.a) (majority s.a s.b s.c)
  ⟨add32 t1 t2, s.a, s.b, s.c, add32 s.d t1, s.e, s.f, s.g⟩

/-- The compression function. -/
def compress (s : Words) (block : List Nat) : Words :=
  let schedule := (extend 48 (blockWords block).reverse).reverse
  let r := (roundConstants.zip schedule).foldl (fun r kw => round r kw.1 kw.2) s
  ⟨add32 s.a r.a, add32 s.b r.b, add32 s.c r.c, add32 s.d r.d, add32 s.e r.e, add32 s.f r.f,
    add32 s.g r.g, add32 s.h r.h⟩

/-- A hexadecimal digit. -/
def hexDigit (n : Nat) : Char := Char.ofNat (if n < 10 then 0x30 + n else 0x57 + n)

/-- The eight hexadecimal digits of a word. -/
def hexWord (word : Nat) : List Char :=
  (List.range 8).map fun i => hexDigit (word >>> (4 * (7 - i)) % 16)

/-- The SHA-256 digest of a byte sequence, in hexadecimal. -/
def hex (bytes : List UInt8) : String :=
  let padded := pad bytes
  let blocks := (List.range (padded.length / 64)).map fun i => (padded.drop (64 * i)).take 64
  let s := blocks.foldl compress initial
  String.ofList ([s.a, s.b, s.c, s.d, s.e, s.f, s.g, s.h].flatMap hexWord)

theorem length_hex (bytes : List UInt8) : (hex bytes).length = 64 := by
  simp [hex, hexWord]

theorem mem_hex {bytes : List UInt8} {c : Char} (hc : c ∈ (hex bytes).toList) :
    ∃ n < 16, c = hexDigit n := by
  simp only [hex, String.toList_ofList, List.mem_flatMap] at hc
  obtain ⟨word, -, hc⟩ := hc
  obtain ⟨i, -, rfl⟩ := List.mem_map.mp hc
  exact ⟨_, Nat.mod_lt _ (by decide), rfl⟩

end Sha256
