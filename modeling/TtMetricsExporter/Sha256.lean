import Mathlib
/-!
# Sha256 — `hashlib.sha256(message).hexdigest()`

SHA-256 on lists of bytes.  Each round takes the first word of a window of sixteen and appends the next one, so the
message schedule is never written out.
-/
namespace Sha256

/-! ## The function -/

structure Words where
  a : UInt32
  b : UInt32
  c : UInt32
  d : UInt32
  e : UInt32
  f : UInt32
  g : UInt32
  h : UInt32
  deriving DecidableEq

def initial : Words :=
  ⟨0x6a09e667, 0xbb67ae85, 0x3c6ef372, 0xa54ff53a, 0x510e527f, 0x9b05688c, 0x1f83d9ab, 0x5be0cd19⟩

/-- The round constants. -/
def constants : List UInt32 :=
  [0x428a2f98, 0x71374491, 0xb5c0fbcf, 0xe9b5dba5, 0x3956c25b, 0x59f111f1, 0x923f82a4, 0xab1c5ed5,
    0xd807aa98, 0x12835b01, 0x243185be, 0x550c7dc3, 0x72be5d74, 0x80deb1fe, 0x9bdc06a7, 0xc19bf174,
    0xe49b69c1, 0xefbe4786, 0x0fc19dc6, 0x240ca1cc, 0x2de92c6f, 0x4a7484aa, 0x5cb0a9dc, 0x76f988da,
    0x983e5152, 0xa831c66d, 0xb00327c8, 0xbf597fc7, 0xc6e00bf3, 0xd5a79147, 0x06ca6351, 0x14292967,
    0x27b70a85, 0x2e1b2138, 0x4d2c6dfc, 0x53380d13, 0x650a7354, 0x766a0abb, 0x81c2c92e, 0x92722c85,
    0xa2bfe8a1, 0xa81a664b, 0xc24b8b70, 0xc76c51a3, 0xd192e819, 0xd6990624, 0xf40e3585, 0x106aa070,
    0x19a4c116, 0x1e376c08, 0x2748774c, 0x34b0bcb5, 0x391c0cb3, 0x4ed8aa4a, 0x5b9cca4f, 0x682e6ff3,
    0x748f82ee, 0x78a5636f, 0x84c87814, 0x8cc70208, 0x90befffa, 0xa4506ceb, 0xbef9a3f7, 0xc67178f2]

def rotateRight (x n : UInt32) : UInt32 := (x >>> n) ||| (x <<< (32 - n))

/-- The next word of the schedule after a window of sixteen. -/
def nextWord (window : List UInt32) : UInt32 :=
  let w := fun i => window.getD i 0
  let s₀ := rotateRight (w 1) 7 ^^^ rotateRight (w 1) 18 ^^^ (w 1 >>> 3)
  let s₁ := rotateRight (w 14) 17 ^^^ rotateRight (w 14) 19 ^^^ (w 14 >>> 10)
  w 0 + s₀ + w 9 + s₁

def round (s : Words) (constant word : UInt32) : Words :=
  let s₁ := rotateRight s.e 6 ^^^ rotateRight s.e 11 ^^^ rotateRight s.e 25
  let choice := (s.e &&& s.f) ^^^ (~~~s.e &&& s.g)
  let t₁ := s.h + s₁ + choice + constant + word
  let s₀ := rotateRight s.a 2 ^^^ rotateRight s.a 13 ^^^ rotateRight s.a 22
  let majority := (s.a &&& s.b) ^^^ (s.a &&& s.c) ^^^ (s.b &&& s.c)
  ⟨t₁ + (s₀ + majority), s.a, s.b, s.c, s.d + t₁, s.e, s.f, s.g⟩

def rounds : List UInt32 → List UInt32 → Words → Words
  | [], _, s => s
  | constant :: rest, window, s =>
    rounds rest (window.tail ++ [nextWord window]) (round s constant (window.headD 0))

/-- One block of sixteen words. -/
def compress (s : Words) (block : List UInt32) : Words :=
  let t := rounds constants block s
  ⟨s.a + t.a, s.b + t.b, s.c + t.c, s.d + t.d, s.e + t.e, s.f + t.f, s.g + t.g, s.h + t.h⟩

/-! ## Bytes -/

/-- The message, a bit, zeros up to a whole block, and the message's length in bits. -/
def pad (message : List UInt8) : List UInt8 :=
  message ++ 0x80 :: List.replicate ((119 - message.length % 64) % 64) 0 ++
    (List.range 8).map (fun i => UInt8.ofNat (8 * message.length / 256 ^ (7 - i)))

/-- The big-endian words of some bytes. -/
def words : List UInt8 → List UInt32
  | b₀ :: b₁ :: b₂ :: b₃ :: rest =>
    ((b₀.toUInt32 <<< 24) ||| (b₁.toUInt32 <<< 16) ||| (b₂.toUInt32 <<< 8) ||| b₃.toUInt32) :: words rest
  | _ => []

def digest (message : List UInt8) : Words :=
  let message := words (pad message)
  (List.range (message.length / 16)).foldl (fun s i => compress s ((message.drop (16 * i)).take 16)) initial

/-- The eight digits of a word. -/
def hexWord (w : UInt32) : List Char := (List.range 8).map (fun i => Nat.digitChar (w.toNat / 16 ^ (7 - i) % 16))

def hexDigest (message : List UInt8) : List Char :=
  let s := digest message
  [s.a, s.b, s.c, s.d, s.e, s.f, s.g, s.h].flatMap hexWord

/-! ## The digest's text -/

theorem length_hexDigest (message : List UInt8) : (hexDigest message).length = 64 := by
  simp [hexDigest, hexWord]

/-- **A digest is written in lower-case hexadecimal digits.** -/
theorem mem_hexDigest {message : List UInt8} {c : Char} (h : c ∈ hexDigest message) : ∃ n < 16, c = Nat.digitChar n := by
  unfold hexDigest at h
  obtain ⟨w, -, hc⟩ := List.mem_flatMap.1 h
  obtain ⟨i, -, rfl⟩ := List.mem_map.1 hc
  exact ⟨_, Nat.mod_lt _ (by decide), rfl⟩

example : (hexDigest [0x61, 0x62, 0x63]).take 8 = "ba7816bf".toList := by decide +kernel

end Sha256
