import WebhookMonitor.Python.Bytes
import WebhookMonitor.Python.Integer

/-!
# SHA-256 and HMAC

`hashlib.sha256(data).hexdigest()` and `hmac.new(key, data, sha256).hexdigest()`,
after FIPS 180-4 and RFC 2104.
-/

namespace Python

/-- The first 32 bits of the fractional parts of the cube roots of the first 64
primes. -/
def sha256Constants : List UInt32 :=
  [0x428a2f98, 0x71374491, 0xb5c0fbcf, 0xe9b5dba5, 0x3956c25b, 0x59f111f1, 0x923f82a4, 0xab1c5ed5,
    0xd807aa98, 0x12835b01, 0x243185be, 0x550c7dc3, 0x72be5d74, 0x80deb1fe, 0x9bdc06a7, 0xc19bf174,
    0xe49b69c1, 0xefbe4786, 0x0fc19dc6, 0x240ca1cc, 0x2de92c6f, 0x4a7484aa, 0x5cb0a9dc, 0x76f988da,
    0x983e5152, 0xa831c66d, 0xb00327c8, 0xbf597fc7, 0xc6e00bf3, 0xd5a79147, 0x06ca6351, 0x14292967,
    0x27b70a85, 0x2e1b2138, 0x4d2c6dfc, 0x53380d13, 0x650a7354, 0x766a0abb, 0x81c2c92e, 0x92722c85,
    0xa2bfe8a1, 0xa81a664b, 0xc24b8b70, 0xc76c51a3, 0xd192e819, 0xd6990624, 0xf40e3585, 0x106aa070,
    0x19a4c116, 0x1e376c08, 0x2748774c, 0x34b0bcb5, 0x391c0cb3, 0x4ed8aa4a, 0x5b9cca4f, 0x682e6ff3,
    0x748f82ee, 0x78a5636f, 0x84c87814, 0x8cc70208, 0x90befffa, 0xa4506ceb, 0xbef9a3f7, 0xc67178f2]

/-- The eight working variables. -/
structure Sha256State where
  a : UInt32
  b : UInt32
  c : UInt32
  d : UInt32
  e : UInt32
  f : UInt32
  g : UInt32
  h : UInt32

def sha256Initial : Sha256State :=
  ⟨0x6a09e667, 0xbb67ae85, 0x3c6ef372, 0xa54ff53a, 0x510e527f, 0x9b05688c, 0x1f83d9ab, 0x5be0cd19⟩

def rotr (x : UInt32) (n : UInt32) : UInt32 := (x >>> n) ||| (x <<< (32 - n))

/-- The next word of the message schedule, given the last sixteen. -/
def scheduleWord (w : List UInt32) : UInt32 :=
  let x := w.getD 1 0
  let y := w.getD 14 0
  let s0 := rotr x 7 ^^^ rotr x 18 ^^^ (x >>> 3)
  let s1 := rotr y 17 ^^^ rotr y 19 ^^^ (y >>> 10)
  w.getD 0 0 + s0 + w.getD 9 0 + s1

/-- One round with schedule word `w` and constant `k`. -/
def sha256Round (s : Sha256State) (w k : UInt32) : Sha256State :=
  let s1 := rotr s.e 6 ^^^ rotr s.e 11 ^^^ rotr s.e 25
  let ch := (s.e &&& s.f) ^^^ ((~~~ s.e) &&& s.g)
  let t1 := s.h + s1 + ch + k + w
  let s0 := rotr s.a 2 ^^^ rotr s.a 13 ^^^ rotr s.a 22
  let maj := (s.a &&& s.b) ^^^ (s.a &&& s.c) ^^^ (s.b &&& s.c)
  ⟨t1 + (s0 + maj), s.a, s.b, s.c, s.d + t1, s.e, s.f, s.g⟩

/-- The rounds for the given constants; `w` holds the sixteen schedule words
from this round on. -/
def sha256Rounds : List UInt32 → List UInt32 → Sha256State → Sha256State
  | [], _, s => s
  | k :: ks, w, s =>
      sha256Rounds ks (w.drop 1 ++ [scheduleWord w]) (sha256Round s (w.getD 0 0) k)

def Sha256State.add (s t : Sha256State) : Sha256State :=
  ⟨s.a + t.a, s.b + t.b, s.c + t.c, s.d + t.d, s.e + t.e, s.f + t.f, s.g + t.g, s.h + t.h⟩

/-- Big-endian words of a byte string. -/
def wordsOfBytes : Bytes → List UInt32
  | a :: b :: c :: d :: rest =>
      UInt32.ofNat (((a.toNat * 256 + b.toNat) * 256 + c.toNat) * 256 + d.toNat) ::
        wordsOfBytes rest
  | _ => []

/-- The compression of the first `n` blocks of 64 bytes. -/
def sha256Blocks : ℕ → Bytes → Sha256State → Sha256State
  | 0, _, s => s
  | n + 1, bs, s =>
      sha256Blocks n (bs.drop 64)
        (s.add (sha256Rounds sha256Constants (wordsOfBytes (bs.take 64)) s))

def bytesOfWord (w : UInt32) : Bytes :=
  let n := w.toNat
  [UInt8.ofNat (n / 0x1000000), UInt8.ofNat (n / 0x10000), UInt8.ofNat (n / 0x100),
    UInt8.ofNat n]

/-- The padding: a one bit, zeros up to eight bytes short of a block, and the
length in bits. -/
def sha256Pad (bs : Bytes) : Bytes :=
  let n := bs.length
  let zeros := (119 - n % 64) % 64
  let bits := 8 * n
  bs ++ [0x80] ++ List.replicate zeros 0 ++
    bytesOfWord (UInt32.ofNat (bits / 2 ^ 32)) ++ bytesOfWord (UInt32.ofNat bits)

/-- `hashlib.sha256(data).digest()`. -/
def sha256 (data : Bytes) : Bytes :=
  let padded := sha256Pad data
  let s := sha256Blocks (padded.length / 64) padded sha256Initial
  bytesOfWord s.a ++ bytesOfWord s.b ++ bytesOfWord s.c ++ bytesOfWord s.d ++
    bytesOfWord s.e ++ bytesOfWord s.f ++ bytesOfWord s.g ++ bytesOfWord s.h

/-- `hmac.new(key, data, hashlib.sha256).digest()`. -/
def hmacSha256 (key data : Bytes) : Bytes :=
  let key := if 64 < key.length then sha256 key else key
  let block := key ++ List.replicate (64 - key.length) 0
  sha256 (block.map (· ^^^ 0x5C) ++ sha256 (block.map (· ^^^ 0x36) ++ data))

/-- `digest.hex()`. -/
def hexdigest (digest : Bytes) : Str :=
  digest.flatMap fun b => [hexDigit (b.toNat / 16), hexDigit (b.toNat % 16)]

/-! ## The text of a digest -/

@[simp] theorem length_bytesOfWord (w : UInt32) : (bytesOfWord w).length = 4 := rfl

@[simp] theorem length_sha256 (data : Bytes) : (sha256 data).length = 32 := by
  simp [sha256]

@[simp] theorem length_hmacSha256 (key data : Bytes) : (hmacSha256 key data).length = 32 :=
  length_sha256 _

theorem length_hexdigest (digest : Bytes) : (hexdigest digest).length = 2 * digest.length := by
  induction digest with
  | nil => rfl
  | cons b rest ih =>
      rw [hexdigest] at ih ⊢
      rw [List.flatMap_cons, List.length_append, ih, List.length_cons, List.length_cons,
        List.length_cons, List.length_nil]
      omega

/-- A digest is written in hexadecimal digits. -/
theorem mem_hexdigest {digest : Bytes} {c : CodePoint} (mem : c ∈ hexdigest digest) :
    ∃ d < 16, c = hexDigit d := by
  obtain ⟨b, -, hc⟩ := List.mem_flatMap.mp mem
  have hb := b.toNat_lt
  simp only [List.mem_cons, List.not_mem_nil, or_false] at hc
  rcases hc with rfl | rfl
  · exact ⟨_, by omega, rfl⟩
  · exact ⟨_, by omega, rfl⟩

theorem isAscii_hexdigest (digest : Bytes) : isAscii (hexdigest digest) = true := by
  have small : ∀ d < 16, (hexDigit d).val < 0x80 := by decide
  rw [isAscii_iff]
  intro c hc
  obtain ⟨d, hd, rfl⟩ := mem_hexdigest hc
  exact small d hd

end Python
