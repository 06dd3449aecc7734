/-!
# SHA-1

The digest of twenty bytes of the Secure Hash Standard. The message is padded to blocks of 64 bytes;
each block is spread to eighty words, and eighty rounds mix it into a chain of five words.
-/
namespace FeatureToggle

/-- Twenty bytes. -/
abbrev Digest := Vector UInt8 20

namespace Sha1

structure Chain where
  a : UInt32
  b : UInt32
  c : UInt32
  d : UInt32
  e : UInt32

def initial : Chain := ⟨0x67452301, 0xefcdab89, 0x98badcfe, 0x10325476, 0xc3d2e1f0⟩

def rotateLeft (x : UInt32) (n : UInt32) : UInt32 := (x <<< n) ||| (x >>> (32 - n))

/-- The message, a one bit, zeros, and the length in bits as eight bytes. -/
def padded (message : List UInt8) : List UInt8 :=
  let length := message.length
  let zeros := (119 - length % 64) % 64
  let bits := length * 8
  let lengthBytes := (List.range 8).map fun i => UInt8.ofNat (bits >>> (8 * (7 - i)))
  message ++ [0x80] ++ List.replicate zeros 0 ++ lengthBytes

/-- The words that the bytes form, the most significant byte first. -/
def words : List UInt8 → List UInt32
  | a :: b :: c :: d :: rest =>
    (a.toUInt32 <<< 24 ||| b.toUInt32 <<< 16 ||| c.toUInt32 <<< 8 ||| d.toUInt32) :: words rest
  | _ => []

/-- The sixteen words of a block, and 64 more of which each is mixed from four before it. -/
def schedule (block : List UInt32) : Array UInt32 :=
  (List.range 64).foldl
    (fun w i =>
      w.push (rotateLeft (w.getD (i + 13) 0 ^^^ w.getD (i + 8) 0 ^^^ w.getD (i + 2) 0 ^^^ w.getD i 0) 1))
    block.toArray

/-- The mixing function and the constant of a round. -/
def roundFunction (round : Nat) (x y z : UInt32) : UInt32 × UInt32 :=
  if round < 20 then ((x &&& y) ||| (~~~x &&& z), 0x5a827999)
  else if round < 40 then (x ^^^ y ^^^ z, 0x6ed9eba1)
  else if round < 60 then ((x &&& y) ||| (x &&& z) ||| (y &&& z), 0x8f1bbcdc)
  else (x ^^^ y ^^^ z, 0xca62c1d6)

def step (w : Array UInt32) (s : Chain) (round : Nat) : Chain :=
  let (f, k) := roundFunction round s.b s.c s.d
  ⟨rotateLeft s.a 5 + f + s.e + k + w.getD round 0, s.a, rotateLeft s.b 30, s.c, s.d⟩

def compress (h : Chain) (block : List UInt32) : Chain :=
  let s := (List.range 80).foldl (step (schedule block)) h
  ⟨h.a + s.a, h.b + s.b, h.c + s.c, h.d + s.d, h.e + s.e⟩

/-- Takes `n` blocks of sixteen words each. -/
def compressAll : Nat → Chain → List UInt32 → Chain
  | 0, h, _ => h
  | n + 1, h, ws => compressAll n (compress h (ws.take 16)) (ws.drop 16)

/-- The bytes of the chain, the most significant first. -/
def Chain.bytes (h : Chain) : Digest :=
  let ws : Vector UInt32 5 := #v[h.a, h.b, h.c, h.d, h.e]
  Vector.ofFn fun i => (ws[i.val / 4] >>> UInt32.ofNat (8 * (3 - i.val % 4))).toUInt8

def digest (message : List UInt8) : Digest :=
  let ws := words (padded message)
  (compressAll (ws.length / 16) initial ws).bytes

end Sha1

end FeatureToggle
