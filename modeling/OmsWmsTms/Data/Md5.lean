import Mathlib.Data.BitVec

/-!
# MD5

* `md5` : the hexadecimal digest of the bytes of a text, as `hashlib.md5(text.encode()).hexdigest()`.
-/

namespace OmsWmsTms

namespace Md5

/-- A word. -/
abbrev Word := BitVec 32

/-- The registers. -/
structure Registers where
  a : Word
  b : Word
  c : Word
  d : Word

/-- How far the rounds rotate, by the number of the round and that of the step in a cycle of four. -/
def rotations : List (List ℕ) :=
  [[7, 12, 17, 22], [5, 9, 14, 20], [4, 11, 16, 23], [6, 10, 15, 21]]

/-- `floor(2^32 * abs(sin(i + 1)))`. -/
def sines : List Word :=
  [
    0xd76aa478, 0xe8c7b756, 0x242070db, 0xc1bdceee, 0xf57c0faf, 0x4787c62a, 0xa8304613, 0xfd469501,
    0x698098d8, 0x8b44f7af, 0xffff5bb1, 0x895cd7be, 0x6b901122, 0xfd987193, 0xa679438e, 0x49b40821,
    0xf61e2562, 0xc040b340, 0x265e5a51, 0xe9b6c7aa, 0xd62f105d, 0x02441453, 0xd8a1e681, 0xe7d3fbc8,
    0x21e1cde6, 0xc33707d6, 0xf4d50d87, 0x455a14ed, 0xa9e3e905, 0xfcefa3f8, 0x676f02d9, 0x8d2a4c8a,
    0xfffa3942, 0x8771f681, 0x6d9d6122, 0xfde5380c, 0xa4beea44, 0x4bdecfa9, 0xf6bb4b60, 0xbebfbc70,
    0x289b7ec6, 0xeaa127fa, 0xd4ef3085, 0x04881d05, 0xd9d4d039, 0xe6db99e5, 0x1fa27cf8, 0xc4ac5665,
    0xf4292244, 0x432aff97, 0xab9423a7, 0xfc93a039, 0x655b59c3, 0x8f0ccc92, 0xffeff47d, 0x85845dd1,
    0x6fa87e4f, 0xfe2ce6e0, 0xa3014314, 0x4e0811a1, 0xf7537e82, 0xbd3af235, 0x2ad7d2bb, 0xeb86d391]

/-- A step of the compression of a block of sixteen words. -/
def step (block : List Word) (s : Registers) (i : ℕ) : Registers :=
  let (mixed, index) := match i / 16 with
    | 0 => ((s.b &&& s.c) ||| (~~~s.b &&& s.d), i)
    | 1 => ((s.d &&& s.b) ||| (~~~s.d &&& s.c), (5 * i + 1) % 16)
    | 2 => (s.b ^^^ s.c ^^^ s.d, (3 * i + 5) % 16)
    | _ => (s.c ^^^ (s.b ||| ~~~s.d), 7 * i % 16)
  let sum := s.a + mixed + sines.getD i 0 + block.getD index 0
  let rotation := (rotations.getD (i / 16) []).getD (i % 4) 0
  { a := s.d, b := s.b + sum.rotateLeft rotation, c := s.b, d := s.c }

/-- The compression of a block. -/
def compress (s : Registers) (block : List Word) : Registers :=
  let t := (List.range 64).foldl (step block) s
  { a := s.a + t.a, b := s.b + t.b, c := s.c + t.c, d := s.d + t.d }

/-- The little-endian bytes of a number. -/
def littleEndian : ℕ → ℕ → List ℕ
  | 0, _ => []
  | width + 1, n => n % 256 :: littleEndian width (n / 256)

/-- The message with its padding and its length in bits. -/
def pad (bytes : List ℕ) : List ℕ :=
  bytes ++ 0x80 :: List.replicate ((119 - bytes.length % 64) % 64) 0 ++
    littleEndian 8 (8 * bytes.length % 2 ^ 64)

/-- The words of some bytes. -/
def words : List ℕ → List Word
  | a :: b :: c :: d :: bytes => BitVec.ofNat 32 (a + 256 * (b + 256 * (c + 256 * d))) :: words bytes
  | _ => []

/-- The registers after some blocks. -/
def run : ℕ → List Word → Registers → Registers
  | 0, _, s => s
  | blocks + 1, message, s => run blocks (message.drop 16) (compress s (message.take 16))

/-- The registers before the first block. -/
def init : Registers where
  a := 0x67452301
  b := 0xefcdab89
  c := 0x98badcfe
  d := 0x10325476

/-- The two hexadecimal digits of a byte. -/
def hexByte (byte : ℕ) : List Char := [Nat.digitChar (byte / 16), Nat.digitChar (byte % 16)]

/-- The hexadecimal digest of some bytes. -/
def hexdigest (bytes : List ℕ) : List Char :=
  let message := words (pad bytes)
  let s := run (message.length / 16) message init
  [s.a, s.b, s.c, s.d].flatMap fun word => (littleEndian 4 word.toNat).flatMap hexByte

end Md5

/-- `hashlib.md5(text.encode()).hexdigest()`. -/
def md5 (text : String) : List Char :=
  Md5.hexdigest ((text.toList.flatMap String.utf8EncodeChar).map UInt8.toNat)

example : md5 "message digest" = "f96b697d7cb7938d525a2f31aaf161d0".toList := by decide +kernel

end OmsWmsTms
