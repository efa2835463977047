-- The MD5 digest of a text, which stands for its content when a scan is remembered.

import SourceNames.Text.Utf8

namespace SourceNames

/-! ## Words and blocks -/

/-- Four bytes as one word, the lowest first. -/
def wordOfBytes (a b c d : UInt8) : UInt32 :=
  a.toUInt32 ||| (b.toUInt32 <<< 8) ||| (c.toUInt32 <<< 16) ||| (d.toUInt32 <<< 24)

/-- A word as four bytes, the lowest first. -/
def bytesOfWord (w : UInt32) : List UInt8 :=
  [w.toUInt8, (w >>> 8).toUInt8, (w >>> 16).toUInt8, (w >>> 24).toUInt8]

/-- Bytes taken four at a time; a remainder of fewer is left out. -/
def wordsOfBytes : List UInt8 → List UInt32
  | a :: b :: c :: d :: rest => wordOfBytes a b c d :: wordsOfBytes rest
  | _ => []

/-- A message made a multiple of 64 bytes long: a one bit, zeros, and its length in bits as
eight bytes, the lowest first. -/
def padded (message : List UInt8) : List UInt8 :=
  let bits := 8 * message.length
  let zeros := (119 - message.length % 64) % 64
  let lengthBytes := (List.range 8).map fun i => UInt8.ofNat (bits >>> (8 * i))
  message ++ [0x80] ++ List.replicate zeros 0 ++ lengthBytes

/-! ## Rounds -/

/-- The four words that a digest carries from block to block. -/
structure Digest where
  a : UInt32
  b : UInt32
  c : UInt32
  d : UInt32
  deriving DecidableEq, Repr

/-- The digest before any block. -/
def Digest.start : Digest := ⟨0x67452301, 0xefcdab89, 0x98badcfe, 0x10325476⟩

/-- The constant added in each step: the whole part of 2^32 times the sine of its number. -/
def stepConstants : Array UInt32 := #[
  0xd76aa478, 0xe8c7b756, 0x242070db, 0xc1bdceee, 0xf57c0faf, 0x4787c62a, 0xa8304613, 0xfd469501,
  0x698098d8, 0x8b44f7af, 0xffff5bb1, 0x895cd7be, 0x6b901122, 0xfd987193, 0xa679438e, 0x49b40821,
  0xf61e2562, 0xc040b340, 0x265e5a51, 0xe9b6c7aa, 0xd62f105d, 0x02441453, 0xd8a1e681, 0xe7d3fbc8,
  0x21e1cde6, 0xc33707d6, 0xf4d50d87, 0x455a14ed, 0xa9e3e905, 0xfcefa3f8, 0x676f02d9, 0x8d2a4c8a,
  0xfffa3942, 0x8771f681, 0x6d9d6122, 0xfde5380c, 0xa4beea44, 0x4bdecfa9, 0xf6bb4b60, 0xbebfbc70,
  0x289b7ec6, 0xeaa127fa, 0xd4ef3085, 0x04881d05, 0xd9d4d039, 0xe6db99e5, 0x1fa27cf8, 0xc4ac5665,
  0xf4292244, 0x432aff97, 0xab9423a7, 0xfc93a039, 0x655b59c3, 0x8f0ccc92, 0xffeff47d, 0x85845dd1,
  0x6fa87e4f, 0xfe2ce6e0, 0xa3014314, 0x4e0811a1, 0xf7537e82, 0xbd3af235, 0x2ad7d2bb, 0xeb86d391]

/-- The rotation of each step: four amounts in turn, a set for each of the four rounds. -/
def stepRotations : Array UInt32 :=
  #[7, 12, 17, 22, 5, 9, 14, 20, 4, 11, 16, 23, 6, 10, 15, 21]

/-- A word with its bits moved up, those that fall out coming back below. -/
def rotateLeft (w amount : UInt32) : UInt32 :=
  (w <<< amount) ||| (w >>> (32 - amount))

/-- One of the 64 steps on a block of sixteen words. -/
def Digest.step (block : Array UInt32) (s : Digest) (i : Nat) : Digest :=
  let (mixed, index) :=
    match i / 16 with
    | 0 => ((s.b &&& s.c) ||| (~~~s.b &&& s.d), i)
    | 1 => ((s.d &&& s.b) ||| (~~~s.d &&& s.c), 5 * i + 1)
    | 2 => (s.b ^^^ s.c ^^^ s.d, 3 * i + 5)
    | _ => (s.c ^^^ (s.b ||| ~~~s.d), 7 * i)
  let sum := s.a + mixed + stepConstants.getD i 0 + block.getD (index % 16) 0
  ⟨s.d, s.b + rotateLeft sum (stepRotations.getD (i / 16 * 4 + i % 4) 0), s.b, s.c⟩

/-- The digest after one more block. -/
def Digest.absorb (s : Digest) (block : Array UInt32) : Digest :=
  let t := (List.range 64).foldl (Digest.step block) s
  ⟨s.a + t.a, s.b + t.b, s.c + t.c, s.d + t.d⟩

/-- The sixteen lower-case byte pairs of a text's digest, read from its UTF-8 bytes. -/
def contentHash (text : String) : String :=
  let words := (wordsOfBytes (padded (encodeUtf8 text))).toArray
  let digest := (List.range (words.size / 16)).foldl
    (fun s i => s.absorb (words.extract (16 * i) (16 * i + 16))) Digest.start
  let bytes := [digest.a, digest.b, digest.c, digest.d].flatMap bytesOfWord
  String.ofList (bytes.flatMap fun b => hexDigits 2 b.toNat)

end SourceNames
