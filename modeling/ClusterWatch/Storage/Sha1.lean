/-!
The SHA-1 digest of a byte string.

A message is padded to blocks of sixteen words, each block is stretched to eighty words, and every
word stirs the five words of the state once. Words are 32 bits wide, read and written with the most
significant byte first.
-/

namespace ClusterWatch.Sha1

/-- The five words that a digest is made of. -/
structure State where
  a : UInt32
  b : UInt32
  c : UInt32
  d : UInt32
  e : UInt32

def State.initial : State :=
  ⟨0x67452301, 0xEFCDAB89, 0x98BADCFE, 0x10325476, 0xC3D2E1F0⟩

/-- Turns a word left by fewer than 32 bits. -/
def rotate (x bits : UInt32) : UInt32 :=
  (x <<< bits) ||| (x >>> (32 - bits))

/-- The bytes of a number of 64 bits. -/
def lengthBytes (n : Nat) : List UInt8 :=
  [56, 48, 40, 32, 24, 16, 8, 0].map fun shift => UInt8.ofNat (n >>> shift)

/-- The message followed by a set bit, zeros and its length in bits, to a multiple of 64 bytes. -/
def padding (message : List UInt8) : List UInt8 :=
  let n := message.length
  message ++ 0x80 :: List.replicate ((119 - n % 64) % 64) 0 ++ lengthBytes (8 * n)

/-- Four bytes to a word; bytes that fill no word are left out. -/
def wordsOfBytes : List UInt8 → List UInt32
  | p :: q :: r :: s :: rest =>
    (p.toUInt32 <<< 24 ||| q.toUInt32 <<< 16 ||| r.toUInt32 <<< 8 ||| s.toUInt32)
      :: wordsOfBytes rest
  | _ => []

/-- The first `n` words of the stretched block, from a window of sixteen. -/
def schedule : Nat → List UInt32 → List UInt32
  | 0, _ => []
  | _ + 1, [] => []
  | n + 1, w :: window =>
    let next := rotate (window.getD 12 0 ^^^ window.getD 7 0 ^^^ window.getD 1 0 ^^^ w) 1
    w :: schedule n (window ++ [next])

/-- Stirs one word into the state, in the given round of eighty. -/
def State.stir (s : State) (round : Nat) (word : UInt32) : State :=
  let (mix, constant) :=
    if round < 20 then ((s.b &&& s.c) ||| (~~~s.b &&& s.d), (0x5A827999 : UInt32))
    else if round < 40 then (s.b ^^^ s.c ^^^ s.d, 0x6ED9EBA1)
    else if round < 60 then ((s.b &&& s.c) ||| (s.b &&& s.d) ||| (s.c &&& s.d), 0x8F1BBCDC)
    else (s.b ^^^ s.c ^^^ s.d, 0xCA62C1D6)
  ⟨rotate s.a 5 + mix + s.e + constant + word, s.a, rotate s.b 30, s.c, s.d⟩

/-- The state after a block of sixteen words. -/
def State.absorb (s : State) (block : List UInt32) : State :=
  let t := (schedule 80 block).zipIdx.foldl (fun t (word, round) => t.stir round word) s
  ⟨s.a + t.a, s.b + t.b, s.c + t.c, s.d + t.d, s.e + t.e⟩

/-- The state after the first `n` blocks of a list of words. -/
def State.absorbAll : Nat → State → List UInt32 → State
  | 0, s, _ => s
  | n + 1, s, words => State.absorbAll n (s.absorb (words.take 16)) (words.drop 16)

/-- The eight hexadecimal digits of a word, in lower case. -/
def hexWord (w : UInt32) : List Char :=
  [28, 24, 20, 16, 12, 8, 4, 0].map fun shift => Nat.digitChar ((w.toNat >>> shift) % 16)

/-- The final state for a message. -/
def digest (message : List UInt8) : State :=
  let words := wordsOfBytes (padding message)
  State.initial.absorbAll (words.length / 16) words

/-- The forty hexadecimal digits of a text's digest. -/
def hex (s : String) : List Char :=
  let t := digest s.toUTF8.toList
  [t.a, t.b, t.c, t.d, t.e].flatMap hexWord

theorem length_hexWord (w : UInt32) : (hexWord w).length = 8 :=
  rfl

theorem length_hex (s : String) : (hex s).length = 40 := by
  simp [hex, length_hexWord]

example : String.ofList (hex "abc") = "a9993e364706816aba3e25717850c26c9cd0d89d" := by
  decide +kernel

end ClusterWatch.Sha1
