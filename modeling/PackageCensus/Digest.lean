import PackageCensus.Host.Run
import PackageCensus.Text.Quoted

/-! # Digests

The SHA-256 digest of a sequence of octets.  The message is filled up to whole blocks of sixteen
words; each block is stretched to sixty-four words, which are mixed one after the other into a
state of eight. -/

namespace PackageCensus.Digest

/-- Words of thirty-two bits. -/
abbrev Word := UInt32

/-- A word turned to the right by some bits. -/
def turn (n : UInt32) (w : Word) : Word := (w >>> n) ||| (w <<< (32 - n))

/-- The words for the rounds: the fractions of the cube roots of the first sixty-four primes. -/
def roundWords : List Word :=
  [0x428a2f98, 0x71374491, 0xb5c0fbcf, 0xe9b5dba5, 0x3956c25b, 0x59f111f1, 0x923f82a4, 0xab1c5ed5,
   0xd807aa98, 0x12835b01, 0x243185be, 0x550c7dc3, 0x72be5d74, 0x80deb1fe, 0x9bdc06a7, 0xc19bf174,
   0xe49b69c1, 0xefbe4786, 0x0fc19dc6, 0x240ca1cc, 0x2de92c6f, 0x4a7484aa, 0x5cb0a9dc, 0x76f988da,
   0x983e5152, 0xa831c66d, 0xb00327c8, 0xbf597fc7, 0xc6e00bf3, 0xd5a79147, 0x06ca6351, 0x14292967,
   0x27b70a85, 0x2e1b2138, 0x4d2c6dfc, 0x53380d13, 0x650a7354, 0x766a0abb, 0x81c2c92e, 0x92722c85,
   0xa2bfe8a1, 0xa81a664b, 0xc24b8b70, 0xc76c51a3, 0xd192e819, 0xd6990624, 0xf40e3585, 0x106aa070,
   0x19a4c116, 0x1e376c08, 0x2748774c, 0x34b0bcb5, 0x391c0cb3, 0x4ed8aa4a, 0x5b9cca4f, 0x682e6ff3,
   0x748f82ee, 0x78a5636f, 0x84c87814, 0x8cc70208, 0x90befffa, 0xa4506ceb, 0xbef9a3f7, 0xc67178f2]

/-- The eight words of a state. -/
structure State where
  a : Word
  b : Word
  c : Word
  d : Word
  e : Word
  f : Word
  g : Word
  h : Word
deriving DecidableEq, Repr

namespace State

/-- The first state: the fractions of the square roots of the first eight primes. -/
def start : State :=
  ⟨0x6a09e667, 0xbb67ae85, 0x3c6ef372, 0xa54ff53a, 0x510e527f, 0x9b05688c, 0x1f83d9ab, 0x5be0cd19⟩

/-- The words of a state. -/
def words (s : State) : List Word := [s.a, s.b, s.c, s.d, s.e, s.f, s.g, s.h]

/-- One round, with the word of the round and a word of the block. -/
def round (s : State) (k w : Word) : State :=
  let turned := turn 6 s.e ^^^ turn 11 s.e ^^^ turn 25 s.e
  let chosen := (s.e &&& s.f) ^^^ (~~~ s.e &&& s.g)
  let mixed := s.h + turned + chosen + k + w
  let turned' := turn 2 s.a ^^^ turn 13 s.a ^^^ turn 22 s.a
  let majority := (s.a &&& s.b) ^^^ (s.a &&& s.c) ^^^ (s.b &&& s.c)
  ⟨mixed + (turned' + majority), s.a, s.b, s.c, s.d + mixed, s.e, s.f, s.g⟩

/-- The sum of two states, word by word. -/
def add (s t : State) : State :=
  ⟨s.a + t.a, s.b + t.b, s.c + t.c, s.d + t.d, s.e + t.e, s.f + t.f, s.g + t.g, s.h + t.h⟩

end State

/-- The word that follows sixteen others, the last of which stands first. -/
def nextWord (recent : List Word) : Word :=
  let early := recent.getD 14 0
  let late := recent.getD 1 0
  let small := turn 7 early ^^^ turn 18 early ^^^ (early >>> 3)
  let large := turn 17 late ^^^ turn 19 late ^^^ (late >>> 10)
  recent.getD 15 0 + small + recent.getD 6 0 + large

/-- A block, its last word first, with more words before it. -/
def stretch : Nat → List Word → List Word
  | 0, words => words
  | n + 1, words => stretch n (nextWord words :: words)

/-- The state after a block. -/
def mixBlock (s : State) (block : List Word) : State :=
  s.add ((roundWords.zip (stretch 48 block.reverse).reverse).foldl
    (fun s (k, w) => s.round k w) s)

/-- The octets of a number, the highest first. -/
def octetsOf (count n : Nat) : List UInt8 :=
  (List.range count).map fun i => .ofNat (n >>> (8 * (count - 1 - i)))

/-- What is put behind a message of some length: a bit, zeros up to a whole block but for its last
two words, and the number of bits in these. -/
def filling (length : Nat) : List UInt8 :=
  0x80 :: (List.replicate ((119 - length % 64) % 64) 0 ++ octetsOf 8 (8 * length))

/-- Octets as words of four. -/
def wordsOf : List UInt8 → List Word
  | a :: b :: c :: d :: rest =>
    (a.toUInt32 <<< 24 ||| b.toUInt32 <<< 16 ||| c.toUInt32 <<< 8 ||| d.toUInt32) :: wordsOf rest
  | _ => []

/-- Mixes words into a state, sixteen at a time. -/
def mixWords (s : State) (words : List Word) : State :=
  match _behind : words.drop 15 with
  | [] => s
  | _ :: rest => mixWords (mixBlock s (words.take 16)) rest
termination_by words.length
decreasing_by
  have := congrArg List.length _behind
  simp only [List.length_drop, List.length_cons] at this
  omega

/-- The eight words of the digest of a message. -/
def digest (message : List UInt8) : State :=
  mixWords .start (wordsOf (message ++ filling message.length))

/-- A word in base sixteen. -/
def wordText (w : Word) : List Char :=
  let digits := Text.hexDigits w.toNat
  List.replicate (8 - digits.length) '0' ++ digits

/-- The digest of a message in base sixteen. -/
def text (message : List UInt8) : String :=
  String.ofList ((digest message).words.flatMap wordText)

/-! ### Digests of files -/

/-- Why there is no digest of a file. -/
inductive DigestError where
  | unopened (path : String) (cause : AccessError)
  | unread (path : String) (cause : AccessError)
deriving DecidableEq, Repr

namespace DigestError

/-- The wording of an error. -/
def message : DigestError → String
  | unopened path _ => "Failed to open binary for hashing: " ++ path
  | unread path _ => "Failed to read binary for hashing: " ++ path

/-- The wording of what is behind an error. -/
def causes : DigestError → List String
  | unopened _ cause | unread _ cause => [cause.message]

end DigestError

/-- The digest of the file at a path. -/
def ofFile (path : String) : Attempt DigestError String := do
  let source ← (Attempt.openFile path).adapt (.unopened path)
  match source.failure with
  | some cause => throw (.unread path cause)
  | none => return text source.octets

end PackageCensus.Digest
