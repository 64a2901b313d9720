import Tournament.Draw.Digest

/-!
# The stream of random words

The words of ChaCha with eight rounds, keyed by the digest of a seed. The block counter has 64
bits and starts at 0, and the nonce is zero. Words are taken one by one, so nothing is skipped
between draws of different sizes.
-/

namespace Tournament.Draw

abbrev Block :=
  Vector UInt32 16

def rotateLeft (x n : UInt32) : UInt32 :=
  (x <<< n) ||| (x >>> (32 - n))

def quarterRound (v : Block) (a b c d : Fin 16) : Block :=
  let v := v.set a (v[a] + v[b])
  let v := v.set d (rotateLeft (v[d] ^^^ v[a]) 16)
  let v := v.set c (v[c] + v[d])
  let v := v.set b (rotateLeft (v[b] ^^^ v[c]) 12)
  let v := v.set a (v[a] + v[b])
  let v := v.set d (rotateLeft (v[d] ^^^ v[a]) 8)
  let v := v.set c (v[c] + v[d])
  v.set b (rotateLeft (v[b] ^^^ v[c]) 7)

def doubleRound (v : Block) : Block :=
  let v := quarterRound v 0 4 8 12
  let v := quarterRound v 1 5 9 13
  let v := quarterRound v 2 6 10 14
  let v := quarterRound v 3 7 11 15
  let v := quarterRound v 0 5 10 15
  let v := quarterRound v 1 6 11 12
  let v := quarterRound v 2 7 8 13
  quarterRound v 3 4 9 14

abbrev Key :=
  Vector UInt32 8

/-- The block before mixing: four constants, the key, the counter and a zero nonce. -/
def startBlock (key : Key) (counter : UInt64) : Block :=
  #v[0x61707865, 0x3320646e, 0x79622d32, 0x6b206574,
    key[0], key[1], key[2], key[3], key[4], key[5], key[6], key[7],
    counter.toUInt32, (counter >>> 32).toUInt32, 0, 0]

def keystreamBlock (key : Key) (counter : UInt64) : Block :=
  let start := startBlock key counter
  let mixed := doubleRound (doubleRound (doubleRound (doubleRound start)))
  mixed.zipWith (· + ·) start

/-- A place in the stream: the key, the counter of the next block, and the words of the current
block that are still to come. -/
structure Keystream where
  key : Key
  counter : UInt64
  pending : List UInt32
  deriving DecidableEq, Repr

def reverseBytes (w : UInt32) : UInt32 :=
  (w <<< 24) ||| ((w &&& (0xff00 : UInt32)) <<< 8) ||| ((w >>> 8) &&& (0xff00 : UInt32)) |||
    (w >>> 24)

/-- The key made from a seed: its digest, each word read from its least significant byte. -/
def keyOfSeed (seed : String) : Key :=
  let ws := (Digest.sha256 seed.toUTF8.toList).map reverseBytes
  Vector.ofFn fun i => ws.getD i 0

def Keystream.ofSeed (seed : String) : Keystream :=
  ⟨keyOfSeed seed, 0, []⟩

def Keystream.next (k : Keystream) : UInt32 × Keystream :=
  match k.pending with
  | w :: rest => (w, { k with pending := rest })
  | [] =>
    let block := (keystreamBlock k.key k.counter).toList
    (block.headD 0, { k with counter := k.counter + 1, pending := block.tail })

/-- The next two words of the stream as one of 64 bits, the low half first. -/
def Keystream.next64 (k : Keystream) : UInt64 × Keystream :=
  let (low, k) := k.next
  let (high, k) := k.next
  (high.toUInt64 <<< 32 ||| low.toUInt64, k)

end Tournament.Draw
