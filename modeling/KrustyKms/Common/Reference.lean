import KrustyKms.Common.Crates

/-!
# SHA-2, RIPEMD-160 and ChaCha20

The functions of the `sha2`, `bitcoin_hashes` and `chacha20` crates as their standards define
them, for runs of the model on concrete bytes. A word is a number below `2 ^ 32`.
-/

namespace KrustyKms.Reference

open Codec

def word (n : ℕ) : ℕ := n % 2 ^ 32

def complement (x : ℕ) : ℕ := 0xffffffff - x

def rotateLeft (n x : ℕ) : ℕ := word ((x * (2 ^ 32 + 1)) >>> (32 - n))

def addWords : List ℕ → List ℕ → List ℕ := List.zipWith fun x y => word (x + y)

def littleWords (n : ℕ) (bytes : Bytes) : List ℕ :=
  (List.range n).map fun i => leValue ((bytes.drop (4 * i)).take 4)

/-! ## Hashes -/

/-- A message is padded to blocks with its length in bits, in the byte order of the hash. -/
def padMessage (block : ℕ) (size : ℕ → Bytes) (data : Bytes) : Bytes :=
  let used := data.length + 1 + (size 0).length
  data ++ 0x80 :: (List.replicate ((block - used % block) % block) 0 ++ size (8 * data.length))

def compressAll (block : ℕ) (compress : List ℕ → Bytes → List ℕ) : ℕ → List ℕ → Bytes → List ℕ
  | 0, state, _ => state
  | blocks + 1, state, data =>
    compressAll block compress blocks (compress state (data.take block)) (data.drop block)

def hashWith (block : ℕ) (size : ℕ → Bytes) (compress : List ℕ → Bytes → List ℕ)
    (initial : List ℕ) (data : Bytes) : List ℕ :=
  compressAll block compress ((padMessage block size data).length / block) initial
    (padMessage block size data)

/-- A member of the SHA-2 family: the bits of a word, what the four sigmas rotate by, with the
shifts of the small ones last, and its constants. -/
structure Sha2 where
  bits : ℕ
  bigSigma0 : ℕ × ℕ × ℕ
  bigSigma1 : ℕ × ℕ × ℕ
  sigma0 : ℕ × ℕ × ℕ
  sigma1 : ℕ × ℕ × ℕ
  constants : List ℕ
  initial : List ℕ

namespace Sha2

variable (h : Sha2)

/-- A shift of two copies of the word side by side. -/
def rotate (n x : ℕ) : ℕ := (x * (2 ^ h.bits + 1)) >>> n % 2 ^ h.bits

def bigSigma (amounts : ℕ × ℕ × ℕ) (x : ℕ) : ℕ :=
  h.rotate amounts.1 x ^^^ h.rotate amounts.2.1 x ^^^ h.rotate amounts.2.2 x

def sigma (amounts : ℕ × ℕ × ℕ) (x : ℕ) : ℕ :=
  h.rotate amounts.1 x ^^^ h.rotate amounts.2.1 x ^^^ x >>> amounts.2.2

/-- The sixteen words the next ones are computed from, as one number. -/
def nextWindow (window : ℕ) : ℕ :=
  let wordAt (i : ℕ) := window >>> (h.bits * (15 - i)) % 2 ^ h.bits
  window % 2 ^ (h.bits * 15) * 2 ^ h.bits +
    (h.sigma h.sigma1 (wordAt 14) + wordAt 9 + h.sigma h.sigma0 (wordAt 1) + wordAt 0) % 2 ^ h.bits

def rounds : List ℕ → ℕ → ℕ → ℕ → ℕ → ℕ → ℕ → ℕ → ℕ → ℕ → List ℕ
  | [], _, a, b, c, d, e, f, g, h => [a, b, c, d, e, f, g, h]
  | k :: ks, window, a, b, c, d, e, f, g, last =>
    let t1 := last + h.bigSigma h.bigSigma1 e + (e &&& f ^^^ (2 ^ h.bits - 1 - e) &&& g) + k +
      window >>> (h.bits * 15)
    let t2 := h.bigSigma h.bigSigma0 a + (a &&& b ^^^ a &&& c ^^^ b &&& c)
    rounds ks (h.nextWindow window) ((t1 + t2) % 2 ^ h.bits) a b c ((d + t1) % 2 ^ h.bits) e f g

def compress (state : List ℕ) (block : Bytes) : List ℕ :=
  let wordAt (i : ℕ) := state.getD i 0
  List.zipWith (fun x y => (x + y) % 2 ^ h.bits) state (h.rounds h.constants (beValue block)
    (wordAt 0) (wordAt 1) (wordAt 2) (wordAt 3) (wordAt 4) (wordAt 5) (wordAt 6) (wordAt 7))

def digest (data : Bytes) : Bytes :=
  (hashWith (h.bits * 2) (beBytes (h.bits / 4)) h.compress h.initial data).flatMap
    (beBytes (h.bits / 8))

end Sha2

def sha512Constants : List ℕ := [
  0x428a2f98d728ae22, 0x7137449123ef65cd, 0xb5c0fbcfec4d3b2f, 0xe9b5dba58189dbbc,
  0x3956c25bf348b538, 0x59f111f1b605d019, 0x923f82a4af194f9b, 0xab1c5ed5da6d8118,
  0xd807aa98a3030242, 0x12835b0145706fbe, 0x243185be4ee4b28c, 0x550c7dc3d5ffb4e2,
  0x72be5d74f27b896f, 0x80deb1fe3b1696b1, 0x9bdc06a725c71235, 0xc19bf174cf692694,
  0xe49b69c19ef14ad2, 0xefbe4786384f25e3, 0x0fc19dc68b8cd5b5, 0x240ca1cc77ac9c65,
  0x2de92c6f592b0275, 0x4a7484aa6ea6e483, 0x5cb0a9dcbd41fbd4, 0x76f988da831153b5,
  0x983e5152ee66dfab, 0xa831c66d2db43210, 0xb00327c898fb213f, 0xbf597fc7beef0ee4,
  0xc6e00bf33da88fc2, 0xd5a79147930aa725, 0x06ca6351e003826f, 0x142929670a0e6e70,
  0x27b70a8546d22ffc, 0x2e1b21385c26c926, 0x4d2c6dfc5ac42aed, 0x53380d139d95b3df,
  0x650a73548baf63de, 0x766a0abb3c77b2a8, 0x81c2c92e47edaee6, 0x92722c851482353b,
  0xa2bfe8a14cf10364, 0xa81a664bbc423001, 0xc24b8b70d0f89791, 0xc76c51a30654be30,
  0xd192e819d6ef5218, 0xd69906245565a910, 0xf40e35855771202a, 0x106aa07032bbd1b8,
  0x19a4c116b8d2d0c8, 0x1e376c085141ab53, 0x2748774cdf8eeb99, 0x34b0bcb5e19b48a8,
  0x391c0cb3c5c95a63, 0x4ed8aa4ae3418acb, 0x5b9cca4f7763e373, 0x682e6ff3d6b2b8a3,
  0x748f82ee5defb2fc, 0x78a5636f43172f60, 0x84c87814a1f0ab72, 0x8cc702081a6439ec,
  0x90befffa23631e28, 0xa4506cebde82bde9, 0xbef9a3f7b2c67915, 0xc67178f2e372532b,
  0xca273eceea26619c, 0xd186b8c721c0c207, 0xeada7dd6cde0eb1e, 0xf57d4f7fee6ed178,
  0x06f067aa72176fba, 0x0a637dc5a2c898a6, 0x113f9804bef90dae, 0x1b710b35131c471b,
  0x28db77f523047d84, 0x32caab7b40c72493, 0x3c9ebe0a15c9bebc, 0x431d67c49c100d4c,
  0x4cc5d4becb3e42b6, 0x597f299cfc657e2a, 0x5fcb6fab3ad6faec, 0x6c44198c4a475817]

def sha512Initial : List ℕ := [
  0x6a09e667f3bcc908, 0xbb67ae8584caa73b, 0x3c6ef372fe94f82b, 0xa54ff53a5f1d36f1,
  0x510e527fade682d1, 0x9b05688c2b3e6c1f, 0x1f83d9abfb41bd6b, 0x5be0cd19137e2179]

@[reducible] def sha512 : Sha512 where
  digest data := beVector 64 (beValue (Sha2.digest {
    bits := 64, bigSigma0 := (28, 34, 39), bigSigma1 := (14, 18, 41), sigma0 := (1, 8, 7)
    sigma1 := (19, 61, 6), constants := sha512Constants, initial := sha512Initial } data))

/-- Its constants are the first halves of those of SHA-512. -/
@[reducible] def sha256 : Sha256 where
  digest data := beVector 32 (beValue (Sha2.digest {
    bits := 32, bigSigma0 := (2, 13, 22), bigSigma1 := (6, 11, 25), sigma0 := (7, 18, 3)
    sigma1 := (17, 19, 10), constants := (sha512Constants.take 64).map (· >>> 32)
    initial := sha512Initial.map (· >>> 32) } data))

example : sha256.digest [97, 98, 99] = beVector 32
    0xba7816bf8f01cfea414140de5dae2223b00361a396177a9cb410ff61f20015ad := by decide +kernel

/-- The boolean function of the rounds, by the number of sixteen rounds before them. -/
def ripemdMix : ℕ → ℕ → ℕ → ℕ → ℕ
  | 0, x, y, z => x ^^^ y ^^^ z
  | 1, x, y, z => x &&& y ||| complement x &&& z
  | 2, x, y, z => (x ||| complement y) ^^^ z
  | 3, x, y, z => x &&& z ||| y &&& complement z
  | _, x, y, z => x ^^^ (y ||| complement z)

/-- One of the two lines: the message words and the rotations of its rounds are the hexadecimal
digits of two numbers. -/
def ripemdLine (order shifts : ℕ) (constants : List ℕ) (mix : ℕ → ℕ) (words : List ℕ) :
    ℕ → List ℕ → List ℕ
  | rounds + 1, [a, b, c, d, e] =>
    let digit (n : ℕ) := n >>> (4 * rounds) % 16
    let phase := (79 - rounds) / 16
    let t := rotateLeft (digit shifts) (word (a + ripemdMix (mix phase) b c d +
      words.getD (digit order) 0 + constants.getD phase 0))
    ripemdLine order shifts constants mix words rounds [e, word (t + e), b, rotateLeft 10 c, d]
  | _, state => state

def ripemdCompress (state : List ℕ) (block : Bytes) : List ℕ :=
  let words := littleWords 16 block
  let left := ripemdLine
    0x0123456789abcdef74d1a6f3c0952eb83ae49f812706db5c19ba08c4d37fe56240597c2ae138b6fd
    0xbefc5879bdef6798768db97f7cf9b7dcbd67e9dfe8d65c75bcefef989e56865c9f5b68dc5cdeb856
    [0, 0x5a827999, 0x6ed9eba1, 0x8f1bbcdc, 0xa953fd4e] id words 80 state
  let right := ripemdLine
    0x5e7092b4d6f81a3c6b370d5aef8c4912f5137e69b8c2a04d86413bf05c2d97aecfa4158762de039b
    0x899bdff5778beec69df7c89b77c76fdb97fb866ecd5edd75f58bee6e69c9c5f885c9c5e68d65fdbb
    [0x50a28be6, 0x5c4dd124, 0x6d703ef3, 0x7a6d76e9, 0] (4 - ·) words 80 state
  addWords (addWords (state.rotate 1) (left.rotate 2)) (right.rotate 3)

def ripemd160 (data : Bytes) : Vector UInt8 20 :=
  beVector 20 (beValue ((hashWith 64 (leBytes 8) ripemdCompress
    [0x67452301, 0xefcdab89, 0x98badcfe, 0x10325476, 0xc3d2e1f0] data).flatMap (leBytes 4)))

example : ripemd160 [97, 98, 99] =
    beVector 20 0x8eb208f7e05d987a9b044a8e98c6b087f15a0bfc := by decide +kernel

@[reducible] def bitcoinHashes : BitcoinHashes where
  ripemd160 := ripemd160
  hash160 data := ripemd160 (sha256.digest data).toList

/-! ## ChaCha20 -/

/-- Four quarter rounds at once, on the columns of the matrix with these rows. -/
def quarterRounds : List (List ℕ) → List (List ℕ)
  | [a, b, c, d] =>
    let mix (n : ℕ) := List.zipWith fun x y => rotateLeft n (x ^^^ y)
    let a := addWords a b
    let d := mix 16 d a
    let c := addWords c d
    let b := mix 12 b c
    let a := addWords a b
    let d := mix 8 d a
    let c := addWords c d
    [a, mix 7 b c, c, d]
  | rows => rows

/-- The second half works on the diagonals. -/
def doubleRound (rows : List (List ℕ)) : List (List ℕ) :=
  let shifted := (quarterRounds rows).mapIdx fun i row => row.rotate i
  (quarterRounds shifted).mapIdx fun i row => row.rotate (4 - i)

def chaChaBlock (key : Vector UInt8 32) (iv : Vector UInt8 12) (counter : ℕ) : Bytes :=
  let initial := [[0x61707865, 0x3320646e, 0x79622d32, 0x6b206574],
    littleWords 4 key.toList, littleWords 4 (key.toList.drop 16),
    counter :: littleWords 3 iv.toList]
  let final := doubleRound^[10] initial
  (addWords initial.flatten final.flatten).flatMap (leBytes 4)

def chaChaStream (key : Vector UInt8 32) (iv : Vector UInt8 12) (i : ℕ) : UInt8 :=
  -- the counter is a numeral in each case, so that a block is evaluated once
  match i / 64 with
  | 0 => (chaChaBlock key iv 0).getD (i % 64) 0
  | counter + 1 => (chaChaBlock key iv (counter + 1)).getD (i % 64) 0

@[reducible] def chaCha20 : ChaCha20 where
  applyKeystream key iv data := data.mapIdx fun i byte => byte ^^^ chaChaStream key iv i

lemma chaCha20_xors : @ChaCha20.Xors chaCha20 := ⟨chaChaStream, fun _ _ _ => rfl⟩

end KrustyKms.Reference
