import KrustyKms.Common.Basic

/-!
# BIP-173 bech32 encoding of segwit version 0 addresses

Only encoding is needed: callers compare a supplied address against the encoding of their
own key.
-/

namespace KrustyKms.Bitcoin.Bech32

def charset : List Char := "qpzry9x8gf2tvdw0s3jn54khce6mua7l".toList

def generators : List (BitVec 32) := [0x3b6a57b2, 0x26508e6d, 0x1ea119fa, 0x3d4233dd, 0x2a1462b3]

def bech32Const : BitVec 32 := 1

def polymodStep (chk : BitVec 32) (value : UInt8) : BitVec 32 :=
  let top := chk >>> 25
  let chk := ((chk &&& 0x01ffffff) <<< 5) ^^^ value.toBitVec.setWidth 32
  generators.zipIdx.foldl (fun chk (generator, i) =>
    if (top >>> i) &&& 1 = 1 then chk ^^^ generator else chk) chk

def polymod (values : List UInt8) : BitVec 32 := values.foldl polymodStep 1

def hrpExpand (hrp : Bytes) : Bytes :=
  hrp.map (fun c : UInt8 => c >>> 5) ++ [0] ++ hrp.map (fun c : UInt8 => c &&& 0x1f)

def symbolAt (modulus : BitVec 32) (shift : ℕ) : UInt8 :=
  .ofBitVec (((modulus >>> shift) &&& 0x1f).setWidth 8)

def checksum (hrp data : Bytes) : Bytes :=
  let modulus := polymod (hrpExpand hrp ++ data ++ List.replicate 6 0) ^^^ bech32Const
  (List.range 6).map fun i => symbolAt modulus (5 * (5 - i))

/-- The inner loop of `to_base32`: symbols are pushed while five bits are there. It returns
them and the number of bits that are left. -/
def pushSymbols (accumulator : BitVec 32) : ℕ → Bytes × ℕ
  | bits + 5 =>
    let (out, left) := pushSymbols accumulator bits
    (symbolAt accumulator bits :: out, left)
  | bits => ([], bits)

def regroupFrom (accumulator : BitVec 32) (bits : ℕ) : Bytes → Bytes
  | [] =>
    if bits > 0 then [.ofBitVec (((accumulator <<< (5 - bits)) &&& 0x1f).setWidth 8)] else []
  | byte :: rest =>
    let accumulator := ((accumulator <<< 8) ||| byte.toBitVec.setWidth 32) &&& 0xfff
    let (out, left) := pushSymbols accumulator (bits + 8)
    out ++ regroupFrom accumulator left rest

/-- Regroup 8-bit bytes into 5-bit values, zero-padding the last group. -/
def toBase32 (bytes : Bytes) : Bytes := regroupFrom 0 0 bytes

def character (value : UInt8) : Result Char :=
  match charset[value.toNat]? with
  | some character => .ok character
  | none => .error (.cryptoError "bech32 value is not five bits")

def encodeSegwitV0 (hrp : String) (program : Bytes) : Result String := do
  let data := 0 :: toBase32 program
  let checksum := checksum (utf8 hrp) data
  let characters ← (data ++ checksum).mapM character
  pure (hrp ++ "1" ++ String.ofList characters)

end KrustyKms.Bitcoin.Bech32
