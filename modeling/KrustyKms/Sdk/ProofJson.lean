import KrustyKms.Common.FeltText
import KrustyKms.Common.Serde
import KrustyKms.Sdk.Serialization

/-!
# Proofs as JSON documents

The documents that `derive(Serialize)` writes for the proofs, with the names their fields have
there, and how `derive(Deserialize)` reads them.
-/

namespace KrustyKms.Sdk

open Crypto

/-! ## Writing -/

def feltToJson (felt : Felt) : Json := .string felt.toHex

def pointToJson (point : SerializablePoint) : Json :=
  .object [("x", feltToJson point.x), ("y", feltToJson point.y)]

def poeProofToJson (proof : PoeProof) : Json := .object [
  ("A", pointToJson proof.a), ("s", feltToJson proof.s), ("c", feltToJson proof.c)]

def auditProofToJson (proof : AuditProof) : Json := .object [
  ("Ax", pointToJson proof.ax), ("AL0", pointToJson proof.al0), ("AL1", pointToJson proof.al1),
  ("AR1", pointToJson proof.ar1), ("sx", feltToJson proof.sx), ("sb", feltToJson proof.sb),
  ("sr", feltToJson proof.sr), ("c", feltToJson proof.c)]

def bitProofToJson (proof : ProofOfBit) : Json := .object [
  ("A0", pointToJson proof.a0), ("A1", pointToJson proof.a1), ("c0", feltToJson proof.c0),
  ("s0", feltToJson proof.s0), ("s1", feltToJson proof.s1)]

def rangeToJson (range : Range) : Json := .object [
  ("commitments", .array (range.commitments.map pointToJson)),
  ("proofs", .array (range.proofs.map bitProofToJson))]

def proofOfTransferToJson (proof : ProofOfTransfer) : Json := .object [
  ("A_x", pointToJson proof.aX), ("A_r", pointToJson proof.aR), ("A_r2", pointToJson proof.aR2),
  ("A_b", pointToJson proof.aB), ("A_b2", pointToJson proof.aB2), ("A_v", pointToJson proof.aV),
  ("A_v2", pointToJson proof.aV2), ("A_bar", pointToJson proof.aBar), ("s_x", feltToJson proof.sX),
  ("s_r", feltToJson proof.sR), ("s_b", feltToJson proof.sB), ("s_b2", feltToJson proof.sB2),
  ("s_r2", feltToJson proof.sR2), ("range", rangeToJson proof.range),
  ("range2", rangeToJson proof.range2)]

/-! ## Reading -/

variable [FeltSerde]

def feltFromJson (json : Json) : Option Felt := json.asStr.bind FeltSerde.deserialize

def pointFromJson (json : Json) : Option SerializablePoint := do
  let field ← json.fieldsOf ["x", "y"]
  pure ⟨← (field "x").bind feltFromJson, ← (field "y").bind feltFromJson⟩

def poeProofFromJson (json : Json) : Option PoeProof := do
  let field ← json.fieldsOf ["A", "s", "c"]
  pure {
    a := ← (field "A").bind pointFromJson
    s := ← (field "s").bind feltFromJson
    c := ← (field "c").bind feltFromJson }

def auditProofFromJson (json : Json) : Option AuditProof := do
  let field ← json.fieldsOf ["Ax", "AL0", "AL1", "AR1", "sx", "sb", "sr", "c"]
  pure {
    ax := ← (field "Ax").bind pointFromJson
    al0 := ← (field "AL0").bind pointFromJson
    al1 := ← (field "AL1").bind pointFromJson
    ar1 := ← (field "AR1").bind pointFromJson
    sx := ← (field "sx").bind feltFromJson
    sb := ← (field "sb").bind feltFromJson
    sr := ← (field "sr").bind feltFromJson
    c := ← (field "c").bind feltFromJson }

def bitProofFromJson (json : Json) : Option ProofOfBit := do
  let field ← json.fieldsOf ["A0", "A1", "c0", "s0", "s1"]
  pure {
    a0 := ← (field "A0").bind pointFromJson
    a1 := ← (field "A1").bind pointFromJson
    c0 := ← (field "c0").bind feltFromJson
    s0 := ← (field "s0").bind feltFromJson
    s1 := ← (field "s1").bind feltFromJson }

def rangeFromJson (json : Json) : Option Range := do
  let field ← json.fieldsOf ["commitments", "proofs"]
  pure {
    commitments := ← (field "commitments").bind (Json.listOf pointFromJson)
    proofs := ← (field "proofs").bind (Json.listOf bitProofFromJson) }

def proofOfTransferFromJson (json : Json) : Option ProofOfTransfer := do
  let field ← json.fieldsOf ["A_x", "A_r", "A_r2", "A_b", "A_b2", "A_v", "A_v2", "A_bar", "s_x",
    "s_r", "s_b", "s_b2", "s_r2", "range", "range2"]
  pure {
    aX := ← (field "A_x").bind pointFromJson
    aR := ← (field "A_r").bind pointFromJson
    aR2 := ← (field "A_r2").bind pointFromJson
    aB := ← (field "A_b").bind pointFromJson
    aB2 := ← (field "A_b2").bind pointFromJson
    aV := ← (field "A_v").bind pointFromJson
    aV2 := ← (field "A_v2").bind pointFromJson
    aBar := ← (field "A_bar").bind pointFromJson
    sX := ← (field "s_x").bind feltFromJson
    sR := ← (field "s_r").bind feltFromJson
    sB := ← (field "s_b").bind feltFromJson
    sB2 := ← (field "s_b2").bind feltFromJson
    sR2 := ← (field "s_r2").bind feltFromJson
    range := ← (field "range").bind rangeFromJson
    range2 := ← (field "range2").bind rangeFromJson }

end KrustyKms.Sdk
