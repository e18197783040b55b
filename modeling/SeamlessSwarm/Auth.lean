import SeamlessSwarm.Lib.Bytes

/-! Challenge verification. SHA-256 and the P-256 routines are parameters: the
hub and the registry call the same ones, and nothing here looks inside them. -/
namespace SeamlessSwarm

structure Crypto where
  sha256 : Bytes → Bytes
  VerifyingKey : Type
  Signature : Type
  fromSec1Bytes : Bytes → Option VerifyingKey
  fromDer : Bytes → Option Signature
  fromSlice : Bytes → Option Signature
  verify : VerifyingKey → Bytes → Signature → Bool

def Crypto.verifyChallengeResponse (crypto : Crypto) (publicKeyHex : String) (challenge : Bytes)
    (signatureHex : String) : Bool :=
  match Hex.decode publicKeyHex with
  | .error _ => false
  | .ok pkBytes =>
    match crypto.fromSec1Bytes pkBytes with
    | none => false
    | some verifyingKey =>
      match Hex.decode signatureHex with
      | .error _ => false
      | .ok sigBytes =>
        -- DER first, then the raw form
        match crypto.fromDer sigBytes with
        | some signature => crypto.verify verifyingKey challenge signature
        | none =>
          match crypto.fromSlice sigBytes with
          | some signature => crypto.verify verifyingKey challenge signature
          | none => false

def Crypto.thumbprint (crypto : Crypto) (publicKey : Bytes) : String :=
  Hex.encode (crypto.sha256 publicKey)

end SeamlessSwarm
