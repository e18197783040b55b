import SeamlessSwarm.Auth
import SeamlessSwarm.Lib.Table

/-! The hub's in-memory node registry. Rows are stored under their own node id,
so an entry filed under a foreign id cannot be built. -/
namespace SeamlessSwarm

structure Capability where
  name : String
  valType : String
  value : String
  deriving DecidableEq, Repr

structure NodeProfile where
  nodeId : String
  osPlatform : String
  capabilities : List Capability
  lastSeen : Nat
  publicKey : String
  deriving DecidableEq, Repr

abbrev EphemeralRegistry := Keyed.Table NodeProfile.nodeId

namespace EphemeralRegistry

def new : EphemeralRegistry := Keyed.Table.empty

def registerNode (registry : EphemeralRegistry) (profile : NodeProfile) : EphemeralRegistry :=
  registry.insert profile

/-- Why an admission fails. The hexadecimal decoder's error is passed on as it is. -/
inductive RegisterError where
  | hex (e : Hex.FromHexError)
  | rejected (reason : String)
  deriving DecidableEq, Repr

def authenticateAndRegisterNode (crypto : Crypto) (registry : EphemeralRegistry)
    (profile : NodeProfile) (challenge : Bytes) (signatureHex : String)
    (trustedThumbprints : List String) : Except RegisterError EphemeralRegistry :=
  match Hex.decode profile.publicKey with
  | .error e => .error (.hex e)
  | .ok pkBytes =>
    let derivedThumbprint := crypto.thumbprint pkBytes
    if derivedThumbprint ∉ trustedThumbprints then
      .error (.rejected "Node public key thumbprint not authorized in database")
    else if crypto.verifyChallengeResponse profile.publicKey challenge signatureHex = false then
      .error (.rejected "Cryptographic ECDSA verification failed")
    else .ok (registry.registerNode profile)

def unregisterNode (registry : EphemeralRegistry) (nodeId : String) : EphemeralRegistry :=
  registry.remove nodeId

def evictOfflineNodes (registry : EphemeralRegistry) (currentTime timeoutThreshold : Nat) :
    EphemeralRegistry :=
  registry.retain fun profile =>
    if currentTime ≥ profile.lastSeen then
      decide (currentTime - profile.lastSeen < timeoutThreshold)
    else true

def getNode (registry : EphemeralRegistry) (nodeId : String) : Option NodeProfile :=
  registry.get nodeId

def listNodes (registry : EphemeralRegistry) : List NodeProfile := registry.rows

end EphemeralRegistry

theorem evictOfflineNodes_get (registry : EphemeralRegistry) (now threshold : Nat) (id : String) :
    (registry.evictOfflineNodes now threshold).get id =
      (registry.get id).filter fun profile => decide (now < profile.lastSeen + threshold) := by
  have same : (fun profile : NodeProfile =>
      if now ≥ profile.lastSeen then decide (now - profile.lastSeen < threshold) else true) =
      fun profile => decide (now < profile.lastSeen + threshold) := by
    funext profile
    by_cases past : now ≥ profile.lastSeen
    · rw [if_pos past]
      exact decide_eq_decide.mpr (by omega)
    · rw [if_neg past]
      exact (decide_eq_true (by omega)).symm
  rw [← same]
  exact registry.get_retain _ id

theorem authenticateAndRegisterNode_isOk (crypto : Crypto) (registry : EphemeralRegistry)
    (profile : NodeProfile) (publicKey challenge : Bytes) (signatureHex : String)
    (trusted : List String) (encoded : profile.publicKey = Hex.encode publicKey) :
    (∃ after, registry.authenticateAndRegisterNode crypto profile challenge signatureHex trusted =
        .ok after) ↔
      crypto.thumbprint publicKey ∈ trusted ∧
        crypto.verifyChallengeResponse profile.publicKey challenge signatureHex = true := by
  simp only [EphemeralRegistry.authenticateAndRegisterNode, encoded, Hex.decode_encode]
  by_cases known : crypto.thumbprint publicKey ∈ trusted
  · by_cases verified :
        crypto.verifyChallengeResponse (Hex.encode publicKey) challenge signatureHex = true
    · simp [known, verified]
    · simp [known, verified]
  · simp [known]

end SeamlessSwarm
