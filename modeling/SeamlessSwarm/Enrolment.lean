import SeamlessSwarm.Registry

/-! Enrolment of a node in the shared registry. The provisioning tool computes the
thumbprints that go onto the trusted list, the hub computes its own, and the registry
is written only after every check. -/
namespace SeamlessSwarm

/-- Of the provisioning tool, for the key as it was given to it. -/
def calculateThumbprint (crypto : Crypto) (publicKey : String) : Except Hex.FromHexError String :=
  do
  let pkBytes ← Hex.decode publicKey
  return Hex.encode (crypto.sha256 pkBytes)

/-- A call on the shared registry, which keeps what was written before a failure. -/
abbrev Enrolling := ExceptT EphemeralRegistry.RegisterError (StateM EphemeralRegistry)

namespace Enrolling

def call {α : Type} (enrolling : Enrolling α) (registry : EphemeralRegistry) :
    Except EphemeralRegistry.RegisterError α × EphemeralRegistry :=
  enrolling.run.run registry

def decodeKey (publicKey : String) : Enrolling Bytes :=
  match Hex.decode publicKey with
  | .error e => throw (.hex e)
  | .ok pkBytes => pure pkBytes

def registerNode (profile : NodeProfile) : Enrolling Unit :=
  modify fun registry => registry.registerNode profile

def authenticateAndRegisterNode (crypto : Crypto) (profile : NodeProfile) (challenge : Bytes)
    (signatureHex : String) (trustedThumbprints : List String) : Enrolling Unit := do
  let pkBytes ← decodeKey profile.publicKey
  let derivedThumbprint := Hex.encode (crypto.sha256 pkBytes)
  if derivedThumbprint ∉ trustedThumbprints then
    throw (.rejected "Node public key thumbprint not authorized in database")
  if crypto.verifyChallengeResponse profile.publicKey challenge signatureHex = false then
    throw (.rejected "Cryptographic ECDSA verification failed")
  registerNode profile

end Enrolling

structure Enrollable (crypto : Crypto) (profile : NodeProfile) (challenge : Bytes)
    (signatureHex : String) (trusted : List String) : Prop where
  hex : ∃ pkBytes, Hex.decode profile.publicKey = .ok pkBytes
  known : ∃ thumbprint, calculateThumbprint crypto profile.publicKey = .ok thumbprint ∧
    thumbprint ∈ trusted
  verified : crypto.verifyChallengeResponse profile.publicKey challenge signatureHex = true

/-- A call admits exactly what can be enrolled, and it changes one entry or nothing. -/
structure EnrolmentCorrect (crypto : Crypto) (registry : EphemeralRegistry) (profile : NodeProfile)
    (challenge : Bytes) (signatureHex : String) (trusted : List String)
    (outcome : Except EphemeralRegistry.RegisterError Unit × EphemeralRegistry) : Prop where
  admits : outcome.1 = .ok () ↔ Enrollable crypto profile challenge signatureHex trusted
  registered : outcome.1 = .ok () → ∀ id,
    outcome.2.getNode id = if id = profile.nodeId then some profile else registry.getNode id
  refused : ∀ e, outcome.1 = .error e → outcome.2 = registry

section Call
variable (crypto : Crypto) (registry : EphemeralRegistry) (profile : NodeProfile)
  (challenge : Bytes) (signatureHex : String) (trusted : List String)

theorem enrolling_eq :
    (Enrolling.authenticateAndRegisterNode crypto profile challenge signatureHex trusted).call
    registry =
      match registry.authenticateAndRegisterNode crypto profile challenge signatureHex trusted with
      | .ok after => (.ok (), after)
      | .error e => (.error e, registry) := by
  unfold Enrolling.authenticateAndRegisterNode EphemeralRegistry.authenticateAndRegisterNode
    Enrolling.decodeKey Crypto.thumbprint
  cases Hex.decode profile.publicKey with
  | error e => rfl
  | ok pkBytes =>
    by_cases known : Hex.encode (crypto.sha256 pkBytes) ∈ trusted
    · cases verified : crypto.verifyChallengeResponse profile.publicKey challenge signatureHex with
      | true =>
        simp only [pure_bind, known, not_true_eq_false, if_false, Bool.true_eq_false]
        rfl
      | false =>
        simp only [pure_bind, known, not_true_eq_false, if_false, if_true]
        rfl
    · simp only [pure_bind, known, not_false_eq_true, if_true]
      rfl

theorem authenticate_cases :
    (Enrollable crypto profile challenge signatureHex trusted ∧
      registry.authenticateAndRegisterNode crypto profile challenge signatureHex trusted =
        .ok (registry.registerNode profile)) ∨
    (¬ Enrollable crypto profile challenge signatureHex trusted ∧ ∃ e,
      registry.authenticateAndRegisterNode crypto profile challenge signatureHex trusted =
        .error e) := by
  unfold EphemeralRegistry.authenticateAndRegisterNode
  cases decoded : Hex.decode profile.publicKey with
  | error e =>
    refine Or.inr ⟨?_, _, rfl⟩
    rintro ⟨⟨pkBytes, valid⟩, _, _⟩
    rw [decoded] at valid
    cases valid
  | ok pkBytes =>
    have derived : calculateThumbprint crypto profile.publicKey = .ok
        (crypto.thumbprint pkBytes) := by
      rw [calculateThumbprint, decoded]
      rfl
    by_cases known : crypto.thumbprint pkBytes ∈ trusted
    · cases verified : crypto.verifyChallengeResponse profile.publicKey challenge signatureHex with
      | true => exact Or.inl ⟨⟨⟨pkBytes, decoded⟩, ⟨_, derived, known⟩, verified⟩, by simp [known]⟩
      | false =>
        refine Or.inr ⟨?_, _, by simp only [known, not_true_eq_false, if_false, if_true]; rfl⟩
        intro fit
        rw [fit.verified] at verified
        cases verified
    · refine Or.inr ⟨?_, _, if_pos known⟩
      rintro ⟨_, ⟨thumbprint, same, listed⟩, _⟩
      rw [derived] at same
      cases same
      exact known listed

/-- Admission on the shared registry agrees with the tool's thumbprints, registers
one node, and fails without a trace. -/
theorem enrolment_correct : EnrolmentCorrect crypto registry profile challenge signatureHex trusted
    ((Enrolling.authenticateAndRegisterNode crypto profile challenge signatureHex trusted).call
      registry) := by
  rw [enrolling_eq]
  rcases authenticate_cases crypto registry profile challenge signatureHex trusted with
    ⟨fit, done⟩ | ⟨unfit, e, failed⟩
  · rw [done]
    constructor
    · exact iff_of_true rfl fit
    · intro _ id
      exact Keyed.Table.get_insert registry profile id
    · nofun
  · rw [failed]
    constructor
    · exact iff_of_false nofun unfit
    · nofun
    · intro _ _
      rfl

end Call

end SeamlessSwarm
