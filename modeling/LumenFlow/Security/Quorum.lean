import LumenFlow.Safety.Thresholds
import LumenFlow.Security.Numbers

/-!
# Quorum checks of the SDK

`validateQuorumConfig` and `validateSignerReplacement` run before a multisig payment is
initiated.  The contract counts a signer that is listed twice as two, the SDK does not, so a
payment that is initiated with a configuration that the SDK accepts can always be signed by enough
signers, and is never executed on the word of one.
-/

namespace LumenFlow

open Kit

section Executions

variable {host : Host} {world : World}

/-- An executed payment has the signatures that it asks for. -/
def MultisigPayment.Backed (multisig : MultisigPayment) : Prop :=
  multisig.executed = true → multisig.requiredSignatures ≤ multisig.collected.length

theorem step_backed (backed : world.multisigs.All MultisigPayment.Backed) (action : Action) :
    (step host world action).multisigs.All MultisigPayment.Backed := by
  rcases step_multisigs host world action with same | ⟨auth, permits, call, rfl, change⟩
  · rw [same]
    exact backed
  · generalize (step host world (.invoke auth permits call)).multisigs = after at change ⊢
    cases change with
    | kept call other => exact backed
    | initiated => exact backed.put fun executed => absurd executed (by simp [initiatedMultisig])
    | signed multisig entry stored pending =>
        exact backed.put fun executed => absurd (pending.symm.trans executed) (by decide)
    | cancelled caller multisig stored pending =>
        exact backed.put fun executed => absurd (pending.symm.trans executed) (by decide)
    | executed payer multisig stored payable => exact backed.put fun _ => payable.ready.signed

theorem Reachable.run (reachable : Reachable host world) (actions : List Action) :
    Reachable host (run (step host) world actions) := by
  obtain ⟨start, past, deployed, rfl⟩ := reachable
  exact ⟨start, past ++ actions, deployed, (run_append start past actions).symm⟩

theorem Reachable.multisigs_backed (reachable : Reachable host world) :
    world.multisigs.All MultisigPayment.Backed := by
  obtain ⟨start, actions, deployed, rfl⟩ := reachable
  have stepwise : ∀ world action, (World.multisigs world).All MultisigPayment.Backed →
      (step host world action).multisigs.All MultisigPayment.Backed :=
    fun _ action backed => step_backed backed action
  refine run_invariant stepwise ?_ actions
  rw [deployed.multisigs_empty]
  exact Table.all_empty _

theorem Reachable.multisigs_sound (reachable : Reachable host world) :
    world.multisigs.All (MultisigPayment.Sound host) := by
  obtain ⟨start, actions, deployed, rfl⟩ := reachable
  exact run_sound deployed.multisigs_sound actions

end Executions

namespace Security

structure QuorumConfig where
  signers : List JsString
  requiredSignatures : ℚ

structure ValidationResult where
  valid : Bool
  error : JsString
  deriving DecidableEq

/-- `OK` -/
def ValidationResult.ok : ValidationResult := ⟨true, []⟩

def ValidationResult.fail (error : JsString) : ValidationResult := ⟨false, error⟩

def checkSignerSet (signers : List JsString) : ValidationResult :=
  if signers.length = 0 then .fail "signer set must be a non-empty array".toList
  else if signers.any (fun signer => trim signer = []) then
    .fail "signer set contains an empty or non-string entry".toList
  else if signers.dedup.length ≠ signers.length then
    .fail "signer set contains duplicate addresses".toList
  else .ok

def validateQuorumConfig (config : QuorumConfig) : ValidationResult :=
  let setCheck := checkSignerSet config.signers
  if setCheck.valid = false then setCheck
  else if config.requiredSignatures.den ≠ 1 then
    .fail "requiredSignatures must be an integer".toList
  else if config.requiredSignatures < 2 then
    .fail "requiredSignatures must be at least 2 for a multisig payment".toList
  else if (config.signers.length : ℚ) < config.requiredSignatures then
    .fail ("requiredSignatures (".toList ++ numberText config.requiredSignatures ++
      ") exceeds the number of signers (".toList ++ numberText config.signers.length ++
      ")".toList)
  else .ok

structure SignerReplacement where
  currentSigners : List JsString
  requiredSignatures : ℚ
  outgoing : JsString
  incoming : JsString
  signedBy : Option (List JsString)
  executed : Option Bool

/-- The signers after the replacement. -/
def SignerReplacement.nextSigners (req : SignerReplacement) : List JsString :=
  req.currentSigners.map fun signer => if signer = req.outgoing then req.incoming else signer

/-- The signatures that are left of those that were given. -/
def SignerReplacement.remaining (req : SignerReplacement) (signedBy : List JsString) :
    List JsString :=
  signedBy.filter fun signer => signer ≠ req.outgoing ∧ signer ∈ req.nextSigners

def validateSignerReplacement (req : SignerReplacement) : ValidationResult :=
  if req.executed = some true then
    .fail "cannot replace a signer on an executed payment".toList
  else
    let setCheck := checkSignerSet req.currentSigners
    if setCheck.valid = false then setCheck
    else if trim req.incoming = [] then
      .fail "incoming signer must be a non-empty address".toList
    else if req.outgoing ∉ req.currentSigners then
      .fail ("outgoing signer ".toList ++ req.outgoing ++ " is not in the current set".toList)
    else if req.incoming ∈ req.currentSigners then
      .fail ("incoming signer ".toList ++ req.incoming ++ " is already in the set".toList)
    else if req.outgoing = req.incoming then
      .fail "outgoing and incoming signer are identical".toList
    else
      let quorumCheck := validateQuorumConfig ⟨req.nextSigners, req.requiredSignatures⟩
      if quorumCheck.valid = false then quorumCheck
      else if ∃ signedBy ∈ req.signedBy, req.outgoing ∈ signedBy ∧
          ((req.remaining signedBy).length : ℚ) < req.requiredSignatures then
        .fail ("removing this signer drops valid signatures below the required quorum; ".toList ++
          "re-collect approvals after replacement".toList)
      else .ok

section Checks

variable {signers : List JsString} {config : QuorumConfig} {req : SignerReplacement}

theorem checkSignerSet_valid : (checkSignerSet signers).valid = true ↔
    signers ≠ [] ∧ (∀ signer ∈ signers, trim signer ≠ []) ∧ signers.Nodup := by
  unfold checkSignerSet
  split_ifs with empty blank repeated
  · simp [ValidationResult.fail, List.length_eq_zero_iff.mp empty]
  · obtain ⟨signer, listed, isBlank⟩ := List.any_eq_true.mp blank
    simp only [ValidationResult.fail, Bool.false_eq_true, false_iff]
    exact fun ⟨_, named, _⟩ => named signer listed (of_decide_eq_true isBlank)
  · simp only [ValidationResult.fail, Bool.false_eq_true, false_iff]
    exact fun ⟨_, _, distinct⟩ => repeated (by rw [distinct.dedup])
  · simp only [ValidationResult.ok, true_iff]
    refine ⟨fun none => empty (by rw [none, List.length_nil]), ?_, ?_⟩
    · intro signer listed isBlank
      exact blank (List.any_eq_true.mpr ⟨signer, listed, decide_eq_true isBlank⟩)
    · have whole : signers.dedup = signers :=
        (List.dedup_sublist signers).eq_of_length (not_not.mp repeated)
      rw [← whole]
      exact List.nodup_dedup signers

/-- A configuration is accepted if its signers are named, different and at least as many as the
signatures, of which there are two or more. -/
theorem validateQuorumConfig_valid : (validateQuorumConfig config).valid = true ↔
    ((∀ signer ∈ config.signers, trim signer ≠ []) ∧ config.signers.Nodup) ∧
      ∃ required : ℕ, config.requiredSignatures = required ∧ 2 ≤ required ∧
        required ≤ config.signers.length := by
  have whole : config.requiredSignatures.den = 1 ↔
      (config.requiredSignatures.num : ℚ) = config.requiredSignatures :=
    Rat.den_eq_one_iff _
  unfold validateQuorumConfig
  simp only
  split_ifs with set fraction few many
  · have refused : ¬ (checkSignerSet config.signers).valid = true := by simp [set]
    rw [checkSignerSet_valid] at refused
    simp only [set, Bool.false_eq_true, false_iff]
    rintro ⟨⟨named, distinct⟩, required, _, two, enough⟩
    refine refused ⟨?_, named, distinct⟩
    intro none
    rw [none, List.length_nil] at enough
    omega
  · simp only [ValidationResult.fail, Bool.false_eq_true, false_iff]
    rintro ⟨_, required, same, _⟩
    exact fraction (by rw [same]; exact Rat.den_natCast required)
  · simp only [ValidationResult.fail, Bool.false_eq_true, false_iff]
    rintro ⟨_, required, same, two, _⟩
    rw [same] at few
    exact absurd two (not_le.mpr (by exact_mod_cast few))
  · simp only [ValidationResult.fail, Bool.false_eq_true, false_iff]
    rintro ⟨_, required, same, _, enough⟩
    rw [same] at many
    exact absurd enough (not_le.mpr (by exact_mod_cast many))
  · simp only [ValidationResult.ok, true_iff]
    have accepted : (checkSignerSet config.signers).valid = true := by simpa using set
    obtain ⟨_, named, distinct⟩ := checkSignerSet_valid.mp accepted
    have integral := whole.mp (not_not.mp fraction)
    have positive : 2 ≤ config.requiredSignatures.num := by
      rw [not_lt, ← integral] at few
      exact_mod_cast few
    refine ⟨⟨named, distinct⟩, config.requiredSignatures.num.toNat, ?_, by omega, ?_⟩
    · have same : ((config.requiredSignatures.num.toNat : ℤ) : ℚ) =
          config.requiredSignatures.num := by rw [Int.toNat_of_nonneg (by omega)]
      rw [← integral, ← same]
      norm_cast
    · rw [not_lt, ← integral] at many
      have bounded : config.requiredSignatures.num ≤ config.signers.length := by
        exact_mod_cast many
      omega

theorem validateSignerReplacement_valid : (validateSignerReplacement req).valid = true ↔
    req.executed ≠ some true ∧ (checkSignerSet req.currentSigners).valid = true ∧
      trim req.incoming ≠ [] ∧ req.outgoing ∈ req.currentSigners ∧
      req.incoming ∉ req.currentSigners ∧
      (validateQuorumConfig ⟨req.nextSigners, req.requiredSignatures⟩).valid = true ∧
      ∀ signedBy ∈ req.signedBy, req.outgoing ∈ signedBy →
        req.requiredSignatures ≤ (req.remaining signedBy).length := by
  have remaining : (∀ signedBy ∈ req.signedBy, req.outgoing ∈ signedBy →
      req.requiredSignatures ≤ (req.remaining signedBy).length) ↔
      ¬ ∃ signedBy ∈ req.signedBy, req.outgoing ∈ signedBy ∧
        ((req.remaining signedBy).length : ℚ) < req.requiredSignatures := by
    simp only [not_exists, not_and, not_lt]
  have identical (present : req.outgoing ∈ req.currentSigners)
      (fresh : req.incoming ∉ req.currentSigners) : req.outgoing ≠ req.incoming :=
    fun same => fresh (same ▸ present)
  rw [remaining]
  unfold validateSignerReplacement
  simp only [ValidationResult.fail, ValidationResult.ok]
  split_ifs <;> simp_all

end Checks

section Contract

/-- The SDK has accepted the configuration, or the replacement that leads to it. -/
def Proposed (config : QuorumConfig) : Prop :=
  (validateQuorumConfig config).valid = true ∨
    ∃ req, (validateSignerReplacement req).valid = true ∧
      config = ⟨req.nextSigners, req.requiredSignatures⟩

theorem Proposed.valid {config : QuorumConfig} (proposed : Proposed config) :
    (validateQuorumConfig config).valid = true := by
  rcases proposed with valid | ⟨req, accepted, rfl⟩
  · exact valid
  · exact (validateSignerReplacement_valid.mp accepted).2.2.2.2.2.1

variable {host : Host} {world : World}

/-- A multisig payment that is initiated in time with a configuration that the SDK has accepted
can be completed by signatures of its signers, always has enough signers who can sign, and is
never executed without two of them. -/
theorem proposed_multisig_completable {config : QuorumConfig} (proposed : Proposed config)
    (address : JsString → Address) (faithful : Set.InjOn address { s | s ∈ config.signers })
    (foreign : ∀ signer ∈ config.signers, address signer ≠ host.self)
    (reachable : Reachable host world) {auth : List Address} {permits : TokenCall → Bool}
    {initiator : Address} {paymentId : Text} {merchantAddress token : Address} {amount : Int}
    {required : ℕ} {expiresAt : Option ℕ} (threshold : config.requiredSignatures = required)
    (accepted : Accepted host world auth permits (.multisig (.initiateMultisigPayment initiator
      paymentId merchantAddress token amount (config.signers.map address) required expiresAt)))
    (early : world.timestamp < expiresAt.getD
      (saturatingAddU64 world.timestamp world.getMultisigExpiryDuration)) :
    let action := .invoke auth permits (.multisig (.initiateMultisigPayment initiator paymentId
      merchantAddress token amount (config.signers.map address) required expiresAt))
    (∃ multisig, (step host world action).getMultisig paymentId = some multisig ∧
      Completable host (step host world action) multisig) ∧
    ∀ actions, ∃ later,
      (run (step host) (step host world action) actions).getMultisig paymentId = some later ∧
      later.requiredSignatures ≤ (later.able host).card ∧
      (later.executed = true →
        2 ≤ ((later.collected.map SignatureEntry.signer).toFinset ∩
          (later.able host)).card) := by
  intro action
  obtain ⟨⟨_, distinct⟩, quorum, same, two, enough⟩ := validateQuorumConfig_valid.mp proposed.valid
  obtain rfl : required = quorum := by exact_mod_cast threshold.symm.trans same
  let multisig := initiatedMultisig world initiator paymentId merchantAddress token amount
    (config.signers.map address) required expiresAt
  have different : (config.signers.map address).Nodup :=
    (List.nodup_map_iff_inj_on distinct).mpr fun first listed second other =>
      faithful listed other
  have able : multisig.able host = (config.signers.map address).toFinset := by
    apply Finset.erase_eq_of_notMem
    rw [List.mem_toFinset]
    intro member
    obtain ⟨signer, listed, own⟩ := List.mem_map.mp member
    exact foreign signer listed own
  have size : (multisig.able host).card = config.signers.length := by
    rw [able, List.toFinset_card_of_nodup different, List.length_map]
  have stored : (step host world action).getMultisig paymentId = some multisig := by
    rw [(accepted.initiated rfl).2.2]
    exact Table.get_put_self _ multisig
  refine ⟨⟨multisig, stored, completable_of_meetable accepted ?_ rfl⟩, fun actions => ?_⟩
  · intro initiated member
    obtain rfl := Option.some.inj member
    refine ⟨enough.trans size.ge, fun limit expiry => ?_⟩
    obtain rfl := Option.some.inj expiry
    exact early
  · obtain ⟨later, found, follows⟩ := run_follows stored actions
    have sameAble : later.able host = multisig.able host := by
      rw [MultisigPayment.able, follows.signers, MultisigPayment.able]
    have asked : later.requiredSignatures = required := follows.requiredSignatures
    have after : Reachable host (run (step host) world (action :: actions)) :=
      reachable.run (action :: actions)
    refine ⟨later, found, ?_, fun executed => ?_⟩
    · rw [asked, sameAble, size]
      exact enough
    · have sound := after.multisigs_sound _ _ found
      have inside : (later.collected.map SignatureEntry.signer).toFinset ∩ later.able host =
          (later.collected.map SignatureEntry.signer).toFinset := by
        apply Finset.inter_eq_left.mpr
        intro signer signed
        obtain ⟨entry, collected, rfl⟩ := List.mem_map.mp (List.mem_toFinset.mp signed)
        exact Finset.mem_erase.mpr
          ⟨sound.foreign entry collected, List.mem_toFinset.mpr (sound.listed entry collected)⟩
      rw [inside, List.toFinset_card_of_nodup sound.distinct, List.length_map]
      have backed := after.multisigs_backed _ _ found executed
      omega

end Contract

/-- The accounts of the shop and of its rival. -/
def Sample.panel : QuorumConfig where
  signers := [
    "GAAAAAAAAAAAAAAAAAAAAAAAAAAAAAAAAAAAAAAAAAAAAAAAAAAAEGWF".toList,
    "GAAAAAAAAAAAAAAAAAAAAAAAAAAAAAAAAAAAAAAAAAAAAAAAAAAAGO6V".toList]
  requiredSignatures := 2

def Sample.base32 (digit : Char) : Nat :=
  if digit.isDigit then digit.toNat - 24 else digit.toNat - 65

/-- The public key in an address, between a version byte and a checksum of two bytes. -/
def Sample.signerAddress (signer : JsString) : Address :=
  .account (BitVec.ofNat 256
    (signer.foldl (fun number digit => number * 32 + base32 digit) 0 / 2 ^ 16))

example : Sample.panel.signers.map Sample.signerAddress =
    [LumenFlow.Sample.shop, LumenFlow.Sample.rival] := by decide +kernel

theorem proposed_multisig_completable_sample : ∃ multisig,
    (step Sample.host (Sample.world []) (Sample.initiating
      (Sample.panel.signers.map Sample.signerAddress) 2 none)).getMultisig [1] = some multisig ∧
      Completable Sample.host (step Sample.host (Sample.world []) (Sample.initiating
        (Sample.panel.signers.map Sample.signerAddress) 2 none)) multisig := by
  have proposed : Proposed Sample.panel :=
    .inl (validateQuorumConfig_valid.mpr
      ⟨by decide +kernel, 2, rfl, by decide, by decide +kernel⟩)
  have faithful : Set.InjOn Sample.signerAddress { s | s ∈ Sample.panel.signers } := by
    intro first listed second other same
    have apart : ∀ first ∈ Sample.panel.signers, ∀ second ∈ Sample.panel.signers,
        Sample.signerAddress first = Sample.signerAddress second → first = second := by
      decide +kernel
    exact apart first listed second other same
  exact (proposed_multisig_completable proposed Sample.signerAddress faithful (by decide +kernel)
    (Sample.reachable_world []) rfl (by decide +kernel) (by decide +kernel)).1

end Security

end LumenFlow
