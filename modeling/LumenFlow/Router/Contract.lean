import LumenFlow.Kit.Run
import LumenFlow.Kit.Transaction
import LumenFlow.Model.Types

/-!
# The router contract

Its storage entries, the functions that set them and `route_call`.  Each function is a
transaction, and a failed assertion or `expect` traps and rolls it back.
-/

namespace LumenFlow

open Kit

namespace Router

inductive Slot where
  | blue
  | green
  deriving DecidableEq

inductive Event where
  | routedToBlue (ledgerSeq : Nat)
  | routedToGreen (ledgerSeq : Nat)
  | routedToCanary (ledgerSeq : Nat)
  | routedToStable (ledgerSeq : Nat)
  | blueGreenCutover (slot : Slot)
  deriving DecidableEq

/-- The instance storage under the keys of `RouterKey`, and the events published so far. -/
structure Storage where
  blueContract : Option Address
  greenContract : Option Address
  activeSlot : Option Slot
  stableContract : Option Address
  canaryContract : Option Address
  canaryWeight : Option Nat
  admin : Option Address
  events : List Event

/-- The ledger in which a call runs, and the addresses that authorised it. -/
structure Env where
  sequence : Nat
  authorized : Address → Bool

inductive Trap where
  | unauthorized
  | adminNotSet
  | notTheAdmin
  | blueNotConfigured
  | greenNotConfigured
  | stableNotConfigured
  | canaryNotConfigured
  | weightOutOfRange
  deriving DecidableEq

/-- The text of a panic; `require_auth` traps in the host. -/
def Trap.message : Trap → Option String
  | unauthorized => none
  | adminNotSet => some "router admin not set — call set_admin first"
  | notTheAdmin => some "caller is not the router admin"
  | blueNotConfigured => some "blue contract not configured — call set_blue_contract first"
  | greenNotConfigured => some "green contract not configured — call set_green_contract first"
  | stableNotConfigured => some "stable contract not configured — call set_stable_contract first"
  | canaryNotConfigured => some "canary contract not configured — call set_canary_contract first"
  | weightOutOfRange => some "weight must be in range 0–100"

abbrev Routine (Result : Type) := Tx Env Storage Trap Result

/-- The router after its deployment. -/
def Storage.fresh : Storage := ⟨none, none, none, none, none, none, none, []⟩

def publish (event : Event) : Routine Unit :=
  Tx.modify fun router => { router with events := router.events ++ [event] }

/-! ## Checks -/

def requireAuth (address : Address) : Routine Unit := do
  let env ← Tx.ask
  Tx.require (env.authorized address = true) .unauthorized

def requireAdmin (caller : Address) : Routine Unit := do
  let stored ← Tx.gets Storage.admin
  let admin ← Tx.okOr stored .adminNotSet
  Tx.require (caller = admin) .notTheAdmin

/-! ## Setters -/

def setAdmin (admin : Address) : Routine Unit := do
  let current ← Tx.gets Storage.admin
  Tx.whenSome current requireAuth
  Tx.modify fun router => { router with admin := some admin }

/-- A setter that writes what the admin says. -/
def configure (admin : Address) (change : Storage → Storage) : Routine Unit := do
  requireAuth admin
  requireAdmin admin
  Tx.modify change

def setBlueContract (admin blueId : Address) : Routine Unit :=
  configure admin fun router => { router with blueContract := some blueId }

def setGreenContract (admin greenId : Address) : Routine Unit :=
  configure admin fun router => { router with greenContract := some greenId }

def setStableContract (admin stableId : Address) : Routine Unit :=
  configure admin fun router => { router with stableContract := some stableId }

def setCanaryContract (admin canaryId : Address) : Routine Unit :=
  configure admin fun router => { router with canaryContract := some canaryId }

def setActiveSlot (admin : Address) (slot : Slot) : Routine Unit := do
  requireAuth admin
  requireAdmin admin
  let router ← Tx.gets id
  match slot with
  | .blue => Tx.require (router.blueContract.isSome = true) .blueNotConfigured
  | .green => Tx.require (router.greenContract.isSome = true) .greenNotConfigured
  Tx.modify fun router => { router with activeSlot := some slot }
  publish (.blueGreenCutover slot)

def setCanaryWeight (admin : Address) (weight : Nat) : Routine Unit := do
  requireAuth admin
  requireAdmin admin
  Tx.require (weight ≤ 100) .weightOutOfRange
  Tx.modify fun router => { router with canaryWeight := some weight }

/-! ## Routing -/

def getActiveSlot (router : Storage) : Slot := router.activeSlot.getD .blue
def getBlueContract (router : Storage) : Option Address := router.blueContract
def getGreenContract (router : Storage) : Option Address := router.greenContract
def getCanaryWeight (router : Storage) : Nat := router.canaryWeight.getD 0
def getStableContract (router : Storage) : Option Address := router.stableContract
def getCanaryContract (router : Storage) : Option Address := router.canaryContract

/-- A branch of `route_call`: the contract that it expects, with the event that it publishes. -/
def forward (contract : Option Address) (missing : Trap) (event : Event) : Routine Address := do
  let address ← Tx.okOr contract missing
  publish event
  pure address

def routeCall : Routine Address := do
  let canaryWeight ← Tx.gets getCanaryWeight
  let env ← Tx.ask
  let ledgerSeq := env.sequence
  let router ← Tx.gets id
  if 0 < canaryWeight then
    let bucket := ledgerSeq % 100
    if bucket < canaryWeight then
      forward router.canaryContract .canaryNotConfigured (.routedToCanary ledgerSeq)
    else
      forward router.stableContract .stableNotConfigured (.routedToStable ledgerSeq)
  else
    match getActiveSlot router with
    | .blue => forward router.blueContract .blueNotConfigured (.routedToBlue ledgerSeq)
    | .green => forward router.greenContract .greenNotConfigured (.routedToGreen ledgerSeq)

/-! ## Operations -/

inductive Op where
  | setAdmin (admin : Address)
  | setBlueContract (admin blueId : Address)
  | setGreenContract (admin greenId : Address)
  | setActiveSlot (admin : Address) (slot : Slot)
  | setStableContract (admin stableId : Address)
  | setCanaryContract (admin canaryId : Address)
  | setCanaryWeight (admin : Address) (weight : Nat)
  | routeCall
  | getActiveSlot
  | getBlueContract
  | getGreenContract
  | getCanaryWeight
  | getStableContract
  | getCanaryContract
  deriving DecidableEq

def Op.body : Op → Routine Unit
  | setAdmin admin => Router.setAdmin admin
  | setBlueContract admin blueId => Router.setBlueContract admin blueId
  | setGreenContract admin greenId => Router.setGreenContract admin greenId
  | setActiveSlot admin slot => Router.setActiveSlot admin slot
  | setStableContract admin stableId => Router.setStableContract admin stableId
  | setCanaryContract admin canaryId => Router.setCanaryContract admin canaryId
  | setCanaryWeight admin weight => Router.setCanaryWeight admin weight
  | routeCall => Router.routeCall.discard
  | getActiveSlot => (Tx.gets Router.getActiveSlot).discard
  | getBlueContract => (Tx.gets Router.getBlueContract).discard
  | getGreenContract => (Tx.gets Router.getGreenContract).discard
  | getCanaryWeight => (Tx.gets Router.getCanaryWeight).discard
  | getStableContract => (Tx.gets Router.getStableContract).discard
  | getCanaryContract => (Tx.gets Router.getCanaryContract).discard

/-- An operation, and the ledger and authorisations with which it is called. -/
structure Input where
  env : Env
  op : Op

/-- The router after an operation, which leaves it alone when it traps. -/
def Storage.take (router : Storage) (input : Input) : Storage :=
  input.op.body.settle input.env router

/-! ## When an operation succeeds -/

/-- The caller has authorised the call and is the admin. -/
def Admitted (env : Env) (router : Storage) (caller : Address) : Prop :=
  env.authorized caller = true ∧ router.admin = some caller

instance (env : Env) (router : Storage) (caller : Address) :
    Decidable (Admitted env router caller) :=
  inferInstanceAs (Decidable (_ ∧ _))

/-- The contract that is configured for a slot. -/
def Storage.contractOf (router : Storage) : Slot → Option Address
  | .blue => router.blueContract
  | .green => router.greenContract

section Commits

variable {env : Env} {router next : Storage} {result : Unit} {caller address : Address}
  {slot : Slot} {weight : Nat}

@[simp]
theorem commits_publish {event : Event} : (publish event).Commits env router result next ↔
    next = { router with events := router.events ++ [event] } :=
  Tx.commits_modify

@[simp]
theorem commits_requireAuth : (requireAuth caller).Commits env router result next ↔
    env.authorized caller = true ∧ next = router := by
  simp [requireAuth, and_comm]

@[simp]
theorem commits_requireAdmin : (requireAdmin caller).Commits env router result next ↔
    router.admin = some caller ∧ next = router := by
  constructor
  · intro committed
    have stored : some caller = router.admin ∧ next = router := by
      simpa [requireAdmin] using committed
    exact ⟨stored.1.symm, stored.2⟩
  · rintro ⟨found, rfl⟩
    simp [requireAdmin, found]

@[simp]
theorem commits_configure {change : Storage → Storage} :
    (configure caller change).Commits env router result next ↔
      Admitted env router caller ∧ next = change router := by
  simp [configure, Admitted, and_assoc]

@[simp]
theorem commits_setCanaryWeight : (setCanaryWeight caller weight).Commits env router result next ↔
    Admitted env router caller ∧ weight ≤ 100 ∧
      next = { router with canaryWeight := some weight } := by
  simp [setCanaryWeight, Admitted, and_assoc]

@[simp]
theorem commits_setActiveSlot : (setActiveSlot caller slot).Commits env router result next ↔
    Admitted env router caller ∧ (router.contractOf slot).isSome = true ∧
      next = { router with
        activeSlot := some slot, events := router.events ++ [.blueGreenCutover slot] } := by
  cases slot <;> simp [setActiveSlot, Admitted, Storage.contractOf, and_assoc]

theorem commits_forward {contract : Option Address} {missing : Trap} {event : Event} :
    (forward contract missing event).Commits env router address next ↔
      contract = some address ∧ next = { router with events := router.events ++ [event] } := by
  simp [forward]

end Commits

end Router

end LumenFlow
