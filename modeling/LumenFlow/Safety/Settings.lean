import LumenFlow.Effect.Accepted
import LumenFlow.Effect.Frame

/-!
# Settings

Each setter gives its settings the values of its arguments and leaves all other settings as they
were, except that the window of the payment rate is written over the refund window.
-/

namespace LumenFlow

open Kit Contract

inductive Setting where
  | cleanupPeriod | platformFeeBps | feeRecipient | largePaymentThreshold
  | multisigExpiryDuration | maxMultisigSigners | refundWindow | refundRetentionPeriod
  | minRefundAmount | signatureExpiryWindow | rateLimitPerWindow | pauseGuardians
  deriving DecidableEq

namespace Setting

def Value : Setting → Type
  | feeRecipient => Option Address
  | largePaymentThreshold | minRefundAmount => Int
  | pauseGuardians => List Address
  | _ => Nat

/-- The value that the contract uses, which is the default where none is set. -/
def read : (setting : Setting) → World → setting.Value
  | cleanupPeriod => World.getCleanupPeriod
  | platformFeeBps => World.getPlatformFeeBps
  | feeRecipient => World.getFeeRecipient
  | largePaymentThreshold => World.getLargePaymentThreshold
  | multisigExpiryDuration => World.getMultisigExpiryDuration
  | maxMultisigSigners => World.getMaxMultisigSigners
  | refundWindow => World.getRefundWindow
  | refundRetentionPeriod => World.getRefundRetentionPeriod
  | minRefundAmount => World.getMinRefundAmount
  | signatureExpiryWindow => World.getSignatureExpiryWindow
  | rateLimitPerWindow => World.getRateLimitPerWindow
  | pauseGuardians => World.getPauseGuardians

end Setting

/-- The call is one of the setters. -/
def AdminCall.IsSetter : AdminCall → Prop
  | .setPaymentCleanupPeriod .. | .setPlatformFee .. | .setPlatformFeeLogged ..
  | .setLargePaymentThreshold .. | .setMultisigExpiryDuration ..
  | .setMultisigExpiryDurationLogged .. | .setMaxSigners .. | .setRefundWindow ..
  | .setRefundWindowLogged .. | .setMinRefundAmount .. | .setMinRefundAmountLogged ..
  | .setSignatureExpiryWindow .. | .setRateLimit .. | .setPaymentRateLimit ..
  | .setPaymentRateWindow .. | .setRefundRetentionPeriod .. | .setPauseGuardians .. => True
  | _ => False

/-- The value that the call is there to give to a setting.  The contract has no setting for the
window of the payment rate, which is a constant. -/
def AdminCall.assigned : AdminCall → (setting : Setting) → Option setting.Value
  | .setPaymentCleanupPeriod _ period, .cleanupPeriod => some period
  | .setPlatformFee _ feeBps _, .platformFeeBps => some feeBps
  | .setPlatformFee _ _ recipient, .feeRecipient => some (some recipient)
  | .setPlatformFeeLogged _ feeBps, .platformFeeBps => some feeBps
  | .setLargePaymentThreshold _ threshold, .largePaymentThreshold => some threshold
  | .setMultisigExpiryDuration _ duration, .multisigExpiryDuration => some duration
  | .setMultisigExpiryDurationLogged _ duration, .multisigExpiryDuration => some duration
  | .setMaxSigners _ limit, .maxMultisigSigners => some limit
  | .setRefundWindow _ windowSecs, .refundWindow => some windowSecs
  | .setRefundWindowLogged _ windowSecs, .refundWindow => some windowSecs
  | .setMinRefundAmount _ amount, .minRefundAmount => some amount
  | .setMinRefundAmountLogged _ amount, .minRefundAmount => some amount
  | .setSignatureExpiryWindow _ windowSecs, .signatureExpiryWindow => some windowSecs
  | .setRateLimit _ limit, .rateLimitPerWindow => some limit
  | .setPaymentRateLimit _ limit, .rateLimitPerWindow => some limit
  | .setRefundRetentionPeriod _ period, .refundRetentionPeriod => some period
  | .setPauseGuardians _ guardians, .pauseGuardians => some guardians
  | _, _ => none

/-- A setter that succeeds gives its settings their values and keeps all others. -/
def SetsOwnOnly (host : Host) (world : World) (action : Action) : Prop :=
  ∀ auth permits (call : AdminCall), action = .invoke auth permits (.admin call) →
    call.IsSetter → Accepted host world auth permits (.admin call) →
      ∀ setting : Setting, setting.read (step host world action) =
        (call.assigned setting).getD (setting.read world)

/-- The window of the payment rate is set to what the refund window is, and the second
definition of `set_refund_window` gets no window below the least one. -/
def KeepsRefundWindow (world : World) : Call → Prop
  | .admin (.setPaymentRateWindow _ windowSecs) => windowSecs = world.getRefundWindow
  | .admin (.setRefundWindowLogged _ windowSecs) => minRefundWindowSecs ≤ windowSecs
  | _ => True

instance (world : World) (call : Call) : Decidable (KeepsRefundWindow world call) := by
  unfold KeepsRefundWindow
  split <;> infer_instance

section Setters

variable {env : Env} {world next : World} {call : AdminCall}

/-- The part of the ledger that a setting lies in. -/
def Setting.part : Setting → Part
  | cleanupPeriod => .cleanupPeriod
  | platformFeeBps => .platformFeeBps
  | feeRecipient => .feeRecipient
  | largePaymentThreshold => .largePaymentThreshold
  | multisigExpiryDuration => .multisigExpiry
  | maxMultisigSigners => .maxSigners
  | refundWindow => .refundWindow
  | refundRetentionPeriod => .refundRetention
  | minRefundAmount => .minRefundAmount
  | signatureExpiryWindow => .signatureExpiry
  | rateLimitPerWindow => .rateLimit
  | pauseGuardians => .pausing

theorem Setting.read_of_part (setting : Setting)
    (same : setting.part.read next = setting.part.read world) :
    setting.read next = setting.read world := by
  cases setting with
  | feeRecipient => exact same
  | pauseGuardians => exact congrArg Pausing.guardians same
  | _ => exact congrArg (Option.getD · _) same

theorem AdminCall.sets (setter : call.IsSetter)
    (others : ∀ admin windowSecs, call ≠ .setPaymentRateWindow admin windowSecs)
    (committed : call.exec.Commits env world () next) (setting : Setting) :
    setting.read next = (call.assigned setting).getD (setting.read world) := by
  cases call with
  | setPaymentRateWindow admin windowSecs => exact absurd rfl (others admin windowSecs)
  | setPlatformFee admin feeBps recipient =>
      simp [AdminCall.exec, Contract.setPlatformFee] at committed
      obtain ⟨_, _, logged⟩ := committed
      have unlogged : setting.part ≠ .audit := by cases setting <;> simp [Setting.part]
      rw [setting.read_of_part (same_part [.audit] logged _ (by simpa using unlogged))]
      cases setting <;> rfl
  | _ =>
      first
      | exact setter.elim
      | simp [AdminCall.exec, Contract.setPaymentCleanupPeriod, Contract.setPlatformFeeLogged,
          Contract.setLargePaymentThreshold, Contract.setMultisigExpiryDuration,
          Contract.setMultisigExpiryDurationLogged, Contract.setMaxSigners,
          Contract.setRefundWindow, Contract.setRefundWindowLogged, Contract.setMinRefundAmount,
          Contract.setMinRefundAmountLogged, Contract.setSignatureExpiryWindow,
          Contract.setRateLimit, Contract.setPaymentRateLimit, Contract.setRefundRetentionPeriod,
          Contract.setPauseGuardians] at committed
        first
        | obtain ⟨_, rfl⟩ := committed
        | obtain ⟨_, _, rfl⟩ := committed
        cases setting <;> rfl

theorem setPaymentRateWindow_writes {admin : Address} {windowSecs : Nat}
    (committed : (AdminCall.setPaymentRateWindow admin windowSecs).exec.Commits env world () next) :
    next = world.setRefundWindow windowSecs := by
  simp [AdminCall.exec, Contract.setPaymentRateWindow] at committed
  exact committed.2.2

theorem setRefundWindowLogged_writes {admin : Address} {windowSecs : Nat}
    (committed : (AdminCall.setRefundWindowLogged admin windowSecs).exec.Commits env world ()
      next) : next = world.setRefundWindow windowSecs := by
  simp [AdminCall.exec, Contract.setRefundWindowLogged] at committed
  exact committed.2

end Setters

/-- The refund window is long enough, and no other one waits for a migration. -/
structure World.Windowed (world : World) : Prop where
  least : minRefundWindowSecs ≤ world.getRefundWindow
  settled : world.config.legacy.refundWindow = none

section Runs

variable {host : Host} {world start : World} {action : Action}

theorem Call.window_cases (call : Call) :
    (.refundWindow ∉ call.parts ∧ .legacy ∉ call.parts) ∨
      (∃ admin windowSecs, call = .admin (.setRefundWindow admin windowSecs)) ∨
      (∃ admin windowSecs, call = .admin (.setRefundWindowLogged admin windowSecs)) ∨
      (∃ admin windowSecs, call = .admin (.setPaymentRateWindow admin windowSecs)) ∨
      ∃ admin, call = .admin (.migrateStorageKeys admin) := by
  cases call with
  | admin call =>
      cases call with
      | setRefundWindow => exact .inr (.inl ⟨_, _, rfl⟩)
      | setRefundWindowLogged => exact .inr (.inr (.inl ⟨_, _, rfl⟩))
      | setPaymentRateWindow => exact .inr (.inr (.inr (.inl ⟨_, _, rfl⟩)))
      | migrateStorageKeys => exact .inr (.inr (.inr (.inr ⟨_, rfl⟩)))
      | _ => exact .inl (of_decide_eq_true rfl)
  | _ call => cases call <;> exact .inl (of_decide_eq_true rfl)

/-- A call that meets the condition leaves the refund window long enough. -/
theorem World.Windowed.kept {env : Env} {next : World} {call : Call} (windowed : world.Windowed)
    (met : KeepsRefundWindow world call) (committed : call.exec.Commits env world () next) :
    next.Windowed := by
  rcases call.window_cases with ⟨window, legacy⟩ | ⟨admin, windowSecs, rfl⟩ |
    ⟨admin, windowSecs, rfl⟩ | ⟨admin, windowSecs, rfl⟩ | ⟨admin, rfl⟩
  · have writes := call.writes
    have sameWindow : next.config.refundWindow = world.config.refundWindow :=
      same_part call.parts committed .refundWindow window
    have sameLegacy : next.config.legacy = world.config.legacy :=
      same_part call.parts committed .legacy legacy
    exact ⟨by rw [World.getRefundWindow, sameWindow]; exact windowed.least,
      by rw [sameLegacy]; exact windowed.settled⟩
  · simp [Call.exec, AdminCall.exec, Contract.setRefundWindow] at committed
    obtain ⟨_, long, rfl⟩ := committed
    exact ⟨long, windowed.settled⟩
  · obtain rfl := setRefundWindowLogged_writes committed
    exact ⟨met, windowed.settled⟩
  · obtain rfl := setPaymentRateWindow_writes committed
    exact ⟨windowed.least.trans_eq met.symm, windowed.settled⟩
  · simp only [Call.exec, AdminCall.exec, Contract.migrateStorageKeys, Tx.commits_bind,
      Tx.exists_unit, commits_requireAdminRateLimited, Tx.commits_modify] at committed
    obtain ⟨checked, ⟨_, rfl⟩, rfl⟩ := committed
    refine ⟨?_, rfl⟩
    have same : (World.migrated world.config.legacy.refundWindow world.config.refundWindow) =
        world.config.refundWindow := by rw [windowed.settled]; rfl
    change minRefundWindowSecs ≤ (World.migrated world.config.legacy.refundWindow
      world.config.refundWindow).getD defaultRefundWindowSecs
    rw [same]
    exact windowed.least

theorem World.Windowed.step {world : World} {action : Action} (windowed : world.Windowed)
    (met : AcceptsOnly host KeepsRefundWindow world action) :
    (step host world action).Windowed := by
  cases action with
  | invoke auth permits call =>
      by_cases accepted : Accepted host world auth permits call
      · exact windowed.kept (met accepted) accepted.succeeds.executes
      · rwa [step_of_refused accepted]
  | tokens operation =>
      have same : (LumenFlow.step host world (.tokens operation)).config = world.config := by
        simp only [LumenFlow.step]
        split <;> rfl
      exact ⟨by rw [World.getRefundWindow, same]; exact windowed.least,
        by rw [same]; exact windowed.settled⟩
  | advance ledgers seconds => exact ⟨windowed.least, windowed.settled⟩

theorem Deployed.windowed (deployed : Deployed host start) : start.Windowed := by
  obtain ⟨bank, timestamp, sequence, _, _, rfl⟩ := deployed
  exact ⟨show minRefundWindowSecs ≤ defaultRefundWindowSecs by decide, rfl⟩

/-- A setter that meets the condition sets its own settings only. -/
theorem setsOwnOnly_of_keeps (met : AcceptsOnly host KeepsRefundWindow world action) :
    SetsOwnOnly host world action := by
  rintro auth permits call rfl setter accepted setting
  have committed := accepted.succeeds.executes
  by_cases rate : ∃ admin windowSecs, call = .setPaymentRateWindow admin windowSecs
  · obtain ⟨admin, windowSecs, rfl⟩ := rate
    rw [setPaymentRateWindow_writes committed]
    cases setting with
    | refundWindow => exact met accepted
    | _ => rfl
  · exact AdminCall.sets setter (fun admin windowSecs same => rate ⟨admin, windowSecs, same⟩)
      committed setting

theorem keeps_of_setsOwnOnly (own : SetsOwnOnly host world action)
    (least : minRefundWindowSecs ≤ (LumenFlow.step host world action).getRefundWindow) :
    AcceptsOnly host KeepsRefundWindow world action := by
  cases action with
  | invoke auth permits call =>
      intro accepted
      have committed := accepted.succeeds.executes
      unfold KeepsRefundWindow
      split
      · next admin windowSecs =>
          have kept := own auth permits _ rfl trivial accepted .refundWindow
          rw [setPaymentRateWindow_writes committed] at kept
          exact kept
      · next admin windowSecs =>
          rw [setRefundWindowLogged_writes committed] at least
          exact least
      · trivial
  | tokens operation => trivial
  | advance ledgers seconds => trivial

/-- Setters set their own settings only and the refund window is long enough throughout a run,
exactly if the window of the payment rate is only ever set to what the refund window is and the
second definition of `set_refund_window` gets no window below the least one. -/
theorem settings_independent_iff (deployed : Deployed host start) (actions : List Action) :
    Along (step host) (SetsOwnOnly host) start actions ∧
        Throughout (step host) (fun world => minRefundWindowSecs ≤ world.getRefundWindow) start
          actions ↔
      Along (step host) (AcceptsOnly host KeepsRefundWindow) start actions := by
  constructor
  · rintro ⟨own, least⟩
    refine along_mono ?_ ((along_and start actions).mpr ⟨own, least.along⟩)
    exact fun world action ⟨own, _, after⟩ => keeps_of_setsOwnOnly own after
  · intro met
    refine ⟨along_mono (fun _ _ => setsOwnOnly_of_keeps) met, ?_⟩
    have windowed := throughout_of_along (fun _ _ windowed met => windowed.step met)
      deployed.windowed met
    exact fun before after split => (windowed before after split).least

end Runs

/-- The admin sets the window of the payment rate to one minute. -/
def Sample.rateWindow : List Action := [
  invokedBy admin (.admin (.setPaymentRateWindow admin 60))]

/-- The refund window is then one minute too. -/
theorem rate_window_shortens_refunds : ¬ (Along (step Sample.host) (SetsOwnOnly Sample.host)
      Sample.start (Sample.opening ++ Sample.rateWindow) ∧
    Throughout (step Sample.host) (fun world => minRefundWindowSecs ≤ world.getRefundWindow)
      Sample.start (Sample.opening ++ Sample.rateWindow)) := by
  rintro ⟨_, least⟩
  have window : (Sample.world Sample.rateWindow).getRefundWindow = 60 := by decide +kernel
  have long := least _ [] (List.append_nil _).symm
  rw [show run (step Sample.host) Sample.start (Sample.opening ++ Sample.rateWindow) =
    Sample.world Sample.rateWindow from rfl, window] at long
  exact absurd long (by decide)

theorem settings_independent_iff_sample :
    Throughout (step Sample.host) (fun world => minRefundWindowSecs ≤ world.getRefundWindow)
      Sample.start (Sample.opening ++
        [Sample.invokedBy Sample.admin (.admin (.setRefundWindowLogged Sample.admin 7200))]) := by
  refine ((settings_independent_iff Sample.deployed_start _).mpr ?_).2
  decide +kernel

end LumenFlow
