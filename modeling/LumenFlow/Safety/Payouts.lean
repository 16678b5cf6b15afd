import LumenFlow.Safety.Solvency

/-!
# How often a refund is paid

Executing a refund looks at the status of the refund, resolving a dispute only
at the status of the dispute.  While no dispute is resolved by force about a
refund that is already completed, a refund is paid at most once.
-/

namespace LumenFlow

open Kit

/-- The movement pays the refund out. -/
def Cause.pays (refundId : Text) : Cause → Bool
  | .refund paid _ => paid = refundId
  | _ => false

/-- How often a log of movements pays a refund out. -/
def payoutCount (refundId : Text) (transfers : List Transfer) : Nat :=
  transfers.countP fun transfer => transfer.cause.pays refundId

@[simp]
theorem payoutCount_cons (refundId : Text) (transfer : Transfer) (transfers : List Transfer) :
    payoutCount refundId (transfer :: transfers) =
      payoutCount refundId transfers + if transfer.cause.pays refundId then 1 else 0 :=
  List.countP_cons

@[simp]
theorem payoutCount_append (refundId : Text) (first second : List Transfer) :
    payoutCount refundId (first ++ second) =
      payoutCount refundId first + payoutCount refundId second :=
  List.countP_append

theorem payoutCount_of_charges {refundId : Text} {transfers : List Transfer}
    (charges : ∀ transfer ∈ transfers, transfer.cause.IsCharge) :
    payoutCount refundId transfers = 0 := by
  apply List.countP_eq_zero.mpr
  intro transfer membership
  have charge := charges transfer membership
  cases found : transfer.cause <;> simp [found, Cause.pays, Cause.IsCharge] at charge ⊢

/-- One for a refund that was not paid yet. -/
def RefundRecord.unpaid (refund : RefundRecord) : Nat :=
  if refund.status = .completed then 0 else 1

/-- The call does not resolve a dispute by force about a completed refund. -/
def NoRepayment (books : Books) : Call → Prop
  | .refund (.resolveDispute _ disputeId _ true) =>
      ∀ dispute refund, books.disputes.get disputeId = some dispute →
        books.refunds.get dispute.refundId = some refund → refund.status ≠ .completed
  | _ => True

section Steps

variable {env : Env} {books next : Books} {call : Call} {refundId : Text}
  {first last : RefundRecord}

theorem payoutCount_payOut {refund : RefundRecord} (payment : PaymentOrder)
    (stored : books.refunds.get refund.refundId = some refund) (unpaid : refund.status ≠ .completed)
    (before : books.refunds.get refundId = some first)
    (after : (books.refunds.put { refund with status := .completed }).get refundId = some last) :
    payoutCount refundId (refund.payout payment :: books.transfers) + last.unpaid ≤
      payoutCount refundId books.transfers + first.unpaid := by
  rw [Table.get_put] at after
  rw [payoutCount_cons]
  split at after
  · next same =>
      obtain rfl : refundId = refund.refundId := same
      obtain rfl := Option.some.inj (before.symm.trans stored)
      obtain rfl := Option.some.inj after
      simp [RefundRecord.payout, Cause.pays, RefundRecord.unpaid, unpaid]
  · next different =>
      obtain rfl := Option.some.inj (before.symm.trans after)
      have other : refund.refundId ≠ refundId := fun same => different same.symm
      simp [RefundRecord.payout, Cause.pays, other]

/-- A refund that is still on file was not paid, or was paid once and is completed. -/
theorem Effect.payoutCount_le (allowed : NoRepayment books call)
    (effect : Effect env books call next) (before : books.refunds.get refundId = some first)
    (after : next.refunds.get refundId = some last) :
    payoutCount refundId next.transfers + last.unpaid ≤
      payoutCount refundId books.transfers + first.unpaid := by
  cases effect with
  | paid call orders profiles transfers listed distinct fresh opened known charged =>
      have charges : payoutCount refundId transfers.reverse = 0 :=
        payoutCount_of_charges fun transfer membership =>
          (charged transfer (List.mem_reverse.mp membership)).2.1
      simp only [Books.settleAll_refunds, before] at after
      obtain rfl := Option.some.inj after
      simp [charges]
  | paymentsCleaned admin batchSize orders refunds ordersSub refundsSub =>
      obtain rfl := Option.some.inj (before.symm.trans (refundsSub _ _ after))
      exact le_refl _
  | refundsCleaned admin refunds sub =>
      obtain rfl := Option.some.inj (before.symm.trans (sub _ _ after))
      exact le_refl _
  | refundOpened caller opened orderId amount reason payment free =>
      obtain rfl := Table.eq_of_put_free free before after
      exact le_refl _
  | refundDecided call refund status stored pending decision =>
      rcases Table.get_rewrite_cases { refund with status } stored rfl before with
        kept | ⟨rfl, written⟩
      · obtain rfl := Option.some.inj (kept.symm.trans after)
        exact le_refl _
      · obtain rfl := Option.some.inj (written.symm.trans after)
        rcases decision with rfl | rfl <;> simp [RefundRecord.unpaid, pending]
  | refundExecuted refund payment stored approved =>
      have counted := payoutCount_payOut payment stored (by simp [approved]) before after
      exact counted
  | refundForced admin resolution dispute refund payment raised unresolved stored =>
      have unpaid := allowed dispute refund raised stored
      have key : refund.refundId = dispute.refundId := Table.key_of_get stored
      rw [← key] at stored
      have counted := payoutCount_payOut payment stored unpaid before after
      exact counted
  | _ =>
      obtain rfl := Option.some.inj (before.symm.trans after)
      simp [Cause.pays]

theorem Effect.payoutCount_mono (effect : Effect env books call next) (refundId : Text) :
    payoutCount refundId books.transfers ≤ payoutCount refundId next.transfers := by
  cases effect <;> simp

variable {host : Host} {action : Action}

theorem Change.payoutCount_le (change : Change host NoRepayment books action next)
    (before : books.refunds.get refundId = some first)
    (after : next.refunds.get refundId = some last) :
    payoutCount refundId next.transfers + last.unpaid ≤
      payoutCount refundId books.transfers + first.unpaid := by
  cases change with
  | called auth permits call next admitted effect =>
      exact effect.payoutCount_le admitted before after
  | _ =>
      obtain rfl := Option.some.inj (before.symm.trans after)
      exact le_refl _

theorem Change.payoutCount_mono {allowed : Books → Call → Prop}
    (change : Change host allowed books action next) (refundId : Text) :
    payoutCount refundId books.transfers ≤ payoutCount refundId next.transfers := by
  cases change with
  | called auth permits call next admitted effect => exact effect.payoutCount_mono refundId
  | _ => exact le_refl _

end Steps

section Runs

variable {host : Host} {start world next : World} {refundId : Text} {first last : RefundRecord}

/-- The refund is on file. -/
def OnFile (refundId : Text) (world : World) : Prop :=
  ∃ refund, world.refunds.records.get refundId = some refund

/-- Over a part of a run in which a refund stays on file, it is paid at most once,
and not at all once it is completed. -/
theorem payoutCount_le_run {actions : List Action}
    (admitted : Along (step host) (Admits host NoRepayment) world actions)
    (throughout : Throughout (step host) (OnFile refundId) world actions)
    (before : world.refunds.records.get refundId = some first) :
    payoutCount refundId (run (step host) world actions).transfers ≤
      payoutCount refundId world.transfers + first.unpaid := by
  induction actions generalizing world first with
  | nil => exact Nat.le_add_right _ _
  | cons action rest inductionHypothesis =>
      obtain ⟨middle, stored⟩ := throughout.tail.here
      have head := (step_change admitted.1).payoutCount_le before stored
      have tail := inductionHypothesis admitted.2 throughout.tail stored
      exact tail.trans head

theorem payoutCount_mono_run (host : Host) (world : World) (actions : List Action)
    (refundId : Text) :
    payoutCount refundId world.transfers ≤
      payoutCount refundId (run (step host) world actions).transfers := by
  induction actions generalizing world with
  | nil => exact le_refl _
  | cons action rest inductionHypothesis =>
      have head := (step_change (admits_anyCall host world action)).payoutCount_mono refundId
      exact head.trans (inductionHypothesis _)

/-- A forced resolution pays the refund of its dispute, whatever its status. -/
theorem resolveDispute_repays {auth : List Address} {permits : TokenCall → Bool} {admin : Address}
    {disputeId resolution : Text} {dispute : DisputeRecord} {refund : RefundRecord}
    (succeeded : Succeeds host world auth permits
      (.refund (.resolveDispute admin disputeId resolution true)) next)
    (raised : world.disputes.get disputeId = some dispute)
    (stored : world.refunds.records.get dispute.refundId = some refund) :
    OnFile dispute.refundId next ∧
      payoutCount dispute.refundId next.transfers =
        payoutCount dispute.refundId world.transfers + 1 := by
  obtain ⟨found, foundRefund, payment, foundHere, _, storedHere, order, books⟩ :=
    resolveDispute_books succeeded.executes
  obtain rfl := Option.some.inj (raised.symm.trans foundHere)
  obtain rfl := Option.some.inj (stored.symm.trans storedHere)
  have key : refund.refundId = dispute.refundId := Table.key_of_get stored
  constructor
  · refine ⟨{ refund with status := .completed }, ?_⟩
    change next.books.refunds.get _ = _
    rw [books]
    exact Table.get_put_of_key key
  · change payoutCount _ next.books.transfers = _
    rw [books]
    simp [RefundRecord.payout, Cause.pays, key, World.books]

/-- In a run, every refund is paid at most once while it is on file, and not again
once it is completed, exactly if the run resolves no dispute by force about a
refund that is already completed. -/
theorem refund_paid_once_iff (actions : List Action) :
    (∀ before during after refundId first, actions = before ++ (during ++ after) →
      (run (step host) start before).refunds.records.get refundId = some first →
      Throughout (step host) (OnFile refundId) (run (step host) start before) during →
      payoutCount refundId (run (step host) start (before ++ during)).transfers ≤
          payoutCount refundId (run (step host) start before).transfers + 1 ∧
        (first.status = .completed →
          payoutCount refundId (run (step host) start (before ++ during)).transfers =
            payoutCount refundId (run (step host) start before).transfers)) ↔
      Along (step host) (Admits host NoRepayment) start actions := by
  constructor
  · intro once
    rw [along_iff_split]
    intro before action after split
    cases action with
    | invoke auth permits call =>
        intro next succeeded
        unfold NoRepayment
        split
        · next admin disputeId resolution =>
            intro dispute refund raised stored completed
            obtain ⟨onFile, repaid⟩ := resolveDispute_repays succeeded raised stored
            have reached := succeeded.step_eq
            have throughout : Throughout (step host) (OnFile dispute.refundId)
                (run (step host) start before)
                [.invoke auth permits (.refund (.resolveDispute admin disputeId resolution
                  true))] :=
              throughout_single ⟨refund, stored⟩ (reached ▸ onFile)
            have same := (once before _ after dispute.refundId refund split stored throughout).2
              completed
            rw [run_append, run_cons, run_nil, reached, repaid] at same
            omega
        · trivial
    | _ => trivial
  · rintro admitted before during after refundId first rfl stored throughout
    have most := payoutCount_le_run admitted.during throughout stored
    have least := payoutCount_mono_run host (run (step host) start before) during refundId
    rw [← run_append] at most least
    unfold RefundRecord.unpaid at most
    constructor
    · split at most <;> omega
    · intro completed
      rw [if_pos completed] at most
      omega

end Runs

/-- A rejected refund of 200 with two disputes, of which one is resolved by force. -/
def Sample.disputed : List Action := [
  invokedBy payer (.payment (.processPaymentWithNonce payer [1] shop coin 500 [] none 0)),
  invokedBy payer (.refund (.initiateRefund payer [2] [1] 200 [])),
  invokedBy shop (.refund (.rejectRefund shop [2])),
  invokedBy payer (.refund (.raiseDispute payer [3] [2] [])),
  invokedBy payer (.refund (.raiseDispute payer [4] [2] [])),
  .invoke [admin, shop] (fun _ => true) (.refund (.resolveDispute admin [3] [89] true))]

/-- The other dispute is resolved by force as well. -/
def Sample.repaying : Action :=
  .invoke [admin, shop] (fun _ => true) (.refund (.resolveDispute admin [4] [89] true))

theorem refund_paid_twice :
    ((Sample.world Sample.disputed).refunds.records.get [2]).map RefundRecord.status =
        some .completed ∧
      payoutCount [2] (Sample.world Sample.disputed).transfers = 1 ∧
      payoutCount [2] (Sample.world (Sample.disputed ++ [Sample.repaying])).transfers = 2 := by
  decide +kernel

end LumenFlow
