import LumenFlow.Kit.Dialogue
import LumenFlow.Model.Types

/-!
# Recovery of an interrupted refund

The functions of `refundRecovery.ts` as dialogues.  Each `await` is a question, and
the answer is anything that the contract, the network and the other parties make of
it: a call may land or not, whatever the client is told.
-/

namespace LumenFlow

open Kit

namespace Recovery

inductive RefundStatus where
  | pending
  | approved
  | rejected
  | completed
  | disputed
  deriving DecidableEq

inductive RefundStep where
  | initiate
  | approve
  | execute
  deriving DecidableEq

inductive RefundPhase where
  | initiated
  | approved
  | executed
  deriving DecidableEq

/-- `PHASE_ORDER` -/
def phaseOrder : RefundPhase → Int
  | .initiated => 0
  | .approved => 1
  | .executed => 2

/-- What a call throws: a `LumenFlowError` with its code, or anything else. -/
inductive Thrown where
  | lumenFlowError (code : Nat)
  | other (message : Text)
  deriving DecidableEq

/-- `PaymentErrorCode.RefundNotFound` -/
def refundNotFound : Nat := 30

/-- The parameters without those of the backoff, which decide how long a sleep takes. -/
structure RecoverRefundParams where
  refundId : Text
  orderId : Text
  amount : Int
  reason : Text
  caller : Text
  targetPhase : RefundPhase
  maxRetriesPerStep : Nat
  isTransient : Thrown → Bool

/-- What the client waits for.  Of a refund record it looks at the status only. -/
inductive RefundOp where
  | getRefund (refundId : Text)
  | initiateRefund (caller refundId orderId : Text) (amount : Int) (reason : Text)
  | approveRefund (caller refundId : Text)
  | executeRefund (refundId : Text)
  /-- The sleep before the retry with this number. -/
  | sleep (attempt : Nat)

def RefundOp.Value : RefundOp → Type
  | .getRefund _ => Option RefundStatus
  | _ => Unit

/-- A promise resolves to a value or throws. -/
abbrev RefundOp.Answer (op : RefundOp) : Type := Except Thrown op.Value

/-- Why a `RefundRecoveryError` is thrown. -/
inductive RecoveryReason where
  | rejected
  | disputed
  | vanished (step : RefundStep)
  | notConverged
  | entered
  deriving DecidableEq

/-- What `recoverRefund` throws. -/
inductive Failure where
  | thrown (err : Thrown)
  | refundRecoveryError (reason : RecoveryReason) (status : Option RefundStatus)
  | retryExhaustedError (step : RefundStep) (attempts : Nat)
  deriving DecidableEq

structure RecoverRefundResult where
  refundId : Text
  finalStatus : RefundStatus
  stepsApplied : List RefundStep
  alreadyComplete : Bool
  deriving DecidableEq

abbrev Client : Type → Type := Dialogue RefundOp RefundOp.Answer Failure

abbrev Exchange : Type := Dialogue.Exchange RefundOp RefundOp.Answer

def getRefund (refundId : Text) : Client (Except Thrown (Option RefundStatus)) :=
  Dialogue.send (RefundOp.getRefund refundId)

def sleep (attempt : Nat) : Client (Except Thrown Unit) :=
  Dialogue.send (RefundOp.sleep attempt)

def isRefundNotFound (err : Thrown) : Bool := err = .lumenFlowError refundNotFound

/-- The phase that a status represents, or -1. -/
def phaseOf : Option RefundStatus → Int
  | some .pending => phaseOrder .initiated
  | some .approved => phaseOrder .approved
  | some .completed => phaseOrder .executed
  | _ => -1

/-- The phase that a step leads to. -/
def RefundStep.phase : RefundStep → RefundPhase
  | .initiate => .initiated
  | .approve => .approved
  | .execute => .executed

/-- The call of a step. -/
def RefundStep.op (params : RecoverRefundParams) : RefundStep → RefundOp
  | .initiate => .initiateRefund params.caller params.refundId params.orderId params.amount
      params.reason
  | .approve => .approveRefund params.caller params.refundId
  | .execute => .executeRefund params.refundId

section Recover

variable (params : RecoverRefundParams)

def readStatus : Client (Option RefundStatus) := do
  match ← getRefund params.refundId with
  | .ok record => return record
  | .error err => if isRefundNotFound err then return none else Dialogue.fail (.thrown err)

/-- A round of the loop of `runStep`, with what it does when the call may be made again.  The
result is the value of `status` after it. -/
def attemptStep (step : RefundStep) (status : Option RefundStatus)
    (again : Client (Option RefundStatus)) : Client (Option RefundStatus) := do
  match ← Dialogue.send (step.op params) with
  | .ok _ => return status
  | .error err =>
      let observed ← readStatus params
      -- the call has landed although it reported an error
      if phaseOrder step.phase ≤ phaseOf observed then
        return observed
      else if isRefundNotFound err ∧ step ≠ .initiate then
        Dialogue.fail (.refundRecoveryError (.vanished step) observed)
      else if params.isTransient err = false then
        Dialogue.fail (.thrown err)
      else
        again

/-- The loop of `runStep`, given how many retries are left. -/
def runStep (step : RefundStep) (status : Option RefundStatus) : Nat → Client (Option RefundStatus)
  | 0 => attemptStep params step status
      (Dialogue.fail (.retryExhaustedError step (params.maxRetriesPerStep + 1)))
  | left + 1 => attemptStep params step status do
      match ← sleep (params.maxRetriesPerStep - (left + 1)) with
      | .ok _ => runStep step status left
      | .error err => Dialogue.fail (.thrown err)

/-- The step that a status calls for. -/
def nextStep : Option RefundStatus → Option RefundStep
  | none => some .initiate
  | some .pending => some .approve
  | some .approved => some .execute
  | some _ => none

/-- The branches of a round of the main loop.  The result is the list of the applied steps. -/
def walkStep (status : Option RefundStatus) (stepsApplied : List RefundStep) :
    Client (List RefundStep) :=
  match nextStep status with
  | some step => do
      let _status ← runStep params step status params.maxRetriesPerStep
      return stepsApplied ++ [step]
  | none =>
      if status = some .rejected ∨ status = some .disputed then
        Dialogue.fail (.refundRecoveryError .entered status)
      else
        return stepsApplied

/-- The main loop, given how many rounds the guard still lets pass. -/
def walk : Nat → Option RefundStatus → List RefundStep →
    Client (Option RefundStatus × List RefundStep)
  | left, status, stepsApplied =>
      if phaseOrder params.targetPhase ≤ phaseOf status then
        return (status, stepsApplied)
      else
        match left with
        | 0 => Dialogue.fail (.refundRecoveryError .notConverged status)
        | left + 1 => do
            let stepsApplied ← walkStep params status stepsApplied
            let status ← readStatus params
            walk left status stepsApplied

/-- The rounds that the guard of the main loop lets pass. -/
def maxRounds : Nat := 5

def recoverRefund : Client RecoverRefundResult := do
  let status ← readStatus params
  if status = some .rejected then
    Dialogue.fail (.refundRecoveryError .rejected status)
  else if status = some .disputed then
    Dialogue.fail (.refundRecoveryError .disputed status)
  else
    let alreadyComplete := decide (phaseOrder params.targetPhase ≤ phaseOf status)
    let (status, stepsApplied) ← walk params maxRounds status []
    return {
      refundId := params.refundId
      finalStatus := status.getD .pending
      stepsApplied
      alreadyComplete }

end Recover

end Recovery

end LumenFlow
