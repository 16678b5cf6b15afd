import LumenFlow.Effect.Books

/-!
# Effects of the escrow calls
-/

namespace LumenFlow

open Kit Contract

variable {env : Env} {world next : World}

theorem createEscrow_effect {payer merchant token : Address} {amount : Int} {unlockAt : Nat}
    {orderId : Text}
    (committed : (createEscrow payer merchant amount token unlockAt orderId).Commits env world ()
      next) :
    Effect env world.books
      (.escrow (.createEscrow payer merchant amount token unlockAt orderId)) next.books := by
  simp [createEscrow, requireTokenAllowed] at committed
  obtain ⟨_, authorised, positive, validId, future, _, free, profile, found, _, _, _, _, _, rfl⟩ :=
    committed
  exact .escrowOpened _ ⟨orderId, payer, merchant, token, amount, unlockAt, .locked,
    world.timestamp⟩ free positive rfl authorised ⟨profile, found⟩ future validId

theorem releaseEscrow_effect {orderId : Text}
    (committed : (releaseEscrow orderId).Commits env world () next) :
    Effect env world.books (.escrow (.releaseEscrow orderId)) next.books := by
  simp [releaseEscrow] at committed
  obtain ⟨_, escrow, stored, locked, late, _, _, covered, rfl⟩ := committed
  obtain rfl := Table.key_of_get stored
  exact .escrowSettled _ escrow .released escrow.merchant stored locked (.release late) covered

theorem cancelEscrowBeforeLock_effect {payer : Address} {orderId : Text}
    (committed : (cancelEscrowBeforeLock payer orderId).Commits env world () next) :
    Effect env world.books (.escrow (.cancelEscrowBeforeLock payer orderId))
      next.books := by
  simp [cancelEscrowBeforeLock] at committed
  obtain ⟨_, authorised, escrow, stored, locked, owner, early, _, _, covered, rfl⟩ := committed
  obtain rfl := Table.key_of_get stored
  obtain rfl := owner
  exact .escrowSettled _ escrow .cancelled escrow.payer stored locked (.cancel early authorised)
    covered

theorem escrowHold_effect {payer merchant token arbiter : Address} {escrowId : Text}
    {amount : Int} {conditionHash : Bytes} {timeoutAt : Nat} {result : EscrowHold}
    (committed : (escrowHold payer escrowId merchant token amount conditionHash arbiter
      timeoutAt).Commits env world result next) :
    Effect env world.books
      (.escrow (.escrowHold payer escrowId merchant token amount conditionHash arbiter timeoutAt))
      next.books := by
  simp [escrowHold, requireTokenAllowed] at committed
  obtain ⟨_, authorised, positive, validId, _, future, _, free, profile, found, _, _, _, _, _, _,
    rfl⟩ := committed
  exact .holdOpened _ ⟨escrowId, payer, merchant, token, amount, conditionHash, arbiter,
    timeoutAt, .held, world.timestamp⟩ free positive rfl authorised ⟨profile, found⟩ future validId

theorem escrowRelease_effect {caller : Address} {escrowId : Text}
    (committed : (escrowRelease caller escrowId).Commits env world () next) :
    Effect env world.books (.escrow (.escrowRelease caller escrowId))
      next.books := by
  simp [escrowRelease] at committed
  obtain ⟨_, authorised, hold, stored, held, entitled, _, _, covered, rfl⟩ := committed
  obtain rfl := Table.key_of_get stored
  have party : caller = hold.arbiter ∨ hold.timeoutAt ≤ world.timestamp := by
    by_cases arbiter : hold.arbiter = caller
    · exact .inl arbiter.symm
    · exact .inr (entitled arbiter)
  exact .holdSettled _ hold .released hold.merchant stored held
    (.release caller authorised party) covered

theorem escrowCancel_effect {caller : Address} {escrowId : Text}
    (committed : (escrowCancel caller escrowId).Commits env world () next) :
    Effect env world.books (.escrow (.escrowCancel caller escrowId))
      next.books := by
  simp [escrowCancel] at committed
  obtain ⟨_, authorised, hold, stored, held, owner, early, _, _, covered, rfl⟩ := committed
  obtain rfl := Table.key_of_get stored
  obtain rfl := owner
  exact .holdSettled _ hold .cancelled hold.payer stored held (.cancel early authorised) covered

theorem EscrowCall.effect {call : EscrowCall} (committed : call.exec.Commits env world () next) :
    Effect env world.books (.escrow call) next.books := by
  cases call with
  | createEscrow => exact createEscrow_effect committed
  | releaseEscrow => exact releaseEscrow_effect committed
  | cancelEscrowBeforeLock => exact cancelEscrowBeforeLock_effect committed
  | getEscrow =>
      simp [EscrowCall.exec, Contract.getEscrow] at committed
      obtain ⟨_, _, rfl⟩ := committed
      exact .quiet _ rfl
  | escrowHold =>
      obtain ⟨_, opened⟩ := Tx.commits_discard.mp committed
      exact escrowHold_effect opened
  | escrowRelease => exact escrowRelease_effect committed
  | escrowCancel => exact escrowCancel_effect committed
  | getEscrowHold =>
      simp [EscrowCall.exec, Contract.getEscrowHold] at committed
      obtain ⟨_, _, rfl⟩ := committed
      exact .quiet _ rfl

end LumenFlow
