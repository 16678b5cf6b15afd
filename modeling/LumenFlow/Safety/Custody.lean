import LumenFlow.Kit.Journal
import LumenFlow.Safety.Solvency

/-!
# Settlement of the escrows

A deposit leaves the contract at most once, in full, to its merchant or back to its
payer.  The record of a deposit changes only by its settlement, and until then there
is always a party that can settle it, because the contract is solvent.
-/

namespace LumenFlow

open Kit Contract

/-- The escrow that the movement settles. -/
def Transfer.escrowTopic (transfer : Transfer) : Option Text :=
  match transfer.cause with
  | .escrowSettlement orderId => some orderId
  | _ => none

/-- The hold that the movement settles. -/
def Transfer.holdTopic (transfer : Transfer) : Option Text :=
  match transfer.cause with
  | .holdSettlement escrowId => some escrowId
  | _ => none

/-- What has been paid out on an escrow with this status. -/
def EscrowRecord.payouts (contract : Address) (escrow : EscrowRecord) : List Transfer :=
  match escrow.status with
  | .locked => []
  | .released =>
      [⟨.escrowSettlement escrow.orderId, escrow.token, contract, escrow.merchant, escrow.amount⟩]
  | .cancelled =>
      [⟨.escrowSettlement escrow.orderId, escrow.token, contract, escrow.payer, escrow.amount⟩]

/-- What has been paid out on a hold with this status. -/
def EscrowHold.payouts (contract : Address) (hold : EscrowHold) : List Transfer :=
  match hold.status with
  | .held => []
  | .released =>
      [⟨.holdSettlement hold.escrowId, hold.token, contract, hold.merchant, hold.amount⟩]
  | .cancelled =>
      [⟨.holdSettlement hold.escrowId, hold.token, contract, hold.payer, hold.amount⟩]

/-- The log of movements shows the payouts of the escrows and the holds, and no
other payment by the contract. -/
structure Books.Custody (contract : Address) (books : Books) : Prop
    extends Books.Sound contract books where
  escrowsNoted : Agrees Transfer.escrowTopic books.transfers
    (books.escrows.noted (EscrowRecord.payouts contract))
  holdsNoted : Agrees Transfer.holdTopic books.transfers
    (books.holds.noted (EscrowHold.payouts contract))
  outgoing : ∀ transfer ∈ books.transfers, transfer.sender = contract →
    transfer.escrowTopic ≠ none ∨ transfer.holdTopic ≠ none
  escrowIds : books.escrows.All fun escrow => ValidId escrow.orderId
  holdIds : books.holds.All fun hold => ValidId hold.escrowId

section Payouts

variable {env : Env} {books next : Books} {now : Nat} {call : EscrowCall} {recipient : Address}

theorem Cause.IsCharge.silent {transfer : Transfer} (charge : transfer.cause.IsCharge) :
    transfer.escrowTopic = none ∧ transfer.holdTopic = none := by
  cases found : transfer.cause <;>
    simp [found, IsCharge, Transfer.escrowTopic, Transfer.holdTopic] at charge ⊢

theorem EscrowRecord.payouts_of_locked {contract : Address} {escrow : EscrowRecord}
    (locked : escrow.status = .locked) : escrow.payouts contract = [] := by
  simp [payouts, locked]

theorem EscrowHold.payouts_of_held {contract : Address} {hold : EscrowHold}
    (held : hold.status = .held) : hold.payouts contract = [] := by
  simp [payouts, held]

theorem EscrowRecord.Due.payouts {contract : Address} {escrow : EscrowRecord}
    {status : EscrowStatus} (due : escrow.Due env now call status recipient) :
    EscrowRecord.payouts contract { escrow with status } =
      [⟨.escrowSettlement escrow.orderId, escrow.token, contract, recipient, escrow.amount⟩] := by
  cases due <;> rfl

theorem EscrowHold.Due.payouts {contract : Address} {hold : EscrowHold}
    {status : EscrowHoldStatus} (due : hold.Due env now call status recipient) :
    EscrowHold.payouts contract { hold with status } =
      [⟨.holdSettlement hold.escrowId, hold.token, contract, recipient, hold.amount⟩] := by
  cases due <;> rfl

end Payouts

section Steps

variable {env : Env} {books next : Books} {call : Call}

theorem Effect.escrows_agree (effect : Effect env books call next)
    (agrees : Agrees Transfer.escrowTopic books.transfers
      (books.escrows.noted (EscrowRecord.payouts env.host.self))) :
    Agrees Transfer.escrowTopic next.transfers
      (next.escrows.noted (EscrowRecord.payouts env.host.self)) := by
  cases effect with
  | paid call orders profiles transfers listed distinct fresh opened known charged =>
      have quiet : ∀ transfer ∈ transfers.reverse, transfer.escrowTopic = none :=
        fun transfer membership => (charged transfer (List.mem_reverse.mp membership)).2.1.silent.1
      simpa using agrees.append_silent quiet
  | escrowOpened call escrow free positive locked =>
      have kept := agrees.put_silent free (EscrowRecord.payouts_of_locked locked)
      exact kept.cons_silent rfl
  | escrowSettled call escrow status recipient stored locked due =>
      refine agrees.put_note stored rfl ?_
      rw [due.payouts, EscrowRecord.payouts_of_locked locked]
  | _ => exact agrees

theorem Effect.holds_agree (effect : Effect env books call next)
    (agrees : Agrees Transfer.holdTopic books.transfers
      (books.holds.noted (EscrowHold.payouts env.host.self))) :
    Agrees Transfer.holdTopic next.transfers
      (next.holds.noted (EscrowHold.payouts env.host.self)) := by
  cases effect with
  | paid call orders profiles transfers listed distinct fresh opened known charged =>
      have quiet : ∀ transfer ∈ transfers.reverse, transfer.holdTopic = none :=
        fun transfer membership => (charged transfer (List.mem_reverse.mp membership)).2.1.silent.2
      simpa using agrees.append_silent quiet
  | holdOpened call hold free positive held =>
      have kept := agrees.put_silent free (EscrowHold.payouts_of_held held)
      exact kept.cons_silent rfl
  | holdSettled call hold status recipient stored held due =>
      refine agrees.put_note stored rfl ?_
      rw [due.payouts, EscrowHold.payouts_of_held held]
  | _ => exact agrees

/-- Only settlements are paid by the contract. -/
theorem Effect.outgoing (clean : books.Clean env.host.self) (effect : Effect env books call next)
    (outgoing : ∀ transfer ∈ books.transfers, transfer.sender = env.host.self →
      transfer.escrowTopic ≠ none ∨ transfer.holdTopic ≠ none) :
    ∀ transfer ∈ next.transfers, transfer.sender = env.host.self →
      transfer.escrowTopic ≠ none ∨ transfer.holdTopic ≠ none := by
  have pay : ∀ {transfer : Transfer}, transfer.sender ≠ env.host.self →
      ∀ other ∈ transfer :: books.transfers, other.sender = env.host.self →
        other.escrowTopic ≠ none ∨ other.holdTopic ≠ none := by
    intro transfer foreign
    exact List.forall_mem_cons.mpr ⟨fun own => absurd own foreign, outgoing⟩
  cases effect with
  | paid call orders profiles transfers listed distinct fresh opened known charged =>
      intro transfer membership own
      simp only [Books.settleAll_transfers, List.mem_append, List.mem_reverse] at membership
      rcases membership with added | logged
      · exact absurd own (charged transfer added).1.ne_self
      · exact outgoing transfer logged own
  | refundExecuted refund payment stored approved order authorised => exact pay authorised.ne_self
  | refundForced admin resolution dispute refund payment raised unresolved stored order =>
      exact pay (clean.orders _ payment order).1
  | multisigPaid payer multisig stored pending authorised => exact pay authorised.ne_self
  | requestPaid payer request stored fresh authorised => exact pay authorised.ne_self
  | charged call old subscription token amount allowance stored same =>
      have other := clean.subscriptions _ old stored
      exact pay (same ▸ other)
  | escrowOpened call escrow free positive locked authorised => exact pay authorised.ne_self
  | escrowSettled =>
      exact List.forall_mem_cons.mpr ⟨fun _ => .inl (by simp [Transfer.escrowTopic]), outgoing⟩
  | holdOpened call hold free positive held authorised => exact pay authorised.ne_self
  | holdSettled =>
      exact List.forall_mem_cons.mpr ⟨fun _ => .inr (by simp [Transfer.holdTopic]), outgoing⟩
  | _ => exact outgoing

theorem Effect.custody (effect : Effect env books call next)
    (custody : books.Custody env.host.self) : next.Custody env.host.self where
  toClean := effect.clean custody.toClean
  solvent := effect.solvent custody.toClean custody.solvent
  escrowsNoted := effect.escrows_agree custody.escrowsNoted
  holdsNoted := effect.holds_agree custody.holdsNoted
  outgoing := effect.outgoing custody.toClean custody.outgoing
  escrowIds := by
    cases effect with
    | paid => simpa using custody.escrowIds
    | escrowOpened call escrow free positive locked authorised registered future validId =>
        exact custody.escrowIds.put validId
    | escrowSettled call escrow status recipient stored =>
        exact custody.escrowIds.put (custody.escrowIds _ escrow stored)
    | _ => exact custody.escrowIds
  holdIds := by
    cases effect with
    | paid => simpa using custody.holdIds
    | holdOpened call hold free positive held authorised registered future validId =>
        exact custody.holdIds.put validId
    | holdSettled call hold status recipient stored =>
        exact custody.holdIds.put (custody.holdIds _ hold stored)
    | _ => exact custody.holdIds

theorem Effect.escrow_moves {orderId : Text} {escrow : EscrowRecord}
    (effect : Effect env books call next) (stored : books.escrows.get orderId = some escrow) :
    next.escrows.get orderId = some escrow ∨
      ∃ settlement status recipient, call = .escrow settlement ∧ escrow.status = .locked ∧
        escrow.Due env books.timestamp settlement status recipient ∧
        next.escrows.get orderId = some { escrow with status } := by
  cases effect with
  | paid => exact .inl (by simpa using stored)
  | escrowOpened call opened free => exact .inl (Table.get_put_free free stored)
  | escrowSettled call settled status recipient found locked due =>
      rcases Table.get_rewrite_cases { settled with status } found rfl stored with
        kept | ⟨rfl, written⟩
      · exact .inl kept
      · exact .inr ⟨call, status, recipient, rfl, locked, due, written⟩
  | _ => exact .inl stored

theorem Effect.hold_moves {escrowId : Text} {hold : EscrowHold}
    (effect : Effect env books call next) (stored : books.holds.get escrowId = some hold) :
    next.holds.get escrowId = some hold ∨
      ∃ settlement status recipient, call = .escrow settlement ∧ hold.status = .held ∧
        hold.Due env books.timestamp settlement status recipient ∧
        next.holds.get escrowId = some { hold with status } := by
  cases effect with
  | paid => exact .inl (by simpa using stored)
  | holdOpened call opened free => exact .inl (Table.get_put_free free stored)
  | holdSettled call settled status recipient found held due =>
      rcases Table.get_rewrite_cases { settled with status } found rfl stored with
        kept | ⟨rfl, written⟩
      · exact .inl kept
      · exact .inr ⟨call, status, recipient, rfl, held, due, written⟩
  | _ => exact .inl stored

end Steps

section Runs

variable {host : Host} {world : World}

theorem Deployed.custody {start : World} (deployed : Deployed host start) :
    start.books.Custody host.self := by
  have sound := deployed.sound
  obtain ⟨bank, timestamp, sequence, _, _, rfl⟩ := deployed
  exact { sound with
    escrowsNoted := agrees_empty
    holdsNoted := agrees_empty
    outgoing := by simp [World.books, World.deployed]
    escrowIds := Table.all_empty _
    holdIds := Table.all_empty _ }

theorem Change.custody {allowed : Books → Call → Prop} {books next : Books} {action : Action}
    (custody : books.Custody host.self) (change : Change host allowed books action next) :
    next.Custody host.self := by
  have sound := change.sound custody.toSound
  cases change with
  | called auth permits call next admitted effect => exact effect.custody custody
  | refused => exact custody
  | outside => exact { custody with toSound := sound }
  | passed => exact { custody with toSound := sound }

theorem custody_run (custody : world.books.Custody host.self) (actions : List Action) :
    (run (step host) world actions).books.Custody host.self :=
  run_invariant (fun world action kept =>
    (step_change (admits_anyCall host world action)).custody kept) custody actions

theorem Reachable.custody (reachable : Reachable host world) :
    world.books.Custody host.self := by
  obtain ⟨start, actions, deployed, rfl⟩ := reachable
  exact custody_run deployed.custody actions

section Moves

variable {allowed : Books → Call → Prop} {books next : Books} {action : Action}

/-- Every action leaves an escrow on file as it is, or settles it as it is due. -/
theorem Change.escrow_moves {orderId : Text} {escrow : EscrowRecord}
    (change : Change host allowed books action next)
    (stored : books.escrows.get orderId = some escrow) :
    next.escrows.get orderId = some escrow ∨
      ∃ auth permits call status recipient, action = .invoke auth permits (.escrow call) ∧
        escrow.status = .locked ∧
        escrow.Due (host.env auth permits) books.timestamp call status recipient ∧
        next.escrows.get orderId = some { escrow with status } := by
  cases change with
  | called auth permits call next admitted effect =>
      rcases effect.escrow_moves stored with kept | ⟨settlement, status, recipient, rfl, moved⟩
      · exact .inl kept
      · exact .inr ⟨auth, permits, settlement, status, recipient, rfl, moved⟩
  | _ => exact .inl stored

theorem Change.hold_moves {escrowId : Text} {hold : EscrowHold}
    (change : Change host allowed books action next)
    (stored : books.holds.get escrowId = some hold) :
    next.holds.get escrowId = some hold ∨
      ∃ auth permits call status recipient, action = .invoke auth permits (.escrow call) ∧
        hold.status = .held ∧
        hold.Due (host.env auth permits) books.timestamp call status recipient ∧
        next.holds.get escrowId = some { hold with status } := by
  cases change with
  | called auth permits call next admitted effect =>
      rcases effect.hold_moves stored with kept | ⟨settlement, status, recipient, rfl, moved⟩
      · exact .inl kept
      · exact .inr ⟨auth, permits, settlement, status, recipient, rfl, moved⟩
  | _ => exact .inl stored

end Moves

theorem escrow_final {orderId : Text} {escrow : EscrowRecord} (actions : List Action)
    (stored : world.escrows.records.get orderId = some escrow) (settled : escrow.status ≠ .locked) :
    (run (step host) world actions).escrows.records.get orderId = some escrow := by
  induction actions generalizing world with
  | nil => exact stored
  | cons action rest inductionHypothesis =>
      have change := step_change (admits_anyCall host world action)
      rcases change.escrow_moves stored with kept | ⟨_, _, _, _, _, _, locked, _⟩
      · exact inductionHypothesis kept
      · exact absurd locked settled

theorem hold_final {escrowId : Text} {hold : EscrowHold} (actions : List Action)
    (stored : world.escrows.holds.get escrowId = some hold) (settled : hold.status ≠ .held) :
    (run (step host) world actions).escrows.holds.get escrowId = some hold := by
  induction actions generalizing world with
  | nil => exact stored
  | cons action rest inductionHypothesis =>
      have change := step_change (admits_anyCall host world action)
      rcases change.hold_moves stored with kept | ⟨_, _, _, _, _, _, held, _⟩
      · exact inductionHypothesis kept
      · exact absurd held settled

end Runs

section Progress

variable {contract : Address} {books : Books}

theorem Books.Clean.owed_nonneg (clean : books.Clean contract) (token : Address) :
    (books.escrows.All fun escrow => 0 ≤ escrow.owed token) ∧
      books.holds.All fun hold => 0 ≤ hold.owed token := by
  constructor
  · intro orderId escrow stored
    have positive := (clean.escrows orderId escrow stored).2.2
    unfold EscrowRecord.owed
    split <;> omega
  · intro escrowId hold stored
    have positive := (clean.holds escrowId hold stored).2.2
    unfold EscrowHold.owed
    split <;> omega

/-- A solvent contract can pay any single locked escrow. -/
theorem Books.Sound.covers_escrow {orderId : Text} {escrow : EscrowRecord}
    (sound : books.Sound contract) (stored : books.escrows.get orderId = some escrow)
    (locked : escrow.status = .locked) :
    escrow.amount ≤ books.bank.balance escrow.token contract := by
  obtain ⟨escrows, holds⟩ := sound.toClean.owed_nonneg escrow.token
  have single := Table.weight_le_total escrows stored
  have rest := Table.total_nonneg holds
  have solvent := sound.solvent escrow.token
  rw [escrow.owed_of_locked locked, if_pos rfl] at single
  unfold Books.owed at solvent
  omega

theorem Books.Sound.covers_hold {escrowId : Text} {hold : EscrowHold}
    (sound : books.Sound contract) (stored : books.holds.get escrowId = some hold)
    (held : hold.status = .held) :
    hold.amount ≤ books.bank.balance hold.token contract := by
  obtain ⟨escrows, holds⟩ := sound.toClean.owed_nonneg hold.token
  have single := Table.weight_le_total holds stored
  have rest := Table.total_nonneg escrows
  have solvent := sound.solvent hold.token
  rw [hold.owed_of_held held, if_pos rfl] at single
  unfold Books.owed at solvent
  omega

theorem Contract.ValidId.sized {id : Text} (valid : ValidId id) : Sized id := by
  unfold Sized u32Max
  have short := valid.2
  omega

variable {host : Host} {world : World} {auth : List Address} {permits : TokenCall → Bool}

/-- The token lets the contract pay out what it holds for the escrow. -/
def EscrowRecord.Accepted (host : Host) (permits : TokenCall → Bool) (escrow : EscrowRecord) :
    Prop :=
  ∀ recipient,
    permits (.transfer escrow.token host.self recipient escrow.amount) = true

/-- The token lets the contract pay out what it holds for the hold. -/
def EscrowHold.Accepted (host : Host) (permits : TokenCall → Bool) (hold : EscrowHold) : Prop :=
  ∀ recipient, permits (.transfer hold.token host.self recipient hold.amount) = true

/-- The call succeeds in the world. -/
def Open (host : Host) (world : World) (auth : List Address) (permits : TokenCall → Bool)
    (call : EscrowCall) : Prop :=
  ∃ next, Succeeds host world auth permits (.escrow call) next

section Escrow

variable {orderId : Text} {escrow : EscrowRecord}

theorem open_releaseEscrow_iff (custody : world.books.Custody host.self)
    (running : world.gov.paused = false)
    (stored : world.escrows.records.get orderId = some escrow) (locked : escrow.status = .locked)
    (accepted : escrow.Accepted host permits) :
    Open host world auth permits (.releaseEscrow orderId) ↔ escrow.unlockAt ≤ world.timestamp := by
  have covered := custody.toSound.covers_escrow stored locked
  have positive := (custody.toClean.escrows orderId escrow stored).2.2
  have named : escrow.orderId = orderId := Table.key_of_get stored
  have sized : Sized orderId := named ▸ (custody.escrowIds orderId escrow stored).sized
  unfold Open
  simp [succeeds_iff, Call.Fits, EscrowCall.Fits, Call.exec, EscrowCall.exec,
    Contract.releaseEscrow, stored, locked, running, sized]
  exact fun _ => ⟨accepted _, positive.le, covered⟩

theorem open_cancelEscrowBeforeLock_iff {caller : Address}
    (custody : world.books.Custody host.self) (running : world.gov.paused = false)
    (stored : world.escrows.records.get orderId = some escrow) (locked : escrow.status = .locked)
    (accepted : escrow.Accepted host permits) :
    Open host world auth permits (.cancelEscrowBeforeLock caller orderId) ↔
      caller = escrow.payer ∧ caller ∈ auth ∧ world.timestamp < escrow.unlockAt := by
  have covered := custody.toSound.covers_escrow stored locked
  obtain ⟨foreign, _, positive⟩ := custody.toClean.escrows orderId escrow stored
  have named : escrow.orderId = orderId := Table.key_of_get stored
  have sized : Sized orderId := named ▸ (custody.escrowIds orderId escrow stored).sized
  unfold Open
  simp [succeeds_iff, Call.Fits, EscrowCall.Fits, Call.exec, EscrowCall.exec,
    Contract.cancelEscrowBeforeLock, stored, locked, running, sized]
  constructor
  · rintro ⟨authorised, rfl, early, _⟩
    exact ⟨rfl, authorised.2, early⟩
  · rintro ⟨rfl, authorised, early⟩
    exact ⟨⟨foreign, authorised⟩, rfl, early, accepted _, positive.le, covered⟩

end Escrow

section Hold

variable {escrowId : Text} {hold : EscrowHold} {caller : Address}

theorem open_escrowRelease_iff (custody : world.books.Custody host.self)
    (running : world.gov.paused = false)
    (stored : world.escrows.holds.get escrowId = some hold) (held : hold.status = .held)
    (accepted : hold.Accepted host permits) :
    Open host world auth permits (.escrowRelease caller escrowId) ↔
      (host.env auth permits).Authorised caller ∧
        (caller = hold.arbiter ∨ hold.timeoutAt ≤ world.timestamp) := by
  have covered := custody.toSound.covers_hold stored held
  have positive := (custody.toClean.holds escrowId hold stored).2.2
  have named : hold.escrowId = escrowId := Table.key_of_get stored
  have sized : Sized escrowId := named ▸ (custody.holdIds escrowId hold stored).sized
  unfold Open
  simp [succeeds_iff, Call.Fits, EscrowCall.Fits, Call.exec, EscrowCall.exec,
    Contract.escrowRelease, stored, held, running, sized]
  intro authorised
  constructor
  · rintro ⟨entitled, _⟩
    by_cases arbiter : hold.arbiter = caller
    · exact .inl arbiter.symm
    · exact .inr (entitled arbiter)
  · intro entitled
    exact ⟨fun other => entitled.resolve_left (Ne.symm other), accepted _, positive.le, covered⟩

theorem open_escrowCancel_iff (custody : world.books.Custody host.self)
    (running : world.gov.paused = false)
    (stored : world.escrows.holds.get escrowId = some hold) (held : hold.status = .held)
    (accepted : hold.Accepted host permits) :
    Open host world auth permits (.escrowCancel caller escrowId) ↔
      caller = hold.payer ∧ caller ∈ auth ∧ world.timestamp < hold.timeoutAt := by
  have covered := custody.toSound.covers_hold stored held
  obtain ⟨foreign, _, positive⟩ := custody.toClean.holds escrowId hold stored
  have named : hold.escrowId = escrowId := Table.key_of_get stored
  have sized : Sized escrowId := named ▸ (custody.holdIds escrowId hold stored).sized
  unfold Open
  simp [succeeds_iff, Call.Fits, EscrowCall.Fits, Call.exec, EscrowCall.exec,
    Contract.escrowCancel, stored, held, running, sized]
  constructor
  · rintro ⟨authorised, rfl, early, _⟩
    exact ⟨rfl, authorised.2, early⟩
  · rintro ⟨rfl, authorised, early⟩
    exact ⟨⟨foreign, authorised⟩, rfl, early, accepted _, positive.le, covered⟩

end Hold

end Progress

/-- What holds of the escrows in a world and in every run from there. -/
structure EscrowsSettle (host : Host) (world : World) : Prop where
  /-- Each escrow was paid out as its status says: once and in full, or not at all. -/
  paidOnce : ∀ orderId, about Transfer.escrowTopic orderId world.transfers =
    world.escrows.records.noted (EscrowRecord.payouts host.self) orderId
  /-- A settled escrow is never written again. -/
  final : ∀ orderId escrow, world.escrows.records.get orderId = some escrow →
    escrow.status ≠ .locked → ∀ actions,
      (run (step host) world actions).escrows.records.get orderId = some escrow
  /-- An action leaves an escrow as it is, or pays it out to the party that is due. -/
  moves : ∀ orderId escrow, world.escrows.records.get orderId = some escrow → ∀ action,
    (step host world action).escrows.records.get orderId = some escrow ∨
      ∃ auth permits call status recipient, action = .invoke auth permits (.escrow call) ∧
        escrow.status = .locked ∧
        escrow.Due (host.env auth permits) world.timestamp call status recipient ∧
        (step host world action).escrows.records.get orderId = some { escrow with status } ∧
        about Transfer.escrowTopic orderId (step host world action).transfers =
          [⟨.escrowSettlement orderId, escrow.token, host.self, recipient, escrow.amount⟩]
  /-- At every time exactly one of the two settlements is due. -/
  windows : ∀ orderId escrow, world.escrows.records.get orderId = some escrow →
    ∀ env : Env, env.Authorised escrow.payer →
      Xor (escrow.Due env world.timestamp (.releaseEscrow escrow.orderId) .released escrow.merchant)
        (escrow.Due env world.timestamp (.cancelEscrowBeforeLock escrow.payer escrow.orderId)
          .cancelled escrow.payer)
  /-- Unless the contract is paused, the one that is due is open to the payer. -/
  exactlyOne : world.gov.paused = false → ∀ orderId escrow,
    world.escrows.records.get orderId = some escrow → escrow.status = .locked →
      ∀ auth permits, escrow.payer ∈ auth → escrow.Accepted host permits →
        (Open host world auth permits (.releaseEscrow orderId) ↔
          escrow.unlockAt ≤ world.timestamp) ∧
        (Open host world auth permits (.cancelEscrowBeforeLock escrow.payer orderId) ↔
          world.timestamp < escrow.unlockAt) ∧
        Xor (Open host world auth permits (.releaseEscrow orderId))
          (Open host world auth permits (.cancelEscrowBeforeLock escrow.payer orderId))

/-- What holds of the holds in a world and in every run from there. -/
structure HoldsSettle (host : Host) (world : World) : Prop where
  /-- Each hold was paid out as its status says: once and in full, or not at all. -/
  paidOnce : ∀ escrowId, about Transfer.holdTopic escrowId world.transfers =
    world.escrows.holds.noted (EscrowHold.payouts host.self) escrowId
  /-- A settled hold is never written again. -/
  final : ∀ escrowId hold, world.escrows.holds.get escrowId = some hold →
    hold.status ≠ .held → ∀ actions,
      (run (step host) world actions).escrows.holds.get escrowId = some hold
  /-- An action leaves a hold as it is, or pays it out to the party that is due. -/
  moves : ∀ escrowId hold, world.escrows.holds.get escrowId = some hold → ∀ action,
    (step host world action).escrows.holds.get escrowId = some hold ∨
      ∃ auth permits call status recipient, action = .invoke auth permits (.escrow call) ∧
        hold.status = .held ∧
        hold.Due (host.env auth permits) world.timestamp call status recipient ∧
        (step host world action).escrows.holds.get escrowId = some { hold with status } ∧
        about Transfer.holdTopic escrowId (step host world action).transfers =
          [⟨.holdSettlement escrowId, hold.token, host.self, recipient, hold.amount⟩]
  /-- The arbiter can release a hold at any time, and its payer can have it settled
  at any time: by cancelling it before the timeout, by releasing it from then on. -/
  settleable : world.gov.paused = false → ∀ escrowId hold,
    world.escrows.holds.get escrowId = some hold → hold.status = .held →
      ∀ auth permits, hold.Accepted host permits →
        ((host.env auth permits).Authorised hold.arbiter →
          Open host world auth permits (.escrowRelease hold.arbiter escrowId)) ∧
        (hold.payer ∈ auth →
          if world.timestamp < hold.timeoutAt then
            Open host world auth permits (.escrowCancel hold.payer escrowId)
          else
            Open host world auth permits (.escrowRelease hold.payer escrowId))

/-- The deposits with the contract settle exactly once, and nobody else gets its tokens. -/
structure DepositsSettle (host : Host) (world : World) : Prop where
  escrows : EscrowsSettle host world
  holds : HoldsSettle host world
  /-- The contract itself pays nothing but settlements. -/
  outgoing : ∀ transfer ∈ world.transfers, transfer.sender = host.self →
    transfer.escrowTopic ≠ none ∨ transfer.holdTopic ≠ none
  /-- No token operation of a third party takes anything from the contract. -/
  guarded : ∀ operation token,
    world.bank.balance token host.self ≤
      (step host world (.tokens operation)).bank.balance token host.self

section Deposits

variable {host : Host} {world : World}

theorem escrows_settle (custody : world.books.Custody host.self) : EscrowsSettle host world where
  paidOnce := custody.escrowsNoted
  final orderId escrow stored settled actions := escrow_final actions stored settled
  moves orderId escrow stored action := by
    have change := step_change (admits_anyCall host world action)
    rcases change.escrow_moves stored with kept | ⟨auth, permits, call, status, recipient, rfl,
      locked, due, written⟩
    · exact .inl kept
    · have named : escrow.orderId = orderId := Table.key_of_get stored
      have noted := (change.custody custody).escrowsNoted orderId
      rw [Table.noted_of_get written, due.payouts, named] at noted
      exact .inr ⟨auth, permits, call, status, recipient, rfl, locked, due, written, noted⟩
  windows orderId escrow stored env authorised := by
    by_cases late : escrow.unlockAt ≤ world.timestamp
    · refine .inl ⟨.release late, ?_⟩
      rintro ⟨⟩
      omega
    · refine .inr ⟨.cancel (Nat.lt_of_not_le late) authorised, ?_⟩
      rintro ⟨⟩
      omega
  exactlyOne running orderId escrow stored locked auth permits present accepted := by
    have release : Open host world auth permits (.releaseEscrow orderId) ↔
        escrow.unlockAt ≤ world.timestamp :=
      open_releaseEscrow_iff custody running stored locked accepted
    have cancel : Open host world auth permits (.cancelEscrowBeforeLock escrow.payer orderId) ↔
        world.timestamp < escrow.unlockAt := by
      rw [open_cancelEscrowBeforeLock_iff custody running stored locked accepted]
      simp [present]
    refine ⟨release, cancel, ?_⟩
    rw [release, cancel, xor_def]
    omega

theorem holds_settle (custody : world.books.Custody host.self) : HoldsSettle host world where
  paidOnce := custody.holdsNoted
  final escrowId hold stored settled actions := hold_final actions stored settled
  moves escrowId hold stored action := by
    have change := step_change (admits_anyCall host world action)
    rcases change.hold_moves stored with kept | ⟨auth, permits, call, status, recipient, rfl,
      held, due, written⟩
    · exact .inl kept
    · have named : hold.escrowId = escrowId := Table.key_of_get stored
      have noted := (change.custody custody).holdsNoted escrowId
      rw [Table.noted_of_get written, due.payouts, named] at noted
      exact .inr ⟨auth, permits, call, status, recipient, rfl, held, due, written, noted⟩
  settleable running escrowId hold stored held auth permits accepted := by
    constructor
    · intro authorised
      exact (open_escrowRelease_iff custody running stored held accepted).mpr
        ⟨authorised, .inl rfl⟩
    · intro present
      split
      · next early =>
          exact (open_escrowCancel_iff custody running stored held accepted).mpr
            ⟨rfl, present, early⟩
      · next late =>
          have foreign := (custody.toClean.holds escrowId hold stored).1
          exact (open_escrowRelease_iff custody running stored held accepted).mpr
            ⟨⟨foreign, present⟩, .inr (Nat.le_of_not_lt late)⟩

theorem Books.Custody.guarded (custody : world.books.Custody host.self) (operation : TokenAction)
    (token : Address) :
    world.bank.balance token host.self ≤
      (step host world (.tokens operation)).bank.balance token host.self := by
  simp only [step]
  split
  · exact le_refl _
  · next foreign =>
      cases applied : operation.apply world.bank with
      | none => exact le_refl _
      | some bank =>
          exact (operation.outsideMove foreign applied custody.allowances).1 token

end Deposits

end LumenFlow
