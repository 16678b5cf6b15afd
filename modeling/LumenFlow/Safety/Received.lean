import LumenFlow.Effect.Roster
import LumenFlow.Safety.BatchGroups
import LumenFlow.Safety.Fees
import LumenFlow.Safety.Solvency

/-!
# What the merchants received

The profile of a merchant has a total of what the merchant received.  Five calls pay merchants,
and each of them keeps the total in its own way, or not at all.
-/

namespace LumenFlow

open Kit Contract

/-- The movement is part of a payment to a merchant. -/
def Cause.IsPayment : Cause → Prop
  | .payment _ | .batchGroup | .multisig _ | .request _ => True
  | _ => False

instance (cause : Cause) : Decidable cause.IsPayment :=
  match cause with
  | .payment _ | .batchGroup | .multisig _ | .request _ => .isTrue trivial
  | .platformFee _ | .refund .. | .subscription _ | .escrowDeposit _ | .escrowSettlement _
  | .holdDeposit _ | .holdSettlement _ => .isFalse id

/-- What a movement credits to a merchant as a payment. -/
def Transfer.credit (merchant : Address) (transfer : Transfer) : Int :=
  if transfer.cause.IsPayment ∧ transfer.recipient = merchant then transfer.amount else 0

/-- What the payments have credited to a merchant. -/
def World.credited (merchant : Address) (world : World) : Int :=
  (world.transfers.map (Transfer.credit merchant)).sum

/-- The total in the profile of a merchant, if it has one. -/
def World.totalReceived (merchant : Address) (world : World) : Option Int :=
  (world.merchants.records.get merchant).map Merchant.totalReceived

/-- The total of every registered merchant is what the payments have credited to it. -/
def World.TotalsExact (world : World) : Prop :=
  ∀ merchant total, world.totalReceived merchant = some total → total = world.credited merchant

/-- What a call adds to the total of a merchant. -/
def Call.counts (merchant : Address) (world : World) : Call → Int
  | .payment (.processPaymentWithSignature _ _ merchantAddress _ amount ..) =>
      if merchantAddress = merchant then amount - feeOn amount world.getPlatformFeeBps else 0
  | .payment (.processPaymentWithNonce _ _ merchantAddress _ amount ..) =>
      if merchantAddress = merchant then amount else 0
  | .payment (.batchPayment _ payments) =>
      Debt.earned merchant (payments.map BatchPaymentItem.debt)
  | _ => 0

/-- What a call credits to a merchant. -/
def Call.credits (merchant : Address) (world : World) : Call → Int
  | .payment (.processPaymentWithSignature _ _ merchantAddress _ amount ..)
  | .payment (.processPaymentWithNonce _ _ merchantAddress _ amount ..) =>
      if merchantAddress = merchant then amount - feeOn amount world.getPlatformFeeBps else 0
  | .payment (.batchPayment _ payments) =>
      Debt.earned merchant (payments.map BatchPaymentItem.debt)
  | .multisig (.executeMultisigPayment _ paymentId) =>
      match world.multisigs.get paymentId with
      | some signed => if signed.merchantAddress = merchant then signed.amount else 0
      | none => 0
  | .multisig (.payPaymentRequest _ requestId) =>
      match world.requests.records.get requestId with
      | some request => if request.merchant = merchant then request.amount else 0
      | none => 0
  | _ => 0

/-- The call changes the totals by what it credits: no fee is taken from a payment that is counted
in full, nobody is paid whose total stays as it is, and no total is opened after a payment. -/
def CountsExactly (world : World) : Call → Prop
  | .payment (.processPaymentWithNonce _ _ _ _ amount ..) =>
      feeOn amount world.getPlatformFeeBps = 0
  | .multisig (.executeMultisigPayment _ paymentId) =>
      ∀ signed ∈ world.multisigs.get paymentId, world.totalReceived signed.merchantAddress = none
  | .multisig (.payPaymentRequest _ requestId) =>
      ∀ request ∈ world.requests.records.get requestId, world.totalReceived request.merchant = none
  | .merchant (.revealMerchantRegistration merchantAddress ..)
  | .merchant (.registerMerchant merchantAddress ..) => world.credited merchantAddress = 0
  | _ => True

variable {env : Env} {world next : World} {merchant : Address}

section Totals

theorem World.totalReceived_of_profiles (same : next.merchants.records = world.merchants.records) :
    next.totalReceived merchant = world.totalReceived merchant := by
  rw [World.totalReceived, same]
  rfl

theorem totalReceived_rewrite {profile old : Merchant} {named : Address}
    (found : world.merchants.records.get named = some old)
    (written : next.merchants.records = world.merchants.records.put profile)
    (same : profile.address = old.address) (kept : profile.totalReceived = old.totalReceived) :
    next.totalReceived merchant = world.totalReceived merchant := by
  rw [World.totalReceived, written]
  exact Table.map_get_rewrite profile found same kept merchant

theorem totalReceived_counted {profile : Merchant} {named : Address} {amount : Int}
    (found : world.merchants.records.get named = some profile)
    (written : next.merchants.records = world.merchants.records.put
      { profile with totalReceived := profile.totalReceived + amount }) :
    next.totalReceived merchant =
      (world.totalReceived merchant).map (· + if named = merchant then amount else 0) := by
  have address : profile.address = named := Table.key_of_get found
  rw [World.totalReceived, written, Table.map_get_put, address]
  by_cases same : merchant = named
  · subst same
    simp [World.totalReceived, found]
  · rw [if_neg same, if_neg (Ne.symm same), World.totalReceived, Option.map_map]
    simp only [add_zero]
    rfl

theorem MerchantCall.totalReceived_spec {call : MerchantCall}
    (committed : call.exec.Commits env world () next) :
    next.totalReceived merchant = if merchant ∈ (Call.merchant call).registrations then some 0
      else world.totalReceived merchant := by
  have opened {profiles : Table Merchant.address} {profile : Merchant} (named : Address)
      (address : profile.address = named) (none : profile.totalReceived = 0) :
      ((profiles.put profile).get merchant).map Merchant.totalReceived =
        if merchant ∈ [named] then some 0
          else (profiles.get merchant).map Merchant.totalReceived := by
    rw [Table.map_get_put, address, none]
    simp only [List.mem_singleton]
  cases call with
  | revealMerchantRegistration named name description contactInfo category =>
      simp [MerchantCall.exec, Contract.revealMerchantRegistration, addActiveMerchant]
        at committed
      obtain ⟨_, _, _, _, _, _, _, _, _, _, rfl⟩ := committed
      exact opened named rfl rfl
  | registerMerchant named name description contactInfo category referralId =>
      cases referralId with
      | none =>
          simp [MerchantCall.exec, Contract.registerMerchant, addActiveMerchant] at committed
          obtain ⟨_, _, _, _, _, _, rfl⟩ := committed
          exact opened named rfl rfl
      | some referral =>
          simp [MerchantCall.exec, Contract.registerMerchant, addActiveMerchant] at committed
          obtain ⟨_, _, _, _, _, _, _, referrer, found, _, rfl⟩ := committed
          let counted := { referrer with referralCount := referrer.referralCount + 1 }
          exact (Table.map_get_rewrite counted found rfl rfl merchant).trans (opened named rfl rfl)
  | updateMerchant =>
      simp [MerchantCall.exec, Contract.updateMerchant] at committed
      obtain ⟨_, _, _, profile, found, _, rfl⟩ := committed
      exact totalReceived_rewrite found rfl rfl rfl
  | deactivateMerchant =>
      simp [MerchantCall.exec, Contract.deactivateMerchant] at committed
      obtain ⟨_, _, profile, found, rfl⟩ := committed
      exact totalReceived_rewrite found rfl rfl rfl
  | reactivateMerchant =>
      simp [MerchantCall.exec, Contract.reactivateMerchant, addActiveMerchant] at committed
      obtain ⟨_, _, profile, found, _, _, rfl⟩ := committed
      exact totalReceived_rewrite found rfl rfl rfl
  | verifyMerchant =>
      simp [MerchantCall.exec, Contract.verifyMerchant] at committed
      obtain ⟨_, profile, found, rfl⟩ := committed
      exact totalReceived_rewrite found rfl rfl rfl
  | unverifyMerchant =>
      simp [MerchantCall.exec, Contract.unverifyMerchant] at committed
      obtain ⟨_, _, profile, found, rfl⟩ := committed
      exact totalReceived_rewrite found rfl rfl rfl
  | commitMerchantRegistration =>
      simp [MerchantCall.exec, Contract.commitMerchantRegistration] at committed
      obtain ⟨_, _, _, _, rfl⟩ := committed
      rfl
  | _ =>
      simp only [MerchantCall.exec, Tx.discard_bind, Contract.getMerchant, Contract.isRegistered,
        Contract.getMerchantStats, Contract.getMerchants] at committed
      exact World.totalReceived_of_profiles (congrArg Books.merchants (quiet_books committed))

end Totals

section Payments

@[simp]
theorem credited_moveTokens (transfer : Transfer) :
    (world.moveTokens transfer).credited merchant =
      world.credited merchant + transfer.credit merchant := by
  simp [World.credited, World.moveTokens, add_comm]

theorem credited_of_log (same : next.transfers = world.transfers) :
    next.credited merchant = world.credited merchant := by
  rw [World.credited, same]
  rfl

variable {payer merchantAddress token : Address} {orderId : Text} {amount fee : Int}

theorem transferWithFee_credits (merchant : Address) (positive : 0 < amount)
    (committed : (transferWithFee payer orderId merchantAddress token amount).Commits env world
      fee next) :
    fee = feeOn amount world.getPlatformFeeBps ∧ next.credited merchant =
      world.credited merchant + if merchantAddress = merchant then amount - fee else 0 := by
  have rounded : (amount * world.getPlatformFeeBps).tdiv 10000 =
      feeOn amount world.getPlatformFeeBps := tdiv_eq_feeOn positive
  simp [transferWithFee] at committed
  rcases committed with ⟨_, _, _, _, outcome, computed⟩ | ⟨free, _, _, rfl, rfl⟩
  · rw [← computed] at outcome
    refine ⟨computed.trans rounded, ?_⟩
    rcases outcome with ⟨_, ⟨recipient, _, _, _, _, _, rfl⟩ | ⟨_, rfl⟩⟩ | ⟨_, rfl⟩
    · simp [Transfer.credit, Cause.IsPayment]
    · simp [Transfer.credit, Cause.IsPayment]
    · simp [Transfer.credit, Cause.IsPayment]
  · have zero : world.getPlatformFeeBps = 0 := free
    rw [zero]
    simp [Transfer.credit, Cause.IsPayment, feeOn]

/-- A single payment writes the profile of the merchant with the new total, and only its charge
moves tokens. -/
theorem SinglePhases.receives {order : PaymentOrder} {received : Int} (merchant : Address)
    (phases : SinglePhases env world next order received) :
    order.platformFee = feeOn order.amount world.getPlatformFeeBps ∧
      next.totalReceived merchant = (world.totalReceived merchant).map
        (· + if order.merchantAddress = merchant then received else 0) ∧
      next.credited merchant = world.credited merchant +
        if order.merchantAddress = merchant then order.amount - order.platformFee else 0 := by
  obtain ⟨profile, start, paid, stored, counting, _, positive, _, _, _, found, _, ready,
    transferred, recorded, merchantCounted, globallyCounted⟩ := phases
  have sameConfig : start.config = world.config := by rw [ready]
  have sameLog : start.transfers = world.transfers := by rw [ready]
  have sameProfiles : start.merchants.records = world.merchants.records := by rw [ready]
  obtain ⟨charged, credited⟩ := transferWithFee_credits merchant positive transferred
  have paidProfiles : paid.merchants.records = start.merchants.records :=
    same_part [.tokens] transferred .profiles (by simp)
  have storedProfiles : stored.merchants.records = paid.merchants.records :=
    same_part [.orders, .merchantIds, .payerIds] recorded .profiles (by simp)
  have merchantProfiles : counting.merchants.records = stored.merchants.records.put _ :=
    same_part [.merchantStats] merchantCounted .profiles (by simp)
  have countedProfiles : next.merchants.records = counting.merchants.records :=
    same_part [.totals] globallyCounted .profiles (by simp)
  have log : next.transfers = paid.transfers :=
    congrArg Prod.snd (same_tokens_counted recorded merchantCounted globallyCounted)
  refine ⟨?_, ?_, ?_⟩
  · rw [charged, World.getPlatformFeeBps, sameConfig]
  · apply totalReceived_counted found
    rw [countedProfiles, merchantProfiles, storedProfiles, paidProfiles, sameProfiles]
  · rw [credited_of_log log, credited, credited_of_log sameLog]

theorem processPaymentWithSignature_receives {memo : Text} {tags : Option (List Text)}
    {nonce timestamp : Nat} {signature merchantPublicKey : Bytes}
    (committed : (processPaymentWithSignature payer orderId merchantAddress token amount memo tags
      nonce timestamp signature merchantPublicKey).Commits env world () next) :
    next.totalReceived merchant = (world.totalReceived merchant).map
        (· + if merchantAddress = merchant then
          amount - feeOn amount world.getPlatformFeeBps else 0) ∧
      next.credited merchant = world.credited merchant + if merchantAddress = merchant then
        amount - feeOn amount world.getPlatformFeeBps else 0 := by
  obtain ⟨order, ofTerms, phases⟩ := processPaymentWithSignature_phases committed
  obtain ⟨-, rfl, -, -, rfl⟩ := PaymentTerms.mk.inj ofTerms
  obtain ⟨charged, received, credited⟩ := phases.receives merchant
  rw [charged] at received credited
  exact ⟨received, credited⟩

theorem processPaymentWithNonce_receives {memo : Text} {tags : Option (List Text)} {nonce : Nat}
    (committed : (processPaymentWithNonce payer orderId merchantAddress token amount memo tags
      nonce).Commits env world () next) :
    next.totalReceived merchant = (world.totalReceived merchant).map
        (· + if merchantAddress = merchant then amount else 0) ∧
      next.credited merchant = world.credited merchant + if merchantAddress = merchant then
        amount - feeOn amount world.getPlatformFeeBps else 0 := by
  obtain ⟨order, ofTerms, phases⟩ := processPaymentWithNonce_phases committed
  obtain ⟨-, rfl, -, -, rfl⟩ := PaymentTerms.mk.inj ofTerms
  obtain ⟨charged, received, credited⟩ := phases.receives merchant
  rw [charged] at credited
  exact ⟨received, credited⟩

end Payments

section Batch

variable {payer : Address} {items : List BatchPaymentItem} {groups : List PaymentGroup}

theorem storeBatchItem_receives {item : BatchPaymentItem} {now : Nat} {stats result : GlobalStats}
    (committed : (storeBatchItem payer now stats item).Commits env world result next) :
    next.totalReceived merchant = (world.totalReceived merchant).map
      (· + if item.merchantAddress = merchant then item.amount else 0) := by
  simp [storeBatchItem, commits_recordPayment, commits_countMerchantPayment,
    commits_countedPayment] at committed
  obtain ⟨_, _, written, ⟨_, rfl⟩, _, rfl⟩ := committed
  rcases written with ⟨profile, found, _, rfl⟩ | ⟨missing, rfl⟩
  · exact totalReceived_counted found rfl
  · change world.totalReceived merchant = _
    by_cases same : item.merchantAddress = merchant
    · have unknown : world.totalReceived merchant = none := by
        rw [← same]
        exact Option.map_eq_none_iff.mpr missing
      rw [unknown, Option.map_none]
    · simp [same]

theorem storeBatch_receives {now : Nat} {stats result : GlobalStats} (merchant : Address)
    (committed : (Tx.fold (storeBatchItem payer now) stats items).Commits env world result next) :
    next.totalReceived merchant = (world.totalReceived merchant).map
      (· + Debt.earned merchant (items.map BatchPaymentItem.debt)) := by
  induction items generalizing stats world with
  | nil =>
      obtain ⟨_, rfl⟩ := Tx.commits_fold_nil.mp committed
      simp [Debt.earned]
  | cons item rest inductionHypothesis =>
      obtain ⟨between, middle, head, tail⟩ := Tx.commits_fold_cons.mp committed
      rw [inductionHypothesis tail, storeBatchItem_receives head, Option.map_map, List.map_cons,
        Debt.earned_cons]
      congr 1
      funext total
      exact add_assoc ..

theorem credits_payGroups (payer merchant : Address) (groups : List PaymentGroup) :
    ((groups.map fun group => Transfer.credit merchant
      ⟨.batchGroup, group.token, payer, group.merchant, group.total⟩).sum) =
      Debt.earned merchant (groups.map PaymentGroup.debt) := by
  induction groups with
  | nil => rfl
  | cons group rest inductionHypothesis =>
      rw [List.map_cons, List.sum_cons, inductionHypothesis, List.map_cons, Debt.earned_cons]
      by_cases same : group.merchant = merchant
      · simp [Transfer.credit, Cause.IsPayment, PaymentGroup.debt, same]
      · simp [Transfer.credit, PaymentGroup.debt, same]

/-- A batch counts and credits what its items owe to each merchant. -/
theorem batchPayment_receives (committed : (batchPayment payer items).Commits env world () next) :
    next.totalReceived merchant = (world.totalReceived merchant).map
        (· + Debt.earned merchant (items.map BatchPaymentItem.debt)) ∧
      next.credited merchant = world.credited merchant +
        Debt.earned merchant (items.map BatchPaymentItem.debt) := by
  obtain ⟨seenIds, groups, validated, paying, stored, stats, _, _, checked, collected, transferred,
    written, rfl⟩ := batchPayment_phases committed
  have rates := validateBatch_rates checked
  obtain ⟨_, _, paid⟩ := payGroups_pays transferred
  constructor
  · have counted := storeBatch_receives merchant written
    have before : paying.totalReceived merchant = world.totalReceived merchant := by
      rw [paid, rates]
      rfl
    rw [before] at counted
    exact counted
  · have log := payGroups_logs transferred
    rw [rates] at log
    have kept := storeBatch_keeps written
    rw [World.credited, kept]
    change (paying.transfers.map (Transfer.credit merchant)).sum = _
    rw [log, List.map_append, List.sum_append, List.map_reverse, List.sum_reverse, List.map_map,
      ← Debt.earned_collectAll, ← collected, ← credits_payGroups payer, add_comm]
    rfl

end Batch

section Calls

variable {call : Call}

/-- The total of a merchant after a call: a registration opens it, and the payments of a caller
add to it. -/
theorem Call.totalReceived_spec (merchant : Address)
    (committed : call.exec.Commits env world () next) :
    next.totalReceived merchant = if merchant ∈ call.registrations then some 0 else
      (world.totalReceived merchant).map (· + call.counts merchant world) := by
  have kept (unregistered : call.registrations = []) (uncounted : call.counts merchant world = 0)
      (same : next.totalReceived merchant = world.totalReceived merchant) :
      next.totalReceived merchant = if merchant ∈ call.registrations then some 0 else
        (world.totalReceived merchant).map (· + call.counts merchant world) := by
    rw [unregistered, uncounted, same]
    simp
  have quiet (unwritten : .profiles ∉ call.parts) :
      next.totalReceived merchant = world.totalReceived merchant := by
    have writes := call.writes
    exact World.totalReceived_of_profiles (same_part call.parts committed .profiles unwritten)
  have apart (merchants : ∀ inner, call ≠ .merchant inner)
      (payments : ∀ inner, call ≠ .payment inner) :
      next.totalReceived merchant = world.totalReceived merchant :=
    World.totalReceived_of_profiles ((Call.effect committed).merchants_same merchants payments)
  cases call with
  | merchant call =>
      rw [MerchantCall.totalReceived_spec committed]
      simp [Call.counts]
  | payment call =>
      cases call with
      | processPaymentWithSignature =>
          exact (processPaymentWithSignature_receives committed).1
      | processPaymentWithNonce => exact (processPaymentWithNonce_receives committed).1
      | batchPayment => exact (batchPayment_receives committed).1
      | _ => exact kept rfl rfl (quiet (by simp [Call.parts, PaymentCall.parts]))
  | _ => exact kept rfl rfl (apart (by simp) (by simp))

theorem Call.credits_of_silent (silent : call.orderIds = [])
    (payments : ∀ inner, call ≠ .payment inner) : call.credits merchant world = 0 := by
  cases call with
  | payment call => exact absurd rfl (payments call)
  | multisig call =>
      cases call with
      | executeMultisigPayment => cases silent
      | payPaymentRequest => cases silent
      | _ => rfl
  | _ => rfl

theorem Effect.credited {after : Books} (effect : Effect env world.books call after)
    (payments : ∀ inner, call ≠ .payment inner) :
    (after.transfers.map (Transfer.credit merchant)).sum =
      world.credited merchant + call.credits merchant world := by
  have same : (world.books.transfers.map (Transfer.credit merchant)).sum =
      world.credited merchant + 0 :=
    (add_zero _).symm
  have moved (transfer : Transfer) (other : ¬ transfer.cause.IsPayment) :
      ((transfer :: world.books.transfers).map (Transfer.credit merchant)).sum =
        world.credited merchant + 0 := by
    rw [List.map_cons, List.sum_cons, same, Transfer.credit, if_neg fun paid => other paid.1,
      zero_add]
  cases effect with
  | quiet call silent =>
      rw [Call.credits_of_silent silent payments]
      exact same
  | paid | statusUpdated | archived | paymentsCleaned => exact absurd rfl (payments _)
  | multisigPaid payer signed stored =>
      have here : world.multisigs.get signed.paymentId = some signed := stored
      rw [Books.settle, List.map_cons, List.sum_cons, same, Call.credits, here, add_zero, add_comm]
      simp [Transfer.credit, Cause.IsPayment]
  | requestPaid payer request stored =>
      have here : world.requests.records.get request.requestId = some request := stored
      rw [Books.settle, List.map_cons, List.sum_cons, same, Call.credits, here, add_zero, add_comm]
      simp [Transfer.credit, Cause.IsPayment]
  | multisigOpened | multisigChanged | requestOpened | requestsDropped =>
      rw [Call.credits_of_silent ‹_› payments]
      exact same
  | refundExecuted | refundForced | charged | escrowOpened | escrowSettled | holdOpened
  | holdSettled => exact moved _ id
  | _ => exact same

/-- The payments credit what the call stands for. -/
theorem Call.credited_spec (merchant : Address)
    (committed : call.exec.Commits env world () next) :
    next.credited merchant = world.credited merchant + call.credits merchant world := by
  have quiet (unwritten : .tokens ∉ call.parts) :
      next.credited merchant = world.credited merchant + 0 := by
    have writes := call.writes
    have log : (next.bank, next.transfers) = (world.bank, world.transfers) :=
      same_part call.parts committed .tokens unwritten
    rw [credited_of_log (congrArg Prod.snd log), add_zero]
  have effect := Call.effect committed
  cases call with
  | payment call =>
      cases call with
      | processPaymentWithSignature =>
          exact (processPaymentWithSignature_receives committed).2
      | processPaymentWithNonce => exact (processPaymentWithNonce_receives committed).2
      | batchPayment => exact (batchPayment_receives committed).2
      | _ => exact quiet (by simp [Call.parts, PaymentCall.parts])
  | _ => exact effect.credited (by simp)

/-- The call counts for each merchant what it credits to it, and the merchants that it registers
have been credited nothing. -/
structure Call.Agrees (call : Call) (world : World) : Prop where
  opens : ∀ merchant ∈ call.registrations,
    world.credited merchant + call.credits merchant world = 0
  counts : ∀ merchant, merchant ∉ call.registrations → world.totalReceived merchant ≠ none →
    call.counts merchant world = call.credits merchant world

/-- Exact totals stay exact if the call agrees with itself. -/
theorem World.TotalsExact.next_iff (now : world.TotalsExact)
    (committed : call.exec.Commits env world () next) : next.TotalsExact ↔ call.Agrees world := by
  constructor
  · intro still
    constructor
    · intro merchant member
      have opened := Call.totalReceived_spec merchant committed
      rw [if_pos member] at opened
      rw [← Call.credited_spec merchant committed]
      exact (still merchant 0 opened).symm
    · intro merchant outside known
      obtain ⟨total, shown⟩ := Option.ne_none_iff_exists'.mp known
      have counted := Call.totalReceived_spec merchant committed
      rw [if_neg outside, shown, Option.map_some] at counted
      have after := still merchant _ counted
      rw [Call.credited_spec merchant committed, now merchant total shown] at after
      exact add_left_cancel after
  · intro agrees merchant total shown
    rw [Call.totalReceived_spec merchant committed] at shown
    rw [Call.credited_spec merchant committed]
    split at shown
    · next member =>
        rw [agrees.opens merchant member]
        exact (Option.some.inj shown).symm
    · next outside =>
        obtain ⟨before, known, rfl⟩ := Option.map_eq_some_iff.mp shown
        have registered : world.totalReceived merchant ≠ none := by simp [known]
        rw [agrees.counts merchant outside registered, now merchant before known]

theorem agrees_uncounted_iff {paid : Address} {amount : Int} (positive : 0 < amount)
    (unregistered : call.registrations = [])
    (uncounted : ∀ merchant, call.counts merchant world = 0)
    (credits : ∀ merchant, call.credits merchant world = if paid = merchant then amount else 0) :
    call.Agrees world ↔ world.totalReceived paid = none := by
  constructor
  · intro agrees
    by_contra known
    have outside : paid ∉ call.registrations := by simp [unregistered]
    have same := agrees.counts paid outside known
    rw [uncounted, credits, if_pos rfl] at same
    omega
  · intro unknown
    refine ⟨by simp [unregistered], fun merchant _ known => ?_⟩
    have other : paid ≠ merchant := by
      rintro rfl
      exact known unknown
    rw [uncounted, credits, if_neg other]

theorem agrees_registration_iff {named : Address} (registers : call.registrations = [named])
    (uncounted : ∀ merchant, call.counts merchant world = 0)
    (uncredited : ∀ merchant, call.credits merchant world = 0) :
    call.Agrees world ↔ world.credited named = 0 := by
  constructor
  · intro agrees
    have opened := agrees.opens named (by simp [registers])
    rwa [uncredited, add_zero] at opened
  · intro nothing
    constructor
    · intro merchant member
      rw [registers, List.mem_singleton] at member
      rw [member, uncredited, add_zero, nothing]
    · intro merchant _ _
      rw [uncounted, uncredited]

theorem processPaymentWithNonce_agrees_iff {payer : Address} {orderId : Text}
    {merchantAddress token : Address} {amount : Int} {memo : Text} {tags : Option (List Text)}
    {nonce : Nat} (committed : (processPaymentWithNonce payer orderId merchantAddress token amount
      memo tags nonce).Commits env world () next) :
    (Call.payment (.processPaymentWithNonce payer orderId merchantAddress token amount memo tags
      nonce)).Agrees world ↔ feeOn amount world.getPlatformFeeBps = 0 := by
  obtain ⟨order, terms, paid⟩ := processPaymentWithNonce_paid committed
  have address : order.merchantAddress = merchantAddress :=
    congrArg PaymentTerms.merchantAddress terms
  constructor
  · intro agrees
    have registered : world.totalReceived merchantAddress ≠ none := by
      obtain ⟨profile, found, _⟩ := Option.map_eq_some_iff.mp paid.welcome.active
      rw [address] at found
      simp [World.totalReceived, found]
    have same := agrees.counts merchantAddress List.not_mem_nil registered
    simp only [Call.counts, Call.credits, if_true] at same
    omega
  · intro free
    refine ⟨nofun, fun merchant _ _ => ?_⟩
    simp only [Call.counts, Call.credits, free, sub_zero]

theorem agrees_iff {contract : Address} (clean : world.books.Clean contract)
    (committed : call.exec.Commits env world () next) :
    call.Agrees world ↔ CountsExactly world call := by
  cases call with
  | merchant call =>
      cases call with
      | revealMerchantRegistration =>
          exact agrees_registration_iff rfl (fun _ => rfl) fun _ => rfl
      | registerMerchant => exact agrees_registration_iff rfl (fun _ => rfl) fun _ => rfl
      | _ => exact iff_of_true ⟨nofun, fun _ _ _ => rfl⟩ trivial
  | payment call =>
      cases call with
      | processPaymentWithNonce => exact processPaymentWithNonce_agrees_iff committed
      | _ => exact iff_of_true ⟨nofun, fun _ _ _ => rfl⟩ trivial
  | multisig call =>
      cases call with
      | executeMultisigPayment payer paymentId =>
          simp only [CountsExactly]
          cases stored : world.multisigs.get paymentId with
          | none =>
              refine iff_of_true ⟨nofun, fun _ _ _ => ?_⟩ nofun
              simp only [Call.counts, Call.credits, stored]
          | some signed =>
              have positive := (clean.multisigs _ _ stored).2
              simp only [Option.mem_some_iff, forall_eq']
              exact agrees_uncounted_iff positive rfl (fun _ => rfl) fun _ => by
                simp only [Call.credits, stored]
      | payPaymentRequest payer requestId =>
          simp only [CountsExactly]
          cases stored : world.requests.records.get requestId with
          | none =>
              refine iff_of_true ⟨nofun, fun _ _ _ => ?_⟩ nofun
              simp only [Call.counts, Call.credits, stored]
          | some request =>
              have positive := (clean.requests _ _ stored).2
              simp only [Option.mem_some_iff, forall_eq']
              exact agrees_uncounted_iff positive rfl (fun _ => rfl) fun _ => by
                simp only [Call.credits, stored]
      | _ => exact iff_of_true ⟨nofun, fun _ _ _ => rfl⟩ trivial
  | _ => exact iff_of_true ⟨nofun, fun _ _ _ => rfl⟩ trivial

end Calls

section Runs

variable {host : Host} {start : World}

theorem Deployed.totalsExact (deployed : Deployed host start) : start.TotalsExact := by
  obtain ⟨bank, timestamp, sequence, _, _, rfl⟩ := deployed
  intro merchant total shown
  simp [World.totalReceived, World.deployed] at shown

/-- The totals of the registered merchants are exact throughout a run, exactly if every accepted
call counts what it credits. -/
theorem totals_received_iff (deployed : Deployed host start) (actions : List Action) :
    Throughout (step host) World.TotalsExact start actions ↔
      Along (step host) (AcceptsOnly host CountsExactly) start actions := by
  have exactly : ∀ (world : World) action, world.books.Sound host.self → world.TotalsExact →
      True → ((step host world action).TotalsExact ↔
        AcceptsOnly host CountsExactly world action) := by
    intro world action sound now _
    cases action with
    | invoke auth permits call =>
        by_cases accepted : Accepted host world auth permits call
        · have committed := accepted.succeeds.executes
          rw [now.next_iff committed, agrees_iff sound.toClean committed]
          exact ⟨fun met _ => met, fun met => met accepted⟩
        · rw [step_of_refused accepted]
          exact iff_of_true now fun accepts => absurd accepts accepted
    | tokens operation =>
        refine iff_of_true ?_ trivial
        simp only [step]
        split
        · exact now
        · exact now
    | advance ledgers seconds => exact iff_of_true now trivial
  have kept : ∀ (world : World) action, world.books.Sound host.self → world.TotalsExact → True →
      AcceptsOnly host CountsExactly world action →
      (step host world action).books.Sound host.self :=
    fun world action sound _ _ _ => (step_change (admits_anyCall host world action)).sound sound
  exact throughout_iff_along exactly kept deployed.sound deployed.totalsExact
    (along_of_forall (fun _ _ => trivial) start actions)

/-- The admin takes a fee of one per cent, a payment is charged, and a payment request is paid. -/
def Sample.trading : List Action := opening ++ [
  invokedBy admin (.admin (.setPlatformFee admin 100 admin)),
  invokedBy payer (.payment (.processPaymentWithNonce payer [1] shop coin 500 [] none 0)),
  invokedBy rival (.multisig (.createPaymentRequest rival [2] coin 300 [] 60)),
  invokedBy payer (.multisig (.payPaymentRequest payer [2]))]

theorem totals_received_iff_sample :
    Throughout (step Sample.host) World.TotalsExact Sample.start Sample.trading ↔
      Along (step Sample.host) (AcceptsOnly Sample.host CountsExactly) Sample.start
        Sample.trading :=
  totals_received_iff Sample.deployed_start Sample.trading

/-- The total of the shop counts the fee that the shop did not get, and the total of the rival
leaves the request out. -/
theorem totals_received_differ :
    ¬ ∀ host start actions, Deployed host start →
      Throughout (step host) World.TotalsExact start actions := by
  have shown : ∃ world, run (step Sample.host) Sample.start Sample.trading = world ∧
      world.totalReceived Sample.shop = some 500 ∧ world.credited Sample.shop = 495 ∧
      world.totalReceived Sample.rival = some 0 ∧ world.credited Sample.rival = 300 :=
    ⟨_, rfl, by decide +kernel⟩
  obtain ⟨world, reached, total, credited, _⟩ := shown
  intro always
  have totals := always Sample.host Sample.start Sample.trading Sample.deployed_start
    Sample.trading [] (List.append_nil _).symm
  rw [reached] at totals
  have same := totals Sample.shop 500 total
  rw [credited] at same
  exact absurd same (by decide)

end Runs

end LumenFlow
