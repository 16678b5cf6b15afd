import LumenFlow.Effect.Accounts
import LumenFlow.Effect.Roster
import LumenFlow.Safety.Bookkeeping

/-!
# Merchant and global counters

The counters of the merchants add up to the global ones until a payment is made by a multisig
payment or a payment request, which is counted globally only.
-/

namespace LumenFlow

open Kit Contract

namespace Totals

/-- The volumes are above the lower limit. -/
structure Above (totals : Totals) : Prop where
  volume : i128Min < totals.volume
  refundVolume : i128Min < totals.refundVolume

variable {totals : Totals} {amount : Int} {amounts : List Int}

theorem above_zero : Above 0 := ⟨by decide, by decide⟩

theorem Above.refund (above : totals.Above) (positive : 0 < amount) :
    (totals.refund amount).Above :=
  ⟨above.volume, saturatingAdd_lower above.refundVolume positive⟩

theorem Above.payAll (above : totals.Above) (positive : ∀ amount ∈ amounts, 0 < amount) :
    (totals.payAll amounts).Above := by
  induction amounts generalizing totals with
  | nil => exact above
  | cons amount rest inductionHypothesis =>
      obtain ⟨here, later⟩ := List.forall_mem_cons.mp positive
      exact inductionHypothesis ⟨saturatingAdd_lower above.volume here, above.refundVolume⟩ later

@[simp]
theorem payAll_refundVolume : (totals.payAll amounts).refundVolume = totals.refundVolume := by
  induction amounts generalizing totals with
  | nil => rfl
  | cons amount rest inductionHypothesis => exact inductionHypothesis

@[simp]
theorem payAll_payments : (totals.payAll amounts).payments = totals.payments + amounts.length := by
  induction amounts generalizing totals with
  | nil => rfl
  | cons amount rest inductionHypothesis =>
      rw [payAll_cons, inductionHypothesis, pay_payments, List.length_cons]
      omega

theorem Above.payAll_exact (above : totals.Above) (positive : ∀ amount ∈ amounts, 0 < amount)
    (unsaturated : (totals.payAll amounts).Unsaturated) :
    totals.payAll amounts = totals + (amounts.map ofPayment).sum ∧ totals.Unsaturated := by
  obtain ⟨exactly, below⟩ := Totals.payAll_exact positive above.volume unsaturated.volume.2
  refine ⟨exactly, ⟨above.volume, below⟩, ?_⟩
  have refunds := unsaturated.refundVolume
  rwa [payAll_refundVolume] at refunds

/-- A refund that saturates nothing is counted exactly. -/
theorem Above.refund_exact (above : totals.Above) (positive : 0 < amount)
    (unsaturated : (totals.refund amount).Unsaturated) :
    totals.refund amount = totals + ofRefund amount ∧ totals.Unsaturated :=
  ⟨Totals.refund_exact above.refundVolume positive unsaturated.refundVolume.2,
    unsaturated.volume, above.refundVolume,
    (saturatingAdd_exact above.refundVolume positive unsaturated.refundVolume.2).2⟩

/-- The number of payments, as it adds up. -/
def paymentsHom : Totals →+ Nat where
  toFun := payments
  map_zero' := rfl
  map_add' _ _ := rfl

theorem payments_sum (counters : List Totals) :
    counters.sum.payments = (counters.map payments).sum :=
  map_list_sum paymentsHom counters

end Totals

namespace Accounts

/-- No counter has saturated, neither a global one nor one of a merchant. -/
structure Unsaturated (merchants : List Address) (accounts : Accounts) : Prop where
  totals : accounts.totals.Unsaturated
  stats : ∀ merchant ∈ merchants, (accounts.stats merchant).Unsaturated

instance (merchants : List Address) (accounts : Accounts) :
    Decidable (accounts.Unsaturated merchants) :=
  decidable_of_iff (accounts.totals.Unsaturated ∧
      ∀ merchant ∈ merchants, (accounts.stats merchant).Unsaturated)
    ⟨fun ⟨totals, stats⟩ => ⟨totals, stats⟩,
      fun unsaturated => ⟨unsaturated.totals, unsaturated.stats⟩⟩

theorem payAll_stats_of_stranger {merchants : List Address} {accounts : Accounts}
    {orders : List PaymentOrder} {stranger : Address}
    (known : ∀ order ∈ orders, order.merchantAddress ∈ merchants) (apart : stranger ∉ merchants) :
    (accounts.payAll orders).stats stranger = accounts.stats stranger := by
  have none : (orders.filter fun order => order.merchantAddress = stranger) = [] := by
    apply List.filter_eq_nil_iff.mpr
    intro order member same
    have same : order.merchantAddress = stranger := by simpa using same
    exact apart (same ▸ known order member)
  rw [payAll_stats, none]
  rfl

/-- The counters of the merchants add up to the global ones, and nobody else has counters. -/
structure Balanced (merchants : List Address) (accounts : Accounts) : Prop where
  strangers : ∀ stranger ∉ merchants, accounts.stats stranger = 0
  totals : accounts.totals.Above
  stats : ∀ merchant, (accounts.stats merchant).Above
  sum : accounts.Unsaturated merchants → accounts.totals = (merchants.map accounts.stats).sum

namespace Balanced

variable {merchants : List Address} {accounts : Accounts}

theorem restored (balanced : accounts.Balanced merchants)
    (orders : Table PaymentOrder.orderId) : Balanced merchants { accounts with orders } where
  strangers := balanced.strangers
  totals := balanced.totals
  stats := balanced.stats
  sum unsaturated := balanced.sum ⟨unsaturated.totals, unsaturated.stats⟩

theorem joined {merchant : Address} (balanced : accounts.Balanced merchants)
    (new : merchant ∉ merchants) : accounts.Balanced (merchants ++ [merchant]) where
  strangers stranger apart :=
    balanced.strangers stranger fun member => apart (List.mem_append_left _ member)
  totals := balanced.totals
  stats := balanced.stats
  sum unsaturated := by
    have before : accounts.Unsaturated merchants := ⟨unsaturated.totals, fun merchant member =>
      unsaturated.stats merchant (List.mem_append_left _ member)⟩
    rw [List.map_append, List.sum_append, balanced.sum before, List.map_singleton,
      List.sum_singleton, balanced.strangers merchant new, add_zero]

theorem payAll {orders : List PaymentOrder} (balanced : accounts.Balanced merchants)
    (distinct : merchants.Nodup) (known : ∀ order ∈ orders, order.merchantAddress ∈ merchants)
    (positive : ∀ order ∈ orders, 0 < order.amount) :
    (accounts.payAll orders).Balanced merchants := by
  have amounts (orders : List PaymentOrder) (positive : ∀ order ∈ orders, 0 < order.amount) :
      ∀ amount ∈ orders.map PaymentOrder.amount, 0 < amount := by
    simpa using positive
  have own (merchant : Address) :
      ∀ order ∈ orders.filter fun order => order.merchantAddress = merchant, 0 < order.amount :=
    fun order member => positive order (List.mem_of_mem_filter member)
  refine ⟨?_, ?_, ?_, fun unsaturated => ?_⟩
  · intro stranger apart
    rw [payAll_stats_of_stranger known apart]
    exact balanced.strangers stranger apart
  · rw [payAll_totals]
    exact balanced.totals.payAll (amounts orders positive)
  · intro merchant
    rw [payAll_stats]
    exact (balanced.stats merchant).payAll (amounts _ (own merchant))
  · have global := unsaturated.totals
    rw [payAll_totals] at global
    obtain ⟨total, before⟩ := balanced.totals.payAll_exact (amounts orders positive) global
    have each (merchant : Address) (member : merchant ∈ merchants) := by
      have here := unsaturated.stats merchant member
      rw [payAll_stats] at here
      exact (balanced.stats merchant).payAll_exact (amounts _ (own merchant)) here
    have stats : merchants.map (accounts.payAll orders).stats =
        merchants.map fun merchant => accounts.stats merchant +
          ((orders.filter fun order => order.merchantAddress = merchant).map
            fun order => Totals.ofPayment order.amount).sum := by
      apply List.map_congr_left
      intro merchant member
      rw [payAll_stats, (each merchant member).1, List.map_map]
      rfl
    rw [payAll_totals, total, stats, List.sum_map_add, sum_by_owner distinct known,
      balanced.sum ⟨before, fun merchant member => (each merchant member).2⟩, List.map_map]
    rfl

theorem refund {payment : PaymentOrder} {amount : Int} (balanced : accounts.Balanced merchants)
    (distinct : merchants.Nodup) (known : payment.merchantAddress ∈ merchants)
    (positive : 0 < amount) : (accounts.refund payment amount).Balanced merchants := by
  refine ⟨?_, balanced.totals.refund positive, ?_, fun unsaturated => ?_⟩
  · intro stranger apart
    have different : stranger ≠ payment.merchantAddress := by
      rintro rfl
      exact apart known
    rw [refund_stats, Function.update_of_ne different]
    exact balanced.strangers stranger apart
  · intro merchant
    by_cases here : merchant = payment.merchantAddress
    · rw [here, refund_stats, Function.update_self]
      exact (balanced.stats payment.merchantAddress).refund positive
    · rw [refund_stats, Function.update_of_ne here]
      exact balanced.stats merchant
  · obtain ⟨total, before⟩ := balanced.totals.refund_exact positive unsaturated.totals
    have own := unsaturated.stats payment.merchantAddress known
    rw [refund_stats, Function.update_self] at own
    obtain ⟨counted, ownBefore⟩ :=
      (balanced.stats payment.merchantAddress).refund_exact positive own
    have others : ∀ merchant ∈ merchants, (accounts.stats merchant).Unsaturated := by
      intro merchant member
      by_cases here : merchant = payment.merchantAddress
      · rw [here]
        exact ownBefore
      · have other := unsaturated.stats merchant member
        rwa [refund_stats, Function.update_of_ne here] at other
    change accounts.totals.refund amount = (merchants.map (Function.update accounts.stats
      payment.merchantAddress ((accounts.stats payment.merchantAddress).refund amount))).sum
    rw [total, counted, sum_update_add distinct known,
      balanced.sum ⟨before, others⟩]

end Balanced

end Accounts

/-- The counters of all merchants add up to the global ones. -/
def World.AddsUp (world : World) : Prop :=
  world.accounts.totals = (world.merchants.list.map world.accounts.stats).sum

instance (world : World) : Decidable world.AddsUp := inferInstanceAs (Decidable (_ = _))

/-- The payment that a call makes is not counted for its merchant. -/
def Call.CountsGloballyOnly : Call → Prop
  | .multisig (.executeMultisigPayment ..) | .multisig (.payPaymentRequest ..) => True
  | _ => False

instance (call : Call) : Decidable call.CountsGloballyOnly :=
  match call with
  | .multisig (.executeMultisigPayment ..) | .multisig (.payPaymentRequest ..) => .isTrue trivial
  | .multisig (.initiateMultisigPayment ..) | .multisig (.signMultisigPayment ..)
  | .multisig (.cancelMultisigPayment ..) | .multisig (.getMultisigPayment ..)
  | .multisig (.createPaymentRequest ..) | .multisig (.cancelPaymentRequest ..)
  | .multisig (.cancelExpiredPaymentRequests ..)
  | .admin _ | .merchant _ | .payment _ | .refund _ | .subscription _ | .escrow _ => .isFalse id

section Sums

variable {env : Env} {host : Host} {world next : World} {call : Call} {after : Accounts}

/-- What a run that counts every payment for its merchant keeps. -/
structure World.Tallied (host : Host) (world : World) : Prop where
  rostered : world.Rostered
  sound : world.books.Sound host.self
  payees : ∀ id payment, world.payments.orders.get id = some payment →
    payment.merchantAddress ∈ world.merchants.list
  balanced : world.accounts.Balanced world.merchants.list

/-- The merchants of the payments are listed. -/
def Accounts.Paying (merchants : List Address) (accounts : Accounts) : Prop :=
  ∀ id payment, accounts.orders.get id = some payment → payment.merchantAddress ∈ merchants

theorem Accounts.paying_lasting (merchants : List Address) :
    Accounts.Lasting (Accounts.Paying merchants) where
  sub paying sub id payment stored := paying id payment (sub id payment stored)
  rewrite paying stored merchant _ id payment found := by
    rcases Table.get_put_cases found with ⟨_, rfl⟩ | before
    · rw [merchant]
      exact paying _ _ stored
    · exact paying id payment before
  counters _ _ paying := paying

theorem Accounts.Move.paying (move : Accounts.Move world call after)
    (counted : ¬ call.CountsGloballyOnly) (rostered : world.Rostered)
    (paying : world.accounts.Paying world.merchants.list) :
    after.Paying world.merchants.list := by
  have silent (nothing : call.terms world.books = []) : after.Paying world.merchants.list :=
    move.lasting nothing (Accounts.paying_lasting world.merchants.list) paying
  cases move with
  | paid call orders listed distinct fresh opened =>
      intro id payment stored
      rw [Accounts.payAll_orders] at stored
      rcases Table.get_putAll_cases stored with member | ⟨_, before⟩
      · exact rostered.mem_of_registered (opened payment member).2.2
      · exact paying id payment before
  | multisigPaid | requestPaid => exact absurd trivial counted
  | kept call quiet => exact silent (Call.terms_of_silent quiet)
  | _ => exact silent rfl

/-- A call that counts its payments for their merchants keeps the counters in balance. -/
theorem Accounts.Move.balanced (move : Accounts.Move world call after)
    (counted : ¬ call.CountsGloballyOnly) (tallied : world.Tallied host) :
    after.Balanced world.merchants.list := by
  have distinct := tallied.rostered.distinct
  cases move with
  | kept => exact tallied.balanced
  | dismissed => exact tallied.balanced
  | paid call orders listed distinctIds fresh opened =>
      exact tallied.balanced.payAll distinct
        (fun order member => tallied.rostered.mem_of_registered (opened order member).2.2)
        fun order member => (opened order member).2.1
  | statusUpdated => exact tallied.balanced.restored _
  | archived => exact tallied.balanced.restored _
  | cleaned => exact tallied.balanced.restored _
  | refundExecuted refund payment approved stored =>
      exact tallied.balanced.refund distinct (tallied.payees _ payment stored)
        (tallied.sound.refunds _ refund approved)
  | refundForced admin resolution dispute refund payment raised rejected stored =>
      exact tallied.balanced.refund distinct (tallied.payees _ payment stored)
        (tallied.sound.refunds _ refund rejected)
  | multisigPaid | requestPaid => exact absurd trivial counted

theorem RosterMove.mem_mono {merchant : Address} (move : RosterMove world next)
    (member : merchant ∈ world.merchants.list) : merchant ∈ next.merchants.list := by
  cases move with
  | kept list => rwa [list]
  | joined _ _ list =>
      rw [list]
      exact List.mem_append_left _ member

theorem World.Tallied.step {action : Action} (tallied : world.Tallied host)
    (counted : AcceptsOnly host (fun _ call => ¬ call.CountsGloballyOnly) world action) :
    (LumenFlow.step host world action).Tallied host := by
  have sound := (step_change (admits_anyCall host world action)).sound tallied.sound
  have rostered : (LumenFlow.step host world action).Rostered := tallied.rostered.step action
  rcases step_cases host world action with
    ⟨auth, permits, call, rfl, succeeded⟩ | ⟨_, bank, sequence, timestamp, same⟩
  · have move := Call.move succeeded.executes
    have roster := Call.rosterMove succeeded.executes tallied.rostered.legacy
    have counted := counted succeeded.accepted
    have balanced := move.balanced counted tallied
    refine ⟨rostered, sound, fun id payment stored => ?_, ?_⟩
    · exact roster.mem_mono (move.paying counted tallied.rostered tallied.payees id payment stored)
    · exact roster.listed (Accounts.Balanced · _) tallied.rostered balanced fun _ =>
        balanced.joined
  · refine ⟨rostered, sound, ?_, ?_⟩
    · rw [same]
      exact tallied.payees
    · rw [same]
      exact tallied.balanced

theorem Deployed.tallied {start : World} (deployed : Deployed host start) :
    start.Tallied host := by
  have sound := deployed.sound
  have rostered := deployed.rostered_start
  obtain ⟨bank, timestamp, sequence, _, _, rfl⟩ := deployed
  refine ⟨rostered, sound, fun id payment stored => by simp [World.deployed] at stored, ?_⟩
  exact ⟨fun _ _ => rfl, Totals.above_zero, fun _ => Totals.above_zero, fun _ => rfl⟩

end Sums

section Gap

variable {env : Env} {host : Host} {world next : World} {call : Call} {after : Accounts}

/-- The payment that a call makes and counts globally only. -/
def Call.globalOnlyPayments (_world : World) (_auth : List Address) : Call → List Text
  | .multisig (.executeMultisigPayment _ paymentId) => [paymentId]
  | .multisig (.payPaymentRequest _ requestId) => [requestId]
  | _ => []

/-- So many payments are counted globally only. -/
structure Accounts.Lacking (merchants : List Address) (missing : Nat) (accounts : Accounts) :
    Prop where
  strangers : ∀ stranger ∉ merchants, (accounts.stats stranger).payments = 0
  sum : accounts.totals.payments =
    (merchants.map fun merchant => (accounts.stats merchant).payments).sum + missing

namespace Accounts.Lacking

variable {merchants : List Address} {missing : Nat} {accounts : Accounts}

theorem payAll {orders : List PaymentOrder} (lacking : accounts.Lacking merchants missing)
    (distinct : merchants.Nodup) (known : ∀ order ∈ orders, order.merchantAddress ∈ merchants) :
    (accounts.payAll orders).Lacking merchants missing := by
  have stats (merchant : Address) : ((accounts.payAll orders).stats merchant).payments =
      (accounts.stats merchant).payments +
        ((orders.filter fun order => order.merchantAddress = merchant).map fun _ => 1).sum := by
    rw [payAll_stats, Totals.payAll_payments, List.length_map]
    simp
  constructor
  · intro stranger apart
    rw [payAll_stats_of_stranger known apart]
    exact lacking.strangers stranger apart
  · have counted : (orders.map fun _ => 1).sum = orders.length := by simp
    simp only [stats]
    rw [payAll_totals, Totals.payAll_payments, List.sum_map_add, sum_by_owner distinct known,
      counted, lacking.sum, List.length_map]
    omega

theorem refund {payment : PaymentOrder} {amount : Int}
    (lacking : accounts.Lacking merchants missing) :
    (accounts.refund payment amount).Lacking merchants missing := by
  have stats (merchant : Address) : ((accounts.refund payment amount).stats merchant).payments =
      (accounts.stats merchant).payments := by
    by_cases here : merchant = payment.merchantAddress
    · rw [here, refund_stats, Function.update_self]
      rfl
    · rw [refund_stats, Function.update_of_ne here]
  constructor
  · intro stranger apart
    rw [stats]
    exact lacking.strangers stranger apart
  · simp only [stats]
    exact lacking.sum

theorem joined {merchant : Address} (lacking : accounts.Lacking merchants missing)
    (new : merchant ∉ merchants) : accounts.Lacking (merchants ++ [merchant]) missing where
  strangers stranger apart :=
    lacking.strangers stranger fun member => apart (List.mem_append_left _ member)
  sum := by
    rw [List.map_append, List.sum_append, lacking.sum, List.map_singleton, List.sum_singleton,
      lacking.strangers merchant new, add_zero]

theorem file {order : PaymentOrder} {merchantRoom payerRoom : Bool} {amount : Int}
    (lacking : accounts.Lacking merchants missing) :
    ((accounts.file order merchantRoom payerRoom).countGlobally (·.pay amount)).Lacking merchants
      (missing + 1) where
  strangers := lacking.strangers
  sum := by
    change accounts.totals.payments + 1 = _
    rw [lacking.sum, add_assoc]
    rfl

end Accounts.Lacking

theorem Accounts.Move.lacking {missing : Nat} (move : Accounts.Move world call after)
    (rostered : world.Rostered) (lacking : world.accounts.Lacking world.merchants.list missing)
    (auth : List Address) :
    after.Lacking world.merchants.list
      (missing + (call.globalOnlyPayments world auth).length) := by
  cases move with
  | kept call quiet =>
      have silent : call.globalOnlyPayments world auth = [] := by
        unfold Call.globalOnlyPayments
        split
        · simp [Call.parts, MultisigCall.parts] at quiet
        · simp [Call.parts, MultisigCall.parts] at quiet
        · rfl
      rw [silent]
      exact lacking
  | paid call orders listed distinct fresh opened =>
      exact lacking.payAll rostered.distinct fun order member =>
        rostered.mem_of_registered (opened order member).2.2
  | refundExecuted | refundForced => exact lacking.refund
  | multisigPaid | requestPaid => exact lacking.file
  | dismissed | statusUpdated | archived | cleaned => exact ⟨lacking.strangers, lacking.sum⟩

/-- The global number of payments exceeds the sum by those that a run counts globally only. -/
theorem Deployed.lacking {start : World} (deployed : Deployed host start)
    (actions : List Action) :
    (run (step host) start actions).accounts.Lacking (run (step host) start actions).merchants.list
      (acceptedEntries host Call.globalOnlyPayments start actions).length := by
  let Gap (world : World) (past : List Text) : Prop :=
    world.Rostered ∧ world.accounts.Lacking world.merchants.list past.length
  have stepwise : ∀ world past action, Gap world past → Gap (step host world action)
      (past ++ noteAccepted host Call.globalOnlyPayments world action) := by
    rintro world past action ⟨rostered, lacking⟩
    refine ⟨rostered.step action, ?_⟩
    rcases step_cases host world action with
      ⟨auth, permits, call, rfl, succeeded⟩ | ⟨silent, bank, sequence, timestamp, same⟩
    · rw [noteAccepted_of_accepted succeeded.accepted, List.length_append]
      have later := (Call.move succeeded.executes).lacking rostered lacking auth
      have roster := Call.rosterMove succeeded.executes rostered.legacy
      exact roster.listed (Accounts.Lacking · _ _) rostered later fun _ => later.joined
    · rw [silent, List.append_nil, same]
      exact lacking
  have initial : Gap start [] := by
    refine ⟨deployed.rostered_start, ?_⟩
    obtain ⟨bank, timestamp, sequence, _, _, rfl⟩ := deployed
    exact ⟨fun _ _ => rfl, rfl⟩
  exact (history_invariant stepwise initial actions).2

theorem noteAccepted_globalOnly_iff {action : Action} :
    noteAccepted host Call.globalOnlyPayments world action = [] ↔
      AcceptsOnly host (fun _ call => ¬ call.CountsGloballyOnly) world action := by
  cases action with
  | invoke auth permits call =>
      have noted : call.globalOnlyPayments world auth = [] ↔ ¬ call.CountsGloballyOnly := by
        unfold Call.globalOnlyPayments Call.CountsGloballyOnly
        split <;> simp
      by_cases accepted : Accepted host world auth permits call
      · rw [noteAccepted_of_accepted accepted, noted]
        exact ⟨fun counted _ => counted, fun counted => counted accepted⟩
      · rw [noteAccepted_of_refused accepted]
        exact iff_of_true rfl fun now => absurd now accepted
  | tokens => exact iff_of_true rfl trivial
  | advance => exact iff_of_true rfl trivial

end Gap

/-- As long as no counter has saturated, the counters of the merchants add up to the global ones
exactly if the run has accepted no multisig payment and no payment of a request. -/
theorem merchant_totals_add_up_iff {host : Host} {start : World} (deployed : Deployed host start)
    (actions : List Action)
    (unsaturated : (run (step host) start actions).accounts.Unsaturated
      (run (step host) start actions).merchants.list) :
    (run (step host) start actions).AddsUp ↔
      Along (step host) (AcceptsOnly host fun _ call => ¬ call.CountsGloballyOnly) start
        actions := by
  constructor
  · intro addsUp
    have lacking := (deployed.lacking actions).sum
    have payments := congrArg Totals.payments addsUp
    rw [Totals.payments_sum, List.map_map] at payments
    have nothing : acceptedEntries host Call.globalOnlyPayments start actions = [] :=
      List.eq_nil_of_length_eq_zero (Nat.left_eq_add.mp (payments.symm.trans lacking))
    exact along_mono (fun _ _ => noteAccepted_globalOnly_iff.mp) (history_eq_nil_iff.mp nothing)
  · intro counted
    have tallied : (run (step host) start actions).Tallied host :=
      run_invariant_along (fun _ _ tallied counted => tallied.step counted) deployed.tallied counted
    exact tallied.balanced.sum unsaturated

theorem merchant_totals_add_up_sample :
    (Sample.world Sample.refunding).AddsUp ∧
      (Sample.world Sample.refunding).accounts.totals = ⟨1, 500, 1, 200⟩ :=
  ⟨(merchant_totals_add_up_iff Sample.deployed_start (Sample.opening ++ Sample.refunding)
    (by decide +kernel)).mpr (by decide +kernel), by decide +kernel⟩

/-- The payer pays a request of the shop. -/
def Sample.payingRequest : List Action := [
  invokedBy shop (.multisig (.createPaymentRequest shop [5] coin 300 [] 1000)),
  invokedBy payer (.multisig (.payPaymentRequest payer [5]))]

/-- The payment of a request is missing from the counters of its merchant. -/
theorem request_missing_from_merchant :
    ¬ ∀ host start actions, Deployed host start →
      (run (step host) start actions).accounts.Unsaturated
        (run (step host) start actions).merchants.list →
      (run (step host) start actions).AddsUp := by
  intro addsUp
  have sums := addsUp Sample.host Sample.start (Sample.opening ++ Sample.payingRequest)
    Sample.deployed_start (by decide +kernel)
  revert sums
  decide +kernel

end LumenFlow
