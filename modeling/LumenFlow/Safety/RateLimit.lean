import LumenFlow.Effect.Frame
import LumenFlow.Safety.Batching

/-!
# The rate limit of the merchants

The counter of a merchant and a window is the number of payments to the merchant that the
contract accepted in the 300 ledgers of the window, single ones with a signature and items of
batches.
-/

namespace LumenFlow

open Kit Contract

/-- The payments of a call that are counted, each with its merchant and the current ledger. -/
def Call.ratedPayments (world : World) : Call → List (Address × Nat)
  | .payment (.processPaymentWithSignature _ _ merchantAddress ..) =>
      [(merchantAddress, world.sequence)]
  | .payment (.batchPayment _ payments) =>
      payments.map fun item => (item.merchantAddress, world.sequence)
  | _ => []

/-- The payment was made to the merchant in the 300 ledgers from the start of the window. -/
def InWindow (merchant : Address) (window : Nat) (payment : Address × Nat) : Prop :=
  payment.1 = merchant ∧ window ≤ payment.2 ∧ payment.2 < window + 300

instance (merchant : Address) (window : Nat) : DecidablePred (InWindow merchant window) :=
  fun _ => inferInstanceAs (Decidable (_ ∧ _ ∧ _))

/-- The counter that a payment is counted by. -/
def rateCounter (payment : Address × Nat) : Address × Nat :=
  (payment.1, payment.2 / rateLimitWindowLedgers * rateLimitWindowLedgers)

theorem rateCounter_eq_iff {merchant : Address} {window : Nat} (starts : 300 ∣ window)
    (payment : Address × Nat) :
    rateCounter payment = (merchant, window) ↔ InWindow merchant window payment := by
  obtain ⟨index, rfl⟩ := starts
  have window : payment.2 / rateLimitWindowLedgers * rateLimitWindowLedgers = 300 * index ↔
      300 * index ≤ payment.2 ∧ payment.2 < 300 * index + 300 := by
    unfold rateLimitWindowLedgers
    omega
  rw [rateCounter, Prod.mk_inj, window, InWindow]

/-- The payments are counted, and none of them beyond the limit. -/
structure World.Rates (world : World) (counted : List (Address × Nat)) (next : World) : Prop where
  counters : ∀ merchant window, next.getRateLimitCounter merchant window =
    world.getRateLimitCounter merchant window + counted.count (merchant, window)
  bounded : ∀ merchant window, (merchant, window) ∈ counted →
    next.getRateLimitCounter merchant window ≤ world.getRateLimitPerWindow

variable {env : Env} {world middle next : World} {merchant : Address}
  {counted more : List (Address × Nat)}

theorem World.Rates.of_same
    (same : next.payments.rateLimitCounters = world.payments.rateLimitCounters) :
    world.Rates [] next := by
  refine ⟨fun merchant window => ?_, nofun⟩
  change next.payments.rateLimitCounters merchant window = _
  rw [same]
  rfl

theorem World.Rates.kept (rates : world.Rates counted middle)
    (same : next.payments.rateLimitCounters = middle.payments.rateLimitCounters) :
    world.Rates counted next := by
  have counter (merchant : Address) (window : Nat) : next.getRateLimitCounter merchant window =
      middle.getRateLimitCounter merchant window := congrFun (congrFun same merchant) window
  exact ⟨fun merchant window => (counter merchant window).trans (rates.counters merchant window),
    fun merchant window member =>
      (counter merchant window).le.trans (rates.bounded merchant window member)⟩

theorem World.Rates.trans (head : world.Rates counted middle) (tail : middle.Rates more next)
    (limit : middle.getRateLimitPerWindow = world.getRateLimitPerWindow) :
    world.Rates (counted ++ more) next := by
  constructor
  · intro merchant window
    rw [tail.counters, head.counters, List.count_append, Nat.add_assoc]
  · intro merchant window member
    rw [← limit]
    by_cases later : (merchant, window) ∈ more
    · exact tail.bounded merchant window later
    · have now := (List.mem_append.mp member).resolve_right later
      rw [tail.counters, List.count_eq_zero.mpr later, limit]
      exact head.bounded merchant window now

theorem World.rates_rated (below : world.getRateLimitCounter merchant world.currentWindowStart <
    world.getRateLimitPerWindow) :
    world.Rates [(merchant, world.currentWindowStart)] (world.rated merchant) := by
  have counter (who : Address) (window : Nat) :
      (world.rated merchant).getRateLimitCounter who window =
        world.getRateLimitCounter who window +
          if (merchant, world.currentWindowStart) = (who, window) then 1 else 0 := by
    simp only [World.rated, updatePayments, Prod.mk_inj]
    by_cases same : who = merchant
    · subst same
      by_cases now : window = world.currentWindowStart
      · simp [now]
      · simp [now, Ne.symm now]
    · simp [same, Ne.symm same]
  constructor
  · intro who window
    rw [counter, List.count_singleton]
    simp only [beq_iff_eq]
  · intro who window member
    obtain ⟨rfl, rfl⟩ := Prod.mk_inj.mp (List.mem_singleton.mp member)
    rw [counter, if_pos rfl]
    exact below

/-! ## The calls -/

theorem Call.rateCounters_cases (call : Call) :
    .rateCounters ∉ call.parts ∧ (∀ world, call.ratedPayments world = []) ∨
      (∃ payer orderId merchantAddress tokenAddress amount memo tags nonce timestamp signature
        merchantPublicKey, call = .payment (.processPaymentWithSignature payer orderId
          merchantAddress tokenAddress amount memo tags nonce timestamp signature
          merchantPublicKey)) ∨
      ∃ payer payments, call = .payment (.batchPayment payer payments) := by
  cases call with
  | payment call =>
      cases call with
      | processPaymentWithSignature => exact .inr (.inl ⟨_, _, _, _, _, _, _, _, _, _, _, rfl⟩)
      | batchPayment => exact .inr (.inr ⟨_, _, rfl⟩)
      | _ => exact .inl ⟨of_decide_eq_true rfl, fun _ => rfl⟩
  | _ call => cases call <;> exact .inl ⟨of_decide_eq_true rfl, fun _ => rfl⟩

theorem validateBatchItem_rates {item : BatchPaymentItem} {seenIds result : List Text}
    (committed : (validateBatchItem seenIds item).Commits env world result next) :
    world.Rates [(item.merchantAddress, world.currentWindowStart)] next ∧
      next.config = world.config ∧ next.currentWindowStart = world.currentWindowStart := by
  simp [validateBatchItem, requireTokenAllowed, openOrder, commits_consumeRateLimit] at committed
  obtain ⟨_, _, _, _, _, _, ⟨⟨below, _⟩, rfl⟩, _⟩ := committed
  exact ⟨World.rates_rated below, rfl, rfl⟩

theorem validateBatch_counts {items : List BatchPaymentItem} {seenIds result : List Text}
    (committed : (Tx.fold validateBatchItem seenIds items).Commits env world result next) :
    world.Rates (items.map fun item => (item.merchantAddress, world.currentWindowStart)) next := by
  induction items generalizing seenIds world with
  | nil =>
      obtain ⟨_, rfl⟩ := Tx.commits_fold_nil.mp committed
      exact .of_same rfl
  | cons item rest inductionHypothesis =>
      obtain ⟨between, middle, head, tail⟩ := Tx.commits_fold_cons.mp committed
      obtain ⟨rates, config, window⟩ := validateBatchItem_rates head
      have later := inductionHypothesis tail
      rw [window] at later
      have limit : middle.getRateLimitPerWindow = world.getRateLimitPerWindow := by
        rw [World.getRateLimitPerWindow, config]
      exact rates.trans later limit

/-- An accepted call counts its payments, and no others. -/
theorem Call.rates {call : Call} (committed : call.exec.Commits env world () next) :
    world.Rates ((call.ratedPayments world).map rateCounter) next := by
  rcases call.rateCounters_cases with ⟨silent, nothing⟩ |
    ⟨payer, orderId, merchantAddress, tokenAddress, amount, memo, tags, nonce, timestamp,
      signature, merchantPublicKey, rfl⟩ | ⟨payer, payments, rfl⟩
  · have writes := call.writes
    rw [nothing]
    exact .of_same (same_part call.parts committed .rateCounters silent)
  · simp [Call.exec, PaymentCall.exec, processPaymentWithSignature, requireTokenAllowed, openOrder]
      at committed
    obtain ⟨_, _, _, _, _, _, _, merchant, _, _, _, _, _, limiting, limited, fee, paying,
      transferred, _, storing, recorded, _, counting, merchantCounted, counted⟩ := committed
    obtain ⟨⟨below, _⟩, rfl⟩ := commits_consumeRateLimit.mp limited
    have paid : paying.payments.rateLimitCounters = _ :=
      same_part [.tokens] transferred .rateCounters (by simp)
    have stored : storing.payments.rateLimitCounters = paying.payments.rateLimitCounters :=
      same_part [.orders, .merchantIds, .payerIds] recorded .rateCounters (by simp)
    have credited : counting.payments.rateLimitCounters = storing.payments.rateLimitCounters :=
      same_part [.merchantStats] merchantCounted .rateCounters (by simp)
    have total : next.payments.rateLimitCounters = counting.payments.rateLimitCounters :=
      same_part [.totals] counted .rateCounters (by simp)
    have same := (total.trans (credited.trans stored)).trans paid
    have rates : world.Rates [(merchantAddress, world.currentWindowStart)]
        (world.rated merchantAddress) := World.rates_rated below
    exact rates.kept same
  · have counted : ((Call.payment (.batchPayment payer payments)).ratedPayments world).map
          rateCounter =
        payments.map fun item => (item.merchantAddress, world.currentWindowStart) := by
      simp [Call.ratedPayments, rateCounter, World.currentWindowStart]
    rw [counted]
    obtain ⟨seenIds, groups, validated, paying, stored, stats, _, _, checked, _, transferred,
      written, rfl⟩ := batchPayment_phases committed
    have rates := validateBatch_counts checked
    obtain ⟨_, _, paid⟩ := payGroups_pays transferred
    have kept := storeBatch_keeps written
    apply rates.kept
    rw [kept, paid]
    rfl

section Runs

variable {host : Host} {start : World}

/-- The payments that a run accepts and counts. -/
def ratedIn (host : Host) (start : World) (actions : List Action) : List (Address × Nat) :=
  acceptedEntries host (fun world _ call => call.ratedPayments world) start actions

theorem counters_eq (deployed : Deployed host start) (actions : List Action) (merchant : Address)
    (window : Nat) :
    (run (step host) start actions).getRateLimitCounter merchant window =
      ((ratedIn host start actions).map rateCounter).count (merchant, window) := by
  let Counted (world : World) (past : List (Address × Nat)) : Prop :=
    world.getRateLimitCounter merchant window = (past.map rateCounter).count (merchant, window)
  have stepwise : ∀ world past action, Counted world past → Counted (step host world action)
      (past ++ noteAccepted host (fun world _ call => call.ratedPayments world) world action) := by
    intro world past action counted
    rcases step_cases host world action with
      ⟨auth, permits, call, rfl, succeeded⟩ | ⟨silent, bank, sequence, timestamp, same⟩
    · rw [noteAccepted_of_accepted succeeded.accepted]
      have rates := (Call.rates succeeded.executes).counters merchant window
      have more : Counted (step host world (.invoke auth permits call))
          (past ++ call.ratedPayments world) := by
        change World.getRateLimitCounter _ merchant window = _
        rw [rates, counted, List.map_append, List.count_append]
      exact more
    · rw [silent, same, List.append_nil]
      exact counted
  have initial : Counted start [] := by
    obtain ⟨bank, timestamp, sequence, _, _, rfl⟩ := deployed
    rfl
  exact history_invariant stepwise initial actions

/-- The counters hold how often each merchant was paid in the ledgers of each window. -/
theorem counters_eq_countP (deployed : Deployed host start) (actions : List Action)
    (merchant : Address) {window : Nat} (starts : 300 ∣ window) :
    (run (step host) start actions).getRateLimitCounter merchant window =
      (ratedIn host start actions).countP (InWindow merchant window ·) := by
  rw [counters_eq deployed, List.count, List.countP_map]
  apply List.countP_congr
  intro payment _
  simp [rateCounter_eq_iff starts]

theorem counters_bounded (deployed : Deployed host start) {actions : List Action} {limit : Nat}
    (stays : Throughout (step host) (fun world => world.getRateLimitPerWindow = limit) start
      actions) (merchant : Address) (window : Nat) :
    (run (step host) start actions).getRateLimitCounter merchant window ≤ limit := by
  have stepwise : ∀ world action, World.getRateLimitCounter world merchant window ≤ limit →
      world.getRateLimitPerWindow = limit ∧ (step host world action).getRateLimitPerWindow = limit →
      (step host world action).getRateLimitCounter merchant window ≤ limit := by
    rintro world action below ⟨here, _⟩
    rcases step_cases host world action with
      ⟨auth, permits, call, rfl, succeeded⟩ | ⟨_, bank, sequence, timestamp, same⟩
    · have rates := Call.rates succeeded.executes
      by_cases paid : (merchant, window) ∈ (call.ratedPayments world).map rateCounter
      · rw [← here]
        exact rates.bounded merchant window paid
      · rw [rates.counters, List.count_eq_zero.mpr paid]
        exact below
    · rw [same]
      exact below
  have initial : start.getRateLimitCounter merchant window ≤ limit := by
    obtain ⟨bank, timestamp, sequence, _, _, rfl⟩ := deployed
    exact Nat.zero_le _
  exact run_invariant_along stepwise initial stays.along

/-- A batch with two payments to the shop, and later a single one. -/
def Sample.shopping : List Action := opening ++ [
  invokedBy payer (.payment (.batchPayment payer (cart.map SignedPayment.item))),
  .advance 200 100,
  invokedBy payer ((order [4] shop 1).call payer)]

end Runs

end LumenFlow
