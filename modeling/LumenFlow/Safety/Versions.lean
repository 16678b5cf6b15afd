import LumenFlow.Kit.Versioned
import LumenFlow.Effect.Accepted
import LumenFlow.Safety.Orders

/-!
# When a version detects a lost update

An update of a payment may name the version that the caller has read.  This detects every
change in between only if every change raises the version.
-/

namespace LumenFlow

open Kit

/-- The payment under an identifier. -/
def World.order (orderId : Text) (world : World) : Option PaymentOrder :=
  world.payments.orders.get orderId

/-- The call resolves no dispute by force, updates a payment with the largest version only
to what it already says, and executes a multisig payment over a stored payment only if that
is the payment it becomes. -/
def KeepsVersions (books : Books) : Call → Prop
  | .refund (.resolveDispute _ _ _ true) => False
  | .payment (.updatePaymentStatus _ orderId refundedAmount _) =>
      ∀ payment, books.orders.get orderId = some payment →
        payment.version < u32Max ∨ payment.refundedTo refundedAmount = payment
  | .multisig (.executeMultisigPayment payer paymentId) =>
      ∀ payment multisig, books.orders.get paymentId = some payment →
        books.multisigs.get paymentId = some multisig →
        multisig.order payer books.timestamp = payment
  | _ => True

section Steps

variable {env : Env} {books next : Books} {call : Call} {orderId : Text} {first last : PaymentOrder}

theorem raises_put {payment : PaymentOrder} (changed : PaymentOrder)
    (stored : books.orders.get payment.orderId = some payment)
    (key : changed.orderId = payment.orderId)
    (raised : payment = changed ∨ payment.version < changed.version)
    (before : books.orders.get orderId = some first)
    (after : (books.orders.put changed).get orderId = some last) :
    first = last ∨ first.version < last.version := by
  rcases Table.get_rewrite_cases changed stored key before with kept | ⟨rfl, written⟩
  · exact .inl (Option.some.inj (kept.symm.trans after))
  · obtain rfl := Option.some.inj (written.symm.trans after)
    exact raised

theorem Effect.raises (allowed : KeepsVersions books call) (effect : Effect env books call next)
    (before : books.orders.get orderId = some first)
    (after : next.orders.get orderId = some last) :
    first = last ∨ first.version < last.version := by
  cases effect with
  | paid call orders profiles transfers listed distinct fresh =>
      rcases Table.get_putAll_cases after with written | ⟨_, same⟩
      · have key : last.orderId = orderId := Table.key_of_get after
        rw [← key, fresh last written] at before
        cases before
      · exact .inl (Option.some.inj (before.symm.trans same))
  | statusUpdated caller updated refundedAmount expectedVersion payment stored =>
      have raised : payment = payment.refundedTo refundedAmount ∨
          payment.version < (payment.refundedTo refundedAmount).version := by
        rcases allowed payment stored with room | same
        · exact .inr (lt_min room (Nat.lt_succ_self _))
        · exact .inl same.symm
      obtain rfl := Table.key_of_get stored
      exact raises_put (payment.refundedTo refundedAmount) stored rfl raised before after
  | archived admin archivedId =>
      exact .inl (Option.some.inj (before.symm.trans (Table.sub_erase _ _ _ _ after)))
  | paymentsCleaned admin batchSize orders refunds ordersSub =>
      exact .inl (Option.some.inj (before.symm.trans (ordersSub _ _ after)))
  | refundExecuted refund payment stored approved order =>
      have key : payment.orderId = refund.orderId := Table.key_of_get order
      rw [← key] at order
      exact raises_put (payment.refundBy refund.amount (payment.version + 1)) order rfl
        (.inr (Nat.lt_succ_self _)) before after
  | refundForced => exact allowed.elim
  | multisigPaid payer multisig stored =>
      cases found : books.orders.get multisig.paymentId with
      | none => exact .inl (Table.eq_of_put_free found before after)
      | some payment =>
          have same := allowed payment multisig found stored
          have key : payment.orderId = multisig.paymentId := Table.key_of_get found
          rw [← key] at found
          exact raises_put (multisig.order payer books.timestamp) found key.symm (.inl same.symm)
            before after
  | requestPaid payer request stored fresh =>
      exact .inl (Table.eq_of_put_free fresh before after)
  | _ => exact .inl (Option.some.inj (before.symm.trans after))

variable {host : Host} {world : World} {action : Action}

theorem Change.raises (change : Change host KeepsVersions books action next)
    (before : books.orders.get orderId = some first)
    (after : next.orders.get orderId = some last) :
    first = last ∨ first.version < last.version := by
  cases change with
  | called auth permits call next admitted effect => exact effect.raises admitted before after
  | _ => exact .inl (Option.some.inj (before.symm.trans after))

theorem raises_of_admits (admitted : Admits host KeepsVersions world action) (orderId : Text) :
    Raises (step host) (World.order orderId) PaymentOrder.version world action :=
  fun _ _ before after => (step_change admitted).raises before after

/-- A successful call that raises the version of every payment that it changes keeps the
versions. -/
theorem keepsVersions_of_raises {auth : List Address} {permits : TokenCall → Bool} {call : Call}
    (sound : world.books.Sound host.self)
    (raises : ∀ orderId, Raises (step host) (World.order orderId) PaymentOrder.version world
      (.invoke auth permits call))
    {next : World} (succeeded : Succeeds host world auth permits call next) :
    KeepsVersions world.books call := by
  have raised : ∀ orderId first last, world.books.orders.get orderId = some first →
      next.books.orders.get orderId = some last →
      first = last ∨ first.version < last.version := by
    intro orderId first last before after
    exact raises orderId first last before (by rw [succeeded.step_eq]; exact after)
  unfold KeepsVersions
  split
  · next admin disputeId resolution =>
      obtain ⟨dispute, refund, payment, _, _, stored, order, books⟩ :=
        resolveDispute_books succeeded.executes
      have positive := sound.refunds _ refund stored
      have key : payment.orderId = refund.orderId := Table.key_of_get order
      have written : next.books.orders.get refund.orderId =
          some (payment.refundBy refund.amount payment.version) := by
        rw [books]
        exact Table.get_put_of_key key
      rcases raised refund.orderId payment _ order written with same | larger
      · have unpaid : payment.refundedAmount = payment.refundedAmount + refund.amount :=
          congrArg PaymentOrder.refundedAmount same
        omega
      · exact absurd larger (Nat.lt_irrefl _)
  · next caller orderId refundedAmount expectedVersion =>
      intro payment stored
      have written := updatePaymentStatus_written succeeded.executes stored
      rcases raised orderId payment _ stored written with same | larger
      · exact .inr same.symm
      · exact .inl (lt_of_lt_of_le larger (min_le_left _ _))
  · next payer paymentId =>
      obtain ⟨multisig, stored, _, _, books⟩ := executeMultisigPayment_books succeeded.executes
      intro payment other found storedHere
      obtain rfl := Option.some.inj (stored.symm.trans storedHere)
      have key : multisig.paymentId = paymentId := Table.key_of_get stored
      have written : next.books.orders.get paymentId =
          some (multisig.order payer world.books.timestamp) := by
        rw [books]
        exact Table.get_put_of_key key
      rcases raised paymentId payment _ found written with same | larger
      · exact same.symm
      · exact absurd larger (Nat.not_lt_zero _)
  · trivial

end Steps

section Runs

variable {host : Host} {start : World} {actions : List Action}

theorem run_raises (keeps : Along (step host) (Admits host KeepsVersions) start actions)
    (orderId : Text) :
    Along (step host) (Raises (step host) (World.order orderId) PaymentOrder.version) start
      actions :=
  along_mono (fun _ _ admitted => raises_of_admits admitted orderId) keeps

/-- An update that names a version is accepted only if the payment has that version. -/
theorem version_of_accepted {world : World} {auth : List Address} {permits : TokenCall → Bool}
    {caller : Address} {orderId : Text} {refundedAmount : Int} {version : Nat}
    (accepted : Accepted host world auth permits
      (.payment (.updatePaymentStatus caller orderId refundedAmount (some version)))) :
    ∃ payment, world.order orderId = some payment ∧ payment.version = version := by
  obtain ⟨payment, stored, _, current, _⟩ :=
    updatePaymentStatus_books accepted.succeeds.executes
  exact ⟨payment, stored, current version rfl⟩

/-- Every change of a stored payment raises its version, and an update that is accepted
with a version once read finds the payment as it was read, exactly if the run resolves no
dispute by force, updates no payment with the largest version to something else, and
executes no multisig payment over another payment. -/
theorem lost_updates_detected_iff (deployed : Deployed host start) (actions : List Action) :
    ((∀ orderId, Along (step host)
        (Raises (step host) (World.order orderId) PaymentOrder.version) start actions) ∧
      ∀ before during auth permits caller orderId refundedAmount first after,
        actions = before ++ (during ++ .invoke auth permits (.payment
          (.updatePaymentStatus caller orderId refundedAmount (some first.version))) :: after) →
        (run (step host) start before).order orderId = some first →
        Throughout (step host) (Stored orderId) (run (step host) start before) during →
        Accepted host (run (step host) start (before ++ during)) auth permits (.payment
          (.updatePaymentStatus caller orderId refundedAmount (some first.version))) →
        Throughout (step host) (fun world => world.order orderId = some first)
          (run (step host) start before) during) ↔
      Along (step host) (Admits host KeepsVersions) start actions := by
  constructor
  · rintro ⟨raises, _⟩
    rw [along_iff_split]
    intro before action after split
    cases action with
    | invoke auth permits call =>
        intro next succeeded
        have raisesHere : ∀ orderId, Raises (step host) (World.order orderId) PaymentOrder.version
            (run (step host) start before) (.invoke auth permits call) :=
          fun orderId => (along_iff_split start actions).mp (raises orderId) before _ after split
        exact keepsVersions_of_raises (sound_run deployed.sound before) raisesHere succeeded
    | _ => trivial
  · intro keeps
    refine ⟨run_raises keeps, ?_⟩
    rintro before during auth permits caller orderId refundedAmount first after rfl read stored
      accepted
    obtain ⟨last, found, same⟩ := version_of_accepted accepted
    rw [run_append] at found
    exact unchanged_of_same_version (run_raises keeps.during orderId) stored read found same

end Runs

/-- A rejected refund of 200 with a dispute. -/
def Sample.disputing : List Action := [
  invokedBy payer (.payment (.processPaymentWithNonce payer [1] shop coin 500 [] none 0)),
  invokedBy payer (.refund (.initiateRefund payer [2] [1] 200 [])),
  invokedBy shop (.refund (.rejectRefund shop [2])),
  invokedBy payer (.refund (.raiseDispute payer [3] [2] []))]

/-- The dispute is resolved by force. -/
def Sample.forcing : Action :=
  .invoke [admin, shop] (fun _ => true) (.refund (.resolveDispute admin [3] [89] true))

theorem lost_update_undetected :
    ((Sample.world Sample.disputing).order [1]).map
        (fun payment => (payment.version, payment.refundedAmount)) = some (0, 0) ∧
      ((Sample.world (Sample.disputing ++ [Sample.forcing])).order [1]).map
        (fun payment => (payment.version, payment.refundedAmount)) = some (0, 200) ∧
      Accepted Sample.host (Sample.world (Sample.disputing ++ [Sample.forcing])) [Sample.shop]
        (fun _ => true) (.payment (.updatePaymentStatus Sample.shop [1] 300 (some 0))) := by
  decide +kernel

/-- A refund of 200 is executed. -/
def Sample.versioned : List Action := [
  invokedBy payer (.payment (.processPaymentWithNonce payer [1] shop coin 500 [] none 0)),
  invokedBy payer (.refund (.initiateRefund payer [2] [1] 200 [])),
  invokedBy shop (.refund (.approveRefund shop [2])),
  invokedBy shop (.refund (.executeRefund [2]))]

/-- Whoever has read the payment since then updates it. -/
def Sample.updating : Action :=
  invokedBy shop (.payment (.updatePaymentStatus shop [1] 300 (some 1)))

theorem lost_updates_detected_iff_sample :
    ((Sample.world (Sample.versioned ++ [Sample.updating])).order [1]).map
        PaymentOrder.version = some 2 ∧
      Along (step Sample.host)
        (Raises (step Sample.host) (World.order [1]) PaymentOrder.version) Sample.start
        (Sample.opening ++ Sample.versioned ++ [Sample.updating]) := by
  have read : ((Sample.world Sample.versioned).order [1]).map PaymentOrder.version = some 1 := by
    decide +kernel
  have keeps : Along (step Sample.host) (Admits Sample.host KeepsVersions) Sample.start
      (Sample.opening ++ Sample.versioned ++ [Sample.updating]) := by
    rw [along_append]
    refine ⟨?_, fun next _ payment stored => .inl ?_, trivial⟩
    · simp [Sample.opening, Sample.versioned, Sample.invokedBy, Admits, KeepsVersions]
    · obtain ⟨found, same, version⟩ := Option.map_eq_some_iff.mp read
      obtain rfl := Option.some.inj (same.symm.trans stored)
      rw [version]
      decide
  exact ⟨by decide +kernel,
    ((lost_updates_detected_iff Sample.deployed_start _).mpr keeps).1 [1]⟩

end LumenFlow
