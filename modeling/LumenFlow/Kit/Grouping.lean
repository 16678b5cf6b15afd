import Mathlib.Algebra.BigOperators.Group.List.Basic
import Mathlib.Data.List.Induction
import Mathlib.Data.List.Nodup
import Mathlib.Tactic.Linarith
import Mathlib.Tactic.Ring
import LumenFlow.Kit.TokenLedger

/-!
# Grouped payments

An account pays its debts one after the other, or adds up first what it owes to the same
creditor in the same token.  The grouped payments leave the same balances, and where they are
covered the single ones are.
-/

namespace Kit

/-- An amount of a token that is owed to an account. -/
structure Debt (Token Account : Type) where
  token : Token
  creditor : Account
  amount : Int

namespace Debt

variable {Token Account : Type}

/-- The sum of the amounts, weighted by token and creditor. -/
def weigh (weight : Token → Account → Int) (debts : List (Debt Token Account)) : Int :=
  (debts.map fun debt => weight debt.token debt.creditor * debt.amount).sum

/-- The debts are in the same tokens, and the same is owed to everybody. -/
structure Equivalent (first second : List (Debt Token Account)) : Prop where
  weigh : ∀ weight, weigh weight first = weigh weight second
  tokens : ∀ debt ∈ second, ∃ other ∈ first, other.token = debt.token

section Weigh

variable (weight : Token → Account → Int) (debt : Debt Token Account)
  (debts rest : List (Debt Token Account))

@[simp]
theorem weigh_nil : weigh weight ([] : List (Debt Token Account)) = 0 := rfl

@[simp]
theorem weigh_cons :
    weigh weight (debt :: rest) = weight debt.token debt.creditor * debt.amount +
      weigh weight rest := by
  simp [weigh]

@[simp]
theorem weigh_append : weigh weight (debts ++ rest) = weigh weight debts + weigh weight rest := by
  simp [weigh]

end Weigh

variable [DecidableEq Token] [DecidableEq Account] {ledger : TokenLedger Token Account}
  {debtor account : Account} {token : Token} {debt : Debt Token Account}
  {debts groups : List (Debt Token Account)}

/-- The amounts in one token. -/
def spent (token : Token) (debts : List (Debt Token Account)) : Int :=
  weigh (fun other _ => if token = other then 1 else 0) debts

def pay (debtor : Account) (ledger : TokenLedger Token Account) (debt : Debt Token Account) :
    TokenLedger Token Account :=
  ledger.move debt.token debtor debt.creditor debt.amount

def payAll (debtor : Account) (ledger : TokenLedger Token Account)
    (debts : List (Debt Token Account)) : TokenLedger Token Account :=
  debts.foldl (pay debtor) ledger

/-- The debtor holds each amount when its turn comes. -/
def Covered (debtor : Account) : TokenLedger Token Account → List (Debt Token Account) → Prop
  | _, [] => True
  | ledger, debt :: rest =>
      debt.amount ≤ ledger.balance debt.token debtor ∧ Covered debtor (pay debtor ledger debt) rest

section Paying

theorem balance_payAll :
    (payAll debtor ledger debts).balance token account = ledger.balance token account +
      weigh (fun other creditor => (if token = other ∧ account = creditor then 1 else 0) -
        (if token = other ∧ account = debtor then 1 else 0)) debts := by
  induction debts generalizing ledger with
  | nil => simp [payAll]
  | cons debt rest inductionHypothesis =>
      change (payAll debtor (pay debtor ledger debt) rest).balance token account = _
      rw [inductionHypothesis, pay, TokenLedger.balance_move, weigh_cons]
      split_ifs <;> ring

theorem allowance_payAll : (payAll debtor ledger debts).allowance = ledger.allowance := by
  induction debts generalizing ledger with
  | nil => rfl
  | cons debt rest inductionHypothesis => exact inductionHypothesis

/-- Equivalent debts leave the same ledger. -/
theorem Equivalent.payAll_eq (equivalent : Equivalent groups debts)
    (ledger : TokenLedger Token Account) :
    payAll debtor ledger groups = payAll debtor ledger debts := by
  have balance : (payAll debtor ledger groups).balance = (payAll debtor ledger debts).balance := by
    funext token account
    rw [balance_payAll, balance_payAll, equivalent.weigh]
  have allowance : (payAll debtor ledger groups).allowance =
      (payAll debtor ledger debts).allowance := by
    rw [allowance_payAll, allowance_payAll]
  cases first : payAll debtor ledger groups
  cases second : payAll debtor ledger debts
  rw [first, second] at balance allowance
  congr

theorem balance_pay_debtor (apart : debt.creditor ≠ debtor) :
    (pay debtor ledger debt).balance token debtor =
      ledger.balance token debtor - if token = debt.token then debt.amount else 0 := by
  rw [pay, TokenLedger.balance_move]
  simp [apart.symm]

omit [DecidableEq Account] in
theorem spent_cons (token : Token) (debt : Debt Token Account) (rest : List (Debt Token Account)) :
    spent token (debt :: rest) = (if token = debt.token then debt.amount else 0) +
      spent token rest := by
  rw [spent, weigh_cons]
  split_ifs <;> simp [spent]

omit [DecidableEq Account] in
theorem spent_of_not_mem (unused : ∀ debt ∈ debts, debt.token ≠ token) : spent token debts = 0 := by
  induction debts with
  | nil => rfl
  | cons debt rest inductionHypothesis =>
      obtain ⟨here, later⟩ := List.forall_mem_cons.mp unused
      rw [spent_cons, if_neg here.symm, inductionHypothesis later, add_zero]

theorem Covered.spent_le (covered : Covered debtor ledger debts)
    (apart : ∀ debt ∈ debts, debt.creditor ≠ debtor) :
    ∀ debt ∈ debts, spent debt.token debts ≤ ledger.balance debt.token debtor := by
  induction debts generalizing ledger with
  | nil => simp
  | cons head rest inductionHypothesis =>
      obtain ⟨held, later⟩ := covered
      obtain ⟨here, others⟩ := List.forall_mem_cons.mp apart
      have tail := inductionHypothesis later others
      have used (token : Token) (used : ∃ debt ∈ rest, debt.token = token) :
          spent token (head :: rest) ≤ ledger.balance token debtor := by
        obtain ⟨debt, member, rfl⟩ := used
        have enough := tail debt member
        rw [balance_pay_debtor here] at enough
        rw [spent_cons]
        linarith
      refine List.forall_mem_cons.mpr ⟨?_, fun debt member => used _ ⟨debt, member, rfl⟩⟩
      by_cases again : ∃ debt ∈ rest, debt.token = head.token
      · exact used _ again
      · have none : spent head.token rest = 0 :=
          spent_of_not_mem fun debt member same => again ⟨debt, member, same⟩
        rw [spent_cons, if_pos rfl, none, add_zero]
        exact held

omit [DecidableEq Account] in
theorem spent_nonneg (nonneg : ∀ debt ∈ debts, 0 ≤ debt.amount) : 0 ≤ spent token debts := by
  induction debts with
  | nil => exact le_refl _
  | cons debt rest inductionHypothesis =>
      obtain ⟨here, later⟩ := List.forall_mem_cons.mp nonneg
      have tail := inductionHypothesis later
      rw [spent_cons]
      split_ifs <;> linarith

/-- A debtor that holds the sum in each token covers debts that are not negative. -/
theorem covered_of_spent_le (apart : ∀ debt ∈ debts, debt.creditor ≠ debtor)
    (nonneg : ∀ debt ∈ debts, 0 ≤ debt.amount)
    (enough : ∀ debt ∈ debts, spent debt.token debts ≤ ledger.balance debt.token debtor) :
    Covered debtor ledger debts := by
  induction debts generalizing ledger with
  | nil => trivial
  | cons head rest inductionHypothesis =>
      obtain ⟨here, others⟩ := List.forall_mem_cons.mp apart
      obtain ⟨_, later⟩ := List.forall_mem_cons.mp nonneg
      obtain ⟨first, tail⟩ := List.forall_mem_cons.mp enough
      have restNonneg : 0 ≤ spent head.token rest := spent_nonneg later
      rw [spent_cons, if_pos rfl] at first
      refine ⟨by linarith, inductionHypothesis others later fun debt member => ?_⟩
      have total := tail debt member
      rw [spent_cons] at total
      rw [balance_pay_debtor here]
      linarith

theorem Equivalent.covered (equivalent : Equivalent groups debts)
    (covered : Covered debtor ledger groups) (apart : ∀ debt ∈ groups, debt.creditor ≠ debtor)
    (others : ∀ debt ∈ debts, debt.creditor ≠ debtor) (nonneg : ∀ debt ∈ debts, 0 ≤ debt.amount) :
    Covered debtor ledger debts := by
  refine covered_of_spent_le others nonneg fun debt member => ?_
  obtain ⟨group, inside, same⟩ := equivalent.tokens debt member
  have enough := covered.spent_le apart group inside
  rwa [same, spent, equivalent.weigh] at enough

end Paying

section Grouping

/-- The token and the creditor. -/
def key (debt : Debt Token Account) : Token × Account := (debt.token, debt.creditor)

/-- Add a debt to a group of the same token and creditor. -/
def raise (debt group : Debt Token Account) : Debt Token Account :=
  if group.key = debt.key then { group with amount := group.amount + debt.amount } else group

/-- Add a debt to its group, or open one for it. -/
def collect (groups : List (Debt Token Account)) (debt : Debt Token Account) :
    List (Debt Token Account) :=
  if debt.key ∈ groups.map key then groups.map debt.raise else groups ++ [debt]

/-- The groups of debts that come one after the other. -/
def collectAll (groups debts : List (Debt Token Account)) : List (Debt Token Account) :=
  debts.foldl collect groups

variable {group : Debt Token Account}

@[simp]
theorem key_raise : (debt.raise group).key = group.key := by
  unfold raise
  split <;> rfl

theorem raise_of_ne (other : group.key ≠ debt.key) : debt.raise group = group := if_neg other

theorem weigh_raise (weight : Token → Account → Int) (same : group.key = debt.key) :
    weight (debt.raise group).token (debt.raise group).creditor * (debt.raise group).amount =
      weight group.token group.creditor * group.amount +
        weight debt.token debt.creditor * debt.amount := by
  obtain ⟨token, creditor⟩ := Prod.mk.inj same
  rw [raise, if_pos same, token, creditor]
  exact mul_add ..

theorem keys_collect : (collect groups debt).map key =
    if debt.key ∈ groups.map key then groups.map key else groups.map key ++ [debt.key] := by
  unfold collect
  split
  · rw [List.map_map]
    exact List.map_congr_left fun group _ => key_raise
  · rw [List.map_append]
    rfl

theorem mem_keys_collect {name : Token × Account} :
    name ∈ (collect groups debt).map key ↔ name ∈ groups.map key ∨ name = debt.key := by
  rw [keys_collect]
  split
  · next known => exact ⟨.inl, Or.rec id fun same => same ▸ known⟩
  · simp

theorem nodup_collect (distinct : (groups.map key).Nodup) :
    ((collect groups debt).map key).Nodup := by
  rw [keys_collect]
  split
  · exact distinct
  · next fresh =>
      refine List.nodup_append.mpr ⟨distinct, List.nodup_singleton _, ?_⟩
      rintro name listed _ (_ | ⟨_, ⟨⟩⟩) rfl
      exact fresh listed

theorem weigh_map_raise (weight : Token → Account → Int) (distinct : (groups.map key).Nodup)
    (known : debt.key ∈ groups.map key) :
    weigh weight (groups.map debt.raise) =
      weigh weight groups + weight debt.token debt.creditor * debt.amount := by
  induction groups with
  | nil => cases known
  | cons head rest inductionHypothesis =>
      obtain ⟨fresh, restDistinct⟩ := List.nodup_cons.mp distinct
      rw [List.map_cons, weigh_cons, weigh_cons]
      rcases List.mem_cons.mp known with same | later
      · have kept : rest.map debt.raise = rest := by
          refine (List.map_congr_left fun group member => ?_).trans (List.map_id rest)
          have listed : group.key ∈ rest.map key := List.mem_map_of_mem member
          exact raise_of_ne fun again => fresh (same ▸ again ▸ listed)
        rw [weigh_raise weight same.symm, kept]
        ring
      · have other : head.key ≠ debt.key := fun same => fresh (same ▸ later)
        rw [raise_of_ne other, inductionHypothesis restDistinct later, add_assoc]

theorem weigh_collect (weight : Token → Account → Int) (distinct : (groups.map key).Nodup) :
    weigh weight (collect groups debt) =
      weigh weight groups + weight debt.token debt.creditor * debt.amount := by
  unfold collect
  split
  · next known => exact weigh_map_raise weight distinct known
  · simp

theorem weigh_collectAll (weight : Token → Account → Int) (distinct : (groups.map key).Nodup) :
    weigh weight (collectAll groups debts) = weigh weight groups + weigh weight debts := by
  induction debts generalizing groups with
  | nil => simp [collectAll]
  | cons debt rest inductionHypothesis =>
      change weigh weight (collectAll (collect groups debt) rest) = _
      rw [inductionHypothesis (nodup_collect distinct), weigh_collect weight distinct, weigh_cons]
      ring

theorem mem_keys_collectAll {name : Token × Account} :
    name ∈ (collectAll groups debts).map key ↔ name ∈ groups.map key ∨ name ∈ debts.map key := by
  induction debts generalizing groups with
  | nil => simp [collectAll]
  | cons debt rest inductionHypothesis =>
      change name ∈ (collectAll (collect groups debt) rest).map key ↔ _
      rw [inductionHypothesis, mem_keys_collect, List.map_cons, List.mem_cons, or_assoc]

theorem nodup_collectAll (distinct : (groups.map key).Nodup) :
    ((collectAll groups debts).map key).Nodup := by
  induction debts generalizing groups with
  | nil => exact distinct
  | cons debt rest inductionHypothesis => exact inductionHypothesis (nodup_collect distinct)

/-- The sum of the amounts that are owed under a key. -/
def owed (name : Token × Account) (debts : List (Debt Token Account)) : Int :=
  ((debts.filter fun debt => debt.key = name).map Debt.amount).sum

theorem owed_eq_weigh (name : Token × Account) (debts : List (Debt Token Account)) :
    owed name debts = weigh (fun token creditor => if (token, creditor) = name then 1 else 0)
      debts := by
  induction debts with
  | nil => rfl
  | cons debt rest inductionHypothesis =>
      rw [weigh_cons, ← inductionHypothesis, owed, owed]
      by_cases same : debt.key = name
      · have here : (debt.token, debt.creditor) = name := same
        simp [same, here]
      · have elsewhere : (debt.token, debt.creditor) ≠ name := same
        simp [same, elsewhere]

theorem owed_cons (name : Token × Account) (debt : Debt Token Account)
    (rest : List (Debt Token Account)) :
    owed name (debt :: rest) = (if debt.key = name then debt.amount else 0) + owed name rest := by
  rw [owed_eq_weigh, weigh_cons, ← owed_eq_weigh]
  change (if debt.key = name then (1 : Int) else 0) * _ + _ = _
  split_ifs <;> ring

theorem owed_of_not_mem {name : Token × Account} (absent : name ∉ debts.map key) :
    owed name debts = 0 := by
  induction debts with
  | nil => rfl
  | cons debt rest inductionHypothesis =>
      obtain ⟨here, later⟩ := not_or.mp (mt List.mem_cons.mpr absent)
      rw [owed_cons, if_neg (Ne.symm here), inductionHypothesis later, add_zero]

theorem owed_nonneg {name : Token × Account} (nonneg : ∀ debt ∈ debts, 0 ≤ debt.amount) :
    0 ≤ owed name debts := by
  induction debts with
  | nil => exact le_refl _
  | cons debt rest inductionHypothesis =>
      obtain ⟨here, later⟩ := List.forall_mem_cons.mp nonneg
      have tail := inductionHypothesis later
      rw [owed_cons]
      split_ifs <;> linarith

/-- The sum of the amounts that are owed to a creditor, in whatever tokens. -/
def earned (creditor : Account) (debts : List (Debt Token Account)) : Int :=
  weigh (fun _ other => if other = creditor then 1 else 0) debts

omit [DecidableEq Token] in
theorem earned_cons (creditor : Account) (debt : Debt Token Account)
    (rest : List (Debt Token Account)) :
    earned creditor (debt :: rest) = (if debt.creditor = creditor then debt.amount else 0) +
      earned creditor rest := by
  rw [earned, weigh_cons]
  split_ifs <;> simp [earned]

theorem earned_collectAll (creditor : Account) (debts : List (Debt Token Account)) :
    earned creditor (collectAll [] debts) = earned creditor debts := by
  have none : (([] : List (Debt Token Account)).map key).Nodup := List.nodup_nil
  rw [earned, weigh_collectAll _ none, weigh_nil, zero_add, earned]

theorem owed_of_nodup (distinct : (groups.map key).Nodup) (member : group ∈ groups) :
    owed group.key groups = group.amount := by
  induction groups with
  | nil => cases member
  | cons head rest inductionHypothesis =>
      obtain ⟨fresh, restDistinct⟩ := List.nodup_cons.mp distinct
      rw [owed_cons]
      rcases List.mem_cons.mp member with rfl | later
      · rw [if_pos rfl, owed_of_not_mem fresh, add_zero]
      · have other : head.key ≠ group.key := fun same => fresh (same ▸ List.mem_map_of_mem later)
        rw [if_neg other, zero_add, inductionHypothesis restDistinct later]

/-- Each group is the sum of the debts under its key. -/
theorem amount_of_mem_collectAll (member : group ∈ collectAll [] debts) :
    group.amount = owed group.key debts := by
  have none : (([] : List (Debt Token Account)).map key).Nodup := List.nodup_nil
  rw [← owed_of_nodup (nodup_collectAll none) member, owed_eq_weigh, owed_eq_weigh,
    weigh_collectAll _ none, weigh_nil, zero_add]

/-- Everybody gets what is owed to them, and the debtor gives what all debts add up to. -/
theorem balance_payAll_eq (debtor : Account) (ledger : TokenLedger Token Account)
    (debts : List (Debt Token Account)) (token : Token) (account : Account) :
    (payAll debtor ledger debts).balance token account =
      ledger.balance token account + owed (token, account) debts -
        if account = debtor then spent token debts else 0 := by
  induction debts generalizing ledger with
  | nil => simp [payAll, owed, spent]
  | cons debt rest inductionHypothesis =>
      change (payAll debtor (pay debtor ledger debt) rest).balance token account = _
      have keys : debt.key = (token, account) ↔ token = debt.token ∧ account = debt.creditor := by
        rw [eq_comm]
        exact Prod.mk_inj
      rw [inductionHypothesis, pay, TokenLedger.balance_move, owed_cons, spent_cons]
      simp only [keys]
      by_cases paying : account = debtor
      · simp only [paying, if_true, and_true]
        ring
      · simp only [paying, if_false, and_false]
        ring

theorem pairwise_collectAll (debts : List (Debt Token Account)) :
    ((collectAll [] debts).map key).Pairwise fun first second =>
      (debts.map key).idxOf first < (debts.map key).idxOf second := by
  induction debts using List.reverseRecOn with
  | nil => exact .nil
  | append_singleton debts debt inductionHypothesis =>
      have known {name : Token × Account} (listed : name ∈ (collectAll [] debts).map key) :
          name ∈ debts.map key := by
        rcases mem_keys_collectAll.mp listed with none | some
        · cases none
        · exact some
      have kept : ((collectAll [] debts).map key).Pairwise fun first second =>
          ((debts ++ [debt]).map key).idxOf first < ((debts ++ [debt]).map key).idxOf second := by
        rw [List.map_append]
        refine inductionHypothesis.imp_of_mem fun first second before => ?_
        rwa [List.idxOf_append_of_mem (known first), List.idxOf_append_of_mem (known second)]
      rw [collectAll, List.foldl_append]
      change ((collect (collectAll [] debts) debt).map key).Pairwise _
      rw [keys_collect]
      split
      · exact kept
      · next fresh =>
          -- a new key occurs first at the end
          have absent : debt.key ∉ debts.map key := fun listed =>
            fresh (mem_keys_collectAll.mpr (.inr listed))
          refine List.pairwise_append.mpr ⟨kept, List.pairwise_singleton _ _, ?_⟩
          intro name listed last member
          obtain rfl := List.mem_singleton.mp member
          rw [List.map_append, List.idxOf_append_of_mem (known listed),
            List.idxOf_append_of_notMem absent]
          exact Nat.lt_add_right _ (List.idxOf_lt_length_of_mem (known listed))

/-- The groups of some debts are equivalent to them. -/
theorem equivalent_collectAll (debts : List (Debt Token Account)) :
    Equivalent (collectAll [] debts) debts := by
  have distinct : (([] : List (Debt Token Account)).map key).Nodup := List.nodup_nil
  refine ⟨fun weight => ?_, fun debt member => ?_⟩
  · rw [weigh_collectAll weight distinct, weigh_nil, zero_add]
  · have listed : debt.key ∈ (collectAll [] debts).map key :=
      mem_keys_collectAll.mpr (.inr (List.mem_map_of_mem member))
    obtain ⟨group, inside, same⟩ := List.mem_map.mp listed
    exact ⟨group, inside, congrArg Prod.fst same⟩

theorem creditor_of_mem_collectAll (member : group ∈ collectAll [] debts) :
    ∃ debt ∈ debts, debt.creditor = group.creditor := by
  have listed : group.key ∈ (collectAll [] debts).map key := List.mem_map_of_mem member
  rcases mem_keys_collectAll.mp listed with none | some
  · cases none
  · obtain ⟨debt, inside, same⟩ := List.mem_map.mp some
    exact ⟨debt, inside, congrArg Prod.snd same⟩

/-- A debt that is not larger than another one to the same creditor in the same token. -/
def Within (debt group : Debt Token Account) : Prop :=
  debt.key = group.key ∧ debt.amount ≤ group.amount

theorem Within.raise (within : debt.Within group) {more : Debt Token Account}
    (nonneg : 0 ≤ more.amount) : debt.Within (more.raise group) := by
  refine ⟨within.1.trans key_raise.symm, within.2.trans ?_⟩
  unfold Debt.raise
  split
  · exact le_add_of_nonneg_right nonneg
  · exact le_refl _

theorem within_collect {more : Debt Token Account} (nonneg : 0 ≤ more.amount)
    (within : ∃ group ∈ groups, debt.Within group) :
    ∃ group ∈ collect groups more, debt.Within group := by
  obtain ⟨group, member, within⟩ := within
  unfold collect
  split
  · exact ⟨_, List.mem_map_of_mem member, within.raise nonneg⟩
  · exact ⟨group, List.mem_append_left _ member, within⟩

theorem within_collect_self (nonneg : ∀ group ∈ groups, 0 ≤ group.amount) :
    ∃ group ∈ collect groups debt, debt.Within group := by
  unfold collect
  split
  · next known =>
      obtain ⟨group, member, same⟩ := List.mem_map.mp known
      refine ⟨_, List.mem_map_of_mem member, key_raise.trans same |>.symm, ?_⟩
      rw [raise, if_pos same]
      exact le_add_of_nonneg_left (nonneg group member)
  · exact ⟨debt, by simp, rfl, le_refl _⟩

theorem nonneg_collect (nonneg : ∀ group ∈ groups, 0 ≤ group.amount)
    (debtNonneg : 0 ≤ debt.amount) : ∀ group ∈ collect groups debt, 0 ≤ group.amount := by
  unfold collect
  split
  · intro raised member
    obtain ⟨group, inside, rfl⟩ := List.mem_map.mp member
    have least : group.Within group := ⟨rfl, le_refl _⟩
    exact (nonneg group inside).trans (least.raise debtNonneg).2
  · exact List.forall_mem_append.mpr ⟨nonneg, List.forall_mem_singleton.mpr debtNonneg⟩

theorem within_collectAll (nonneg : ∀ group ∈ groups, 0 ≤ group.amount)
    (debtsNonneg : ∀ debt ∈ debts, 0 ≤ debt.amount)
    (listed : debt ∈ debts ∨ ∃ group ∈ groups, debt.Within group) :
    ∃ group ∈ collectAll groups debts, debt.Within group := by
  induction debts generalizing groups with
  | nil =>
      rcases listed with none | within
      · cases none
      · exact within
  | cons head rest inductionHypothesis =>
      obtain ⟨headNonneg, restNonneg⟩ := List.forall_mem_cons.mp debtsNonneg
      refine inductionHypothesis (nonneg_collect nonneg headNonneg) restNonneg ?_
      rcases listed with member | within
      · rcases List.mem_cons.mp member with rfl | later
        · exact .inr (within_collect_self nonneg)
        · exact .inl later
      · exact .inr (within_collect headNonneg within)

end Grouping

end Debt

end Kit
