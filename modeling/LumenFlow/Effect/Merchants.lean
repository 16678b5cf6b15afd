import LumenFlow.Effect.Admin

/-!
# Effects of the merchant calls

A profile is created only by its owner; every other write goes over a profile
that exists.
-/

namespace LumenFlow

open Kit Contract

variable {env : Env} {world next : World}

theorem revealMerchantRegistration_effect {merchantAddress : Address}
    {name description contactInfo : Text} {category : MerchantCategory} {nonce : Bytes}
    (committed : (revealMerchantRegistration merchantAddress name description contactInfo category
      nonce).Commits env world () next) :
    Effect env world.books (.merchant (.revealMerchantRegistration merchantAddress
      name description contactInfo category nonce)) next.books := by
  simp [revealMerchantRegistration, addActiveMerchant] at committed
  obtain ⟨_, authorised, _, _, _, _, _, _, _, _, rfl⟩ := committed
  exact .profiles _ [newMerchant merchantAddress name description contactInfo category
    world.timestamp] (by simpa using .inl authorised)

theorem registerMerchant_effect {merchantAddress : Address}
    {name description contactInfo : Text} {category : MerchantCategory}
    {referralId : Option Address}
    (committed : (registerMerchant merchantAddress name description contactInfo category
      referralId).Commits env world () next) :
    Effect env world.books (.merchant (.registerMerchant merchantAddress
      name description contactInfo category referralId)) next.books := by
  let opened := newMerchant merchantAddress name description contactInfo category world.timestamp
  cases referralId with
  | none =>
      simp [registerMerchant, addActiveMerchant] at committed
      obtain ⟨_, authorised, _, _, _, _, rfl⟩ := committed
      exact .profiles _ [opened] (by simpa [opened, newMerchant] using .inl authorised)
  | some referral =>
      simp [registerMerchant, addActiveMerchant] at committed
      obtain ⟨_, authorised, _, _, _, ⟨other, _⟩, _, referrer, found, _, rfl⟩ := committed
      have named : referrer.address = referral := Table.key_of_get found
      have stored : world.merchants.records.get referral = some referrer := by
        rwa [Table.get_put_of_ne (show referral ≠ opened.address from other)] at found
      refine .profiles _ [opened, { referrer with referralCount := referrer.referralCount + 1 }] ?_
      simp only [List.forall_mem_cons, opened, newMerchant]
      exact ⟨.inl authorised, .inr ⟨referrer, named ▸ stored⟩, by simp⟩

theorem profile_effect {call : MerchantCall} {merchant changed : Merchant} {address : Address}
    (found : world.merchants.records.get address = some merchant)
    (books : next.books =
      { world.books with merchants := world.books.merchants.put changed })
    (same : changed.address = merchant.address) :
    Effect env world.books (.merchant call) next.books := by
  have known : world.books.Registered changed.address :=
    ⟨merchant, by rw [same, Table.key_of_get found]; exact found⟩
  rw [books]
  exact .profiles call [changed] (by simpa using .inr known)

theorem MerchantCall.effect {call : MerchantCall}
    (committed : call.exec.Commits env world () next) :
    Effect env world.books (.merchant call) next.books := by
  cases call with
  | commitMerchantRegistration =>
      simp [MerchantCall.exec, Contract.commitMerchantRegistration] at committed
      obtain ⟨_, _, _, _, rfl⟩ := committed
      exact .quiet _ rfl
  | revealMerchantRegistration => exact revealMerchantRegistration_effect committed
  | registerMerchant => exact registerMerchant_effect committed
  | updateMerchant =>
      simp [MerchantCall.exec, Contract.updateMerchant] at committed
      obtain ⟨_, _, _, merchant, found, _, rfl⟩ := committed
      exact profile_effect found rfl rfl
  | deactivateMerchant =>
      simp [MerchantCall.exec, Contract.deactivateMerchant] at committed
      obtain ⟨_, _, merchant, found, rfl⟩ := committed
      exact profile_effect found rfl rfl
  | reactivateMerchant =>
      simp [MerchantCall.exec, Contract.reactivateMerchant, addActiveMerchant] at committed
      obtain ⟨_, _, merchant, found, _, _, rfl⟩ := committed
      exact profile_effect found rfl rfl
  | verifyMerchant =>
      simp [MerchantCall.exec, Contract.verifyMerchant] at committed
      obtain ⟨_, merchant, found, rfl⟩ := committed
      exact profile_effect found rfl rfl
  | unverifyMerchant =>
      simp [MerchantCall.exec, Contract.unverifyMerchant] at committed
      obtain ⟨_, _, merchant, found, rfl⟩ := committed
      exact profile_effect found rfl rfl
  | getMerchant =>
      simp [MerchantCall.exec, Contract.getMerchant] at committed
      obtain ⟨_, _, rfl⟩ := committed
      exact .quiet _ rfl
  | isRegistered =>
      simp [MerchantCall.exec, Contract.isRegistered] at committed
      obtain rfl := committed
      exact .quiet _ rfl
  | getMerchantStats =>
      simp [MerchantCall.exec, Contract.getMerchantStats] at committed
      obtain ⟨_, rfl⟩ := committed
      exact .quiet _ rfl
  | getMerchants =>
      simp [MerchantCall.exec, Contract.getMerchants] at committed
      obtain ⟨_, _, rfl⟩ := committed
      exact .quiet _ rfl

end LumenFlow
