import LumenFlow.Webhook.Server
import Mathlib.Data.List.Count

/-!
# Deliveries of an event

An invocation checks the store at one `await` and records its token at the next.  An event is
delivered once as long as no message of the same token arrives between the two.
-/

namespace LumenFlow

open Kit

namespace Webhook

/-- The invocations for a token that have called `deliverWithRetry`. -/
def Server.deliveries (server : Server) (token : Text) : Nat :=
  server.handlers.countP fun handler => handler.token = token ∧ handler.phase.reached = true

/-- The invocations for a token that have not seen it in the store. -/
def Server.claims (server : Server) (token : Text) : Nat :=
  server.handlers.countP fun handler => handler.token = token ∧ handler.phase.claims = true

/-- At most one invocation for each token reaches `deliverWithRetry`. -/
def Server.DeliversOnce (server : Server) : Prop :=
  ∀ token, server.deliveries token ≤ 1

/-- The message does not arrive while another invocation for its token has checked the store but
has not recorded the token. -/
def Undisturbed (server : Server) : Turn → Prop
  | .message message => ∀ token ∈ message.token, ∀ handler ∈ server.handlers,
      handler.token = token → handler.phase ≠ .checking false
  | .resume .. => True

instance (server : Server) (turn : Turn) : Decidable (Undisturbed server turn) :=
  match turn with
  | .message _ => inferInstanceAs (Decidable (∀ token ∈ _, _))
  | .resume .. => .isTrue trivial

/-- At most one invocation claims a token, and the token is recorded once it has done so. -/
structure Server.Exclusive (server : Server) : Prop where
  once : ∀ token, server.claims token ≤ 1
  recorded : ∀ handler ∈ server.handlers, handler.phase.claims = true →
    handler.phase ≠ .checking false → handler.token ∈ server.records

section Steps

variable {config : Config} {server : Server} {token : Text}

theorem Server.deliveries_le_claims (server : Server) (token : Text) :
    server.deliveries token ≤ server.claims token := by
  apply List.countP_mono_left
  intro handler _ counted
  simp only [decide_eq_true_eq] at counted ⊢
  exact ⟨counted.1, Phase.claims_of_reached counted.2⟩

theorem Server.Exclusive.handleMessage (exclusive : server.Exclusive) {message : Message}
    (undisturbed : Undisturbed server (.message message)) :
    (server.handleMessage message).Exclusive := by
  unfold Server.handleMessage
  cases arrived : message.token with
  | none => exact exclusive
  | some token =>
      constructor
      · intro other
        have before := exclusive.once other
        simp only [Server.claims, List.countP_append, List.countP_singleton] at before ⊢
        by_cases unseen : token = other ∧ token ∉ server.records
        · obtain ⟨rfl, fresh⟩ := unseen
          -- Whoever claims the token has recorded it, or is still between check and record.
          have unclaimed : server.handlers.countP (fun handler =>
              decide (handler.token = token ∧ handler.phase.claims = true)) = 0 := by
            apply List.countP_eq_zero.mpr
            intro handler member counted
            obtain ⟨rfl, claims⟩ := of_decide_eq_true counted
            refine fresh (exclusive.recorded handler member claims ?_)
            exact undisturbed handler.token arrived handler member rfl
          rw [unclaimed]
          split <;> omega
        · have silent : ¬ (token = other ∧
              (Phase.checking (server.records.contains token)).claims = true) := by
            rintro ⟨rfl, claims⟩
            exact unseen ⟨rfl, by simpa [Phase.claims] using claims⟩
          rw [if_neg (by simpa using silent)]
          exact before
      · intro handler member claims past
        rcases List.mem_append.mp member with earlier | new
        · exact exclusive.recorded handler earlier claims past
        · obtain rfl := List.mem_singleton.mp new
          cases seen : server.records.contains token with
          | true => exact List.contains_iff_mem.mp seen
          | false => exact absurd (by rw [seen]) past

/-- Going on changes no claim, and records the token of the invocation that leaves its check. -/
theorem Server.Exclusive.resume (exclusive : server.Exclusive) (index : Nat)
    (response : Response) (write : Write) :
    (server.resume config index response write).Exclusive := by
  unfold Server.resume
  cases found : server.handlers[index]? with
  | none => exact exclusive
  | some handler =>
      obtain ⟨inside, same⟩ := List.getElem?_eq_some_iff.mp found
      have kept : ∀ {token}, token ∈ server.records → token ∈ (if handler.phase = .checking false
          then handler.token :: server.records else server.records) := by
        intro token before
        split
        · exact List.mem_cons_of_mem _ before
        · exact before
      constructor
      · intro token
        have before := exclusive.once token
        simp only [Server.claims] at before ⊢
        rw [List.countP_set inside, same]
        simp only [Phase.claims_next]
        split
        · next counts =>
            have positive : 0 < server.handlers.countP (fun handler =>
                decide (handler.token = token ∧ handler.phase.claims = true)) :=
              List.countP_pos_iff.mpr ⟨handler, List.mem_of_getElem? found, counts⟩
            omega
        · exact before
      · intro other member claims past
        rcases List.mem_or_eq_of_mem_set member with before | rfl
        · exact kept (exclusive.recorded other before claims past)
        · rw [Phase.claims_next] at claims
          by_cases checking : handler.phase = .checking false
          · simp [checking]
          · exact kept (exclusive.recorded handler (List.mem_of_getElem? found) claims checking)

theorem Server.Exclusive.take (exclusive : server.Exclusive) (turn : Turn)
    (undisturbed : Undisturbed server turn) : (turn.take config server).Exclusive := by
  cases turn with
  | message message => exact exclusive.handleMessage undisturbed
  | resume index response write => exact exclusive.resume index response write

end Steps

/-- In one run of the process in which no message arrives between the check and the record of
another one with its token, each event is delivered at most once. -/
theorem delivered_once (config : Config) (cursor : Option Text) (turns : List Turn)
    (undisturbed : Along (Turn.take config) Undisturbed (.started cursor) turns) :
    Throughout (Turn.take config) Server.DeliversOnce (.started cursor) turns := by
  have kept : ∀ server turn, Server.Exclusive server → Undisturbed server turn →
      (Turn.take config server turn).Exclusive := fun _ turn before => before.take turn
  have initial : (Server.started cursor).Exclusive :=
    ⟨fun _ => Nat.zero_le _, fun handler member => by cases member⟩
  have exclusive := throughout_of_along kept initial undisturbed
  intro before after split token
  exact (Server.deliveries_le_claims _ token).trans ((exclusive before after split).once token)

namespace Sample

def config : Config := ⟨5, none⟩

def message : Turn := .message (.event (some [49]))

def goOn (index : Nat) : Turn := .resume index .ok .whole

end Sample

/-- The second message arrives when the first has been delivered, and the third in between. -/
theorem delivered_once_sample :
    Throughout (Turn.take Sample.config) Server.DeliversOnce (.started none)
      [Sample.message, Sample.goOn 0, Sample.message, Sample.goOn 0, Sample.goOn 0, Sample.message,
        Sample.goOn 1, Sample.goOn 2] :=
  delivered_once Sample.config none _ (by decide)

/-- Two messages of one event that arrive together are both delivered. -/
theorem delivered_twice :
    ¬ ∀ config cursor turns,
      Throughout (Turn.take config) Server.DeliversOnce (.started cursor) turns := by
  intro once
  have here := once Sample.config none [Sample.message, Sample.message, Sample.goOn 0,
    Sample.goOn 1, Sample.goOn 0, Sample.goOn 1] _ [] (List.append_nil _).symm [49]
  revert here
  decide

end Webhook

end LumenFlow
