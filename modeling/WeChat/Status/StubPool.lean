/-
# The pools of RPC stubs

`StatusConnectPool` and `RPCStubPool` share their stubs between the threads of a server: a call of
`getChatServer`, of `checkToken` or of `GetVerifyCode` takes a stub with `getStub`, makes its RPC
without the mutex, and gives the stub back with `returnStub`.  The test of `_isStop` in
`RPCStubPool::getStub` that comes before the mutex is repeated under it.
-/
import WeChat.Chat.Authentication
import WeChat.Gate.CodeSent
import WeChat.Lib.CondPool

namespace WeChat

namespace StubPool

open CondPool Transition

/-- A stub, by the round of the loop of the constructor that made it. -/
abbrev Stub := ℕ

/-- A pool with the calls that use it; an RPC comes to a reply, or to a status that is not
`ok`. -/
abbrev Calls (ρ : Type) := CondPool.State Stub (Option ρ)

/-- The pool after its constructor. -/
def Calls.init (ρ : Type) (_poolSize : ℕ) : Calls ρ :=
  CondPool.State.init (List.range _poolSize)

/-- A function that calls an RPC on a stub of a pool. -/
structure Client (ρ : Type) where
  /-- What it returns once the RPC has ended. -/
  finish : Option ρ → ρ
  /-- What it returns without a stub; there is nothing when it dereferences the null pointer. -/
  refused : Option ρ

def StatusGrpcClient.getChatServer : Client GateServer.GetChatServerRsp where
  finish respond := respond.getD ⟨ErrorCodes.rpcFailed.code, "", "", ""⟩
  refused := some ⟨ErrorCodes.rpcFailed.code, "", "", ""⟩

/-- The error of the respond is all that is read of it. -/
def StatusGrpcClient.checkToken : Client ℤ where
  finish := WeChat.StatusGrpcClient.checkToken
  refused := some ErrorCodes.rpcFailed.code

def VerifyGrpcClient.getVerifyCode : Client GetVerifyRsp where
  finish := GateServer.VerifyGrpcClient.getVerifyCode
  refused := none

/-- What a call has returned. -/
def Client.answer {ρ : Type} (client : Client ρ) : Phase Stub (Option ρ) → Option ρ
  | .returned status => some (client.finish status)
  | .refused => client.refused
  | _ => none

/-- The call is one whose RPC came to this in the run. -/
def Came {ρ : Type} (_poolSize : ℕ) (es : List (CondPool.Event (Option ρ))) (i : ℕ)
    (status : Option ρ) : Prop :=
  SomeStep CondPool.step (fun _ e => e = .use i status) (Calls.init ρ _poolSize) es

section Answered

variable {ρ : Type} {_poolSize : ℕ} {es es' : List (CondPool.Event (Option ρ))} {s t : Calls ρ}

lemma range_ne_nil (hsize : 0 < _poolSize) : List.range _poolSize ≠ [] := by
  rw [Ne, List.range_eq_nil]
  omega

/-- A call that has come to its end has the answer to its own RPC, or has found the pool closed. -/
lemma answer_of_over (client : Client ρ)
    (hrun : run CondPool.step (Calls.init ρ _poolSize) es = some t) {i : ℕ}
    {p : Phase Stub (Option ρ)} (hp : t.callers[i]? = some p) (hover : p.Over) :
    (∃ status, Came _poolSize es i status ∧ client.answer p = some (client.finish status)) ∨
      t.stopped = true ∧ client.answer p = client.refused := by
  cases p with
  | returned status =>
    have hcame : t.Came i status := by
      rw [CondPool.State.Came, hp]
      rfl
    exact .inl ⟨status, came_of_run hrun hcame, rfl⟩
  | refused =>
    exact .inr ⟨(CondPool.sound_of_run hrun).refused _ (List.mem_of_getElem? hp) rfl, rfl⟩
  | _ => exact hover.elim

/-- **Every call of an RPC is answered.**  In a pool with a stub, whatever calls have come, in
whatever order they took their steps, whenever their RPCs ended and whoever woke up for no reason:
while the pool is open each stub is in it or with one call, no stub is lost.  The calls that are
there have a bounded number of steps to do, and when there is nothing left to do each of them has
the answer that its own RPC gave, or the pool has been closed. -/
theorem calls_answered (client : Client ρ) (hsize : 0 < _poolSize)
    (hrun : run CondPool.step (Calls.init ρ _poolSize) es = some s) :
    (s.stopped = false → (s.free ++ s.held).Perm (List.range _poolSize)) ∧
      ∀ es' t, (∀ e ∈ es', e.Own) → run CondPool.step s es' = some t → es'.length ≤ s.remaining ∧
        (t.Quiet → ∀ i p, t.callers[i]? = some p →
          (∃ status, Came _poolSize (es ++ es') i status ∧
            client.answer p = some (client.finish status)) ∨
          t.stopped = true ∧ client.answer p = client.refused) := by
  refine ⟨(CondPool.sound_of_run hrun).perm, fun es' t hown hrun' => ?_⟩
  obtain ⟨hlength, hover⟩ := served_of_run (range_ne_nil hsize) hrun hown hrun'
  refine ⟨hlength, fun hquiet i p hp => ?_⟩
  have hwhole : run CondPool.step (Calls.init ρ _poolSize) (es ++ es') = some t :=
    (run_append_of hrun).trans hrun'
  exact answer_of_over client hwhole hp (hover hquiet p (List.mem_of_getElem? hp))

end Answered

/-- Two calls of `checkToken` on one stub: the second one waits until the first gives it back. -/
def waitingCall : List (CondPool.Event (Option ℤ)) :=
  [.start, .start, .enter 0, .enter 1, .use 0 (some 0), .giveBack 0 (some 1)]

/-- The second call goes on, and its RPC fails. -/
def failingCall : List (CondPool.Event (Option ℤ)) :=
  [.enter 1, .use 1 none, .giveBack 1 none]

/-- Both calls have been answered, and have nothing left to do. -/
theorem calls_answered_checkToken :
    ∃ s t, run CondPool.step (Calls.init ℤ 1) waitingCall = some s ∧
      run CondPool.step s failingCall = some t ∧ (s.free ++ s.held).Perm (List.range 1) ∧
      failingCall.length ≤ s.remaining ∧ t.callers.length = 2 ∧
      ∀ i p, t.callers[i]? = some p →
        (∃ status, Came 1 (waitingCall ++ failingCall) i status ∧
          StatusGrpcClient.checkToken.answer p =
            some (StatusGrpcClient.checkToken.finish status)) ∨
        t.stopped = true ∧
          StatusGrpcClient.checkToken.answer p = StatusGrpcClient.checkToken.refused := by
  refine ⟨_, _, rfl, rfl, ?_⟩
  have hrun : run CondPool.step (Calls.init ℤ 1) waitingCall = some _ := rfl
  have h := calls_answered StatusGrpcClient.checkToken one_pos hrun
  have hown : ∀ e ∈ failingCall, e.Own := by
    simp [failingCall, CondPool.Event.Own]
  obtain ⟨hlength, hanswered⟩ := h.2 failingCall _ hown rfl
  refine ⟨h.1 rfl, hlength, rfl, hanswered (quiet_of_over fun p hp => ?_)⟩
  -- each of the two has given its stub back
  have hp' : p ∈ [.returned (some 0), .returned none] := hp
  rcases List.mem_cons.1 hp' with rfl | hp'
  · trivial
  · obtain rfl := List.mem_singleton.1 hp'
    trivial

end StubPool

end WeChat
