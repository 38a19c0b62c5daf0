/-
# A chat server and its heartbeats

`main` of `ChatServer` registers the server once, and a thread of it calls `Heartbeat` from then
on.  The thread only looks whether the status of a call is `ok`: an answer with the error
`SERVER_NOT_FOUND` has no effect.  Meanwhile `StatusServer` makes passes of the health check, is
called by others, and may be restarted; a call that fails may have been executed.
-/
import WeChat.Status.Membership

namespace WeChat

namespace StatusServiceImpl

open Transition Relational

/-! ## The two processes -/

/-- What becomes of a remote call. -/
inductive Rpc
  | answered
  | failed (executed : Bool)
deriving DecidableEq

/-- The call is executed. -/
def Rpc.executed : Rpc → Bool
  | answered => true
  | failed executed => executed

/-- What the two processes read in their configurations. -/
structure Setup where
  /-- The sections of the chat servers in the configuration of `StatusServer`. -/
  configured : List (String × String × String)
  serverName : String
  serverHost : String
  serverPort : String

/-- `StatusServer` starts with the server in its registry. -/
def Setup.Configured (cfg : Setup) : Prop := cfg.serverName ∈ cfg.configured.map Prod.fst

instance (cfg : Setup) : Decidable cfg.Configured := List.instDecidableMemOfLawfulBEq _ _

/-- Where `ChatServer` stands: in the call of `RegisterChatServer`, in the sleep or in the call
of the loop of its heartbeats, or at its end. -/
inductive MainPhase
  | registering | sleeping | calling | exited
deriving DecidableEq

/-- `StatusServer` and one `ChatServer`. -/
structure Monitored where
  service : Service
  phase : MainPhase

/-- The server that a call is about. -/
def ServiceEvent.caller : ServiceEvent → Option String
  | .registerChatServer name _ _ => some name
  | .heartbeat name => some name
  | _ => none

inductive MonitorEvent
  | register (call : Rpc)
  /-- The five seconds of the sleep are over. -/
  | wake
  | heartbeat (call : Rpc)
  /-- `heartbeatRunning` is found to be `false` after a sleep. -/
  | stop
  /-- A pass of the health check, or a call of another process. -/
  | service (e : ServiceEvent)
  /-- `StatusServer` is down from one event to the next, and starts again. -/
  | restart

namespace Monitored

/-- Both processes have been started. -/
def init (cfg : Setup) : Monitored := ⟨.init cfg.configured, .registering⟩

/-- One event.  Other chat servers have other names. -/
def step (cfg : Setup) (s : Monitored) : MonitorEvent → Option Monitored
  | .register call =>
    if s.phase = .registering then
      some {
        service := if call.executed then
            s.service.registerChatServer cfg.serverName cfg.serverHost cfg.serverPort
          else s.service
        phase := if call = .answered then .sleeping else .exited }
    else none
  | .wake => if s.phase = .sleeping then some { s with phase := .calling } else none
  | .heartbeat call =>
    if s.phase = .calling then
      some {
        service := if call.executed then s.service.heartbeat cfg.serverName else s.service
        -- the error of the answer is not read, so this is all of the reaction
        phase := .sleeping }
    else none
  | .stop => if s.phase = .sleeping then some { s with phase := .exited } else none
  | .service e =>
    if e.caller = some cfg.serverName then none
    else (s.service.step e).map fun service => { s with service := service }
  | .restart => some { s with service := { Service.init cfg.configured with
      redis := s.service.redis } }

end Monitored

/-! ## The passes since the server was seen -/

/-- `StatusServer` sees the server when it registers it or starts with it, and when it executes
a heartbeat after at most `maxMissedHeartbeats` passes; a later one does not count. -/
def MonitorEvent.count (cfg : Setup) (since : Option ℕ) : MonitorEvent → Option ℕ
  | .register call => if call.executed then some 0 else since
  | .heartbeat call =>
    if call.executed then since.map fun k => if k ≤ maxMissedHeartbeats then 0 else k else since
  | .service .healthCheck => since.map (· + 1)
  | .restart => if cfg.Configured then some 0 else none
  | _ => since

/-- The number of passes since the server was seen; `none` when the running `StatusServer` has
never seen it. -/
def sinceSeen (cfg : Setup) (es : List MonitorEvent) : Option ℕ :=
  es.foldl (MonitorEvent.count cfg) (if cfg.Configured then some 0 else none)

/-- After every heartbeat that is answered the server is in the registry. -/
def AlwaysBack (cfg : Setup) (es : List MonitorEvent) : Prop :=
  ∀ es₁ es₂ s, es = es₁ ++ .heartbeat .answered :: es₂ →
    run (Monitored.step cfg) (.init cfg) (es₁ ++ [.heartbeat .answered]) = some s →
      cfg.serverName ∈ s.service.chatServers.rows.map ChatServer.name

/-- Every heartbeat that is answered comes after at most `maxMissedHeartbeats` passes. -/
def ComesInTime (cfg : Setup) (es : List MonitorEvent) : Prop :=
  ∀ es₁ es₂, es = es₁ ++ .heartbeat .answered :: es₂ →
    ∃ k ≤ maxMissedHeartbeats, sinceSeen cfg es₁ = some k

namespace Monitored

section Seen

variable {cfg : Setup} {s s' : Monitored} {since : Option ℕ} {es : List MonitorEvent}

/-- Every event counts as it says. -/
lemma missed_step {e : MonitorEvent} (h : s.service.Missed cfg.serverName since)
    (he : step cfg s e = some s') : s'.service.Missed cfg.serverName (e.count cfg since) := by
  cases e with
  | register call =>
    simp only [step] at he
    split at he
    · obtain rfl := Option.some.inj he
      by_cases hexecuted : call.executed
      · simp only [MonitorEvent.count, if_pos hexecuted]
        exact .registered
      · simp only [MonitorEvent.count, if_neg hexecuted]
        exact h
    · cases he
  | heartbeat call =>
    simp only [step] at he
    split at he
    · obtain rfl := Option.some.inj he
      by_cases hexecuted : call.executed
      · simp only [MonitorEvent.count, if_pos hexecuted]
        exact h.refreshed
      · simp only [MonitorEvent.count, if_neg hexecuted]
        exact h
    · cases he
  | wake | stop =>
    simp only [step] at he
    split at he
    · obtain rfl := Option.some.inj he
      exact h
    · cases he
  | service e =>
    simp only [step] at he
    split_ifs at he with hcaller
    obtain ⟨service, hservice, rfl⟩ := Option.map_eq_some_iff.1 he
    cases e with
    | registerChatServer name host port =>
      cases hservice
      exact h.registerChatServer fun heq => hcaller (congrArg some heq)
    | heartbeat name =>
      cases hservice
      exact h.heartbeat fun heq => hcaller (congrArg some heq)
    | healthCheck =>
      cases hservice
      exact h.healthCheck
    | getChatServer uid token => exact (h.getChatServer hservice).1
    | rehash order => exact (h.rehash hservice).1
  | restart =>
    obtain rfl := Option.some.inj he
    exact Service.Missed.init cfg.configured

/-- Every run does. -/
lemma missed_run (h : s.service.Missed cfg.serverName since)
    (hrun : run (step cfg) s es = some s') :
    s'.service.Missed cfg.serverName (es.foldl (MonitorEvent.count cfg) since) := by
  induction es generalizing s since with
  | nil => exact Option.some.inj hrun ▸ h
  | cons e es ih =>
    obtain ⟨s₁, he, hrun'⟩ := run_cons_inv hrun
    exact ih (missed_step h he) hrun'

/-- **A server is in the registry exactly while at most `maxMissedHeartbeats` passes have
happened since it was seen.** -/
theorem mem_iff_sinceSeen (hrun : run (step cfg) (init cfg) es = some s) :
    cfg.serverName ∈ s.service.chatServers.rows.map ChatServer.name ↔
      ∃ k ≤ maxMissedHeartbeats, sinceSeen cfg es = some k :=
  (missed_run (Service.Missed.init cfg.configured) hrun).mem_iff

/-! ## After a heartbeat -/

/-- A heartbeat does not bring a server back. -/
lemma mem_heartbeat (service : Service) (name : String) :
    name ∈ (service.heartbeat name).chatServers.rows.map ChatServer.name ↔
      name ∈ service.chatServers.rows.map ChatServer.name := by
  simp only [mem_names_iff, listed_heartbeat, if_true]
  exact ⟨fun ⟨_, _, hlisted⟩ => hlisted, fun hlisted => ⟨0, rfl, hlisted⟩⟩

/-- The heartbeat that was answered last finds the server or does not. -/
lemma mem_answered (hrun : run (step cfg) (init cfg) (es ++ [.heartbeat .answered]) = some s) :
    cfg.serverName ∈ s.service.chatServers.rows.map ChatServer.name ↔
      ∃ k ≤ maxMissedHeartbeats, sinceSeen cfg es = some k := by
  rw [run_append] at hrun
  obtain ⟨s₁, hrun₁, hrun₂⟩ := Option.bind_eq_some_iff.1 hrun
  obtain ⟨s₂, he, hs⟩ := run_cons_inv hrun₂
  obtain rfl := Option.some.inj hs
  simp only [step, Rpc.executed, if_true] at he
  split_ifs at he
  obtain rfl := Option.some.inj he
  exact (mem_heartbeat s₁.service cfg.serverName).trans (mem_iff_sinceSeen hrun₁)

/-! ## A server that is gone -/

/-- The server is registered once. -/
lemma phase_step {e : MonitorEvent} (hphase : s.phase ≠ .registering)
    (he : step cfg s e = some s') : s'.phase ≠ .registering ∧ ∀ call, e ≠ .register call := by
  cases e with
  | register call =>
    rw [step, if_neg hphase] at he
    cases he
  | wake | stop | heartbeat call =>
    simp only [step] at he
    split at he
    · obtain rfl := Option.some.inj he
      exact ⟨by simp, by simp⟩
    · cases he
  | service e =>
    simp only [step] at he
    split_ifs at he
    obtain ⟨service, -, rfl⟩ := Option.map_eq_some_iff.1 he
    exact ⟨hphase, by simp⟩
  | restart =>
    obtain rfl := Option.some.inj he
    exact ⟨hphase, by simp⟩

/-- Nothing that can happen counts for a server that was never seen. -/
lemma count_none_of_run (hphase : s.phase ≠ .registering)
    (hrestart : .restart ∈ es → ¬ cfg.Configured) (hrun : run (step cfg) s es = some s') :
    es.foldl (MonitorEvent.count cfg) none = none := by
  induction es generalizing s with
  | nil => rfl
  | cons e es ih =>
    obtain ⟨s₁, he, hrun'⟩ := run_cons_inv hrun
    obtain ⟨hphase', hregister⟩ := phase_step hphase he
    have hcount : e.count cfg none = none := by
      cases e with
      | register call => exact absurd rfl (hregister call)
      | heartbeat call => exact ite_self _
      | restart => exact if_neg (hrestart List.mem_cons_self)
      | service e => cases e <;> rfl
      | wake => rfl
      | stop => rfl
    rw [List.foldl_cons, hcount]
    exact ih hphase' (fun hmem => hrestart (List.mem_cons_of_mem _ hmem)) hrun'

/-- **No heartbeat brings a server back**: only a `StatusServer` that starts with the server
does. -/
theorem gone_run (hgone : cfg.serverName ∉ s.service.chatServers.rows.map ChatServer.name)
    (hphase : s.phase ≠ .registering) (hrestart : .restart ∈ es → ¬ cfg.Configured)
    (hrun : run (step cfg) s es = some s') :
    cfg.serverName ∉ s'.service.chatServers.rows.map ChatServer.name := by
  have hmissed : s.service.Missed cfg.serverName none := fun k =>
    iff_of_false (fun hk => hgone (mem_names_iff.2 ⟨k, hk⟩)) fun hk => nomatch hk.1
  rw [(missed_run hmissed hrun).mem_iff, count_none_of_run hphase hrestart hrun]
  rintro ⟨k, -, hk⟩
  cases hk

/-! ## Every heartbeat of a run -/

/-- **After every heartbeat that is answered the server is in the registry if and only if every
one of them comes after at most `maxMissedHeartbeats` passes.** -/
theorem alwaysBack_iff (hrun : run (step cfg) (init cfg) es = some s) :
    AlwaysBack cfg es ↔ ComesInTime cfg es := by
  constructor
  · rintro hback es₁ es₂ rfl
    -- the run goes through the state after the heartbeat
    have hsplit : run (step cfg) (init cfg) ((es₁ ++ [.heartbeat .answered]) ++ es₂) = some s := by
      rwa [List.append_assoc]
    rw [run_append] at hsplit
    obtain ⟨s₁, hrun₁, -⟩ := Option.bind_eq_some_iff.1 hsplit
    exact (mem_answered hrun₁).1 (hback es₁ es₂ s₁ rfl hrun₁)
  · intro hintime es₁ es₂ s₁ hes hrun₁
    exact (mem_answered hrun₁).2 (hintime es₁ es₂ hes)

/-- The first of the servers that are shipped. -/
def firstServer : Setup := ⟨shipped, "ChatServer1", "127.0.0.1", "8090"⟩

/-- The server registers, and its heartbeats are lost until six passes have happened. -/
def gap : List MonitorEvent :=
  .register .answered ::
    (List.replicate 6 [.wake, .heartbeat (.failed false), .service .healthCheck]).flatten ++ [.wake]

/-- A heartbeat after one pass. -/
theorem alwaysBack_soon : AlwaysBack firstServer
    [.register .answered, .service .healthCheck, .wake, .heartbeat .answered] := by
  obtain ⟨s, hrun⟩ : ∃ s, run (step firstServer) (init firstServer)
    [.register .answered, .service .healthCheck, .wake, .heartbeat .answered] = some s := ⟨_, rfl⟩
  refine (alwaysBack_iff hrun).2 fun es₁ es₂ hes => ?_
  -- the heartbeat is the fourth event
  obtain rfl : es₁ = [.register .answered, .service .healthCheck, .wake] := by
    obtain _ | ⟨e₁, _ | ⟨e₂, _ | ⟨e₃, _ | ⟨e₄, es⟩⟩⟩⟩ := es₁ <;> simp at hes ⊢
    exact ⟨hes.1.symm, hes.2.1.symm, hes.2.2.1.symm⟩
  exact ⟨1, by decide, by decide⟩

/-- After a gap the next heartbeat is answered, and the server is not in the registry. -/
theorem not_alwaysBack_gap : ¬ AlwaysBack firstServer (gap ++ [.heartbeat .answered]) := by
  intro hback
  obtain ⟨s, hrun⟩ : ∃ s, run (step firstServer) (init firstServer)
    (gap ++ [.heartbeat .answered]) = some s := ⟨_, rfl⟩
  obtain ⟨k, hle, hk⟩ := (mem_answered hrun).1 (hback gap [] s rfl hrun)
  have hsince : sinceSeen firstServer gap = some 6 := by decide
  obtain rfl := Option.some.inj (hsince.symm.trans hk)
  exact absurd hle (by decide)

end Seen

end Monitored

end StatusServiceImpl

end WeChat
