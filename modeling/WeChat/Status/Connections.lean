/-
# The counts of connections

`GetChatServer` counts a connection of the server that it chooses under the name of that server.
The chat servers count every login under the name `ChatServer`, and when a failed write closes a
session they send a command that Redis does not know.  So nothing is ever taken off the count of
a server, and it equals the number of users who were sent there and whose connection has not
ended only as long as no such connection ends.
-/
import WeChat.Status.Balancer
import WeChat.Chat.Runs

namespace WeChat

open Wire Transition

/-! ## Connections that have ended -/

/-- A read that completes an accepted login. -/
def RegEvent.isLogin : RegEvent → Bool
  | .read _ _ (some _) => true
  | _ => false

namespace Registry

variable (r : Registry)

/-- A connection that was accepted is read and has not been closed. -/
def Open (c : Conn) : Prop :=
  (r.session c).accepted = true ∧ (r.session c).reading ≠ .stopped ∧
    (r.session c)._isStop = false

/-- The connection was accepted and has ended. -/
def Ended (c : Conn) : Prop := (r.session c).accepted = true ∧ ¬ r.Open c

instance (c : Conn) : Decidable (r.Open c) := inferInstanceAs (Decidable (_ ∧ _ ∧ _))

instance (c : Conn) : Decidable (r.Ended c) := inferInstanceAs (Decidable (_ ∧ ¬ _))

/-- The event ends a connection: a refused length, a failed read or a failed write. -/
def Ends (c : Conn) : RegEvent → Prop
  | .read c' bytes none => c' = c ∧ r.next c' bytes = .stopped
  | .readError c' _ => c' = c
  | .writeError c' => c' = c
  | _ => False

section Ended

variable {r} {r' : Registry} {e : RegEvent} {c : Conn}

lemma ended_congr (h : r'.session c = r.session c) : r'.Ended c ↔ r.Ended c := by
  rw [Ended, Ended, Open, Open, h]

/-- A connection has ended after an event if it had ended before, or if the event ends it. -/
lemma ended_apply_iff (hl : Local r) (hen : r.Enabled e) :
    (r.apply e).Ended c ↔ r.Ended c ∨ r.Ends c e ∧ r.Open c := by
  have hframe : ∀ {r' : Registry}, r'.session c = r.session c → ¬ r.Ends c e →
      (r'.Ended c ↔ r.Ended c ∨ r.Ends c e ∧ r.Open c) := by
    intro r' hses hnot
    rw [ended_congr hses]
    exact (or_iff_left fun h => hnot h.1).symm
  cases e with
  | accept c₀ =>
    by_cases hc : c = c₀
    · subst hc
      have hnew : (r.session c).accepted = false := hen
      simp [Ended, Open, Ends, apply, session_accept, hnew]
    · exact hframe (session_accept.trans (if_neg hc)) id
  | read c₀ bytes login =>
    cases login with
    | none =>
      by_cases hc : c = c₀
      · subst hc
        have hacc := hl.reading_accepted hen.1
        have hread := hen.1
        simp only [Ended, Open, Ends, apply, session_readDone, if_pos, hacc, hread, true_and,
          ne_eq, not_false_eq_true]
        tauto
      · exact hframe ((session_readDone bytes).trans (if_neg hc)) fun h => hc h.1.symm
    | some uid₀ =>
      by_cases hc : c = c₀
      · subst hc
        have hacc := hl.reading_accepted hen.1
        have hhead := hen.2 (by simp)
        have hread := hen.1
        have hses := session_apply_login uid₀ hhead c
        rw [if_pos rfl] at hses
        simp [Ended, Open, Ends, hses, hacc, hread]
      · exact hframe ((session_apply_login _ (hen.2 (by simp)) c).trans (if_neg hc)) id
  | readError c₀ ec =>
    obtain ⟨listed, hses⟩ := session_readError r c₀ c ec
    by_cases hc : c = c₀
    · subst hc
      have hacc := hl.reading_accepted hen
      rw [if_pos rfl] at hses
      simp only [Ended, Open, Ends, apply, hses, hacc, true_and]
      tauto
    · exact hframe (hses.trans (if_neg hc)) fun h => hc h.symm
  | writeError c₀ =>
    by_cases hc : c = c₀
    · subst hc
      simp only [Ended, Open, Ends, apply, session_writeError, if_pos]
      tauto
    · exact hframe (session_writeError.trans (if_neg hc)) fun h => hc h.symm
  | skip => exact hframe rfl id

end Ended

end Registry

/-! ## Users who are sent to a server -/

namespace StatusServiceImpl

/-- `StatusServiceImpl` and the chat servers.  The users who were sent to a server, with the
connection that each will make, are kept for the statements. -/
structure Cluster where
  service : Service
  chat : State
  /-- The name of the server, and the connection. -/
  assigned : List (String × Conn)

/-- What happens. -/
inductive ClusterEvent
  /-- A call of `GetChatServer` for a user who will connect with `c`. -/
  | getChatServer (uid : ℤ) (token : String) (c : Conn)
  | rehash (order : List ChatServer)
  | chat (e : Event)

/-- What the chat servers do to the counts: a login adds one for `ChatServer`, and
`CSession::close` sends `HDECRBY`. -/
def countLogin (r : Registry) (db : Redis.Store) : RegEvent → Redis.Store
  | .read _ _ (some _) => (Redis.hincrby db (connectionsKey "ChatServer") "count" 1).2
  | .writeError c =>
    if (r.session c)._isAuthenticated ∧ 0 < (r.session c)._uid then (Redis.unknown db).2 else db
  | _ => db

namespace Cluster

section Step

variable (cfg : Config) (name : ℕ → String)

/-- No user yet. -/
def init (configured : List (String × String × String)) (db : Database) : Cluster :=
  ⟨.init configured, .init db, []⟩

/-- One event; `name` gives the names of the chat servers.  A user connects to the server that
was chosen. -/
def step (s : Cluster) : ClusterEvent → Option Cluster
  | .getChatServer uid token c =>
    if (s.chat.reg.session c).accepted then none
    else
      match s.service.getChatServer uid token with
      | none => none
      | some (_, service) =>
        -- `freeServer` is the server that was chosen
        if name c.srv = service.freeServer.name then
          some { s with
            service := service
            assigned := s.assigned ++ [(service.freeServer.name, c)] }
        else none
  | .rehash order =>
    (s.service.step (.rehash order)).map fun service => { s with service := service }
  | .chat e =>
    (WeChat.step cfg s.chat e).map fun chat =>
      { s with
        service := { s.service with
          redis := countLogin s.chat.reg s.service.redis (regEvent cfg s.chat e) }
        chat := chat }

end Step

/-- The users who were sent to a server and whose connection has not ended. -/
def active (s : Cluster) (server : String) : ℕ :=
  s.assigned.countP fun a => a.1 = server ∧ ¬ s.chat.reg.Ended a.2

/-- The count of a server is the number of these users. -/
def Balanced (server : String) (s : Cluster) : Prop :=
  s.service.connections server = s.active server

/-- No user who was sent to the server has this connection open. -/
def Idle (s : Cluster) (server : String) (c : Conn) : Prop :=
  (server, c) ∈ s.assigned → ¬ s.chat.reg.Open c

/-- The event ends no connection of a user who was sent to the server; it is no login when the
server has the name `ChatServer`; and a count at the largest integer is not increased. -/
def KeepsBalance (cfg : Config) (server : String) (s : Cluster) : ClusterEvent → Prop
  | .getChatServer _ _ _ =>
    s.service.first.name = server → s.service.connections server < Redis.int64Max
  | .rehash _ => True
  | .chat e =>
    (∀ c, s.chat.reg.Ends c (regEvent cfg s.chat e) → s.Idle server c) ∧
      ((regEvent cfg s.chat e).isLogin = true → server = "ChatServer" →
        ¬ s.service.connections server < Redis.int64Max)

section Balance

variable {cfg : Config} {name : ℕ → String} {s s' : Cluster} {server : String}

/-- What holds in every state: the counters are counters, and the registration is in order. -/
structure Inv (s : Cluster) : Prop where
  counters : s.service.Counters
  registered : s.chat.reg.Local

/-- The counters after an event of the chat servers. -/
lemma countLogin_spec {r : Registry} {db : Redis.Store} {e : RegEvent}
    (h : ∀ name, Redis.IsCounter db (connectionsKey name) "count") :
    (∀ name, Redis.IsCounter (countLogin r db e) (connectionsKey name) "count") ∧
      ∀ server, Redis.counter (countLogin r db e) (connectionsKey server) "count" =
        Redis.counter db (connectionsKey server) "count" +
          if e.isLogin = true ∧ server = "ChatServer" ∧
            Redis.counter db (connectionsKey server) "count" < Redis.int64Max then 1 else 0 := by
  have hsame : countLogin r db e = db → e.isLogin = false →
      (∀ name, Redis.IsCounter (countLogin r db e) (connectionsKey name) "count") ∧
        ∀ server, Redis.counter (countLogin r db e) (connectionsKey server) "count" =
          Redis.counter db (connectionsKey server) "count" +
            if e.isLogin = true ∧ server = "ChatServer" ∧
              Redis.counter db (connectionsKey server) "count" < Redis.int64Max then 1 else 0 := by
    intro heq hlogin
    rw [heq, hlogin]
    exact ⟨h, fun server => by simp⟩
  cases e with
  | read c bytes login =>
    cases login with
    | none => exact hsame rfl rfl
    | some uid =>
      obtain ⟨value, hupdate, hcounter, hcount⟩ := Redis.hincrby_counter (h "ChatServer")
      have hother : ∀ server, server ≠ "ChatServer" →
          (Redis.hincrby db (connectionsKey "ChatServer") "count" 1).2 (connectionsKey server) =
            db (connectionsKey server) := by
        intro server hne
        rw [hupdate, Function.update_of_ne (connectionsKey_injective.ne hne)]
      refine ⟨fun name => ?_, fun server => ?_⟩
      · by_cases hname : name = "ChatServer"
        · rw [hname]
          exact hcounter
        · exact (h name).congr (hother name hname)
      · by_cases hserver : server = "ChatServer"
        · rw [hserver, countLogin, hcount]
          simp [RegEvent.isLogin]
        · rw [countLogin, Redis.counter_congr (hother server hserver)]
          simp [hserver]
  | writeError c =>
    refine hsame ?_ rfl
    rw [countLogin, Redis.unknown, ite_self]
  | accept c => exact hsame rfl rfl
  | readError c ec => exact hsame rfl rfl
  | skip => exact hsame rfl rfl

lemma inv_step {e : ClusterEvent} (h : s.Inv) (he : s.step cfg name e = some s') : s'.Inv := by
  cases e with
  | getChatServer uid token c =>
    obtain ⟨-, service, -, hget, -, hcounters, -⟩ := getChatServer_spec h.counters uid token
    simp only [step, hget] at he
    split_ifs at he
    cases he
    exact ⟨hcounters, h.registered⟩
  | rehash order =>
    obtain ⟨service, hservice, rfl⟩ := Option.map_eq_some_iff.1 he
    exact ⟨counters_step h.counters hservice, h.registered⟩
  | chat e =>
    obtain ⟨chat, hchat, rfl⟩ := Option.map_eq_some_iff.1 he
    exact ⟨(countLogin_spec h.counters).1, local_step s.chat e chat h.registered hchat⟩

/-- Two counts of which one counts more are equal when it counts nothing else. -/
lemma countP_eq_iff {α : Type*} {p q : α → Bool} {l : List α} (h : ∀ a ∈ l, p a → q a) :
    l.countP p = l.countP q ↔ ∀ a ∈ l, q a → p a := by
  induction l with
  | nil => simp
  | cons a l ih =>
    have hle := List.countP_mono_left fun x hx => h x (List.mem_cons_of_mem a hx)
    have ih := ih fun x hx => h x (List.mem_cons_of_mem a hx)
    have ha := h a List.mem_cons_self
    rw [List.forall_mem_cons, ← ih, List.countP_cons, List.countP_cons]
    cases hp : p a with
    | true =>
      rw [if_pos rfl, if_pos (ha hp), Nat.add_right_cancel_iff]
      exact (and_iff_right fun _ => rfl).symm
    | false =>
      cases hq : q a with
      | true =>
        refine iff_of_false (fun heq => ?_) fun hall => absurd (hall.1 rfl) (by simp)
        simp only [Bool.false_eq_true, if_false, if_true] at heq
        omega
      | false => simp

/-- As many users are active after an event of the chat servers as before, unless it ends the
connection of one. -/
lemma active_chat {e : Event} {chat : State} (service : Service) (h : s.Inv)
    (he : WeChat.step cfg s.chat e = some chat) :
    (Cluster.mk service chat s.assigned).active server ≤ s.active server ∧
      ((Cluster.mk service chat s.assigned).active server = s.active server ↔
        ∀ c, s.chat.reg.Ends c (regEvent cfg s.chat e) → s.Idle server c) := by
  obtain ⟨hen, hreg⟩ := reg_step he
  have hended : ∀ c, chat.reg.Ended c ↔
      s.chat.reg.Ended c ∨ s.chat.reg.Ends c (regEvent cfg s.chat e) ∧ s.chat.reg.Open c := by
    intro c
    rw [hreg]
    exact Registry.ended_apply_iff h.registered hen
  have hmono : ∀ a ∈ s.assigned, decide (a.1 = server ∧ ¬ chat.reg.Ended a.2) = true →
      decide (a.1 = server ∧ ¬ s.chat.reg.Ended a.2) = true := by
    intro a _ ha
    rw [decide_eq_true_eq] at ha ⊢
    exact ⟨ha.1, fun hold => ha.2 ((hended _).2 (.inl hold))⟩
  refine ⟨List.countP_mono_left hmono, (countP_eq_iff hmono).trans ?_⟩
  simp only [decide_eq_true_eq]
  constructor
  · intro hkeep c hends hmem hopen
    have hactive : ¬ s.chat.reg.Ended c := fun hold => hold.2 hopen
    exact (hkeep (server, c) hmem ⟨rfl, hactive⟩).2 ((hended c).2 (.inr ⟨hends, hopen⟩))
  · rintro hidle ⟨_, c⟩ hmem ⟨rfl, hactive⟩
    refine ⟨rfl, fun hnew => ?_⟩
    rcases (hended c).1 hnew with hold | ⟨hends, hopen⟩
    · exact hactive hold
    · exact hidle c hends hmem hopen

/-- After an event that meets its condition, and after no other, the count is right. -/
lemma balanced_step_iff {e : ClusterEvent} (h : s.Inv) (hbal : s.Balanced server)
    (he : s.step cfg name e = some s') :
    s'.Balanced server ↔ s.KeepsBalance cfg server e := by
  rw [Balanced] at hbal ⊢
  cases e with
  | getChatServer uid token c =>
    obtain ⟨s₁, service, hchose, hget, ⟨-, hfree⟩, -, hredis⟩ :=
      getChatServer_spec h.counters uid token
    obtain ⟨s₁', hchose', -, -, hother, hcount⟩ := choseChatServer_spec h.counters
    obtain rfl : s₁ = s₁' := (Prod.mk.inj (Option.some.inj (hchose.symm.trans hchose'))).2
    simp only [step, hget] at he
    split_ifs at he with hacc hname
    cases he
    have hactive : ¬ s.chat.reg.Ended c := fun hended => hacc hended.1
    show service.connections server = _ ↔ (_ → _)
    rw [active, List.countP_append, List.countP_singleton, hfree, connections_congr (hredis server)]
    rw [active] at hbal
    by_cases hserver : s.service.first.name = server
    · subst hserver
      rw [hcount, hbal]
      simp only [hactive, true_and, not_false_eq_true, decide_true, if_true, forall_const]
      split_ifs with hlt
      · exact iff_of_true rfl hlt
      · refine iff_of_false (fun heq => ?_) hlt
        push_cast at heq
        omega
    · rw [connections_congr (hother server (Ne.symm hserver)), hbal]
      simp [hserver]
  | rehash order =>
    obtain ⟨service, hservice, rfl⟩ := Option.map_eq_some_iff.1 he
    simp only [Service.step] at hservice
    split_ifs at hservice
    cases hservice
    exact iff_of_true hbal trivial
  | chat e =>
    obtain ⟨chat, hchat, rfl⟩ := Option.map_eq_some_iff.1 he
    obtain ⟨hle, heq⟩ : _ ≤ s.active server ∧ _ := active_chat { s.service with
      redis := countLogin s.chat.reg s.service.redis (regEvent cfg s.chat e) } h hchat
    rw [KeepsBalance, ← heq, Service.connections, (countLogin_spec h.counters).2]
    rw [Service.connections] at hbal
    rw [Service.connections, hbal]
    by_cases hcount : (regEvent cfg s.chat e).isLogin = true ∧ server = "ChatServer" ∧
        (s.active server : ℤ) < Redis.int64Max
    · rw [if_pos hcount]
      refine iff_of_false (fun h => ?_) fun h => h.2 hcount.1 hcount.2.1 hcount.2.2
      omega
    · rw [if_neg hcount, add_zero, Nat.cast_inj, eq_comm]
      exact (and_iff_left fun hlogin hserver hlt => hcount ⟨hlogin, hserver, hlt⟩).symm

/-- **In every state of a run the count of a server is the number of users who were sent there
and whose connection has not ended, if and only if no step of the run ends such a connection,
none is a login when the server is called `ChatServer`, and none meets the largest integer.** -/
theorem balanced_iff {configured : List (String × String × String)} {db : Database}
    {es : List ClusterEvent}
    (hrun : run (step cfg name) (.init configured db) es = some s) (server : String) :
    AllStates (step cfg name) (Balanced server) (.init configured db) es ↔
      AllSteps (step cfg name) (KeepsBalance cfg server) (.init configured db) es := by
  have hinit : (init configured db).Inv := ⟨counters_init configured, Registry.local_init⟩
  have hbal : (init configured db).Balanced server := Redis.counter_of_none rfl
  exact allStates_iff_allSteps (fun _ _ _ => inv_step)
    (fun _ _ _ h hbal he => balanced_step_iff h hbal he) hrun hinit hbal

/-- The names of the servers in the configuration. -/
def shippedName (S : ℕ) : String := if S = 0 then "ChatServer1" else "ChatServer2"

/-- A user is sent to the first server and connects. -/
def arrival : List ClusterEvent := [.getChatServer 1 "t" client₁, .chat (.accept client₁)]

lemma keepsBalance_accept {c : Conn} (s : Cluster) :
    s.KeepsBalance cfg server (.chat (.accept c)) :=
  ⟨fun _ hends => hends.elim, fun hlogin => nomatch hlogin⟩

/-- The user is counted. -/
theorem balanced_arrival :
    AllStates (step compactConfig shippedName) (Balanced "ChatServer1")
      (init shipped MySQLMgr.twoUsers) arrival := by
  obtain ⟨s, hrun⟩ : ∃ s, run (step compactConfig shippedName) (init shipped MySQLMgr.twoUsers)
      arrival = some s := ⟨_, rfl⟩
  refine (balanced_iff hrun "ChatServer1").2 ⟨fun _ => ?_, fun s _ => ⟨keepsBalance_accept s, ?_⟩⟩
  · rw [Service.connections, Redis.counter_of_none rfl]
    decide
  · exact fun _ _ => trivial

/-- When the user disconnects, the count stays. -/
theorem not_balanced_departure :
    ∃ s, run (step compactConfig shippedName) (init shipped MySQLMgr.twoUsers)
        (arrival ++ [.chat (.readError client₁ .eof)]) = some s ∧ ¬ s.Balanced "ChatServer1" := by
  have hinv : (init shipped MySQLMgr.twoUsers).Inv := ⟨counters_init shipped, Registry.local_init⟩
  have hbal : (init shipped MySQLMgr.twoUsers).Balanced "ChatServer1" := Redis.counter_of_none rfl
  obtain ⟨s₁, h₁⟩ : ∃ s₁, step compactConfig shippedName (init shipped MySQLMgr.twoUsers)
      (.getChatServer 1 "t" client₁) = some s₁ := ⟨_, rfl⟩
  have hbal₁ := (balanced_step_iff hinv hbal h₁).2 fun _ => by
    rw [Service.connections, Redis.counter_of_none rfl]
    decide
  obtain ⟨s₂, h₂⟩ :
      ∃ s₂, step compactConfig shippedName s₁ (.chat (.accept client₁)) = some s₂ := by
    cases h₁
    exact ⟨_, rfl⟩
  have hbal₂ := (balanced_step_iff (inv_step hinv h₁) hbal₁ h₂).2 (keepsBalance_accept s₁)
  obtain ⟨s₃, h₃⟩ : ∃ s₃, step compactConfig shippedName s₂ (.chat (.readError client₁ .eof)) =
      some s₃ := by
    cases h₁
    cases h₂
    exact ⟨_, rfl⟩
  refine ⟨s₃, ?_, fun hbal₃ => ?_⟩
  · rw [arrival, List.cons_append, List.cons_append, List.nil_append, run_cons h₁, run_cons h₂,
      run_cons h₃, run_nil]
  · have hkeeps := (balanced_step_iff (inv_step (inv_step hinv h₁) h₂) hbal₂ h₃).1 hbal₃
    have hopen : ("ChatServer1", client₁) ∈ s₂.assigned ∧ s₂.chat.reg.Open client₁ := by
      cases h₁
      cases h₂
      decide
    exact hkeeps.1 client₁ rfl hopen.1 hopen.2

end Balance

end Cluster

end StatusServiceImpl

end WeChat
