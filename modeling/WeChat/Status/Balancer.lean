/-
# The server that a user is sent to

`choseChatServer` compares the numbers of connections that it reads with `GET`, but the numbers
are kept in hashes, where `GET` fails and every number counts as 0.  So the first server in the
order of the map is chosen, whatever its number of connections, and the server of the last call
when the map is empty.
-/
import WeChat.Status.Membership

namespace WeChat

namespace StatusServiceImpl

open Transition Relational

/-! ## The keys -/

lemma connectionsKey_injective : Function.Injective connectionsKey := by
  intro a b h
  rw [connectionsKey, connectionsKey] at h
  exact (String.append_right_inj _).1 ((String.append_left_inj _).1 h)

/-- A token is stored under another key than every counter. -/
lemma connectionsKey_ne_tokenKey (name : String) (uid : ℤ) :
    connectionsKey name ≠ tokenKey uid := by
  intro h
  have hlist := congrArg String.toList h
  rw [connectionsKey, tokenKey, String.toList_append, String.toList_append,
    String.toList_append] at hlist
  have hhead := congrArg List.head? hlist
  simp at hhead

/-! ## The counters -/

section Counters

variable {s s' : Service} {name : String}

/-- The number of connections of a server. -/
def Service.connections (s : Service) (name : String) : ℤ :=
  Redis.counter s.redis (connectionsKey name) "count"

/-- The keys of the counters hold hashes with integers, or nothing. -/
def Service.Counters (s : Service) : Prop :=
  ∀ name, Redis.IsCounter s.redis (connectionsKey name) "count"

lemma Service.Counters.redisGet (h : s.Counters) (name : String) :
    redisGet s.redis (connectionsKey name) = none := by
  rw [StatusServiceImpl.redisGet]
  have hstring := Redis.get_ne_string (h name)
  split
  · next value hget => exact absurd hget (hstring value)
  · rfl

/-- The server that the loop ends with when it reads no number: the first one, if there is
one. -/
def Service.first (s : Service) : ChatServer :=
  match s.chatServers.rows with
  | [] => s.freeServer
  | entry :: _ => { s.freeServer with host := entry.host, port := entry.port, name := entry.name }

/-- Once a server has been chosen with the number 0, no other is better. -/
lemma choseLoop_zero (h : s.Counters) (rows : List ChatServer) (selectedServer : ChatServer) :
    choseLoop s.redis rows selectedServer 0 = some selectedServer := by
  induction rows with
  | nil => rfl
  | cons entry rows ih =>
    rw [choseLoop, h.redisGet]
    exact ih

lemma choseLoop_eq (h : s.Counters) :
    choseLoop s.redis s.chatServers.rows s.freeServer maxInt = some s.first := by
  rw [Service.first]
  cases s.chatServers.rows with
  | nil => rfl
  | cons entry rows =>
    rw [choseLoop, h.redisGet]
    exact choseLoop_zero h rows _

/-- **What a call of `choseChatServer` does.**  The first server of the map is chosen, or the
one of the last call, and its number of connections grows by one. -/
theorem choseChatServer_spec (h : s.Counters) :
    ∃ s', s.choseChatServer = some (s.first, s') ∧
      (s'.chatServers = s.chatServers ∧ s'.freeServer = s.first) ∧ s'.Counters ∧
      (∀ name, name ≠ s.first.name →
        s'.redis (connectionsKey name) = s.redis (connectionsKey name)) ∧
      s'.connections s.first.name = s.connections s.first.name +
        if s.connections s.first.name < Redis.int64Max then 1 else 0 := by
  rw [Service.choseChatServer, choseLoop_eq h, Option.map_some]
  obtain ⟨value, hupdate, hcounter, hcount⟩ :=
    Redis.hincrby_counter (h s.first.name)
  have hother : ∀ name, name ≠ s.first.name →
      (Redis.hincrby s.redis (connectionsKey s.first.name) "count" 1).2 (connectionsKey name) =
        s.redis (connectionsKey name) := by
    intro name hne
    rw [hupdate, Function.update_of_ne (connectionsKey_injective.ne hne)]
  refine ⟨_, rfl, ⟨rfl, rfl⟩, fun name => ?_, hother, hcount⟩
  by_cases hname : name = s.first.name
  · rw [hname]
    exact hcounter
  · exact (h name).congr (hother name hname)

lemma connections_congr (h : s'.redis (connectionsKey name) = s.redis (connectionsKey name)) :
    s'.connections name = s.connections name :=
  Redis.counter_congr h

/-- `GetChatServer` is `choseChatServer` for the counters. -/
lemma getChatServer_spec (h : s.Counters) (uid : ℤ) (token : String) :
    ∃ s₁ s', s.choseChatServer = some (s.first, s₁) ∧
      s.getChatServer uid token = some
        (⟨s.first.host, s.first.port, .success, token⟩, s') ∧
      (s'.chatServers = s.chatServers ∧ s'.freeServer = s.first) ∧ s'.Counters ∧
      ∀ name, s'.redis (connectionsKey name) = s₁.redis (connectionsKey name) := by
  obtain ⟨s₁, hchose, hservers, hcounters, -, -⟩ := choseChatServer_spec h
  have hkey : ∀ name, Redis.set s₁.redis (tokenKey uid) token (connectionsKey name) =
      s₁.redis (connectionsKey name) := fun name =>
    Redis.set_of_ne (connectionsKey_ne_tokenKey name uid) token
  refine ⟨s₁, { s₁ with redis := Redis.set s₁.redis (tokenKey uid) token }, hchose, ?_, hservers,
    fun name => (hcounters name).congr (hkey name), hkey⟩
  rw [Service.getChatServer, hchose]
  rfl

lemma counters_init (configured : List (String × String × String)) :
    (Service.init configured).Counters :=
  fun _ => Redis.isCounter_of_none rfl

/-- The health check removes keys. -/
lemma foldl_del (rows : List ChatServer) (db : Redis.Store) (key : String) :
    rows.foldl (fun db c => Redis.del db (connectionsKey c.name)) db key = db key ∨
      rows.foldl (fun db c => Redis.del db (connectionsKey c.name)) db key = none := by
  induction rows generalizing db with
  | nil => exact .inl rfl
  | cons c rows ih =>
    rw [List.foldl_cons]
    by_cases hkey : key = connectionsKey c.name
    · have hnone : Redis.del db (connectionsKey c.name) key = none := by
        rw [hkey, Redis.del, Function.update_self]
      exact .inr ((ih _).elim (fun h => h.trans hnone) id)
    · have hkept : Redis.del db (connectionsKey c.name) key = db key := Redis.del_of_ne hkey
      rw [← hkept]
      exact ih _

lemma counters_step {e : ServiceEvent} (h : s.Counters) (he : s.step e = some s') :
    s'.Counters := by
  cases e with
  | registerChatServer name host port =>
    cases he
    exact h
  | heartbeat name =>
    cases he
    rw [Service.heartbeat]
    split_ifs
    · exact h
    · exact h
  | healthCheck =>
    cases he
    intro name
    rcases foldl_del _ s.redis (connectionsKey name) with heq | hnone
    · exact (h name).congr heq
    · exact Redis.isCounter_of_none hnone
  | getChatServer uid token =>
    obtain ⟨-, s₁, -, hget, -, hcounters, -⟩ := getChatServer_spec h uid token
    rw [Service.step, hget] at he
    cases he
    exact hcounters
  | rehash order =>
    simp only [Service.step] at he
    split_ifs at he
    cases he
    exact h

end Counters

/-! ## The least loaded server -/

section LeastLoaded

variable {s s' : Service} {selected : ChatServer}

/-- A call that chose a registered server with the fewest connections and counted one more for
it alone. -/
structure LeastLoaded (s s' : Service) (selected : ChatServer) : Prop where
  registered : ∃ c ∈ s.chatServers.rows,
    c.name = selected.name ∧ c.host = selected.host ∧ c.port = selected.port
  minimal : ∀ c ∈ s.chatServers.rows, s.connections selected.name ≤ s.connections c.name
  counted : s'.connections selected.name = s.connections selected.name + 1
  others : ∀ name, name ≠ selected.name → s'.connections name = s.connections name

/-- The first server of the map has the fewest connections, and not the largest number. -/
def Service.FirstLeast (s : Service) : Prop :=
  (∀ c ∈ s.chatServers.rows, s.connections s.first.name ≤ s.connections c.name) ∧
    s.connections s.first.name < Redis.int64Max

lemma first_mem (hne : s.chatServers.rows ≠ []) : ∃ c ∈ s.chatServers.rows,
    c.name = s.first.name ∧ c.host = s.first.host ∧ c.port = s.first.port := by
  rw [Service.first]
  cases hrows : s.chatServers.rows with
  | nil => exact absurd hrows hne
  | cons entry rows => exact ⟨entry, List.mem_cons_self, rfl, rfl, rfl⟩

lemma leastLoaded_of_counters (h : s.Counters) (hne : s.chatServers.rows ≠ []) :
    ∃ s', s.choseChatServer = some (s.first, s') ∧ (LeastLoaded s s' s.first ↔ s.FirstLeast) := by
  obtain ⟨s', hchose, -, -, hother, hcount⟩ := choseChatServer_spec h
  refine ⟨s', hchose, fun hleast => ⟨hleast.minimal, ?_⟩, fun hfirst => ?_⟩
  · by_contra hmax
    have hcounted := hleast.counted
    rw [hcount, if_neg hmax] at hcounted
    omega
  · refine ⟨first_mem hne, hfirst.1, ?_, fun name hname => connections_congr (hother name hname)⟩
    rw [hcount, if_pos hfirst.2]

/-- The numbers of connections of the registered servers are close together. -/
def Service.Even (s : Service) : Prop :=
  ∃ m, ∀ c ∈ s.chatServers.rows, m ≤ s.connections c.name ∧ s.connections c.name ≤ m + 1

/-- A call that chooses a least loaded server keeps them close together. -/
lemma LeastLoaded.even (h : LeastLoaded s s' selected) (hrows : s'.chatServers = s.chatServers)
    (heven : s.Even) : s'.Even := by
  obtain ⟨m, hm⟩ := heven
  obtain ⟨c₀, hc₀, hname₀, -⟩ := h.registered
  have hbound₀ := hm c₀ hc₀
  rw [hname₀] at hbound₀
  have hcases : ∀ c ∈ s.chatServers.rows, s'.connections c.name = s.connections c.name ∨
      s'.connections c.name = s.connections selected.name + 1 := by
    intro c _
    by_cases hname : c.name = selected.name
    · exact .inr (hname ▸ h.counted)
    · exact .inl (h.others c.name hname)
  by_cases hlow : s.connections selected.name = m
  · refine ⟨m, fun c hc => ?_⟩
    rw [hrows] at hc
    have hbound := hm c hc
    rcases hcases c hc with heq | heq <;> omega
  · -- all numbers are `m + 1`
    refine ⟨m + 1, fun c hc => ?_⟩
    rw [hrows] at hc
    have hbound := hm c hc
    have hmin := h.minimal c hc
    rcases hcases c hc with heq | heq <;> omega

lemma counters_run {configured : List (String × String × String)} {es : List ServiceEvent}
    (hrun : run Service.step (.init configured) es = some s) : s.Counters :=
  run_invariant (fun _ _ _ h he => counters_step h he) hrun (counters_init configured)

/-- **A least loaded server is chosen exactly when the first server of the map is one.**  When
this is so for each of a number of calls that start with all numbers 0, then the numbers of any
two servers differ by at most one after them. -/
theorem leastLoaded_iff {configured : List (String × String × String)} {es : List ServiceEvent}
    (hrun : run Service.step (.init configured) es = some s) (hne : s.chatServers.rows ≠ []) :
    (∃ selected s', s.choseChatServer = some (selected, s') ∧
      (LeastLoaded s s' selected ↔ s.FirstLeast)) ∧
    ∀ calls t, (∀ c ∈ s.chatServers.rows, s.connections c.name = 0) →
      (∀ e ∈ calls, ∃ uid token, e = .getChatServer uid token) →
      run Service.step s calls = some t →
      AllSteps Service.step (fun s _ => s.FirstLeast) s calls →
      ∀ c ∈ t.chatServers.rows, ∀ c' ∈ t.chatServers.rows,
        t.connections c.name ≤ t.connections c'.name + 1 := by
  have hcounters := counters_run hrun
  refine ⟨?_, fun calls t hzero hcalls hrun' hok => ?_⟩
  · obtain ⟨s', hchose, hiff⟩ := leastLoaded_of_counters hcounters hne
    exact ⟨_, s', hchose, hiff⟩
  · have heven : s.Even := ⟨0, fun c hc => by rw [hzero c hc]; decide⟩
    clear hzero hrun
    induction calls generalizing s with
    | nil =>
      obtain rfl := Option.some.inj hrun'
      obtain ⟨m, hm⟩ := heven
      intro c hc c' hc'
      have := hm c hc
      have := hm c' hc'
      omega
    | cons e calls ih =>
      obtain ⟨s', he, hrun'⟩ := run_cons_inv hrun'
      obtain ⟨uid, token, rfl⟩ := hcalls e List.mem_cons_self
      obtain ⟨s₁, s₂, hchose, hget, ⟨hservers, -⟩, hcounters', hredis⟩ :=
        getChatServer_spec hcounters uid token
      obtain rfl : s₂ = s' := by
        rw [Service.step, hget] at he
        exact Option.some.inj he
      obtain ⟨s₁', hchose', hiff⟩ := leastLoaded_of_counters hcounters hne
      obtain rfl : s₁ = s₁' := (Prod.mk.inj (Option.some.inj (hchose.symm.trans hchose'))).2
      have hleast := hiff.2 hok.1
      have hsame : ∀ name, s₂.connections name = s₁.connections name := fun name =>
        connections_congr (hredis name)
      have hleast' : LeastLoaded s s₂ s.first :=
        ⟨hleast.registered, hleast.minimal, (hsame _).trans hleast.counted,
          fun name hname => (hsame name).trans (hleast.others name hname)⟩
      exact ih (hservers ▸ hne) hcounters' (fun e he => hcalls e (List.mem_cons_of_mem _ he)) hrun'
        (hok.2 _ he) (hleast'.even hservers heven)

/-- The first call with the two servers of the configuration chooses a least loaded one, and the
numbers differ by at most one after it. -/
theorem leastLoaded_shipped :
    (∃ selected s', (Service.init shipped).choseChatServer = some (selected, s') ∧
      LeastLoaded (.init shipped) s' selected) ∧
    ∃ t, run Service.step (.init shipped) [.getChatServer 1 "t"] = some t ∧
      ∀ c ∈ t.chatServers.rows, ∀ c' ∈ t.chatServers.rows,
        t.connections c.name ≤ t.connections c'.name + 1 := by
  obtain ⟨⟨selected, s', hchose, hiff⟩, hruns⟩ :=
    leastLoaded_iff (run_nil (Service.init shipped)) (by decide)
  have hzero : ∀ name, (Service.init shipped).connections name = 0 := fun name =>
    Redis.counter_of_none rfl
  have hfirst : (Service.init shipped).FirstLeast := by
    refine ⟨fun c _ => ?_, ?_⟩
    · rw [hzero, hzero]
    · rw [hzero]
      decide
  obtain ⟨-, t, -, hget, -⟩ := getChatServer_spec (counters_init shipped) 1 "t"
  have hstep : Service.step (.init shipped) (.getChatServer 1 "t") = some t := by
    rw [Service.step, hget]
    rfl
  refine ⟨⟨selected, s', hchose, hiff.2 hfirst⟩, t, run_cons hstep [], ?_⟩
  refine hruns [.getChatServer 1 "t"] t (fun c _ => hzero c.name) (fun e he => ?_)
    (run_cons hstep []) (.cons hstep hfirst trivial)
  exact ⟨1, "t", List.mem_singleton.1 he⟩

/-- The second call chooses the same server again, although the other has no connection. -/
theorem not_leastLoaded_second :
    ∃ s, run Service.step (.init shipped) [.getChatServer 1 "t"] = some s ∧
      s.chatServers.rows ≠ [] ∧
      ∀ selected s', s.choseChatServer = some (selected, s') → ¬ LeastLoaded s s' selected := by
  obtain ⟨s₁, s, hchose, hget, ⟨hservers, -⟩, hcounters, hredis⟩ :=
    getChatServer_spec (counters_init shipped) 1 "t"
  obtain ⟨s₁', hchose', -, -, hother, hcount⟩ := choseChatServer_spec (counters_init shipped)
  obtain rfl : s₁ = s₁' := (Prod.mk.inj (Option.some.inj (hchose.symm.trans hchose'))).2
  have hzero : ∀ name, (Service.init shipped).connections name = 0 := fun name =>
    Redis.counter_of_none rfl
  have hone : s.connections "ChatServer1" = 1 := by
    rw [connections_congr (hredis _)]
    have hfirst : (Service.init shipped).first.name = "ChatServer1" := rfl
    rw [hfirst, hzero] at hcount
    exact hcount
  have hnone : s.connections "ChatServer2" = 0 := by
    rw [connections_congr (hredis _), connections_congr (hother _ (by decide)), hzero]
  have hfirst : s.first.name = "ChatServer1" := by
    rw [Service.first, hservers]
    rfl
  refine ⟨s, ?_, ?_, fun selected s' h hleast => ?_⟩
  · rw [run, Service.step, hget]
    rfl
  · rw [hservers]
    decide
  · obtain ⟨s'', hchose'', -⟩ := choseChatServer_spec hcounters
    obtain ⟨rfl, -⟩ := Prod.mk.inj (Option.some.inj (h.symm.trans hchose''))
    have hmem : (⟨"127.0.0.1", "8091", "ChatServer2", 0⟩ : ChatServer) ∈ s.chatServers.rows := by
      rw [hservers]
      decide
    have hle := hleast.minimal _ hmem
    rw [hfirst, hone, hnone] at hle
    exact absurd hle (by decide)

end LeastLoaded

/-! ## Only registered servers -/

section HandsOut

variable {s s' : Service}

/-- A call of `GetChatServer` answers with the address of a registered server, and no counter
appears for a server that is not registered. -/
def HandsOut (s : Service) : ServiceEvent → Prop
  | .getChatServer uid token => ∃ rsp s', s.getChatServer uid token = some (rsp, s') ∧
      rsp.error = .success ∧ rsp.token = token ∧
      (∃ c ∈ s.chatServers.rows, c.host = rsp.host ∧ c.port = rsp.port) ∧
      ∀ name, (∀ c ∈ s.chatServers.rows, c.name ≠ name) →
        s.redis (connectionsKey name) = none → s'.redis (connectionsKey name) = none
  | _ => True

/-- A call of `GetChatServer` comes when some server is registered. -/
def SomeServer (s : Service) : ServiceEvent → Prop
  | .getChatServer _ _ => s.chatServers.rows ≠ []
  | _ => True

lemma handsOut_iff_someServer (h : s.Counters) (e : ServiceEvent) :
    HandsOut s e ↔ SomeServer s e := by
  cases e with
  | getChatServer uid token =>
    constructor
    · rintro ⟨rsp, s', -, -, -, ⟨c, hc, -⟩, -⟩ hempty
      rw [hempty] at hc
      cases hc
    · intro hne
      obtain ⟨s₁, s', hchose, hget, -, -, hredis⟩ := getChatServer_spec h uid token
      obtain ⟨s₁', hchose', -, -, hother, -⟩ := choseChatServer_spec h
      obtain rfl : s₁ = s₁' := (Prod.mk.inj (Option.some.inj (hchose.symm.trans hchose'))).2
      obtain ⟨c, hc, hname, hhost, hport⟩ := first_mem hne
      refine ⟨_, s', hget, rfl, rfl, ⟨c, hc, hhost, hport⟩, fun name hnot hnone => ?_⟩
      have hne : name ≠ s.first.name := fun heq => hnot c hc (hname.trans heq.symm)
      rw [hredis, hother name hne, hnone]
  | registerChatServer name host port => exact Iff.rfl
  | heartbeat name => exact Iff.rfl
  | healthCheck => exact Iff.rfl
  | rehash order => exact Iff.rfl

/-- **Only registered servers are handed out, and only they are counted, exactly when some
server is registered at every call of `GetChatServer`.** -/
theorem handsOut_iff (configured : List (String × String × String)) (es : List ServiceEvent) :
    AllSteps Service.step HandsOut (.init configured) es ↔
      AllSteps Service.step SomeServer (.init configured) es :=
  AllSteps.congr (fun _ _ _ h he => counters_step h he) (fun _ e h => handsOut_iff_someServer h e)
    (counters_init configured) es

/-- The servers of the configuration send no heartbeat, and a user asks for a server after the
health check has removed them. -/
def allSilent : List ServiceEvent := List.replicate 6 .healthCheck ++ [.getChatServer 7 "t"]

/-- The user is sent to a server that has been removed. -/
theorem not_handsOut_allSilent :
    ¬ AllSteps Service.step HandsOut (.init shipped) allSilent := by
  intro h
  obtain ⟨-, h⟩ := h
  have h := (((((h _ rfl).2 _ rfl).2 _ rfl).2 _ rfl).2 _ rfl).2 _ rfl
  obtain ⟨rsp, s', -, -, -, ⟨c, hc, -⟩, -⟩ := h.1
  cases hc

end HandsOut

end StatusServiceImpl

end WeChat
