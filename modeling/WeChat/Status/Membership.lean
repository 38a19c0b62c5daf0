/-
# Who is in the registry

A server is in the registry as long as at most `maxMissedHeartbeats` passes of the health check
have happened since it was refreshed for the last time.  The number of these passes is read off
the record of the calls; it goes on growing for a server that has been removed.
-/
import WeChat.Status.Servers

namespace WeChat

namespace StatusServiceImpl

open Transition Relational

/-- A call refreshes a server, a pass counts. -/
def Observed.count (name : String) (since : Option ℕ) : Observed → Option ℕ
  | .registered name' => if name' = name then some 0 else since
  | .heartbeat name' error => if name' = name ∧ error = .success then some 0 else since
  | .healthCheck => since.map (· + 1)

/-- The number of passes since the last refresh of a server; `none` when it has never been
refreshed. -/
def sinceRefresh (configured : List (String × String × String)) (log : List Observed)
    (name : String) : Option ℕ :=
  log.foldl (Observed.count name) (if name ∈ configured.map Prod.fst then some 0 else none)

section Listed

variable {s s' : Service} {name : String} {k : ℕ}

/-- A server of this name is in the registry and has missed `k` heartbeats. -/
def Service.Listed (s : Service) (name : String) (k : ℕ) : Prop :=
  ∃ c ∈ s.chatServers.rows, c.name = name ∧ c.missedHeartbeats = k

/-- The names in the configured registry. -/
lemma mem_names_configured (cs : List (String × String × String)) (t : Table ChatServer.name) :
    name ∈ (cs.foldl (fun t c => t.emplace ⟨c.2.1, c.2.2, c.1, 0⟩) t).rows.map ChatServer.name ↔
      name ∈ t.rows.map ChatServer.name ∨ name ∈ cs.map Prod.fst := by
  induction cs generalizing t with
  | nil => simp
  | cons c cs ih =>
    rw [List.foldl_cons, ih, List.map_cons, List.mem_cons, ← or_assoc]
    refine or_congr_left ?_
    simp only [List.mem_map, Table.mem_emplace]
    constructor
    · rintro ⟨x, hx | ⟨rfl, -⟩, rfl⟩
      · exact .inl ⟨x, hx, rfl⟩
      · exact .inr rfl
    · rintro (⟨x, hx, rfl⟩ | rfl)
      · exact ⟨x, .inl hx, rfl⟩
      · by_cases h : ∃ y ∈ t.rows, y.name = c.1
        · obtain ⟨y, hy, hname⟩ := h
          exact ⟨y, .inl hy, hname⟩
        · exact ⟨_, .inr ⟨rfl, fun y hy hname => h ⟨y, hy, hname⟩⟩, rfl⟩

/-- No configured server has missed a heartbeat. -/
lemma missed_configured (cs : List (String × String × String)) (t : Table ChatServer.name)
    (h : ∀ x ∈ t.rows, x.missedHeartbeats = 0) :
    ∀ x ∈ (cs.foldl (fun t c => t.emplace ⟨c.2.1, c.2.2, c.1, 0⟩) t).rows,
      x.missedHeartbeats = 0 := by
  induction cs generalizing t with
  | nil => exact h
  | cons c cs ih =>
    refine ih _ fun x hx => ?_
    rcases Table.mem_emplace.1 hx with hx | ⟨rfl, -⟩
    · exact h x hx
    · rfl

lemma listed_init (configured : List (String × String × String)) :
    (Service.init configured).Listed name k ↔ name ∈ configured.map Prod.fst ∧ k = 0 := by
  have hname : name ∈ (Service.init configured).chatServers.rows.map ChatServer.name ↔
      name ∈ configured.map Prod.fst :=
    (mem_names_configured configured Table.empty).trans (or_iff_right List.not_mem_nil)
  have hmissed : ∀ x ∈ (Service.init configured).chatServers.rows, x.missedHeartbeats = 0 :=
    missed_configured configured Table.empty fun x hx => absurd hx List.not_mem_nil
  rw [← hname, List.mem_map]
  constructor
  · rintro ⟨c, hc, hcname, rfl⟩
    exact ⟨⟨c, hc, hcname⟩, hmissed c hc⟩
  · rintro ⟨⟨c, hc, hcname⟩, rfl⟩
    exact ⟨c, hc, hcname, hmissed c hc⟩

lemma listed_registerChatServer {name' host port : String} :
    (s.registerChatServer name' host port).Listed name k ↔
      if name' = name then k = 0 else s.Listed name k := by
  simp only [Service.Listed, Service.registerChatServer, Table.mem_put]
  split_ifs with h
  · subst h
    constructor
    · rintro ⟨c, rfl | ⟨-, hne⟩, hname, hk⟩
      · exact hk.symm
      · exact absurd hname hne
    · rintro rfl
      exact ⟨_, .inl rfl, rfl, rfl⟩
  · constructor
    · rintro ⟨c, rfl | ⟨hc, -⟩, hname, hk⟩
      · exact absurd hname h
      · exact ⟨c, hc, hname, hk⟩
    · rintro ⟨c, hc, rfl, hk⟩
      exact ⟨c, .inr ⟨hc, Ne.symm h⟩, rfl, hk⟩

/-- A heartbeat finds its server. -/
lemma mem_names_iff {name' : String} :
    name' ∈ s.chatServers.rows.map ChatServer.name ↔ ∃ k, s.Listed name' k := by
  rw [List.mem_map]
  constructor
  · rintro ⟨c, hc, hname⟩
    exact ⟨_, c, hc, hname, rfl⟩
  · rintro ⟨k, c, hc, hname, -⟩
    exact ⟨c, hc, hname⟩

lemma listed_heartbeat {name' : String} :
    (s.heartbeat name').Listed name k ↔
      if name' = name then k = 0 ∧ ∃ k', s.Listed name k' else s.Listed name k := by
  rw [Service.heartbeat]
  by_cases hmem : name' ∈ s.chatServers.rows.map ChatServer.name
  · rw [if_pos hmem]
    simp only [Service.Listed, Table.update, List.mem_map]
    split_ifs with h
    · subst h
      constructor
      · rintro ⟨_, ⟨c, hc, rfl⟩, hname, hk⟩
        by_cases hcname : c.name = name'
        · rw [if_pos hcname] at hk
          exact ⟨hk.symm, mem_names_iff.1 hmem⟩
        · rw [if_neg hcname] at hname
          exact absurd hname hcname
      · rintro ⟨rfl, k', c, hc, hname, -⟩
        exact ⟨_, ⟨c, hc, rfl⟩, by simp [hname], by simp [hname]⟩
    · constructor
      · rintro ⟨_, ⟨c, hc, rfl⟩, hname, hk⟩
        by_cases hcname : c.name = name'
        · rw [if_pos hcname] at hname
          exact absurd (hcname.symm.trans hname) h
        · rw [if_neg hcname] at hname hk
          exact ⟨c, hc, hname, hk⟩
      · rintro ⟨c, hc, hname, hk⟩
        have hcname : c.name ≠ name' := fun heq => h (heq.symm.trans hname)
        exact ⟨_, ⟨c, hc, rfl⟩, by rwa [if_neg hcname], by rwa [if_neg hcname]⟩
  · rw [if_neg hmem]
    split_ifs with h
    · subst h
      have hnot : ∀ k, ¬ s.Listed name' k := fun k hk => hmem (mem_names_iff.2 ⟨k, hk⟩)
      exact iff_of_false (hnot k) fun hk => hk.2.elim hnot
    · exact Iff.rfl

lemma listed_healthCheck :
    s.healthCheck.Listed name k ↔
      ∃ k', k = k' + 1 ∧ k' < maxMissedHeartbeats ∧ s.Listed name k' := by
  simp only [Service.Listed, Service.healthCheck, Table.update, Table.delete, List.mem_map,
    List.mem_filter]
  constructor
  · rintro ⟨_, ⟨c, ⟨hc, hmissed⟩, rfl⟩, hname, rfl⟩
    exact ⟨c.missedHeartbeats, rfl, by simpa using hmissed, c, hc, hname, rfl⟩
  · rintro ⟨_, rfl, hlt, c, hc, hname, rfl⟩
    exact ⟨_, ⟨c, ⟨hc, by simpa using hlt⟩, rfl⟩, hname, rfl⟩

lemma listed_getChatServer {uid : ℤ} {token : String}
    (h : (s.getChatServer uid token).map Prod.snd = some s') :
    (s'.Listed name k ↔ s.Listed name k) ∧ s'.log = s.log := by
  rw [Service.getChatServer, Service.choseChatServer] at h
  cases hloop : choseLoop s.redis s.chatServers.rows s.freeServer maxInt with
  | none =>
    rw [hloop] at h
    cases h
  | some selected =>
    rw [hloop] at h
    cases h
    exact ⟨Iff.rfl, rfl⟩

end Listed

/-! ## The passes that count for a server -/

section Missed

variable {s s' : Service} {name : String} {since : Option ℕ}

/-- A server of this name is in the registry while at most `maxMissedHeartbeats` passes count for
it, and has missed as many heartbeats. -/
def Service.Missed (s : Service) (name : String) (since : Option ℕ) : Prop :=
  ∀ k, s.Listed name k ↔ since = some k ∧ k ≤ maxMissedHeartbeats

namespace Service.Missed

lemma mem_iff (h : s.Missed name since) :
    name ∈ s.chatServers.rows.map ChatServer.name ↔ ∃ k ≤ maxMissedHeartbeats, since = some k := by
  rw [mem_names_iff]
  exact exists_congr fun k => (h k).trans and_comm

/-- No pass counts for a server that has just entered the registry or been refreshed. -/
lemma of_zero (h : ∀ k, s.Listed name k ↔ k = 0) : s.Missed name (some 0) := by
  intro k
  rw [h, Option.some_inj, eq_comm (a := 0)]
  exact (and_iff_left_of_imp fun hk => hk ▸ Nat.zero_le _).symm

lemma init (configured : List (String × String × String)) :
    (Service.init configured).Missed name
      (if name ∈ configured.map Prod.fst then some 0 else none) := by
  split_ifs with hname
  · exact of_zero fun _ => (listed_init configured).trans (and_iff_right hname)
  · intro k
    rw [listed_init]
    exact iff_of_false (fun h => hname h.1) fun h => nomatch h.1

lemma registered {host port : String} :
    (s.registerChatServer name host port).Missed name (some 0) :=
  of_zero fun _ => listed_registerChatServer.trans (iff_of_eq (if_pos rfl))

lemma registerChatServer (h : s.Missed name since) {name' host port : String}
    (hne : name' ≠ name) : (s.registerChatServer name' host port).Missed name since :=
  fun k => (listed_registerChatServer.trans (iff_of_eq (if_neg hne))).trans (h k)

/-- A heartbeat refreshes a server that is there. -/
lemma refreshed (h : s.Missed name since) : (s.heartbeat name).Missed name
    (since.map fun k => if k ≤ maxMissedHeartbeats then 0 else k) := by
  intro k
  refine listed_heartbeat.trans ?_
  rw [if_pos rfl, Option.map_eq_some_iff]
  constructor
  · rintro ⟨rfl, k', hlisted⟩
    obtain ⟨hsince, hle⟩ := (h k').1 hlisted
    exact ⟨⟨k', hsince, if_pos hle⟩, Nat.zero_le _⟩
  · rintro ⟨⟨k', hsince, hk⟩, hle⟩
    by_cases hle' : k' ≤ maxMissedHeartbeats
    · rw [if_pos hle'] at hk
      exact ⟨hk.symm, k', (h k').2 ⟨hsince, hle'⟩⟩
    · rw [if_neg hle'] at hk
      exact absurd (hk ▸ hle) hle'

lemma heartbeat (h : s.Missed name since) {name' : String} (hne : name' ≠ name) :
    (s.heartbeat name').Missed name since :=
  fun k => (listed_heartbeat.trans (iff_of_eq (if_neg hne))).trans (h k)

lemma healthCheck (h : s.Missed name since) : s.healthCheck.Missed name (since.map (· + 1)) := by
  intro k
  rw [listed_healthCheck, Option.map_eq_some_iff]
  constructor
  · rintro ⟨k', rfl, hlt, hlisted⟩
    exact ⟨⟨k', ((h k').1 hlisted).1, rfl⟩, hlt⟩
  · rintro ⟨⟨k', hsince, rfl⟩, hle⟩
    exact ⟨k', rfl, hle, (h k').2 ⟨hsince, Nat.le_of_succ_le hle⟩⟩

lemma getChatServer (h : s.Missed name since) {uid : ℤ} {token : String}
    (he : (s.getChatServer uid token).map Prod.snd = some s') :
    s'.Missed name since ∧ s'.log = s.log := by
  have hsame : ∀ k, (s'.Listed name k ↔ s.Listed name k) ∧ s'.log = s.log :=
    fun k => listed_getChatServer he
  exact ⟨fun k => (hsame k).1.trans (h k), (hsame 0).2⟩

lemma rehash (h : s.Missed name since) {order : List ChatServer}
    (he : s.step (.rehash order) = some s') : s'.Missed name since ∧ s'.log = s.log := by
  simp only [Service.step] at he
  split_ifs at he with hperm
  cases he
  refine ⟨fun k => ?_, rfl⟩
  rw [← h k]
  simp only [Service.Listed, Table.reorder, hperm.mem_iff]

end Service.Missed

end Missed

/-! ## The last refresh decides -/

section Members

variable {configured : List (String × String × String)} {s s' : Service} {name : String} {k : ℕ}

/-- Who is in the registry, and what it has missed. -/
def Service.Exact (configured : List (String × String × String)) (s : Service) : Prop :=
  ∀ name k, s.Listed name k ↔
    sinceRefresh configured s.log name = some k ∧ k ≤ maxMissedHeartbeats

lemma sinceRefresh_snoc (log : List Observed) (o : Observed) :
    sinceRefresh configured (log ++ [o]) name =
      o.count name (sinceRefresh configured log name) := by
  rw [sinceRefresh, List.foldl_append]
  rfl

lemma exact_init (configured : List (String × String × String)) :
    (Service.init configured).Exact configured :=
  fun _ => Service.Missed.init configured

/-- Every call and every pass keeps the characterisation. -/
lemma exact_step {e : ServiceEvent} (h : s.Exact configured) (he : s.step e = some s') :
    s'.Exact configured := by
  intro name
  have hmissed : s.Missed name (sinceRefresh configured s.log name) := h name
  show s'.Missed name (sinceRefresh configured s'.log name)
  cases e with
  | registerChatServer name' host port =>
    cases he
    rw [Service.registerChatServer, sinceRefresh_snoc, Observed.count]
    split_ifs with hname
    · subst hname
      exact .registered
    · exact hmissed.registerChatServer hname
  | heartbeat name' =>
    cases he
    by_cases hname : name' = name
    · subst hname
      have hrefreshed := hmissed.refreshed
      by_cases hmem : name' ∈ s.chatServers.rows.map ChatServer.name
      · -- the server is there and is refreshed
        obtain ⟨k, hle, hsince⟩ := hmissed.mem_iff.1 hmem
        rw [hsince, Option.map_some, if_pos hle] at hrefreshed
        have hlog : (s.heartbeat name').log = s.log ++ [.heartbeat name' .success] := by
          rw [Service.heartbeat, if_pos hmem]
        rwa [hlog, sinceRefresh_snoc, Observed.count, if_pos ⟨rfl, rfl⟩]
      · have hlog : (s.heartbeat name').log = s.log ++ [.heartbeat name' .serverNotFound] := by
          rw [Service.heartbeat, if_neg hmem]
        rw [hlog, sinceRefresh_snoc, Observed.count, if_neg (by simp)]
        have hsame : s.heartbeat name' = { s with log := (s.heartbeat name').log } := by
          rw [Service.heartbeat, if_neg hmem]
        rw [hsame]
        exact hmissed
    · have hlog : ∃ error, (s.heartbeat name').log = s.log ++ [.heartbeat name' error] := by
        rw [Service.heartbeat]
        split_ifs
        · exact ⟨_, rfl⟩
        · exact ⟨_, rfl⟩
      obtain ⟨error, hlog⟩ := hlog
      rw [hlog, sinceRefresh_snoc, Observed.count, if_neg fun hboth => hname hboth.1]
      exact hmissed.heartbeat hname
  | healthCheck =>
    cases he
    rw [Service.healthCheck, sinceRefresh_snoc]
    exact hmissed.healthCheck
  | getChatServer uid token =>
    obtain ⟨hmissed', hlog⟩ := hmissed.getChatServer he
    rwa [hlog]
  | rehash order =>
    obtain ⟨hmissed', hlog⟩ := hmissed.rehash he
    rwa [hlog]

/-- **A server is in the registry exactly while at most `maxMissedHeartbeats` passes have
happened since its last refresh**, and then it has missed as many heartbeats.  So the next pass
removes it exactly when `maxMissedHeartbeats` passes have happened since, and a heartbeat is
answered with `SERVER_NOT_FOUND` exactly when the server is not in the registry. -/
theorem listed_iff {es : List ServiceEvent}
    (hrun : run Service.step (.init configured) es = some s) :
    (∀ name k, s.Listed name k ↔
      sinceRefresh configured s.log name = some k ∧ k ≤ maxMissedHeartbeats) ∧
    (∀ name, (∃ k, s.Listed name k) → ((¬ ∃ k, s.healthCheck.Listed name k) ↔
      sinceRefresh configured s.log name = some maxMissedHeartbeats)) ∧
    ∀ name, (s.heartbeat name).log = s.log ++ [.heartbeat name .serverNotFound] ↔
      ¬ ∃ k, s.Listed name k := by
  have h : s.Exact configured :=
    run_invariant (fun _ _ _ hs he => exact_step hs he) hrun (exact_init configured)
  refine ⟨h, fun name ⟨k, hk⟩ => ?_, fun name => ?_⟩
  · obtain ⟨hsince, hle⟩ := (h name k).1 hk
    rw [hsince, Option.some_inj]
    constructor
    · intro hnot
      refine le_antisymm hle (Nat.le_of_not_lt fun hlt => hnot ⟨k + 1, ?_⟩)
      exact listed_healthCheck.2 ⟨k, rfl, hlt, hk⟩
    · rintro rfl ⟨_, hlisted⟩
      obtain ⟨k', rfl, hlt, hk'⟩ := listed_healthCheck.1 hlisted
      have hk'' := Option.some_inj.1 (hsince.symm.trans ((h name k').1 hk').1)
      exact absurd hk'' hlt.ne'
  · rw [← mem_names_iff, Service.heartbeat]
    split_ifs with hmem
    · simp [hmem]
    · simp [hmem]

/-- The two sections of the configuration that is shipped. -/
def shipped : List (String × String × String) :=
  [("ChatServer1", "127.0.0.1", "8090"), ("ChatServer2", "127.0.0.1", "8091")]

/-- Five passes of the health check; the second server sends a heartbeat before the third. -/
def oneSilent : List ServiceEvent :=
  [.healthCheck, .healthCheck, .heartbeat "ChatServer2", .healthCheck, .healthCheck, .healthCheck]

/-- The sixth pass removes the first server. -/
theorem listed_oneSilent : ∃ s, run Service.step (.init shipped) oneSilent = some s ∧
    (∃ k, s.Listed "ChatServer1" k) ∧ ¬ ∃ k, s.healthCheck.Listed "ChatServer1" k := by
  obtain ⟨s, hrun⟩ : ∃ s, run Service.step (.init shipped) oneSilent = some s := ⟨_, rfl⟩
  obtain ⟨hlisted, hremoved, -⟩ := listed_iff hrun
  have hlog : s.log = [.healthCheck, .healthCheck, .heartbeat "ChatServer2" .success, .healthCheck,
      .healthCheck, .healthCheck] := by
    cases hrun
    rfl
  have hsince : sinceRefresh shipped s.log "ChatServer1" = some maxMissedHeartbeats := by
    rw [hlog]
    decide
  have hthere : ∃ k, s.Listed "ChatServer1" k := ⟨_, (hlisted _ _).2 ⟨hsince, le_rfl⟩⟩
  exact ⟨s, hrun, hthere, (hremoved _ hthere).2 hsince⟩

end Members

end StatusServiceImpl

end WeChat
