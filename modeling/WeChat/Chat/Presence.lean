/-
# Presence in Redis

A login subscribes its server to the channel of the user and enters the user in `online_users`.
Only `CSession::close` takes this back, and only the error branches of a write call it.  So the
presence of users mirrors the live sessions exactly in the runs in which nothing else ends the
last session of a user on a server, and no failed write ends one of several.
-/
import WeChat.Chat.Runs

namespace WeChat

open Wire Transition

namespace Registry

variable (r : Registry)

/-- A server is subscribed to the channel of a user, and the user is in `online_users`, exactly
when there is a live session of the user on that server, or on some server. -/
structure Mirrors (r : Registry) : Prop where
  subscribed : ∀ S uid, r.subs S uid = true ↔ ∃ c, c.srv = S ∧ r.Live uid c
  online : ∀ uid, r.onlineUsers uid = true ↔ ∃ c, r.Live uid c

/-- The server of a session has another live session of a user. -/
def Others (uid : ℤ) (c : Conn) : Prop := ∃ c', c' ≠ c ∧ c'.srv = c.srv ∧ r.Live uid c'

/-- The event does not let the presence of a user survive the last live session on its server,
and it does not take the presence of a user with other live sessions: a failed read, a refused
length and a failed write that takes nothing back are of sessions of users with another live
session on the server, and so is a login under another uid; a login on a closed session is for
a user with a live session on the server; a failed write that takes the presence of a user back
is of the only live session of the user on any server. -/
def KeepsMirror : RegEvent → Prop
  | .read c bytes none => r.next c bytes = .stopped → ∀ uid, r.Live uid c → r.Others uid c
  | .read c _ (some uid₀) =>
    (∀ uid, uid ≠ uid₀ → r.Live uid c → r.Others uid c) ∧
      ((r.session c)._isStop = true → r.Others uid₀ c)
  | .readError c _ => ∀ uid, r.Live uid c → r.Others uid c
  | .writeError c =>
    if (r.session c)._isAuthenticated ∧ 0 < (r.session c)._uid then
      ∀ c', r.Live (r.session c)._uid c' → c' = c
    else ∀ uid, r.Live uid c → r.Others uid c
  | _ => True

section Mirrors

variable {r} {r' : Registry} {e : RegEvent} {c₀ : Conn}

/-- An event after which the same sessions are live. -/
lemma mirrors_of_live (h : r.Mirrors) (hlive : ∀ uid c, r'.Live uid c ↔ r.Live uid c)
    (hsubs : r'.subs = r.subs) (honline : r'.onlineUsers = r.onlineUsers) : r'.Mirrors := by
  refine ⟨fun S uid => ?_, fun uid => ?_⟩
  · rw [hsubs, h.subscribed]
    simp only [hlive]
  · rw [honline, h.online]
    simp only [hlive]

/-- A user has a live session in the same places before and after an event that takes at most one
session away, when another one is left where that one was. -/
lemma exists_live_iff {uid : ℤ} {p : Conn → Prop}
    (hsame : ∀ {c}, c.srv = c₀.srv → p c₀ → p c)
    (hback : ∀ {c}, p c → r'.Live uid c → r.Live uid c)
    (hforth : ∀ {c}, c ≠ c₀ → r.Live uid c → r'.Live uid c)
    (hothers : p c₀ → r.Live uid c₀ → r.Others uid c₀) :
    (∃ c, p c ∧ r.Live uid c) ↔ ∃ c, p c ∧ r'.Live uid c := by
  constructor
  · rintro ⟨c, hc, hlive⟩
    by_cases hne : c = c₀
    · subst hne
      obtain ⟨c', hne', hsrv, hlive'⟩ := hothers hc hlive
      exact ⟨c', hsame hsrv hc, hforth hne' hlive'⟩
    · exact ⟨c, hc, hforth hne hlive⟩
  · rintro ⟨c, hc, hlive⟩
    exact ⟨c, hc, hback hc hlive⟩

/-- The same on any server. -/
lemma exists_live_iff' {uid : ℤ} (hback : ∀ {c}, r'.Live uid c → r.Live uid c)
    (hforth : ∀ {c}, c ≠ c₀ → r.Live uid c → r'.Live uid c)
    (hothers : r.Live uid c₀ → r.Others uid c₀) :
    (∃ c, r.Live uid c) ↔ ∃ c, r'.Live uid c := by
  simpa using exists_live_iff (p := fun _ => True) (fun _ h => h) (fun _ => hback) hforth
    (fun _ => hothers)

/-- An event that ends a session and leaves Redis alone. -/
lemma mirrors_of_end (h : r.Mirrors)
    (hlive : ∀ {uid c}, r'.Live uid c ↔ c ≠ c₀ ∧ r.Live uid c) (hsubs : r'.subs = r.subs)
    (honline : r'.onlineUsers = r.onlineUsers) :
    r'.Mirrors ↔ ∀ uid, r.Live uid c₀ → r.Others uid c₀ := by
  constructor
  · intro h' uid hc₀
    obtain ⟨c, hsrv, hc⟩ := (h'.subscribed c₀.srv uid).1
      (by rw [hsubs]; exact (h.subscribed _ _).2 ⟨c₀, rfl, hc₀⟩)
    exact ⟨c, (hlive.1 hc).1, hsrv, (hlive.1 hc).2⟩
  · intro hothers
    refine ⟨fun S uid => ?_, fun uid => ?_⟩
    · rw [hsubs, h.subscribed]
      exact exists_live_iff (fun hsrv hS => hsrv.trans hS) (fun _ hc => (hlive.1 hc).2)
        (fun hne hc => hlive.2 ⟨hne, hc⟩) (fun _ => hothers uid)
    · rw [honline, h.online]
      exact exists_live_iff' (fun hc => (hlive.1 hc).2) (fun hne hc => hlive.2 ⟨hne, hc⟩)
        (hothers uid)

lemma subs_apply_login {bytes : Bytes} {uid₀ : ℤ} (S : ℕ) (uid : ℤ) :
    (r.apply (.read c₀ bytes (some uid₀))).subs S uid =
      if S = c₀.srv ∧ uid = uid₀ then true else r.subs S uid := by
  rw [apply, subs_login, subs_readDone]

lemma onlineUsers_apply_login {bytes : Bytes} {uid₀ : ℤ} (uid : ℤ) :
    (r.apply (.read c₀ bytes (some uid₀))).onlineUsers uid =
      if uid = uid₀ then true else r.onlineUsers uid := by
  rw [apply, onlineUsers_login, onlineUsers_readDone]

lemma mirrors_login_iff {bytes : Bytes} {uid₀ : ℤ} (hhead : r.next c₀ bytes = .head)
    (h : r.Mirrors) :
    (r.apply (.read c₀ bytes (some uid₀))).Mirrors ↔
      (∀ uid, uid ≠ uid₀ → r.Live uid c₀ → r.Others uid c₀) ∧
        ((r.session c₀)._isStop = true → r.Others uid₀ c₀) := by
  have hlive : ∀ {uid c}, (r.apply (.read c₀ bytes (some uid₀))).Live uid c ↔ _ :=
    live_login_iff hhead
  constructor
  · intro h'
    refine ⟨fun uid hne hc₀ => ?_, fun hstop => ?_⟩
    · -- the session leaves its former user
      obtain ⟨c, hsrv, hc⟩ := (h'.subscribed c₀.srv uid).1 (by
        rw [subs_apply_login, if_neg fun hu => hne hu.2]
        exact (h.subscribed _ _).2 ⟨c₀, rfl, hc₀⟩)
      rcases hlive.1 hc with ⟨-, huid, -⟩ | ⟨hcne, hc⟩
      · exact absurd huid hne
      · exact ⟨c, hcne, hsrv, hc⟩
    · obtain ⟨c, hsrv, hc⟩ := (h'.subscribed c₀.srv uid₀).1
        (by rw [subs_apply_login, if_pos ⟨rfl, rfl⟩])
      rcases hlive.1 hc with ⟨-, -, hopen⟩ | ⟨hcne, hc⟩
      · rw [hstop] at hopen
        cases hopen
      · exact ⟨c, hcne, hsrv, hc⟩
  · rintro ⟨hleft, hclosed⟩
    -- the new user has a live session on the server
    have hnew : ∃ c, c.srv = c₀.srv ∧ (r.apply (.read c₀ bytes (some uid₀))).Live uid₀ c := by
      cases hstop : (r.session c₀)._isStop with
      | false => exact ⟨c₀, rfl, hlive.2 (.inl ⟨rfl, rfl, hstop⟩)⟩
      | true =>
        obtain ⟨c, hne, hsrv, hc⟩ := hclosed hstop
        exact ⟨c, hsrv, hlive.2 (.inr ⟨hne, hc⟩)⟩
    -- elsewhere, and for the other users, only the session that has changed its user is gone
    have hback : ∀ {uid c}, (c = c₀ → uid ≠ uid₀) →
        (r.apply (.read c₀ bytes (some uid₀))).Live uid c → r.Live uid c := by
      intro uid c hne hc
      rcases hlive.1 hc with ⟨hcc, huid, -⟩ | ⟨-, hc⟩
      · exact absurd huid (hne hcc)
      · exact hc
    have hforth : ∀ {uid c}, c ≠ c₀ → r.Live uid c →
        (r.apply (.read c₀ bytes (some uid₀))).Live uid c := fun hne hc => hlive.2 (.inr ⟨hne, hc⟩)
    refine ⟨fun S uid => ?_, fun uid => ?_⟩
    · rw [subs_apply_login]
      by_cases hu : S = c₀.srv ∧ uid = uid₀
      · rw [if_pos hu]
        obtain ⟨rfl, rfl⟩ := hu
        exact iff_of_true rfl hnew
      · rw [if_neg hu, h.subscribed]
        exact exists_live_iff (fun hsrv hS => hsrv.trans hS)
          (fun hS => hback fun hcc huid => hu ⟨hcc ▸ hS.symm, huid⟩) hforth
          (fun hS => hleft uid fun huid => hu ⟨hS.symm, huid⟩)
    · rw [onlineUsers_apply_login]
      by_cases huid : uid = uid₀
      · rw [if_pos huid]
        obtain ⟨c, -, hc⟩ := hnew
        exact iff_of_true rfl ⟨c, huid ▸ hc⟩
      · rw [if_neg huid, h.online]
        exact exists_live_iff' (hback fun _ => huid) hforth (hleft uid huid)

/-- A failed write takes the presence of an authenticated user back. -/
lemma mirrors_writeError_iff
    (hauth : (r.session c₀)._isAuthenticated = true ∧ 0 < (r.session c₀)._uid) (h : r.Mirrors) :
    (r.apply (.writeError c₀)).Mirrors ↔ ∀ c, r.Live (r.session c₀)._uid c → c = c₀ := by
  have hback : ∀ {uid c}, (r.apply (.writeError c₀)).Live uid c → r.Live uid c :=
    fun hc => (live_writeError_iff.1 hc).2
  have hforth : ∀ {uid c}, c ≠ c₀ → r.Live uid c → (r.apply (.writeError c₀)).Live uid c :=
    fun hne hc => live_writeError_iff.2 ⟨hne, hc⟩
  constructor
  · intro h' c hc
    by_contra hne
    have honline := (h'.online (r.session c₀)._uid).2 ⟨c, hforth hne hc⟩
    rw [apply, onlineUsers_writeError, if_pos ⟨hauth, rfl⟩] at honline
    cases honline
  · intro hlast
    -- the user of the session has none left
    have hgone : ∀ c, ¬ (r.apply (.writeError c₀)).Live (r.session c₀)._uid c := by
      intro c hc
      obtain ⟨hne, hc⟩ := live_writeError_iff.1 hc
      exact hne (hlast c hc)
    refine ⟨fun S uid => ?_, fun uid => ?_⟩
    · rw [apply, subs_writeError]
      by_cases hu : S = c₀.srv ∧ uid = (r.session c₀)._uid
      · rw [if_pos ⟨hauth, hu⟩]
        obtain ⟨rfl, rfl⟩ := hu
        refine iff_of_false (by simp) ?_
        rintro ⟨c, -, hc⟩
        exact hgone c hc
      · rw [if_neg fun hboth => hu hboth.2, h.subscribed]
        exact exists_live_iff (fun hsrv hS => hsrv.trans hS) (fun _ => hback) hforth
          fun hS hc => absurd ⟨hS.symm, hc.uid_eq.symm⟩ hu
    · rw [apply, onlineUsers_writeError]
      by_cases hu : uid = (r.session c₀)._uid
      · rw [if_pos ⟨hauth, hu⟩]
        subst hu
        refine iff_of_false (by simp) ?_
        rintro ⟨c, hc⟩
        exact hgone c hc
      · rw [if_neg fun hboth => hu hboth.2, h.online]
        exact exists_live_iff' hback hforth fun hc => absurd hc.uid_eq.symm hu

/-- After an event that meets its condition, and after no other, presence mirrors the live
sessions. -/
lemma mirrors_apply_iff (hl : Local r) (hen : r.Enabled e) (h : r.Mirrors) :
    (r.apply e).Mirrors ↔ r.KeepsMirror e := by
  cases e with
  | accept c₀ =>
    exact iff_of_true (mirrors_of_live h (fun uid c => live_accept_iff hl hen) rfl rfl) trivial
  | read c₀ bytes login =>
    cases login with
    | none =>
      by_cases hstop : r.next c₀ bytes = .stopped
      · have hend : ∀ {uid c}, (r.apply (.read c₀ bytes none)).Live uid c ↔
            c ≠ c₀ ∧ r.Live uid c := by
          intro uid c
          rw [live_read_iff hen.1, hstop, and_comm]
          simp
        rw [mirrors_of_end h hend (subs_readDone bytes) (onlineUsers_readDone bytes)]
        exact ⟨fun hothers _ => hothers, fun hothers => hothers hstop⟩
      · refine iff_of_true (mirrors_of_live h (fun uid c => ?_) (subs_readDone bytes)
          (onlineUsers_readDone bytes)) fun heq => absurd heq hstop
        rw [live_read_iff hen.1]
        exact and_iff_left fun _ => hstop
    | some uid₀ => exact mirrors_login_iff (hen.2 (by simp)) h
  | readError c₀ ec =>
    exact mirrors_of_end h live_readError_iff (subs_readError ec) (onlineUsers_readError ec)
  | writeError c₀ =>
    rw [KeepsMirror]
    by_cases hauth : (r.session c₀)._isAuthenticated = true ∧ 0 < (r.session c₀)._uid
    · rw [if_pos hauth]
      exact mirrors_writeError_iff hauth h
    · rw [if_neg hauth]
      refine mirrors_of_end h live_writeError_iff ?_ ?_
      · ext S uid
        rw [apply, subs_writeError, if_neg fun hboth => hauth hboth.1]
      · ext uid
        rw [apply, onlineUsers_writeError, if_neg fun hboth => hauth hboth.1]
  | skip => exact iff_of_true h trivial

end Mirrors

lemma mirrors_init : init.Mirrors :=
  ⟨fun _ _ => iff_of_false (by simp [init]) fun ⟨_, _, h⟩ => not_live_init h,
    fun _ => iff_of_false (by simp [init]) fun ⟨_, h⟩ => not_live_init h⟩

end Registry

/-! ## Runs -/

section Runs

variable {cfg : Config} {db : Database} {s : State} {es : List Event}

/-- **In every state of a run the presence in Redis mirrors the live sessions, if and only if
every step of the run keeps it so.** -/
theorem mirrors_iff (hrun : run (step cfg) (.init db) es = some s) :
    AllStates (step cfg) (fun s => s.reg.Mirrors) (.init db) es ↔
      AllSteps (step cfg) (fun s e => s.reg.KeepsMirror (regEvent cfg s e)) (.init db) es := by
  refine allStates_iff_allSteps local_step ?_ hrun Registry.local_init Registry.mirrors_init
  intro s e s' hl hmirrors h
  obtain ⟨hen, heq⟩ := reg_step h
  rw [heq]
  exact Registry.mirrors_apply_iff hl hen hmirrors

/-- A read of a session that has not logged in and is not closed. -/
lemma keepsMirror_read {c : Conn} {bytes : Bytes} {env : Env}
    (hauth : (s.reg.session c)._isAuthenticated = false)
    (hopen : (s.reg.session c)._isStop = false) :
    s.reg.KeepsMirror (regEvent cfg s (.read c bytes env)) := by
  have hnot : ∀ uid, ¬ s.reg.Live uid c := by
    intro uid h
    have := h.authenticated
    rw [hauth] at this
    cases this
  rw [regEvent]
  generalize Option.bind _ _ = login
  cases login with
  | none => exact fun _ uid h => absurd h (hnot uid)
  | some uid₀ =>
    refine ⟨fun uid _ h => absurd h (hnot uid), fun hstop => ?_⟩
    rw [hopen] at hstop
    cases hstop

/-- A message of such a session keeps the presence right. -/
lemma mirror_received {c : Conn} {msgId : ℤ} {msgBody : Bytes} {env : Env}
    (hid : toShort msgId = msgId) (hfits : Fits msgBody)
    (hses : s.reg.session c = ⟨.head, false, 0, false, true, true⟩) :
    AllSteps (step cfg) (fun s e => s.reg.KeepsMirror (regEvent cfg s e)) s
      (received c msgId msgBody env) := by
  have hawaiting : (s.awaiting c msgId msgBody).reg.session c =
      ⟨.body msgId msgBody.length, false, 0, false, true, true⟩ := by
    simp [State.awaiting, Registry.arm, Registry.modify, hses]
  refine allSteps_received (by rw [hses]) hid hfits ?_ ?_
  · exact keepsMirror_read (by rw [hses]) (by rw [hses])
  · exact keepsMirror_read (by rw [hawaiting]) (by rw [hawaiting])

/-- A client logs in, and the write of an answer fails. -/
theorem mirrors_failedWrite :
    AllStates (step compactConfig) (fun s => s.reg.Mirrors) (.init MySQLMgr.twoUsers)
      (connect compactConfig client₁ 1 "t" noDatabase ++ [.writeError client₁]) := by
  have hconnect : run (step compactConfig) (.init MySQLMgr.twoUsers)
      (connect compactConfig client₁ 1 "t" noDatabase) = some _ :=
    run_connect_noDatabase rfl (by decide) (by decide) ⟨by decide, by decide⟩
  refine (mirrors_iff ((run_append_of hconnect).trans rfl)).2 (.append ?_ hconnect ?_)
  · refine ⟨trivial, fun s hs => mirror_received (by decide) ⟨by decide, by decide⟩ ?_⟩
    obtain rfl := Option.some.inj hs
    rfl
  · refine ⟨?_, fun _ _ => trivial⟩
    have hlast : ∀ c, ((Registry.init.accept client₁).login client₁ 1).Live 1 c → c = client₁ := by
      intro c hc
      rcases live_connect_iff.1 hc with ⟨hclient, -⟩ | ⟨-, hinit⟩
      · exact hclient
      · exact absurd hinit not_live_init
    exact hlast

/-- A client logs in and disconnects: its user stays subscribed and online. -/
theorem not_mirrors_disconnect :
    ∃ s, run (step compactConfig) (.init MySQLMgr.twoUsers)
        (connect compactConfig client₁ 1 "t" noDatabase ++ [.readError client₁ .eof]) = some s ∧
      ¬ s.reg.Mirrors := by
  rw [run_append_of
    (run_connect_noDatabase rfl (by decide) (by decide) ⟨by decide, by decide⟩)]
  refine ⟨_, rfl, fun hmirrors => ?_⟩
  obtain ⟨c, hc⟩ := (hmirrors.online 1).1 (by decide)
  have hended : (((Registry.init.accept client₁).login client₁ 1).apply
      (.readError client₁ .eof)).Live 1 c := hc
  obtain ⟨hclient, hold⟩ := Registry.live_readError_iff.1 hended
  rcases live_connect_iff.1 hold with ⟨heq, -⟩ | ⟨-, hinit⟩
  · exact hclient heq
  · exact not_live_init hinit

end Runs

end WeChat
