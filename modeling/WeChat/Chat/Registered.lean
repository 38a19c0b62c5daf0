/-
# Who is registered

Two properties of the registration of connections are determined exactly, by conditions on the
events: that the session of the last login of a user stays registered while it is read, and
that every entry is a live session of its user.  A third one, that every live connection is
found, is kept by careful events.
-/
import WeChat.Chat.Registry

namespace WeChat

open Wire Transition

namespace Registry

variable (r : Registry)

/-! ## The session of the last login -/

/-- The session of the last login of a user is registered while it is read. -/
def Current (r : Registry) : Prop :=
  ∀ S uid c, r.latest S uid = some c → (r.session c).reading ≠ .stopped → r.mgr S uid = some c

/-- The event is not one that removes the uid of a session which another session, one that is
still read, has logged in with since. -/
def KeepsCurrent : RegEvent → Prop
  | .readError c ec =>
    r.Unregisters c ec → ∀ c', r.latest c.srv (r.session c)._uid = some c' →
      c' = c ∨ (r.session c').reading = .stopped
  | _ => True

/-! ## Entries that are live -/

/-- A session is that of a user, is read, and has not been closed. -/
structure Live (r : Registry) (uid : ℤ) (c : Conn) : Prop where
  authenticated : (r.session c)._isAuthenticated
  uid_eq : (r.session c)._uid = uid
  reading : (r.session c).reading ≠ .stopped
  not_closed : (r.session c)._isStop = false

/-- Every entry is a live session of its user. -/
def Exact (r : Registry) : Prop := ∀ S uid c, r.mgr S uid = some c → r.Live uid c

/-- The event does not leave the entry of a session that it stops, closes, or gives another
user: a read that ends the chain without a removal, a failed write and a refused length are of
sessions that are not registered, and a login is on a session that is not closed and has no
entry under another uid. -/
def KeepsExact : RegEvent → Prop
  | .read c bytes none => r.next c bytes = .stopped → r.Unlisted c
  | .read c _ (some uid) =>
    (r.session c)._isStop = false ∧ ∀ S uid', r.mgr S uid' = some c → uid' = uid
  | .readError c ec => ¬ r.Unregisters c ec → r.Unlisted c
  | .writeError c => r.Unlisted c
  | _ => True

/-! ## Who is live after an event -/

section Live

variable {r} {r' : Registry} {uid : ℤ} {c c₀ : Conn}

lemma live_congr (h : r'.session c = r.session c) : r'.Live uid c ↔ r.Live uid c := by
  constructor
  · rintro ⟨h₁, h₂, h₃, h₄⟩
    exact ⟨h ▸ h₁, h ▸ h₂, h ▸ h₃, h ▸ h₄⟩
  · rintro ⟨h₁, h₂, h₃, h₄⟩
    exact ⟨h ▸ h₁, h ▸ h₂, h ▸ h₃, h ▸ h₄⟩

/-- When one session ends and the others are left alone, the others stay live. -/
lemma live_iff_of_end (hses : c ≠ c₀ → r'.session c = r.session c) (hdead : ¬ r'.Live uid c₀) :
    r'.Live uid c ↔ c ≠ c₀ ∧ r.Live uid c := by
  by_cases hc : c = c₀
  · subst hc
    exact iff_of_false hdead fun hne => hne.1 rfl
  · rw [live_congr (hses hc)]
    exact (and_iff_right hc).symm

/-- A new connection is that of nobody. -/
lemma live_accept_iff (hl : Local r) (hnew : (r.session c₀).accepted = false) :
    (r.apply (.accept c₀)).Live uid c ↔ r.Live uid c := by
  by_cases hc : c = c₀
  · subst hc
    refine iff_of_false (fun h => ?_) fun h => ?_
    · have := h.authenticated
      rw [apply, session_accept, if_pos rfl] at this
      cases this
    · have := hl.reading_accepted h.reading
      rw [hnew] at this
      cases this
  · exact live_congr (session_accept.trans (if_neg hc))

/-- A read that is no login ends a session exactly when its length is refused. -/
lemma live_read_iff {bytes : Bytes} (hread : (r.session c₀).reading ≠ .stopped) :
    (r.apply (.read c₀ bytes none)).Live uid c ↔
      r.Live uid c ∧ (c = c₀ → r.next c₀ bytes ≠ .stopped) := by
  have hses : (r.apply (.read c₀ bytes none)).session c = _ := session_readDone bytes
  by_cases hc : c = c₀
  · subst hc
    rw [if_pos rfl] at hses
    constructor
    · rintro ⟨hauth, huid, hnext, hopen⟩
      rw [hses] at hauth huid hnext hopen
      exact ⟨⟨hauth, huid, hread, hopen⟩, fun _ => hnext⟩
    · rintro ⟨hlive, hnext⟩
      refine ⟨?_, ?_, ?_, ?_⟩ <;> rw [hses]
      · exact hlive.authenticated
      · exact hlive.uid_eq
      · exact hnext rfl
      · exact hlive.not_closed
  · rw [live_congr (hses.trans (if_neg hc))]
    exact (and_iff_left fun heq => absurd heq hc).symm

/-- The session of an accepted login reads the next header as the user of the login. -/
lemma session_apply_login {bytes : Bytes} (uid₀ : ℤ) (hhead : r.next c₀ bytes = .head)
    (c : Conn) :
    (r.apply (.read c₀ bytes (some uid₀))).session c =
      if c = c₀ then
        { r.session c₀ with reading := .head, _isAuthenticated := true, _uid := uid₀ }
      else r.session c := by
  rw [apply, session_login]
  by_cases hc : c = c₀
  · rw [if_pos hc, if_pos hc, session_readDone, if_pos rfl, hhead]
    rfl
  · rw [if_neg hc, if_neg hc, session_readDone, if_neg hc]

/-- The live sessions after an accepted login. -/
lemma live_login_iff {bytes : Bytes} {uid₀ : ℤ} (hhead : r.next c₀ bytes = .head) :
    (r.apply (.read c₀ bytes (some uid₀))).Live uid c ↔
      (c = c₀ ∧ uid = uid₀ ∧ (r.session c₀)._isStop = false) ∨ (c ≠ c₀ ∧ r.Live uid c) := by
  have hses := session_apply_login uid₀ hhead c
  by_cases hc : c = c₀
  · subst hc
    rw [if_pos rfl] at hses
    have hlive : (r.apply (.read c bytes (some uid₀))).Live uid c ↔
        uid = uid₀ ∧ (r.session c)._isStop = false := by
      constructor
      · rintro ⟨-, huid, -, hopen⟩
        rw [hses] at huid hopen
        exact ⟨huid.symm, hopen⟩
      · rintro ⟨rfl, hopen⟩
        refine ⟨?_, ?_, ?_, ?_⟩ <;> rw [hses]
        · rintro ⟨⟩
        · exact hopen
    rw [hlive]
    simp
  · rw [if_neg hc] at hses
    rw [live_congr hses]
    simp [hc]

/-- The connection that a failed read ends is not live after it. -/
lemma live_readError_iff {ec : ReadError} :
    (r.apply (.readError c₀ ec)).Live uid c ↔ c ≠ c₀ ∧ r.Live uid c := by
  refine live_iff_of_end (fun hc => ?_) fun h => h.reading ?_
  · obtain ⟨listed, hses⟩ := session_readError r c₀ c ec
    exact hses.trans (if_neg hc)
  · obtain ⟨listed, hses⟩ := session_readError r c₀ c₀ ec
    rw [apply, hses, if_pos rfl]

/-- Nor is the one that a failed write ends. -/
lemma live_writeError_iff :
    (r.apply (.writeError c₀)).Live uid c ↔ c ≠ c₀ ∧ r.Live uid c := by
  refine live_iff_of_end (fun hc => session_writeError.trans (if_neg hc)) fun h => ?_
  have := h.not_closed
  rw [apply, session_writeError, if_pos rfl] at this
  cases this

end Live

section Exact

variable {r} {e : RegEvent}

/-- Removing the uid of a session takes away that session unless another one is there. -/
lemma mgr_readError_eq_some_iff {c : Conn} {ec : ReadError} {S : ℕ} {uid : ℤ} {c' : Conn} :
    (r.readError c ec).mgr S uid = some c' ↔
      r.mgr S uid = some c' ∧
        ¬ (r.Unregisters c ec ∧ S = c.srv ∧ uid = (r.session c)._uid) := by
  rw [mgr_readError]
  split_ifs with hun
  · exact iff_of_false (by simp) fun h => h.2 hun
  · exact (and_iff_left hun).symm

/-- After an event that meets its condition, and after no other, the session of every last
login is registered while it is read. -/
lemma current_apply_iff (hl : Local r) (hen : r.Enabled e) (h : r.Current) :
    (r.apply e).Current ↔ r.KeepsCurrent e := by
  cases e with
  | accept c₀ =>
    -- a connection that is new is nobody's last login
    refine iff_of_true (fun S uid c hlatest hread => ?_) trivial
    have hne : c ≠ c₀ := by
      rintro rfl
      exact absurd (hl.latest_accepted hlatest) (by rw [hen]; exact Bool.false_ne_true)
    rw [apply, session_accept, if_neg hne] at hread
    exact h S uid c hlatest hread
  | read c₀ bytes login =>
    refine iff_of_true (fun S uid c hlatest hread => ?_) trivial
    rcases latest_apply hlatest with hold | ⟨_, -, hmgr⟩
    · -- the last login of this user was an earlier one
      rcases reading_apply hen hread with hread | heq
      · have hmgr := h S uid c hold hread
        cases login with
        | none => rwa [apply, mgr_readDone]
        | some uid₀ =>
          -- the two tables agree at every entry that the login does not write
          rw [apply, latest_login, latest_readDone] at hlatest
          rw [apply, mgr_login, mgr_readDone]
          by_cases hu : S = c₀.srv ∧ uid = uid₀
          · rwa [if_pos hu] at hlatest ⊢
          · rwa [if_neg hu]
      · cases heq
    · exact hmgr
  | readError c₀ ec =>
    have hread : ∀ c, ((r.apply (.readError c₀ ec)).session c).reading ≠ .stopped ↔
        c ≠ c₀ ∧ (r.session c).reading ≠ .stopped := by
      intro c
      obtain ⟨listed, hses⟩ := session_readError r c₀ c ec
      rw [apply, hses]
      by_cases hc : c = c₀ <;> simp [hc]
    constructor
    · intro hcur hun c hlatest
      -- a session of a later login would lose its entry
      by_contra hne
      rw [not_or] at hne
      have hmgr := hcur c₀.srv (r.session c₀)._uid c
        (by rwa [apply, latest_readError]) ((hread c).2 hne)
      exact (mgr_readError_eq_some_iff.1 hmgr).2 ⟨hun, rfl, rfl⟩
    · intro hkeep S uid c hlatest hstill
      obtain ⟨hne, hold⟩ := (hread c).1 hstill
      rw [apply, latest_readError] at hlatest
      refine mgr_readError_eq_some_iff.2 ⟨h S uid c hlatest hold, ?_⟩
      rintro ⟨hun, rfl, rfl⟩
      rcases hkeep hun c hlatest with heq | hstop
      · exact hne heq
      · exact hold hstop
  | writeError c₀ =>
    refine iff_of_true (fun S uid c hlatest hread => ?_) trivial
    rw [apply, latest_writeError] at hlatest
    rw [apply, mgr_writeError]
    refine h S uid c hlatest ?_
    rw [apply, session_writeError] at hread
    split_ifs at hread with hc
    · exact hc ▸ hread
    · exact hread
  | skip => exact iff_of_true h trivial

/-- The entries after an accepted login. -/
lemma mgr_apply_login {c₀ : Conn} {bytes : Bytes} {uid₀ : ℤ} (S : ℕ) (uid : ℤ) :
    (r.apply (.read c₀ bytes (some uid₀))).mgr S uid =
      if S = c₀.srv ∧ uid = uid₀ then some c₀ else r.mgr S uid := by
  rw [apply, mgr_login, mgr_readDone]

/-- The entries stay live under an accepted login exactly when the session is not closed and
was not registered under another uid. -/
lemma exact_login_iff {c₀ : Conn} {bytes : Bytes} {uid₀ : ℤ}
    (hhead : r.next c₀ bytes = .head) (h : r.Exact) :
    (r.apply (.read c₀ bytes (some uid₀))).Exact ↔
      (r.session c₀)._isStop = false ∧ ∀ S uid, r.mgr S uid = some c₀ → uid = uid₀ := by
  constructor
  · intro hex
    refine ⟨?_, fun S uid hm => ?_⟩
    · have hself := hex c₀.srv uid₀ c₀ (by rw [mgr_apply_login, if_pos ⟨rfl, rfl⟩])
      rcases (live_login_iff hhead).1 hself with ⟨-, -, hopen⟩ | ⟨hne, -⟩
      · exact hopen
      · exact absurd rfl hne
    · -- an old entry under another uid would still be there
      by_contra huid
      have hold := hex S uid c₀ (by rwa [mgr_apply_login, if_neg fun hu => huid hu.2])
      rcases (live_login_iff hhead).1 hold with ⟨-, heq, -⟩ | ⟨hne, -⟩
      · exact huid heq
      · exact hne rfl
  · rintro ⟨hopen, hsame⟩ S uid c hm
    rw [mgr_apply_login] at hm
    rw [live_login_iff hhead]
    split_ifs at hm with hu
    · exact .inl ⟨(Option.some.inj hm).symm, hu.2, hopen⟩
    · by_cases hc : c = c₀
      · subst hc
        exact .inl ⟨rfl, hsame S uid hm, hopen⟩
      · exact .inr ⟨hc, h S uid c hm⟩

/-- After an event that meets its condition, and after no other, every entry is live. -/
lemma exact_apply_iff (hl : Local r) (hen : r.Enabled e) (h : r.Exact) :
    (r.apply e).Exact ↔ r.KeepsExact e := by
  cases e with
  | accept c₀ =>
    exact iff_of_true (fun S uid c hm => (live_accept_iff hl hen).2 (h S uid c hm)) trivial
  | read c₀ bytes login =>
    cases login with
    | none =>
      constructor
      · -- an entry of a session whose length was refused would not be live
        intro hex hstop S uid hm
        have hlive := hex S uid c₀ (by rwa [apply, mgr_readDone])
        exact ((live_read_iff hen.1).1 hlive).2 rfl hstop
      · intro hun S uid c hm
        rw [apply, mgr_readDone] at hm
        refine (live_read_iff hen.1).2 ⟨h S uid c hm, ?_⟩
        rintro rfl hstop
        exact hun hstop S uid hm
    | some uid₀ => exact exact_login_iff (hen.2 (by simp)) h
  | readError c₀ ec =>
    constructor
    · intro hex hun S uid hm
      have hlive := hex S uid c₀ (mgr_readError_eq_some_iff.2 ⟨hm, fun hrem => hun hrem.1⟩)
      exact (live_readError_iff.1 hlive).1 rfl
    · intro hun S uid c hm
      obtain ⟨hold, hnot⟩ := mgr_readError_eq_some_iff.1 hm
      have hlive := h S uid c hold
      refine live_readError_iff.2 ⟨?_, hlive⟩
      rintro rfl
      -- the uid that is removed is the one under which a live entry is found
      by_cases hrem : r.Unregisters c ec
      · exact hnot ⟨hrem, (hl.mgr_srv hold).symm, hlive.uid_eq.symm⟩
      · exact hun hrem S uid hold
  | writeError c₀ =>
    constructor
    · intro hex S uid hm
      exact (live_writeError_iff.1 (hex S uid c₀ (by rwa [apply, mgr_writeError]))).1 rfl
    · intro hun S uid c hm
      rw [apply, mgr_writeError] at hm
      refine live_writeError_iff.2 ⟨?_, h S uid c hm⟩
      rintro rfl
      exact hun S uid hm
  | skip => exact iff_of_true h trivial

end Exact

/-! ## Live connections that are found -/

/-- Every entry is live, and a user with a live connection to a server has an entry there and
gets what is published for the user there. -/
structure Routed (r : Registry) : Prop where
  exact : r.Exact
  registered : ∀ {uid c}, r.Live uid c → r.mgr c.srv uid ≠ none
  subscribed : ∀ {uid c}, r.Live uid c → r.subs c.srv uid

/-- No other live connection of its server is that of the same user. -/
def Alone (c : Conn) : Prop :=
  ∀ c', c'.srv = c.srv → r.Live (r.session c)._uid c' → c' = c

/-- The event keeps the entries live, it does not take the entry of a user who has another live
connection to the server, and it does not end the subscription of such a user. -/
def Careful (e : RegEvent) : Prop :=
  r.KeepsExact e ∧
    match e with
    | .readError c ec => r.Unregisters c ec → r.Alone c
    | .writeError c => (r.session c)._isAuthenticated ∧ 0 < (r.session c)._uid → r.Alone c
    | _ => True

section Routed

variable {r} {e : RegEvent}

/-- A session that is live after an event was live before it, or it is that of the login. -/
lemma live_of_live_apply (hl : Local r) (hen : r.Enabled e) {uid : ℤ} {c : Conn}
    (h : (r.apply e).Live uid c) : r.Live uid c ∨ ∃ bytes, e = .read c bytes (some uid) := by
  cases e with
  | accept c₀ => exact .inl ((live_accept_iff hl hen).1 h)
  | read c₀ bytes login =>
    cases login with
    | none => exact .inl ((live_read_iff hen.1).1 h).1
    | some uid₀ =>
      rcases (live_login_iff (hen.2 (by simp))).1 h with ⟨rfl, rfl, -⟩ | ⟨-, hold⟩
      · exact .inr ⟨bytes, rfl⟩
      · exact .inl hold
  | readError c₀ ec => exact .inl (live_readError_iff.1 h).2
  | writeError c₀ => exact .inl (live_writeError_iff.1 h).2
  | skip => exact .inl h

/-- **A careful event keeps every live connection found.** -/
theorem routed_apply (hl : Local r) (hen : r.Enabled e) (h : r.Routed) (hc : r.Careful e) :
    (r.apply e).Routed := by
  refine ⟨(exact_apply_iff hl hen h.exact).2 hc.1, fun {uid c} hlive => ?_, fun {uid c} hlive => ?_⟩
  · -- the entry of a live session can only be removed by the failure of another session
    rcases live_of_live_apply hl hen hlive with hold | ⟨bytes, rfl⟩
    · have hreg := h.registered hold
      cases e with
      | accept c₀ => exact hreg
      | read c₀ bytes login =>
        cases login with
        | none => rwa [apply, mgr_readDone]
        | some uid₀ =>
          rw [mgr_apply_login]
          split_ifs
          · simp
          · exact hreg
      | readError c₀ ec =>
        obtain ⟨c', hc'⟩ := Option.ne_none_iff_exists'.1 hreg
        have hkept : (r.readError c₀ ec).mgr c.srv uid = some c' := by
          refine mgr_readError_eq_some_iff.2 ⟨hc', ?_⟩
          rintro ⟨hun, hS, rfl⟩
          obtain rfl := hc.2 hun c hS hold
          exact (live_readError_iff.1 hlive).1 rfl
        rw [apply, hkept]
        simp
      | writeError c₀ => rwa [apply, mgr_writeError]
      | skip => exact hreg
    · rw [mgr_apply_login, if_pos ⟨rfl, rfl⟩]
      simp
  · -- and its subscription can only be ended by the close of another session
    rcases live_of_live_apply hl hen hlive with hold | ⟨bytes, rfl⟩
    · have hsub := h.subscribed hold
      cases e with
      | accept c₀ => exact hsub
      | read c₀ bytes login =>
        cases login with
        | none => rwa [apply, subs_readDone]
        | some uid₀ =>
          rw [apply, subs_login, subs_readDone]
          split_ifs
          · rfl
          · exact hsub
      | readError c₀ ec => rwa [apply, subs_readError]
      | writeError c₀ =>
        rw [apply, subs_writeError]
        split_ifs with hun
        · -- the only connection of the user would be the one that is closed
          obtain ⟨hauth, hS, hu⟩ := hun
          obtain rfl := hc.2 hauth c hS (hu ▸ hold)
          exact absurd rfl (live_writeError_iff.1 hlive).1
        · exact hsub
      | skip => exact hsub
    · rw [apply, subs_login, if_pos ⟨rfl, rfl⟩]

/-- The only live connection of a user is the entry of its server, which gets what is published
for the user, and no other server has an entry of the user. -/
lemma Routed.of_unique (h : r.Routed) (hl : Local r) {uid : ℤ} {c : Conn}
    (hunique : ∀ c', r.Live uid c' ↔ c' = c) :
    r.mgr c.srv uid = some c ∧ r.subs c.srv uid ∧ ∀ S, S ≠ c.srv → r.mgr S uid = none := by
  have hlive := (hunique c).2 rfl
  refine ⟨?_, h.subscribed hlive, fun S hS => ?_⟩
  · obtain ⟨c', hc'⟩ := Option.ne_none_iff_exists'.1 (h.registered hlive)
    rwa [(hunique c').1 (h.exact _ _ _ hc')] at hc'
  · by_contra hne
    obtain ⟨c', hc'⟩ := Option.ne_none_iff_exists'.1 hne
    obtain rfl := (hunique c').1 (h.exact _ _ _ hc')
    exact hS (hl.mgr_srv hc').symm

end Routed

end Registry

end WeChat
