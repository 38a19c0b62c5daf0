/-
# The sessions that a server keeps

`CServer::start` enters a new session in `_sessions` only after it has armed its first read, on
the thread of the acceptor; the read and the write handlers of the session, which take it out
again, run on the thread of another `io_context`.  An entry is left behind exactly when a session
is entered after its chain has ended, or when the last of its handlers ends without a call of
`closeSession`.
-/
import Mathlib.Data.Finset.Insert
import WeChat.Chat.System
import WeChat.Chat.WriteChain

namespace WeChat

namespace CServer

open Wire Transition CSession

/-- A `CSession` as its handlers see it. -/
structure Handlers where
  /-- The accept handler has called `CSession::start`. -/
  started : Bool
  /-- The read that is armed. -/
  reading : Reading
  writes : WriteState
  /-- `closeSession` has been called for it. -/
  closed : Bool

/-- The state of a `CServer` and of the sessions that it has made.  The identifiers of sessions
are random and taken to be distinct, so a session stands for its identifier. -/
structure Server where
  _sessions : Finset Conn
  /-- The session that the accept handler has started and not yet entered. -/
  accepting : Option Conn
  session : Conn → Handlers

/-- A server that has accepted nothing. -/
def Server.init : Server := ⟨∅, none, fun _ => ⟨false, .stopped, .init, false⟩⟩

inductive Event
  /-- A connection is accepted, and the accept handler starts its session. -/
  | accept (c : Conn)
  /-- The accept handler enters the session, and listens for the next connection. -/
  | insert
  /-- The armed read of a session completes with the bytes that it asked for. -/
  | read (c : Conn) (bytes : Bytes)
  | readError (c : Conn) (ec : ReadError)
  /-- Some thread calls `send`, or a write goes on or completes. -/
  | write (c : Conn) (e : WriteEvent)

/-- A change of one session. -/
def Server.set (s : Server) (c : Conn) (ses : Handlers) : Server :=
  { s with session := Function.update s.session c ses }

/-- The next read of a session is armed, or none is. -/
def Server.arm (s : Server) (c : Conn) (reading : Reading) : Server :=
  s.set c { s.session c with reading := reading }

/-- `CServer::closeSession`. -/
def Server.closeSession (s : Server) (c : Conn) : Server :=
  { s.set c { s.session c with closed := true } with _sessions := s._sessions.erase c }

/-- The error branches of `readHead` and `readBody`. -/
def Server.readError (s : Server) (c : Conn) (ec : ReadError) : Server :=
  match (s.session c).reading with
  | .head =>
    if ec = .eof ∨ ec = .connectionReset then (s.arm c .stopped).closeSession c
    else s.arm c .stopped
  | _ => (s.arm c .stopped).closeSession c

/-- One event at a server.  What the sockets deliver is arbitrary. -/
def step (s : Server) : Event → Option Server
  | .accept c =>
    if s.accepting = none ∧ (s.session c).started = false then
      some { s.set c ⟨true, .head, .init, false⟩ with accepting := some c }
    else none
  | .insert =>
    match s.accepting with
    | none => none
    | some c => some { s with _sessions := insert c s._sessions, accepting := none }
  | .read c bytes =>
    if (s.session c).reading.want = some bytes.length then
      let next := (onRead (s.session c).reading bytes).2
      some (if next = .stopped then (s.arm c .stopped).closeSession c else s.arm c next)
    else none
  | .readError c ec => if (s.session c).reading = .stopped then none else some (s.readError c ec)
  | .write c e =>
    if (s.session c).started then
      (writeStep (s.session c).writes e).map fun writes =>
        let s' := s.set c { s.session c with writes := writes }
        match e with
        | .complete _ false => s'.closeSession c
        | _ => s'
    else none

/-! ## Sessions that are left behind -/

namespace Server

variable (s : Server) (c : Conn)

/-- `closeSession` has been called for the session, or its read chain has stopped. -/
def Ended : Prop :=
  (s.session c).closed = true ∨ (s.session c).started = true ∧ (s.session c).reading = .stopped

/-- All handlers of the session have run: the accept handler, the read and the write. -/
def Settled : Prop :=
  s.accepting ≠ some c ∧ (s.session c).reading = .stopped ∧ (s.session c).writes.outstanding = []

/-- No ended session is kept. -/
def KeepsLive : Prop := ∀ c, s.Ended c → s.Settled c → c ∉ s._sessions

end Server

/-- A session is not entered when its chain has stopped and no write is outstanding.  A header
does not fail with an unknown code, and the last write does not complete after the chain has
stopped, unless the accept handler has still to run, a write is outstanding, or the session is
not in `_sessions`. -/
def Reported (s : Server) : Event → Prop
  | .insert => ∀ c, s.accepting = some c →
      (s.session c).reading ≠ .stopped ∨ (s.session c).writes.outstanding ≠ []
  | .readError c ec => (s.session c).reading = .head → ec = .other →
      s.accepting = some c ∨ (s.session c).writes.outstanding ≠ [] ∨ c ∉ s._sessions
  | .write c (.complete _ true) => (s.session c).writes._send_queue.tail = [] →
      s.accepting = some c ∨ (s.session c).reading ≠ .stopped ∨ c ∉ s._sessions
  | _ => True

/-- The handlers of the sessions that are not started have nothing to run. -/
structure Handled (s : Server) : Prop where
  chained : ∀ c, Chained (s.session c).writes
  accepting : ∀ c, s.accepting = some c → (s.session c).started = true
  reading : ∀ c, (s.session c).reading ≠ .stopped → (s.session c).started = true

variable {s s' : Server} {c : Conn} {e : Event}

/-! ## What the events do -/

/-- What an event needs, and the server after it. -/
inductive Effect (s : Server) : Event → Server → Prop
  | accepted (c : Conn) (accepting : s.accepting = none) :
    Effect s (.accept c) { s.set c ⟨true, .head, .init, false⟩ with accepting := some c }
  | inserted (c : Conn) (accepting : s.accepting = some c) :
    Effect s .insert { s with _sessions := insert c s._sessions, accepting := none }
  | goesOn (c : Conn) (bytes : Bytes) (next : Reading)
      (reading : (s.session c).reading ≠ .stopped) (live : next ≠ .stopped) :
    Effect s (.read c bytes) (s.arm c next)
  | malformed (c : Conn) (bytes : Bytes) (reading : (s.session c).reading ≠ .stopped) :
    Effect s (.read c bytes) ((s.arm c .stopped).closeSession c)
  | lost (c : Conn) (ec : ReadError) (reading : (s.session c).reading ≠ .stopped)
      (known : (s.session c).reading = .head → ec ≠ .other) :
    Effect s (.readError c ec) ((s.arm c .stopped).closeSession c)
  | unreported (c : Conn) (reading : (s.session c).reading = .head) :
    Effect s (.readError c .other) (s.arm c .stopped)
  | wrote (c : Conn) (e : WriteEvent) (writes : WriteState)
      (started : (s.session c).started = true)
      (write : writeStep (s.session c).writes e = some writes)
      (unbroken : ∀ i, e ≠ .complete i false) :
    Effect s (.write c e) (s.set c { s.session c with writes := writes })
  | broken (c : Conn) (i : ℕ) (writes : WriteState) (started : (s.session c).started = true)
      (write : writeStep (s.session c).writes (.complete i false) = some writes) :
    Effect s (.write c (.complete i false))
      ((s.set c { s.session c with writes := writes }).closeSession c)

/-- An unknown error in a header is the one that the server is not told. -/
lemma effect_readError {ec : ReadError} (hreading : (s.session c).reading ≠ .stopped) :
    Effect s (.readError c ec) (s.readError c ec) := by
  rw [Server.readError]
  split
  · rename_i hhead
    cases ec with
    | eof => exact .lost c .eof hreading nofun
    | connectionReset => exact .lost c .connectionReset hreading nofun
    | other => exact .unreported c hhead
  · rename_i hhead
    exact .lost c ec hreading fun h => absurd h hhead

lemma effect_of_step (hstep : step s e = some s') : Effect s e s' := by
  cases e with
  | accept c =>
    simp only [step] at hstep
    split at hstep
    · rename_i h
      exact Option.some.inj hstep ▸ .accepted c h.1
    · cases hstep
  | insert =>
    simp only [step] at hstep
    split at hstep
    · cases hstep
    · rename_i c h
      exact Option.some.inj hstep ▸ .inserted c h
  | read c bytes =>
    simp only [step] at hstep
    split at hstep
    · rename_i hwant
      obtain rfl := Option.some.inj hstep
      have hreading : (s.session c).reading ≠ .stopped := by
        intro hstop
        rw [hstop] at hwant
        cases hwant
      split
      · exact .malformed c bytes hreading
      · rename_i hnext
        exact .goesOn c bytes _ hreading hnext
    · cases hstep
  | readError c ec =>
    simp only [step] at hstep
    split at hstep
    · cases hstep
    · rename_i h
      exact Option.some.inj hstep ▸ effect_readError h
  | write c e =>
    simp only [step] at hstep
    split at hstep
    · rename_i hstarted
      obtain ⟨writes, hwrite, rfl⟩ := Option.map_eq_some_iff.1 hstep
      split
      · exact .broken c _ writes hstarted hwrite
      · rename_i hunbroken
        exact .wrote c e writes hstarted hwrite hunbroken
    · cases hstep

/-! ## What an event leaves alone -/

@[simp] lemma Server.session_set_self (s : Server) (c : Conn) (ses : Handlers) :
    (s.set c ses).session c = ses := Function.update_self ..

lemma Server.session_set_of_ne (s : Server) {c c' : Conn} (h : c' ≠ c) (ses : Handlers) :
    (s.set c ses).session c' = s.session c' := Function.update_of_ne h ..

lemma Server.not_mem_closeSession (s : Server) (c : Conn) : c ∉ (s.closeSession c)._sessions :=
  Finset.notMem_erase _ _

/-- The sessions other than `c` are as they were, up to those that are entered. -/
structure Aside (s s' : Server) (c : Conn) : Prop where
  session : ∀ c', c' ≠ c → s'.session c' = s.session c'
  accepting : ∀ c', c' ≠ c → s.accepting = some c' → s'.accepting = some c'
  sessions : ∀ c', c' ≠ c → c' ∈ s'._sessions → c' ∈ s._sessions

lemma aside_set (s : Server) (c : Conn) (ses : Handlers) : Aside s (s.set c ses) c :=
  ⟨fun _ hc => s.session_set_of_ne hc ses, fun _ _ h => h, fun _ _ h => h⟩

lemma aside_arm (s : Server) (c : Conn) (reading : Reading) : Aside s (s.arm c reading) c :=
  aside_set s c _

lemma Aside.closeSession (h : Aside s s' c) : Aside s (s'.closeSession c) c where
  session c' hc := (s'.session_set_of_ne hc _).trans (h.session c' hc)
  accepting c' hc hacc := h.accepting c' hc hacc
  sessions c' hc hmem := h.sessions c' hc (Finset.mem_of_mem_erase hmem)

/-- Only the session of an event can be left behind by it. -/
lemma Aside.keepsLive_iff (haside : Aside s s' c) (h : s.KeepsLive) :
    s'.KeepsLive ↔ (s'.Ended c → s'.Settled c → c ∉ s'._sessions) := by
  refine ⟨fun h' => h' c, fun hc c' => ?_⟩
  by_cases hne : c' = c
  · rw [hne]
    exact hc
  · rintro hended ⟨hacc, hreading, hwrites⟩ hmem
    rw [haside.session c' hne] at hreading hwrites
    rw [Server.Ended, haside.session c' hne] at hended
    refine h c' hended ⟨fun hacc' => hacc ?_, hreading, hwrites⟩ (haside.sessions c' hne hmem)
    exact haside.accepting c' hne hacc'

lemma Aside.keepsLive_closeSession (haside : Aside s s' c) (h : s.KeepsLive) :
    (s'.closeSession c).KeepsLive :=
  (haside.closeSession.keepsLive_iff h).2 fun _ _ => s'.not_mem_closeSession c

/-! ## The invariant of the handlers -/

lemma handled_init : Handled .init := ⟨fun _ => chained_init, nofun, fun _ h => absurd rfl h⟩

/-- An event at a session that is started. -/
lemma Handled.of_aside (h : Handled s) (haside : ∀ c', c' ≠ c → s'.session c' = s.session c')
    (hacc : ∀ c', c' ≠ c → s'.accepting = some c' → s.accepting = some c')
    (hchained : Chained (s'.session c).writes) (hstarted : (s'.session c).started = true) :
    Handled s' := by
  refine ⟨fun c' => ?_, fun c' hacc' => ?_, fun c' hreading => ?_⟩
  · rcases eq_or_ne c' c with rfl | hne
    · exact hchained
    · exact haside c' hne ▸ h.chained c'
  · rcases eq_or_ne c' c with rfl | hne
    · exact hstarted
    · exact haside c' hne ▸ h.accepting c' (hacc c' hne hacc')
  · rcases eq_or_ne c' c with rfl | hne
    · exact hstarted
    · rw [haside c' hne] at hreading ⊢
      exact h.reading c' hreading

lemma Handled.set (h : Handled s) {ses : Handlers} (hchained : Chained ses.writes)
    (hstarted : ses.started = true) : Handled (s.set c ses) :=
  h.of_aside (aside_set s c ses).session (fun _ _ hacc => hacc)
    (by rwa [Server.session_set_self]) (by rwa [Server.session_set_self])

lemma Handled.closeSession (h : Handled s) (hstarted : (s.session c).started = true) :
    Handled (s.closeSession c) := by
  refine h.of_aside (c := c) (fun c' hc => s.session_set_of_ne hc _) (fun _ _ hacc => hacc) ?_ ?_
  · simpa only [Server.closeSession, Server.session_set_self] using h.chained c
  · simpa only [Server.closeSession, Server.session_set_self] using hstarted

lemma Handled.arm (h : Handled s) (hstarted : (s.session c).started = true) (reading : Reading) :
    Handled (s.arm c reading) :=
  h.set (h.chained c) hstarted

lemma Handled.arm_closeSession (h : Handled s) (hstarted : (s.session c).started = true)
    (reading : Reading) : Handled ((s.arm c reading).closeSession c) :=
  (h.arm hstarted reading).closeSession (by rwa [Server.arm, Server.session_set_self])

lemma handled_step (h : Handled s) (hstep : step s e = some s') : Handled s' := by
  cases effect_of_step hstep with
  | accepted c accepting =>
    refine h.of_aside (aside_set s c ⟨true, .head, .init, false⟩).session (fun c' hne hacc => ?_)
      ?_ ?_
    · exact absurd (Option.some.inj hacc).symm hne
    · rw [Server.session_set_self]
      exact chained_init
    · rw [Server.session_set_self]
  | inserted c accepting => exact ⟨h.chained, nofun, h.reading⟩
  | goesOn c bytes next reading live => exact h.arm (h.reading c reading) next
  | malformed c bytes reading => exact h.arm_closeSession (h.reading c reading) .stopped
  | lost c ec reading known => exact h.arm_closeSession (h.reading c reading) .stopped
  | unreported c reading => exact h.arm (h.reading c (by rw [reading]; simp)) .stopped
  | wrote c e writes started write unbroken => exact h.set ((h.chained c).step write) started
  | broken c i writes started write =>
    have hset : Handled (s.set c { s.session c with writes := writes }) :=
      h.set ((h.chained c).step write) started
    exact hset.closeSession (by rwa [Server.session_set_self])

/-! ## One event -/

/-- The session that the accept handler enters is left behind when it has ended and has no
handler to run. -/
lemma keepsLive_inserted_iff (hh : Handled s) (h : s.KeepsLive) (hacc : s.accepting = some c) :
    Server.KeepsLive { s with _sessions := insert c s._sessions, accepting := none } ↔
      Reported s .insert := by
  have hstarted := hh.accepting c hacc
  have haside : Aside s { s with _sessions := insert c s._sessions, accepting := none } c := by
    refine ⟨fun _ _ => rfl, fun c' hne hacc' => ?_, fun c' hne hmem => ?_⟩
    · exact absurd (Option.some.inj (hacc'.symm.trans hacc)) hne
    · exact Finset.mem_of_mem_insert_of_ne hmem hne
  rw [haside.keepsLive_iff h]
  simp only [Server.Ended, Server.Settled, Reported, hacc, hstarted, Option.some.injEq,
    Finset.mem_insert_self, not_true, true_and, ne_eq, reduceCtorEq, not_false_eq_true,
    forall_eq']
  tauto

/-- A header that fails with an unknown code leaves its session behind when nothing else is
under way. -/
lemma keepsLive_unreported_iff (hh : Handled s) (h : s.KeepsLive)
    (hhead : (s.session c).reading = .head) :
    (s.arm c .stopped).KeepsLive ↔ Reported s (.readError c .other) := by
  have hstarted := hh.reading c (by rw [hhead]; simp)
  rw [(aside_arm s c .stopped).keepsLive_iff h, Reported]
  simp only [Server.Ended, Server.Settled, Server.arm, Server.session_set_self, hhead, hstarted]
  change _ → s.accepting ≠ some c ∧ _ → c ∉ s._sessions ↔ _
  tauto

/-- A write leaves its session behind when it is the last one of a session that has ended. -/
lemma keepsLive_wrote_iff {e : WriteEvent} {writes : WriteState} (hh : Handled s)
    (h : s.KeepsLive) (hstarted : (s.session c).started = true)
    (hwrite : writeStep (s.session c).writes e = some writes)
    (hunbroken : ∀ i, e ≠ .complete i false) :
    (s.set c { s.session c with writes := writes }).KeepsLive ↔ Reported s (.write c e) := by
  have haside := aside_set s c { s.session c with writes := writes }
  -- an event after which no write is outstanding only if none was before
  have hquiet : (writes.outstanding = [] → (s.session c).writes.outstanding = []) →
      (s.set c { s.session c with writes := writes }).KeepsLive := by
    refine fun hout => (haside.keepsLive_iff h).2 fun hended ⟨hacc, hreading, hwrites⟩ => ?_
    simp only [Server.Ended, Server.session_set_self] at hended hreading hwrites
    exact h c hended ⟨hacc, hreading, hout hwrites⟩
  cases e with
  | send msgData =>
    obtain rfl := Option.some.inj hwrite
    exact iff_of_true (hquiet WriteState.outstanding_of_send) trivial
  | transfer i n =>
    exact iff_of_true (hquiet (outstanding_transfer_eq_nil_iff hwrite).1) trivial
  | complete i ok =>
    cases ok with
    | false => exact absurd rfl (hunbroken i)
    | true =>
      have hlast := (hh.chained c).outstanding_complete_eq_nil_iff hwrite
      rw [haside.keepsLive_iff h, Reported]
      simp only [Server.Ended, Server.Settled, Server.session_set_self, hlast, hstarted]
      change _ → s.accepting ≠ some c ∧ _ → c ∉ s._sessions ↔ _
      tauto

/-- **One event** keeps no ended session exactly when its end is reported. -/
lemma keepsLive_step (hh : Handled s) (h : s.KeepsLive) (hstep : step s e = some s') :
    s'.KeepsLive ↔ Reported s e := by
  cases effect_of_step hstep with
  | accepted c accepting =>
    have haside : Aside s { s.set c ⟨true, .head, .init, false⟩ with accepting := some c } c := by
      refine ⟨(aside_set s c _).session, fun c' _ hacc => ?_, fun _ _ hmem => hmem⟩
      exact absurd (accepting.symm.trans hacc) (by simp)
    -- its accept handler has still to run
    have hkeeps := (haside.keepsLive_iff h).2 fun _ hsettled => absurd rfl hsettled.1
    exact iff_of_true hkeeps trivial
  | inserted c accepting => exact keepsLive_inserted_iff hh h accepting
  | goesOn c bytes next reading live =>
    refine iff_of_true (((aside_arm s c next).keepsLive_iff h).2 fun _ hsettled => ?_) trivial
    refine absurd ?_ live
    simpa only [Server.arm, Server.session_set_self] using hsettled.2.1
  | malformed c bytes reading =>
    exact iff_of_true ((aside_arm s c .stopped).keepsLive_closeSession h) trivial
  | lost c ec reading known =>
    exact iff_of_true ((aside_arm s c .stopped).keepsLive_closeSession h)
      fun hhead hother => absurd hother (known hhead)
  | unreported c reading => exact keepsLive_unreported_iff hh h reading
  | wrote c e writes started write unbroken => exact keepsLive_wrote_iff hh h started write unbroken
  | broken c i writes started write =>
    exact iff_of_true ((aside_set s c _).keepsLive_closeSession h) trivial

/-- **The server keeps no ended connection exactly when the end of every session is
reported**: no session is entered after its handlers have run, no header of a listed session
fails with an unknown code as its last handler, and no write is the last handler of a listed
session whose chain has stopped. -/
theorem keepsLive_iff_reported {es : List Event} {s : Server} (hrun : run step .init es = some s) :
    AllStates step Server.KeepsLive .init es ↔ AllSteps step Reported .init es :=
  allStates_iff_allSteps (I := Handled) (fun _ _ _ => handled_step)
    (fun _ _ _ => keepsLive_step) hrun handled_init fun c _ _ => Finset.notMem_empty c

/-- A connection is accepted and entered, and then lost. -/
theorem keepsLive_iff_reported_lost :
    AllStates step Server.KeepsLive .init [.accept ⟨0, 0⟩, .insert, .readError ⟨0, 0⟩ .eof] ↔
      AllSteps step Reported .init [.accept ⟨0, 0⟩, .insert, .readError ⟨0, 0⟩ .eof] :=
  keepsLive_iff_reported rfl

/-- The peer is gone before the accept handler enters the session. -/
theorem not_keepsLive :
    ¬ ∀ (es : List Event) (s : Server), run step .init es = some s →
      AllStates step Server.KeepsLive .init es := by
  intro h
  have hall := h [.accept ⟨0, 0⟩, .readError ⟨0, 0⟩ .eof, .insert] _ rfl
  refine hall.last rfl ⟨0, 0⟩ (.inl rfl) ⟨nofun, rfl, rfl⟩ ?_
  exact Finset.mem_insert_self _ _

end CServer

end WeChat
