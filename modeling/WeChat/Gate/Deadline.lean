/-
# The deadline of a connection to the gateway

`CServer::start` makes the next `HttpConnection` before it waits for a client, and the timer
`_deadLine` of a connection expires 60 seconds after it was made, not after it was accepted.
`checkDeadLine` waits for the timer once the request has been read, and closes the socket; the
end of the write of the response cancels the wait.  So the time that a client has left depends on
the client before it.  Time is counted in seconds.
-/
import WeChat.Lib.Transition

namespace WeChat

namespace GateServer

namespace Deadline

open Transition

/-- The time from the construction of `_deadLine` to its expiry. -/
def expiry : ℕ := 60

inductive Reading
  | pending
  /-- There was an error, and nothing is done with the connection any more. -/
  | failed
  /-- `handleRequest` has handed the connection to `LogicSystem`, or dropped it. -/
  | done
deriving DecidableEq

/-- The write of the response. -/
inductive Reply
  | none
  | writing
  | written
  | failed
deriving DecidableEq

/-- The wait for `_deadLine`. -/
inductive Wait
  | unset
  | armed
  /-- The handler has been called, or cancelled. -/
  | over
deriving DecidableEq

/-- `HttpConnection`, once it is accepted. -/
structure Connection where
  /-- When it was made. -/
  made : ℕ
  reading : Reading
  reply : Reply
  _deadLine : Wait
  /-- The timer has closed the socket. -/
  closed : Bool
  /-- The timer has done so before the response was written. -/
  cut : Bool
deriving DecidableEq

structure Server where
  now : ℕ
  /-- When the connection was made that waits to be accepted. -/
  next : ℕ
  connections : List Connection

inductive Event
  /-- A second goes by. -/
  | tick
  | accept
  | acceptError
  | read (i : ℕ)
  | readError (i : ℕ)
  | checkDeadLine (i : ℕ)
  /-- A worker calls `response`. -/
  | response (i : ℕ)
  | written (i : ℕ)
  | writeError (i : ℕ)
  /-- The timer has expired, and its handler is called. -/
  | expire (i : ℕ)

/-- A server that is started at some time. -/
def Server.init (start : ℕ) : Server := ⟨start, start, []⟩

/-- `_deadLine.cancel()`, which comes too late for a timer that has expired. -/
def Connection.cancel (c : Connection) (now : ℕ) : Connection :=
  if c._deadLine = .armed ∧ now < c.made + expiry then { c with _deadLine := .over } else c

/-- What becomes of a connection, at some time; `none` is an event that cannot happen. -/
def Connection.next (c : Connection) (now : ℕ) : Event → Option Connection
  | .read _ => if c.reading = .pending then some { c with reading := .done } else none
  | .readError _ => if c.reading = .pending then some { c with reading := .failed } else none
  | .checkDeadLine _ =>
    if c.reading = .done ∧ c._deadLine = .unset then some { c with _deadLine := .armed } else none
  | .response _ =>
    if c.reading = .done ∧ c.reply = .none then some { c with reply := .writing } else none
  | .written _ =>
    if c.reply = .writing ∧ c.closed = false then some ({ c with reply := .written }.cancel now)
    else none
  | .writeError _ =>
    if c.reply = .writing then some ({ c with reply := .failed }.cancel now) else none
  | .expire _ =>
    if c._deadLine = .armed ∧ c.made + expiry ≤ now then
      some { c with
        _deadLine := .over
        closed := true
        cut := c.reply = .none ∨ c.reply = .writing }
    else none
  | _ => none

/-- The connection of an event. -/
def Event.index : Event → Option ℕ
  | read i => some i
  | readError i => some i
  | checkDeadLine i => some i
  | response i => some i
  | written i => some i
  | writeError i => some i
  | expire i => some i
  | _ => none

/-- `CServer::start`, at the end of an accept. -/
def Server.start (s : Server) : Server := { s with next := s.now }

def step (s : Server) (e : Event) : Option Server :=
  match e with
  | .tick => some { s with now := s.now + 1 }
  | .accept =>
    some { s.start with
      connections := s.connections ++ [⟨s.next, .pending, .none, .unset, false, false⟩] }
  | .acceptError => some s.start
  | _ => do
    let i ← e.index
    let c ← s.connections[i]?
    let c' ← c.next s.now e
    some { s with connections := s.connections.set i c' }

/-- The client that is accepted next is not cut off by the timer within so many seconds, whatever
happens. -/
def Guaranteed (s : Server) (d : ℕ) : Prop :=
  ∀ es t c, run step s (.accept :: es) = some t → t.now < s.now + d →
    t.connections[s.connections.length]? = some c → c.cut = false

/-! ## What a step keeps -/

section Step

variable {s s' t : Server} {e : Event} {c c' : Connection} {now i m : ℕ}

lemma cancel_made (c : Connection) (now : ℕ) : (c.cancel now).made = c.made := by
  rw [Connection.cancel]
  split_ifs <;> rfl

lemma cancel_cut (c : Connection) (now : ℕ) : (c.cancel now).cut = c.cut := by
  rw [Connection.cancel]
  split_ifs <;> rfl

/-- A connection keeps the time when it was made, and is cut off after its timer has expired. -/
lemma next_spec (h : c.next now e = some c') :
    c'.made = c.made ∧ (c'.cut = true → c.cut = true ∨ c.made + expiry ≤ now) := by
  cases e with
  | tick => cases h
  | accept => cases h
  | acceptError => cases h
  | read i =>
    simp only [Connection.next] at h
    split_ifs at h
    exact Option.some.inj h ▸ ⟨rfl, .inl⟩
  | readError i =>
    simp only [Connection.next] at h
    split_ifs at h
    exact Option.some.inj h ▸ ⟨rfl, .inl⟩
  | checkDeadLine i =>
    simp only [Connection.next] at h
    split_ifs at h
    exact Option.some.inj h ▸ ⟨rfl, .inl⟩
  | response i =>
    simp only [Connection.next] at h
    split_ifs at h
    exact Option.some.inj h ▸ ⟨rfl, .inl⟩
  | written i =>
    simp only [Connection.next] at h
    split_ifs at h
    obtain rfl := Option.some.inj h
    rw [cancel_made, cancel_cut]
    exact ⟨rfl, .inl⟩
  | writeError i =>
    simp only [Connection.next] at h
    split_ifs at h
    obtain rfl := Option.some.inj h
    rw [cancel_made, cancel_cut]
    exact ⟨rfl, .inl⟩
  | expire i =>
    simp only [Connection.next] at h
    split_ifs at h with hexpired
    exact Option.some.inj h ▸ ⟨rfl, fun _ => .inr hexpired.2⟩

/-- What the events have in common. -/
inductive Effect (s : Server) : Event → Server → Prop
  | tick : Effect s .tick { s with now := s.now + 1 }
  | accept : Effect s .accept { s.start with
      connections := s.connections ++ [⟨s.next, .pending, .none, .unset, false, false⟩] }
  | acceptError : Effect s .acceptError s.start
  | next {e : Event} {i : ℕ} {c c' : Connection} (hi : s.connections[i]? = some c)
      (hnext : c.next s.now e = some c') :
      Effect s e { s with connections := s.connections.set i c' }

lemma effect_of_step (h : step s e = some s') : Effect s e s' := by
  have hone : ∀ i, s.connections[i]?.bind (fun c : Connection => (c.next s.now e).bind fun c' =>
      some { s with connections := s.connections.set i c' }) = some s' → Effect s e s' := by
    intro i h
    obtain ⟨c, hi, h⟩ := Option.bind_eq_some_iff.1 h
    obtain ⟨c', hnext, h⟩ := Option.bind_eq_some_iff.1 h
    exact Option.some.inj h ▸ .next hi hnext
  cases e with
  | tick => exact Option.some.inj h ▸ .tick
  | accept => exact Option.some.inj h ▸ .accept
  | acceptError => exact Option.some.inj h ▸ .acceptError
  | read i => exact hone i h
  | readError i => exact hone i h
  | checkDeadLine i => exact hone i h
  | response i => exact hone i h
  | written i => exact hone i h
  | writeError i => exact hone i h
  | expire i => exact hone i h

/-- The timers of the connections that were cut off have expired. -/
def Server.Sound (s : Server) : Prop :=
  ∀ c ∈ s.connections, c.cut = true → c.made + expiry ≤ s.now

lemma sound_step (hs : s.Sound) (h : step s e = some s') : s'.Sound := by
  cases effect_of_step h with
  | tick => exact fun c hc hcut => Nat.le_succ_of_le (hs c hc hcut)
  | accept =>
    intro c hc hcut
    rcases List.mem_append.1 hc with hc | hc
    · exact hs c hc hcut
    · obtain rfl := List.mem_singleton.1 hc
      cases hcut
  | acceptError => exact hs
  | next hi hnext =>
    intro c hc hcut
    obtain ⟨hmade, hcut'⟩ := next_spec hnext
    rcases List.mem_or_eq_of_mem_set hc with hc | rfl
    · exact hs c hc hcut
    · rw [hmade]
      exact (hcut' hcut).elim (hs _ (List.mem_of_getElem? hi)) id

/-- The connection with this number was made at this time. -/
def Server.MadeAt (s : Server) (i m : ℕ) : Prop := s.connections[i]?.map Connection.made = some m

lemma madeAt_step (hs : s.MadeAt i m) (h : step s e = some s') : s'.MadeAt i m := by
  obtain ⟨c, hc, hm⟩ := Option.map_eq_some_iff.1 hs
  cases effect_of_step h with
  | tick => exact hs
  | accept =>
    have hlt := (List.getElem?_eq_some_iff.1 hc).1
    rw [Server.MadeAt, List.getElem?_append_left hlt]
    exact hs
  | acceptError => exact hs
  | @next e j c₁ c' hj hnext =>
    rw [Server.MadeAt, List.getElem?_set]
    split_ifs with hij hlt
    · subst hij
      obtain rfl := Option.some.inj (hj.symm.trans hc)
      exact congrArg some ((next_spec hnext).1.trans hm)
    · subst hij
      exact absurd (List.getElem?_eq_some_iff.1 hc).1 hlt
    · exact hs

end Step

/-! ## The time that is left -/

/-- An accept ends. -/
def Event.Accepts : Event → Prop
  | accept => True
  | acceptError => True
  | _ => False

/-- The last accept of a run ended at this time, or there was none since the server was
started. -/
def LastAccept (start : ℕ) (es : List Event) (m : ℕ) : Prop :=
  (m = start ∧ ∀ e ∈ es, ¬ e.Accepts) ∨
    ∃ es₁ e es₂ s₁, es = es₁ ++ e :: es₂ ∧ run step (.init start) es₁ = some s₁ ∧ e.Accepts ∧
      m = s₁.now ∧ ∀ e ∈ es₂, ¬ e.Accepts

section Runs

variable {s s' t : Server} {e : Event} {es : List Event} {start m d : ℕ}

lemma next_step (hquiet : ¬ e.Accepts) (h : step s e = some s') : s'.next = s.next := by
  cases effect_of_step h with
  | accept => exact absurd trivial hquiet
  | acceptError => exact absurd trivial hquiet
  | _ => rfl

lemma next_run (hquiet : ∀ e ∈ es, ¬ e.Accepts) (hrun : run step s es = some t) :
    t.next = s.next := by
  have hall : AllSteps step (fun _ e => ¬ e.Accepts) s es := .of_forall (fun _ e => hquiet e) s
  exact run_induction (I := fun t : Server => t.next = s.next)
    (fun _ _ _ hs hok h => (next_step hok h).trans hs) hrun hall rfl

/-- The connection that waits was made at the end of the last accept. -/
lemma next_of_lastAccept (hrun : run step (.init start) es = some s)
    (hlast : LastAccept start es m) : s.next = m := by
  rcases hlast with ⟨rfl, hquiet⟩ | ⟨es₁, e, es₂, s₁, rfl, hrun₁, haccepts, rfl, hquiet⟩
  · exact next_run hquiet hrun
  · rw [run_append_of hrun₁] at hrun
    obtain ⟨s₂, he, hrun₂⟩ := run_cons_inv hrun
    rw [next_run hquiet hrun₂]
    cases e with
    | accept => exact Option.some.inj he ▸ rfl
    | acceptError => exact Option.some.inj he ▸ rfl
    | _ => exact haccepts.elim

lemma run_ticks (s : Server) (k : ℕ) :
    run step s (List.replicate k .tick) = some { s with now := s.now + k } := by
  induction k generalizing s with
  | zero => rfl
  | succ k ih =>
    rw [List.replicate_succ, run_cons (show step s .tick = some _ from rfl), ih]
    show some (⟨s.now + 1 + k, s.next, s.connections⟩ : Server) = _
    rw [Nat.add_right_comm, Nat.add_assoc]

/-- An event of the connection that was accepted last. -/
lemma step_last {now next : ℕ} {connections : List Connection} {c c' : Connection}
    (hindex : e.index = some connections.length) (hnext : c.next now e = some c') :
    step ⟨now, next, connections ++ [c]⟩ e = some ⟨now, next, connections ++ [c']⟩ := by
  have hget : (connections ++ [c])[connections.length]? = some c := by
    rw [List.getElem?_append_right (Nat.le_refl _), Nat.sub_self]
    rfl
  have hset : (connections ++ [c]).set connections.length c' = connections ++ [c'] := by
    rw [List.set_append_right _ _ (Nat.le_refl _), Nat.sub_self]
    rfl
  cases e with
  | tick => cases hindex
  | accept => cases hindex
  | acceptError => cases hindex
  | _ =>
    simp only [step, hindex, hget, hnext, hset, Option.bind_eq_bind, Option.bind_some]

/-- A client that sends its request at once is cut off when the timer expires, if nothing answers
it until then. -/
lemma exists_cut (s : Server) :
    ∃ es t c, run step s (.accept :: es) = some t ∧ t.now = max s.now (s.next + expiry) ∧
      t.connections[s.connections.length]? = some c ∧ c.cut = true := by
  let n := s.connections.length
  let k := s.next + expiry - s.now
  have hnow : s.now + k = max s.now (s.next + expiry) := by
    show s.now + (s.next + expiry - s.now) = _
    omega
  have hle : s.next + expiry ≤ s.now + k := by omega
  let c : Connection := ⟨s.next, .done, .none, .armed, false, false⟩
  let c' : Connection := ⟨s.next, .done, .none, .over, true, true⟩
  have haccept : step s .accept = some ⟨s.now, s.now,
      s.connections ++ [⟨s.next, .pending, .none, .unset, false, false⟩]⟩ := rfl
  have hread : step ⟨s.now, s.now, s.connections ++
      [⟨s.next, .pending, .none, .unset, false, false⟩]⟩ (.read n) =
        some ⟨s.now, s.now, s.connections ++ [⟨s.next, .done, .none, .unset, false, false⟩]⟩ :=
    step_last rfl rfl
  have harm : step ⟨s.now, s.now, s.connections ++
      [⟨s.next, .done, .none, .unset, false, false⟩]⟩ (.checkDeadLine n) =
        some ⟨s.now, s.now, s.connections ++ [c]⟩ := step_last rfl rfl
  have hwait := run_ticks ⟨s.now, s.now, s.connections ++ [c]⟩ k
  have hexpire : step ⟨s.now + k, s.now, s.connections ++ [c]⟩ (.expire n) =
      some ⟨s.now + k, s.now, s.connections ++ [c']⟩ :=
    step_last rfl (if_pos ⟨rfl, hle⟩)
  refine ⟨.read n :: .checkDeadLine n :: (List.replicate k .tick ++ [.expire n]),
    ⟨s.now + k, s.now, s.connections ++ [c']⟩, c', ?_, hnow, ?_, rfl⟩
  · rw [run_cons haccept, run_cons hread, run_cons harm, run_append_of hwait]
    exact run_cons hexpire []
  · show (s.connections ++ [c'])[s.connections.length]? = some c'
    rw [List.getElem?_append_right (Nat.le_refl _), Nat.sub_self]
    rfl

/-- **How long a client has.**  In every run of the server, and for every number of seconds, the
client that is accepted next is safe from the timer for that long, whatever happens, if and only
if this time is over 60 seconds after the accept before it, or after the start of the server.  So
after an accept that is 60 seconds old a client may be cut off at once. -/
theorem guaranteed_iff (hrun : run step (.init start) es = some s)
    (hlast : LastAccept start es m) (hd : 0 < d) :
    Guaranteed s d ↔ s.now + d ≤ m + expiry := by
  rw [← next_of_lastAccept hrun hlast]
  have hs : s.Sound := run_invariant (fun _ _ _ hs h => sound_step hs h) hrun
    fun c hc => absurd hc List.not_mem_nil
  constructor
  · intro hsafe
    by_contra hlate
    obtain ⟨es, t, c, hcut, hnow, hc, htrue⟩ := exists_cut s
    have hfalse := hsafe es t c hcut (by omega) hc
    rw [htrue] at hfalse
    cases hfalse
  · intro hle es t c hrun' hnow hc
    rw [← Bool.not_eq_true]
    intro hcut
    obtain ⟨s₁, haccept, hrest⟩ := run_cons_inv hrun'
    have hmade : s₁.MadeAt s.connections.length s.next := by
      obtain rfl := Option.some.inj haccept
      show ((s.connections ++ [_])[s.connections.length]?).map _ = _
      rw [List.getElem?_append_right (Nat.le_refl _), Nat.sub_self]
      rfl
    have hsound : t.Sound := run_invariant (fun _ _ _ hs h => sound_step hs h) hrun' hs
    have hkept : t.MadeAt s.connections.length s.next :=
      run_invariant (I := fun t : Server => t.MadeAt s.connections.length s.next)
        (fun _ _ _ hs h => madeAt_step hs h) hrest hmade
    obtain ⟨c', hc', hm⟩ := Option.map_eq_some_iff.1 hkept
    obtain rfl := Option.some.inj (hc.symm.trans hc')
    have hexpired := hsound c (List.mem_of_getElem? hc) hcut
    omega

end Runs

/-- Nobody has connected for a minute: the first client may be cut off within a second. -/
theorem guaranteed_iff_idle :
    ∃ s, run step (.init 0) (List.replicate 60 .tick) = some s ∧ ¬ Guaranteed s 1 := by
  have hrun := run_ticks (.init 0) 60
  have hlast : LastAccept 0 (List.replicate 60 .tick) 0 := by
    refine .inl ⟨rfl, fun e he => ?_⟩
    obtain rfl := List.eq_of_mem_replicate he
    exact id
  refine ⟨_, hrun, fun hsafe => ?_⟩
  exact absurd ((guaranteed_iff hrun hlast Nat.one_pos).1 hsafe) (by decide)

end Deadline

end GateServer

end WeChat
