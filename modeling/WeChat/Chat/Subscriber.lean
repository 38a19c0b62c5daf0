/-
# The subscriber connection to Redis

`RedisMgr` has one connection for its subscriptions.  Redis writes the confirmations of
`SUBSCRIBE` and `UNSUBSCRIBE` and the pushed messages to one stream of replies, and two readers
take replies from it: `subscriberLoop`, which passes messages to `_messageCallback`, and a call
of `subscribe` or `unsubscribe`, which frees whatever reply comes next.
-/
import WeChat.Lib.Transition
import Mathlib.Data.List.Sublists

namespace WeChat

namespace RedisMgr

open Transition

/-- A command that is written to `_subscriberContext`. -/
inductive Command
  | subscribe (channel : String)
  | unsubscribe (channel : String)

/-- The channels after a command. -/
def Command.run : Command → List String → List String
  | .subscribe channel, channels => if channel ∈ channels then channels else channel :: channels
  | .unsubscribe channel, channels => channels.filter (· ≠ channel)

/-- A reply of Redis: an array of three elements, whose first says what it is. -/
inductive Reply
  | confirmation (command : Command)
  | message (channel content : String)

/-- What the loop passes to `_messageCallback` for a reply. -/
def Reply.callback : Reply → Option (String × String)
  | .confirmation _ => none
  | .message channel content => some (channel, content)

/-- The subscriber connection, with the history of what was pushed and what was passed on. -/
structure Subscriber where
  /-- `startSubscriber` has connected, and the loop runs. -/
  running : Bool
  /-- The channels that Redis pushes to this connection. -/
  channels : List String
  /-- Commands on their way to Redis. -/
  commands : List Command
  /-- A call holds `_subscribeMutex` and waits for a reply. -/
  calling : Bool
  /-- Replies that Redis has written and nobody has read. -/
  stream : List Reply
  pushed : List (String × String)
  /-- The calls of `_messageCallback`. -/
  passed : List (String × String)

inductive SubscriberEvent
  | startSubscriber
  /-- A thread calls `subscribe` or `unsubscribe`, and its command is written. -/
  | call (command : Command)
  /-- Redis executes the next command and confirms it. -/
  | execute
  /-- Redis pushes a message that was published on a channel. -/
  | push (channel message : String)
  /-- The call that is under way reads the next reply, and returns. -/
  | reply
  /-- `subscriberLoop` reads the next reply. -/
  | loop

/-- Nothing is connected. -/
def Subscriber.init : Subscriber := ⟨false, [], [], false, [], [], []⟩

/-- One event at the subscriber connection. -/
def subscriberStep (s : Subscriber) : SubscriberEvent → Option Subscriber
  | .startSubscriber => some { s with running := true }
  | .call command =>
    if s.calling then none
    else if s.running then
      some { s with calling := true, commands := s.commands ++ [command] }
    -- without a context the call returns at once
    else some s
  | .execute =>
    match s.commands with
    | [] => none
    | command :: commands =>
      some { s with
        commands := commands
        channels := command.run s.channels
        stream := s.stream ++ [.confirmation command] }
  | .push channel message =>
    if channel ∈ s.channels then
      some { s with
        stream := s.stream ++ [.message channel message]
        pushed := s.pushed ++ [(channel, message)] }
    else none
  | .reply =>
    match s.calling, s.stream with
    | true, _ :: stream => some { s with calling := false, stream := stream }
    | _, _ => none
  | .loop =>
    match s.running, s.stream with
    | true, reply :: stream =>
      some { s with stream := stream, passed := s.passed ++ reply.callback.toList }
    | _, _ => none

/-! ## What is under way -/

/-- The pushed messages that nobody has read. -/
def Subscriber.unread (s : Subscriber) : List (String × String) :=
  s.stream.filterMap Reply.callback

/-- Every pushed message has been passed to `_messageCallback` once and in its order, or is
still in the stream. -/
def PassedOn (s : Subscriber) : Prop := s.pushed = s.passed ++ s.unread

/-- The reply that a call of `subscribe` or `unsubscribe` reads is not a pushed message. -/
def NotSwallowed (s : Subscriber) : SubscriberEvent → Prop
  | .reply => ∀ reply, s.stream.head? = some reply → reply.callback = none
  | _ => True

/-- What one event does to the messages: none, one more is pushed, the first unread one is
passed on, or it is swallowed. -/
inductive Moved (s : Subscriber) : SubscriberEvent → Subscriber → Prop
  | none {e : SubscriberEvent} {s' : Subscriber} (ok : NotSwallowed s e)
      (pushed : s'.pushed = s.pushed) (passed : s'.passed = s.passed)
      (unread : s'.unread = s.unread) : Moved s e s'
  | push {s' : Subscriber} (channel message : String)
      (pushed : s'.pushed = s.pushed ++ [(channel, message)]) (passed : s'.passed = s.passed)
      (unread : s'.unread = s.unread ++ [(channel, message)]) :
      Moved s (.push channel message) s'
  | pass {s' : Subscriber} (m : String × String) (pushed : s'.pushed = s.pushed)
      (passed : s'.passed = s.passed ++ [m]) (unread : s.unread = m :: s'.unread) :
      Moved s .loop s'
  | swallow {s' : Subscriber} (m : String × String) (lost : ¬ NotSwallowed s .reply)
      (pushed : s'.pushed = s.pushed) (passed : s'.passed = s.passed)
      (unread : s.unread = m :: s'.unread) : Moved s .reply s'

lemma moved_step {s s' : Subscriber} {e : SubscriberEvent}
    (hstep : subscriberStep s e = some s') : Moved s e s' := by
  cases e with
  | startSubscriber =>
    obtain rfl := Option.some.inj hstep
    exact .none trivial rfl rfl rfl
  | call command =>
    simp only [subscriberStep] at hstep
    split_ifs at hstep <;> obtain rfl := Option.some.inj hstep <;>
      exact .none trivial rfl rfl rfl
  | execute =>
    simp only [subscriberStep] at hstep
    split at hstep
    · cases hstep
    · obtain rfl := Option.some.inj hstep
      exact .none trivial rfl rfl (by simp [Subscriber.unread, Reply.callback])
  | push channel message =>
    simp only [subscriberStep, Option.ite_none_right_eq_some] at hstep
    obtain rfl := Option.some.inj hstep.2
    exact .push channel message rfl rfl (by simp [Subscriber.unread, Reply.callback])
  | reply =>
    simp only [subscriberStep] at hstep
    split at hstep
    · rename_i reply stream _ hstream
      obtain rfl := Option.some.inj hstep
      cases hreply : reply.callback with
      | none =>
        refine .none ?_ rfl rfl (by simp [Subscriber.unread, hstream, hreply])
        simpa [NotSwallowed, hstream] using hreply
      | some m =>
        refine .swallow m ?_ rfl rfl (by simp [Subscriber.unread, hstream, hreply])
        simp [NotSwallowed, hstream, hreply]
    · cases hstep
  | loop =>
    simp only [subscriberStep] at hstep
    split at hstep
    · rename_i reply stream _ hstream
      obtain rfl := Option.some.inj hstep
      cases hreply : reply.callback with
      | none =>
        exact .none trivial rfl (by simp) (by simp [Subscriber.unread, hstream, hreply])
      | some m =>
        exact .pass m rfl (by simp) (by simp [Subscriber.unread, hstream, hreply])
    · cases hstep

/-! ## Exactly once, and in order -/

/-- What was passed on and what is unread are among what was pushed, in its order. -/
def Ordered (s : Subscriber) : Prop := (s.passed ++ s.unread).Sublist s.pushed

lemma Ordered.step {s s' : Subscriber} {e : SubscriberEvent} (h : Ordered s)
    (hstep : subscriberStep s e = some s') : Ordered s' := by
  unfold Ordered at h ⊢
  cases moved_step hstep with
  | none ok pushed passed unread => rwa [pushed, passed, unread]
  | push channel message pushed passed unread =>
    rw [pushed, passed, unread, ← List.append_assoc]
    exact h.append (List.Sublist.refl _)
  | pass m pushed passed unread =>
    rw [unread] at h
    rw [pushed, passed]
    simpa using h
  | swallow m lost pushed passed unread =>
    rw [unread] at h
    rw [pushed, passed]
    exact ((List.sublist_cons_self m _).append_left _).trans h

/-- **One event** keeps every message exactly when it does not swallow one; what was swallowed
stays lost. -/
lemma passedOn_step {s s' : Subscriber} {e : SubscriberEvent} (h : Ordered s)
    (hstep : subscriberStep s e = some s') : PassedOn s' ↔ PassedOn s ∧ NotSwallowed s e := by
  unfold PassedOn
  cases moved_step hstep with
  | none ok pushed passed unread =>
    rw [pushed, passed, unread]
    exact (and_iff_left ok).symm
  | push channel message pushed passed unread =>
    rw [pushed, passed, unread, ← List.append_assoc, List.append_left_inj]
    exact (and_iff_left trivial).symm
  | pass m pushed passed unread =>
    rw [pushed, passed, unread, List.append_assoc, List.singleton_append]
    exact (and_iff_left trivial).symm
  | swallow m lost pushed passed unread =>
    refine iff_of_false (fun hpassed => ?_) fun hand => lost hand.2
    -- one message fewer than before, so not all that were pushed
    have hle := h.length_le
    have hlength := congrArg List.length hpassed
    rw [pushed, passed] at hlength
    rw [unread] at hle
    simp only [List.length_append, List.length_cons] at hle hlength
    omega

/-- **Every pushed message is passed to the callback once and in order, or still to be read,
exactly when no call of `subscribe` or `unsubscribe` reads a pushed message in place of its
confirmation.** -/
theorem passedOn_iff {es : List SubscriberEvent} {s : Subscriber}
    (hrun : run subscriberStep .init es = some s) :
    PassedOn s ↔ AllSteps subscriberStep NotSwallowed .init es := by
  rw [final_iff_allSteps (I := Ordered) (fun _ _ _ => Ordered.step) (fun _ _ _ => passedOn_step)
    hrun (List.Sublist.refl _)]
  exact and_iff_right rfl

/-- A user logs in, and then a message for the user arrives. -/
theorem passedOn_iff_login :
    PassedOn ⟨true, ["user:1"], [], false, [], [("user:1", "m")], [("user:1", "m")]⟩ ↔
      AllSteps subscriberStep NotSwallowed .init [.startSubscriber, .call (.subscribe "user:1"),
        .execute, .reply, .push "user:1" "m", .loop] :=
  passedOn_iff rfl

/-- A message for user 1 waits in the stream while user 2 logs in: the call of `subscribe`
reads it and frees it. -/
theorem not_passedOn :
    ¬ ∀ (es : List SubscriberEvent) (s : Subscriber),
      run subscriberStep .init es = some s → PassedOn s := by
  intro h
  have hpassed := h [.startSubscriber, .call (.subscribe "user:1"), .execute, .reply,
    .push "user:1" "m", .call (.subscribe "user:2"), .reply]
    ⟨true, ["user:1"], [.subscribe "user:2"], false, [], [("user:1", "m")], []⟩ rfl
  cases hpassed

end RedisMgr

end WeChat
