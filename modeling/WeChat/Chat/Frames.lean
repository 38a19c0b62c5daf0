/-
# What calls of `send` put on the wire

The length of a text is a short for `CSession::send`.  Up to 32763 bytes the text goes out whole;
a longer one is cut, gets a negative length, or makes the call throw `std::bad_array_new_length`,
which `send` does not catch.  Then the rest of the handler is skipped, and two handlers and the
login answer with an error instead.  Only the answers with lists can become so long: the columns of
names and avatars are short, and a body has at most 8192 bytes.
-/
import WeChat.Chat.Runs

namespace WeChat

open Wire Framed

/-- A frame in the send queue of a session. -/
structure Frame where
  session : Conn
  id : ℤ
  /-- The value whose text the frame was made for. -/
  msg : Json
  /-- The bytes that are written, unless their number is negative. -/
  wire : Option Bytes

/-- The text of a value goes out whole. -/
def Fitting (codec : Json.Codec) (msg : Json) : Prop := (codec.dump msg).length ≤ 32763

instance (codec : Json.Codec) (msg : Json) : Decidable (Fitting codec msg) :=
  inferInstanceAs (Decidable (_ ≤ _))

/-- The node that a call of `send` has queued. -/
def CSession.Sent.node : CSession.Sent → Option CSession.SendNode
  | .queued _ node => some node
  | _ => none

/-- The frame that a call of `send` queues when the queue has room. -/
def frameOf (codec : Json.Codec) (call : Conn × ℤ × Json) : Option Frame :=
  let text := codec.dump call.2.2
  (CSession.frame text (toShort text.length) call.2.1).node.map fun node =>
    ⟨call.1, call.2.1, call.2.2, node.wire⟩

lemma frameOf_eq (codec : Json.Codec) (call : Conn × ℤ × Json) :
    frameOf codec call = (CSession.frame (codec.dump call.2.2)
      (toShort (codec.dump call.2.2).length) call.2.1).node.map fun node =>
        ⟨call.1, call.2.1, call.2.2, node.wire⟩ := by
  rw [frameOf]

-- the numbers in `toShort` are too large to compute with
attribute [irreducible] frameOf

/-- The frames of a series of calls, which ends with the first one that queues none. -/
def framesOf (codec : Json.Codec) : List (Conn × ℤ × Json) → List Frame
  | [] => []
  | call :: calls =>
    match frameOf codec call with
    | some frame => frame :: framesOf codec calls
    | none => []

/-- The frame of the whole text of a value. -/
def Frame.whole (codec : Json.Codec) (session : Conn) (id : ℤ) (msg : Json) : Frame :=
  ⟨session, id, msg, some (header id (codec.dump msg).length ++ codec.dump msg)⟩

/-- The frame holds the whole text of its value. -/
def Frame.Intact (codec : Json.Codec) (frame : Frame) : Prop :=
  frame = .whole codec frame.session frame.id frame.msg

section Frames

variable {codec : Json.Codec} {call : Conn × ℤ × Json} {calls pre post : List (Conn × ℤ × Json)}
  {frame : Frame}

/-- A frame tells of the call that it was made for. -/
lemma frameOf_eq_some (h : frameOf codec call = some frame) :
    frame.session = call.1 ∧ frame.id = call.2.1 ∧ frame.msg = call.2.2 := by
  rw [frameOf_eq] at h
  obtain ⟨node, -, rfl⟩ := Option.map_eq_some_iff.1 h
  exact ⟨rfl, rfl, rfl⟩

/-- A text that fits is framed whole. -/
lemma frameOf_of_fitting (h : Fitting codec call.2.2) :
    frameOf codec call = some (.whole codec call.1 call.2.1 call.2.2) := by
  have hroom : ([] : List CSession.SendNode).length ≤ queueMaxSize := Nat.zero_le _
  have hsend := CSession.send_of_le call.2.1 hroom h
  rw [CSession.send_of_room (Nat.zero_le _)] at hsend
  rw [frameOf_eq, hsend, Frame.whole]
  simp only [CSession.Sent.node, Option.map_some, CSession.wire_node]

/-- No other text is. -/
lemma fitting_of_whole
    (h : frameOf codec call = some (.whole codec call.1 call.2.1 call.2.2)) :
    Fitting codec call.2.2 := by
  rw [frameOf_eq] at h
  obtain ⟨node, hnode, hframe⟩ := Option.map_eq_some_iff.1 h
  have hwire : node.wire = some (header call.2.1 (codec.dump call.2.2).length ++
    codec.dump call.2.2) := congrArg Frame.wire hframe
  clear h hframe
  rw [Fitting]
  generalize codec.dump call.2.2 = text at hnode hwire ⊢
  rw [CSession.frame] at hnode
  split_ifs at hnode with hneg hover
  · cases hnode
  · cases hnode
  · obtain rfl := Option.some.inj hnode
    simp only [CSession.SendNode.wire] at hwire
    split_ifs at hwire with htotal
    have hlength := congrArg List.length (Option.some.inj hwire)
    simp only [List.length_take, List.length_append, length_header] at hlength
    have hlt := toShort_lt text.length
    have hlt' := toShort_lt (toShort text.length + 4)
    omega

/-- A call that throws queues no frame. -/
lemma frameOf_of_throws (h : CSession.throws (codec.dump call.2.2).length = true) :
    frameOf codec call = none := by
  obtain ⟨size, hsend⟩ := (CSession.throws_iff (codec.dump call.2.2) call.2.1).1 h
  rw [frameOf_eq, hsend]
  rfl

lemma not_throws_of_fitting (h : Fitting codec call.2.2) :
    ¬ CSession.throws (codec.dump call.2.2).length = true := fun hthrows =>
  Option.some_ne_none _ ((frameOf_of_fitting h).symm.trans (frameOf_of_throws hthrows))

lemma not_throws_of_sent {o : Output} (ho : o.sent = some call) (h : Fitting codec call.2.2) :
    ¬ o.throws codec = true := by
  cases o with
  | send _ _ _ =>
    obtain rfl := Option.some.inj ho
    have hnot := not_throws_of_fitting h
    exact hnot
  | publish _ _ => cases ho

/-- The frames of a series of calls that is not broken off. -/
lemma framesOf_append (h : ∀ x ∈ pre, frameOf codec x ≠ none) :
    framesOf codec (pre ++ post) = pre.filterMap (frameOf codec) ++ framesOf codec post := by
  induction pre with
  | nil => rfl
  | cons call pre ih =>
    obtain ⟨frame, hframe⟩ := Option.ne_none_iff_exists'.1 (h call List.mem_cons_self)
    rw [List.cons_append, framesOf, hframe, List.filterMap_cons_some hframe,
      ih fun x hx => h x (List.mem_cons_of_mem _ hx)]
    rfl

/-- The frames of a series of calls that is broken off before its end. -/
lemma framesOf_of_none (h : ∃ x ∈ pre, frameOf codec x = none) :
    framesOf codec (pre ++ post) = framesOf codec pre := by
  induction pre with
  | nil =>
    obtain ⟨x, hx, -⟩ := h
    exact absurd hx List.not_mem_nil
  | cons call pre ih =>
    rw [List.cons_append, framesOf, framesOf]
    cases hframe : frameOf codec call with
    | none => rfl
    | some frame =>
      obtain ⟨x, hx, hnone⟩ := h
      rcases List.mem_cons.1 hx with rfl | hx
      · cases hframe.symm.trans hnone
      · exact congrArg _ (ih ⟨x, hx, hnone⟩)

/-- Every frame comes from a call. -/
lemma exists_call_of_mem_framesOf (h : frame ∈ framesOf codec calls) :
    ∃ call ∈ calls, frameOf codec call = some frame := by
  induction calls with
  | nil => exact absurd h List.not_mem_nil
  | cons call calls ih =>
    rw [framesOf] at h
    cases hframe : frameOf codec call with
    | none =>
      rw [hframe] at h
      exact absurd h List.not_mem_nil
    | some frame' =>
      rw [hframe] at h
      rcases List.mem_cons.1 h with rfl | h
      · exact ⟨call, List.mem_cons_self, hframe⟩
      · obtain ⟨call', hcall', hframe'⟩ := ih h
        exact ⟨call', List.mem_cons_of_mem _ hcall', hframe'⟩

/-- A call is framed whole when it fits and so do those before it. -/
lemma mem_framesOf (hpre : ∀ x ∈ pre, Fitting codec x.2.2) (hcall : Fitting codec call.2.2) :
    .whole codec call.1 call.2.1 call.2.2 ∈ framesOf codec (pre ++ call :: post) := by
  rw [framesOf_append fun x hx => by
    rw [frameOf_of_fitting (hpre x hx)]
    exact Option.some_ne_none _]
  refine List.mem_append_right _ ?_
  rw [framesOf, frameOf_of_fitting hcall]
  exact List.mem_cons_self

end Frames

/-! ## The frames of an event -/

/-- The calls of `send` that an event makes as long as none of them throws. -/
def State.calls (cfg : Config) (s : State) (e : Event) : List (Conn × ℤ × Json) :=
  match step cfg s e with
  | some s' => s'.sent.drop s.sent.length
  | none => []

/-- The calls of an event in a `try` block whose `catch` sends an answer: that of the login, and
those of the handlers of `ID_FRIEND_LIST_REQ` and `ID_GET_CHAT_HISTORY_REQ`. -/
def State.guarded (s : State) (e : Event) (calls : List (Conn × ℤ × Json)) :
    List (Conn × ℤ × Json) :=
  match e with
  | .read _ _ _ => (calls.take 1).filter fun call => call.2.1 = idChatLoginRsp
  | .work S i _ _ => calls.filter fun _ => (s.queues S i).head?.any fun node =>
      node._id = idFriendListReq ∨ node._id = idGetChatHistoryReq
  | _ => []

/-- The call of `send` in such a `catch`. -/
def errorCall (call : Conn × ℤ × Json) : Conn × ℤ × Json :=
  (call.1, call.2.1, Json.object [("error", .num ErrorCodes.errorJson.code)])

/-- The frames that an event queues for the sessions. -/
def State.frames (cfg : Config) (s : State) (e : Event) : List Frame :=
  let calls := s.calls cfg e
  let thrown := (s.guarded e calls).filter fun call =>
    CSession.throws (cfg.codec.dump call.2.2).length
  framesOf cfg.codec calls ++ thrown.filterMap fun call => frameOf cfg.codec (errorCall call)

section Event

variable {cfg : Config} {s s' : State} {e : Event} {pre post calls : List (Conn × ℤ × Json)}
  {call : Conn × ℤ × Json} {P : Conn → ℤ → Bool}

lemma calls_of_step (h : step cfg s e = some s') :
    s.calls cfg e = s'.sent.drop s.sent.length := by
  rw [State.calls, h]

lemma sent_handleMessage (s : State) (env : Env) (c : Conn) (msgId : ℤ) (msgBody : Bytes) :
    s.sent <+: (s.handleMessage cfg env c msgId msgBody).sent := by
  rw [State.handleMessage]
  split_ifs
  · exact List.prefix_append _ _
  · split
    · exact List.prefix_append _ _
    · exact List.prefix_rfl
    · simp only
      split_ifs <;> exact List.prefix_append _ _
  · exact List.prefix_append _ _
  · obtain ⟨queues, hqueues, -⟩ := State.postMsgToQueue_spec cfg s ⟨msgId, msgBody, c⟩
    rw [hqueues]

/-- An event takes no call back. -/
lemma isPrefix_sent (h : step cfg s e = some s') : s.sent <+: s'.sent := by
  rcases step_cases h with ⟨reg, rfl⟩ | ⟨c, bytes, env, msgId, msgBody, -, rfl⟩ |
    ⟨S, i, alive, env, node, queue, base, -, -, rfl, rfl | ⟨done, -, rfl⟩⟩ |
    ⟨S, env, text, texts, base, -, -, rfl, rfl⟩
  · exact List.prefix_rfl
  · exact sent_handleMessage { s with reg := s.reg.readDone c bytes } env c msgId msgBody
  · exact List.prefix_rfl
  · exact List.prefix_append _ _
  · exact List.prefix_append _ _

lemma guarded_sublist (s : State) (e : Event) (calls : List (Conn × ℤ × Json)) :
    (s.guarded e calls).Sublist calls := by
  cases e with
  | read c bytes env => exact List.filter_sublist.trans (List.take_sublist 1 calls)
  | work S i alive env => exact List.filter_sublist
  | _ => exact List.nil_sublist calls

/-- Frames are chosen by their sessions and identifiers as the calls are that they are made of. -/
lemma filter_filterMap_frame {f : Conn × ℤ × Json → Option Frame}
    (hf : ∀ {x frame}, f x = some frame → frame.session = x.1 ∧ frame.id = x.2.1) :
    (calls.filterMap f).filter (fun frame => P frame.session frame.id) =
      (calls.filter fun x => P x.1 x.2.1).filterMap f := by
  induction calls with
  | nil => rfl
  | cons x calls ih =>
    cases hframe : f x with
    | none =>
      rw [List.filterMap_cons_none hframe, ih, List.filter_cons]
      split_ifs
      · rw [List.filterMap_cons_none hframe]
      · rfl
    | some frame =>
      obtain ⟨hsession, hid⟩ := hf hframe
      rw [List.filterMap_cons_some hframe, List.filter_cons, List.filter_cons, hsession, hid, ih]
      split_ifs
      · rw [List.filterMap_cons_some hframe]
      · rfl

lemma errorCall_frame {codec : Json.Codec} {frame : Frame}
    (h : frameOf codec (errorCall call) = some frame) :
    frame.session = call.1 ∧ frame.id = call.2.1 :=
  ⟨(frameOf_eq_some h).1, (frameOf_eq_some h).2.1⟩

/-- Every frame comes from a call, or from the `catch` around one. -/
lemma exists_call_of_mem_frames {frame : Frame} (h : frame ∈ s.frames cfg e) :
    ∃ call ∈ s.calls cfg e, frame.session = call.1 ∧ frame.id = call.2.1 ∧
      (frame.msg = call.2.2 ∨ frame.msg = (errorCall call).2.2) := by
  rcases List.mem_append.1 h with h | h
  · obtain ⟨x, hx, heq⟩ := exists_call_of_mem_framesOf h
    obtain ⟨hsession, hid, hmsg⟩ := frameOf_eq_some heq
    exact ⟨x, hx, hsession, hid, .inl hmsg⟩
  · obtain ⟨x, hx, heq⟩ := List.mem_filterMap.1 h
    obtain ⟨hsession, hid, hmsg⟩ := frameOf_eq_some heq
    exact ⟨x, (guarded_sublist s e _).subset (List.mem_of_mem_filter hx), hsession, hid,
      .inr hmsg⟩

/-- Frames without a call are not queued. -/
lemma filter_frames_of_nil (h : (s.calls cfg e).filter (fun x => P x.1 x.2.1) = []) :
    (s.frames cfg e).filter (fun frame => P frame.session frame.id) = [] := by
  have hnone : ∀ x ∈ s.calls cfg e, ¬ P x.1 x.2.1 = true := List.filter_eq_nil_iff.1 h
  refine List.filter_eq_nil_iff.2 fun frame hframe => ?_
  obtain ⟨x, hx, hsession, hid, -⟩ := exists_call_of_mem_frames hframe
  rw [hsession, hid]
  exact hnone x hx

/-- Calls that are not chosen queue no frame that is. -/
lemma filter_framesOf_of_none {codec : Json.Codec} (h : ∀ x ∈ calls, P x.1 x.2.1 = false) :
    (framesOf codec calls).filter (fun frame => P frame.session frame.id) = [] := by
  refine List.filter_eq_nil_iff.2 fun frame hframe => ?_
  obtain ⟨x, hx, heq⟩ := exists_call_of_mem_framesOf hframe
  obtain ⟨hsession, hid, -⟩ := frameOf_eq_some heq
  rw [hsession, hid, h x hx]
  exact Bool.false_ne_true

open Classical in
/-- The frame of the one call that is chosen, unless the calls before it were broken off. -/
lemma filter_framesOf_of_one {codec : Json.Codec} (hpre : ∀ x ∈ pre, P x.1 x.2.1 = false)
    (hcall : P call.1 call.2.1 = true) (hpost : ∀ x ∈ post, P x.1 x.2.1 = false) :
    (framesOf codec (pre ++ call :: post)).filter (fun frame => P frame.session frame.id) =
      if ∀ x ∈ pre, frameOf codec x ≠ none then (frameOf codec call).toList else [] := by
  split_ifs with hall
  · have hfilter : (pre.filterMap (frameOf codec)).filter
        (fun frame => P frame.session frame.id) = [] := by
      rw [filter_filterMap_frame fun h => ⟨(frameOf_eq_some h).1, (frameOf_eq_some h).2.1⟩,
        List.filter_eq_nil_iff.2 fun x hx => by rw [hpre x hx]; exact Bool.false_ne_true,
        List.filterMap_nil]
    rw [framesOf_append hall, List.filter_append, hfilter, List.nil_append, framesOf]
    cases hframe : frameOf codec call with
    | none => rw [List.filter_nil, Option.toList_none]
    | some frame =>
      obtain ⟨hsession, hid, -⟩ := frameOf_eq_some hframe
      simp only
      rw [List.filter_cons_of_pos (by rw [hsession, hid, hcall]), filter_framesOf_of_none hpost,
        Option.toList_some]
  · push Not at hall
    rw [framesOf_of_none hall]
    exact filter_framesOf_of_none hpre

open Classical in
/-- Of the guarded calls only the one that is chosen can be left. -/
lemma filter_guarded (hcalls : s.calls cfg e = pre ++ call :: post)
    (hpre : ∀ x ∈ pre, P x.1 x.2.1 = false) (hcall : P call.1 call.2.1 = true)
    (hpost : ∀ x ∈ post, P x.1 x.2.1 = false) :
    (s.guarded e (s.calls cfg e)).filter (fun x => P x.1 x.2.1) =
      if call ∈ s.guarded e (s.calls cfg e) then [call] else [] := by
  have hone : (s.calls cfg e).filter (fun x => P x.1 x.2.1) = [call] := by
    rw [hcalls, List.filter_append, List.filter_cons, if_pos hcall,
      List.filter_eq_nil_iff.2 fun x hx => by simp [hpre x hx],
      List.filter_eq_nil_iff.2 fun x hx => by simp [hpost x hx], List.nil_append]
  have hsub := (guarded_sublist s e (s.calls cfg e)).filter fun x => P x.1 x.2.1
  rw [hone] at hsub
  split_ifs with hguarded
  · have hmem : call ∈ (s.guarded e (s.calls cfg e)).filter fun x => P x.1 x.2.1 :=
      List.mem_filter.2 ⟨hguarded, hcall⟩
    exact hsub.eq_of_length_le (List.length_pos_of_mem hmem)
  · refine List.eq_nil_iff_forall_not_mem.2 fun x hx => ?_
    obtain rfl := List.mem_singleton.1 (hsub.subset hx)
    exact hguarded (List.mem_of_mem_filter hx)

lemma filterMap_filter_one {p : Conn × ℤ × Json → Bool} {f : Conn × ℤ × Json → Option Frame} :
    ([call].filter p).filterMap f = if p call = true then (f call).toList else [] := by
  rw [List.filter_cons]
  split_ifs
  · cases hf : f call with
    | none => simp [hf]
    | some frame => simp [hf]
  · rfl

open Classical in
/-- What the `catch` queues for the one call that is chosen. -/
lemma filter_thrown_of_one (hcalls : s.calls cfg e = pre ++ call :: post)
    (hpre : ∀ x ∈ pre, P x.1 x.2.1 = false) (hcall : P call.1 call.2.1 = true)
    (hpost : ∀ x ∈ post, P x.1 x.2.1 = false) :
    (((s.guarded e (s.calls cfg e)).filter fun x =>
        CSession.throws (cfg.codec.dump x.2.2).length).filterMap fun x =>
          frameOf cfg.codec (errorCall x)).filter (fun frame => P frame.session frame.id) =
      if call ∈ s.guarded e (s.calls cfg e) ∧
          CSession.throws (cfg.codec.dump call.2.2).length = true then
        (frameOf cfg.codec (errorCall call)).toList
      else [] := by
  have hchosen : ∀ calls : List (Conn × ℤ × Json),
      (calls.filterMap fun x => frameOf cfg.codec (errorCall x)).filter
        (fun frame => P frame.session frame.id) =
      (calls.filter fun x => P x.1 x.2.1).filterMap fun x => frameOf cfg.codec (errorCall x) :=
    fun calls => filter_filterMap_frame errorCall_frame
  rw [hchosen, List.filter_comm, filter_guarded hcalls hpre hcall hpost]
  by_cases hmem : call ∈ s.guarded e (s.calls cfg e)
  · rw [if_pos hmem, filterMap_filter_one]
    exact if_congr (and_iff_right hmem).symm rfl rfl
  · rw [if_neg hmem, if_neg fun h => hmem h.1, List.filter_nil, List.filterMap_nil]

open Classical in
/-- The frames of the one call that is chosen: its own, unless the calls before it were broken off,
and that of the `catch` when it throws. -/
lemma filter_frames_of_one (hcalls : s.calls cfg e = pre ++ call :: post)
    (hpre : ∀ x ∈ pre, P x.1 x.2.1 = false) (hcall : P call.1 call.2.1 = true)
    (hpost : ∀ x ∈ post, P x.1 x.2.1 = false) :
    (s.frames cfg e).filter (fun frame => P frame.session frame.id) =
      (if ∀ x ∈ pre, frameOf cfg.codec x ≠ none then (frameOf cfg.codec call).toList else []) ++
        if call ∈ s.guarded e (s.calls cfg e) ∧
            CSession.throws (cfg.codec.dump call.2.2).length = true then
          (frameOf cfg.codec (errorCall call)).toList
        else [] := by
  rw [State.frames, List.filter_append, hcalls, filter_framesOf_of_one hpre hcall hpost, ← hcalls,
    filter_thrown_of_one hcalls hpre hcall hpost]

end Event

end WeChat
