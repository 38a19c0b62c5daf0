/-
# Group messages

A group message is sent on twice: the handler looks for an entry of every member on its own
server and publishes a text for every member without one, and the callback for such a text
looks for an entry of every member again.  How often a member is notified is the number that
the two loops compose to, and this gives the exact condition on the registration under which
every member but the sender is notified once.
-/
import WeChat.Chat.Acknowledged

namespace WeChat

open Wire Relational Transition LogicSystem MySQLMgr

/-! ## The members of a group -/

section Members

variable {ok : Bool} {db : Database} {groupId : ℤ}

/-- The rows of a user in a group, as members. -/
lemma mem_rows_iff {u : User} {uid : ℤ} :
    uid ∈ ((db.group_members.rows.filter fun m => u.uid = m.uid ∧ m.group_id = groupId).map
        fun _ => u.info).map UserInfo.uid → uid = u.uid := by
  intro h
  obtain ⟨info, hinfo, rfl⟩ := List.mem_map.1 h
  obtain ⟨m, -, rfl⟩ := List.mem_map.1 hinfo
  rfl

/-- No member of a group is listed twice. -/
lemma nodup_getGroupMembers : ((getGroupMembers ok db groupId).map UserInfo.uid).Nodup := by
  rw [getGroupMembers]
  split_ifs
  · rw [List.map_flatMap, List.nodup_flatMap]
    constructor
    · -- a user has at most one row in a group
      intro u _
      have hrows : ((db.group_members.rows.filter fun m =>
          u.uid = m.uid ∧ m.group_id = groupId).map GroupMember.uid).Nodup := by
        refine List.Nodup.map_on ?_ (db.group_members.nodup_rows.filter _)
        intro m hm m' hm' _
        obtain ⟨hmem, hcond⟩ := List.mem_filter.1 hm
        obtain ⟨hmem', hcond'⟩ := List.mem_filter.1 hm'
        obtain ⟨huid, hgid⟩ := of_decide_eq_true hcond
        obtain ⟨huid', hgid'⟩ := of_decide_eq_true hcond'
        refine db.group_members.eq_of_key_eq hmem hmem' ?_
        show (m.group_id, m.uid) = (m'.group_id, m'.uid)
        rw [hgid, hgid', ← huid, ← huid']
      have hmap : ((db.group_members.rows.filter fun m =>
          u.uid = m.uid ∧ m.group_id = groupId).map fun _ => u.info).map UserInfo.uid =
          (db.group_members.rows.filter fun m =>
            u.uid = m.uid ∧ m.group_id = groupId).map GroupMember.uid := by
        rw [List.map_map]
        refine List.map_congr_left fun m hm => ?_
        exact (of_decide_eq_true (List.mem_filter.1 hm).2).1
      exact hmap ▸ hrows
    · -- and the rows of different users have different uids
      refine (List.pairwise_map.1 db.users.nodup).imp fun {u u'} hne => ?_
      intro uid hu hu'
      exact hne ((mem_rows_iff hu).symm.trans (mem_rows_iff hu'))
  · exact List.nodup_nil

/-- A call of `getGroupMembers` returns the members of a group. -/
def IsMemberSet (ok : Bool) (db : Database) (groupId : ℤ) (members : Finset ℤ) : Prop :=
  ∀ uid, uid ∈ (getGroupMembers ok db groupId).map UserInfo.uid ↔ uid ∈ members

/-- The users of a set that a condition selects can be counted in the list of recipients. -/
lemma countP_recipients {members : Finset ℤ} (h : IsMemberSet ok db groupId members)
    (fromUid : ℤ) (p : ℤ → Prop) [DecidablePred p] :
    ((recipients fromUid (getGroupMembers ok db groupId)).map UserInfo.uid).countP (p ·) =
      ((members.erase fromUid).filter p).card := by
  have hnodup : ((recipients fromUid (getGroupMembers ok db groupId)).map UserInfo.uid).Nodup :=
    nodup_getGroupMembers.sublist (List.filter_sublist.map _)
  -- no user is listed twice, so the count is the size of a set
  rw [List.countP_eq_length_filter, ← List.toFinset_card_of_nodup (hnodup.filter _)]
  congr 1
  ext uid
  have hmem : uid ∈ (recipients fromUid (getGroupMembers ok db groupId)).map UserInfo.uid ↔
      uid ∈ members.erase fromUid := by
    rw [Finset.mem_erase, ← h uid, recipients]
    simp only [List.mem_map, List.mem_filter, decide_eq_true_eq]
    constructor
    · rintro ⟨info, ⟨hinfo, hne⟩, rfl⟩
      exact ⟨hne, info, hinfo, rfl⟩
    · rintro ⟨hne, info, hinfo, rfl⟩
      exact ⟨info, ⟨hinfo, hne⟩, rfl⟩
  rw [List.mem_toFinset, List.mem_filter, hmem, Finset.mem_filter, decide_eq_true_eq]

end Members

/-! ## Exactly once -/

/-- The placement of the members of a group over the servers: a member with a live connection
has no other one, is registered with it at its server, and gets what is published there. -/
def Registry.Placed (r : Registry) (members : Finset ℤ) : Prop :=
  ∀ uid ∈ members, ∀ c, r.Live uid c →
    r.mgr c.srv uid = some c ∧ r.subs c.srv uid ∧ ∀ c', r.Live uid c' → c' = c

/-- A text is pushed to the server `B` for a recipient: the server of the sender has no entry
of the recipient, and `B` is subscribed to the channel. -/
def Registry.PushedFor (r : Registry) (S B : ℕ) (uid : ℤ) : Prop :=
  r.mgr S uid = none ∧ r.subs B uid

instance (r : Registry) (S B : ℕ) : DecidablePred (r.PushedFor S B) :=
  fun _ => inferInstanceAs (Decidable (_ ∧ _))

/-- The two loops compose to one notification of every member but the sender.  A member is
the only recipient whose entry at the member's server is the member's session; no text is
pushed to the server of the sender; and exactly one text is pushed to the server of a member
elsewhere.  No text becomes a notification of the sender. -/
def Registry.FansOutOnce (r : Registry) (S : ℕ) (fromUid : ℤ) (members : Finset ℤ) : Prop :=
  ∀ uid ∈ members, ∀ c, r.Live uid c →
    if uid = fromUid then
      (∀ uid' ∈ members.erase fromUid, r.mgr c.srv uid' ≠ some c) ∨
        (c.srv ≠ S ∧ ∀ uid' ∈ members.erase fromUid, ¬ r.PushedFor S c.srv uid')
    else
      (∀ uid' ∈ members.erase fromUid, r.mgr c.srv uid' = some c → uid' = uid) ∧
        if c.srv = S then ∀ uid' ∈ members.erase fromUid, ¬ r.PushedFor S S uid'
        else ∃! uid', uid' ∈ members.erase fromUid ∧ r.PushedFor S c.srv uid'

section Counts

variable {r : Registry} {S : ℕ} {recipients : Finset ℤ} {uid : ℤ} {c : Conn}

/-- The recipients whose entry at a server is a session. -/
def Registry.entries (r : Registry) (S : ℕ) (recipients : Finset ℤ) (c : Conn) : ℕ :=
  (recipients.filter fun uid => r.mgr S uid = some c).card

/-- The texts that are pushed to a server. -/
def Registry.pushes (r : Registry) (S B : ℕ) (recipients : Finset ℤ) : ℕ :=
  (recipients.filter (r.PushedFor S B)).card

lemma Registry.entries_eq_zero_iff :
    r.entries S recipients c = 0 ↔ ∀ uid' ∈ recipients, r.mgr S uid' ≠ some c := by
  rw [entries, Finset.card_eq_zero, Finset.filter_eq_empty_iff]

lemma Registry.pushes_eq_zero_iff {B : ℕ} :
    r.pushes S B recipients = 0 ↔ ∀ uid' ∈ recipients, ¬ r.PushedFor S B uid' := by
  rw [pushes, Finset.card_eq_zero, Finset.filter_eq_empty_iff]

lemma Registry.pushes_eq_one_iff {B : ℕ} :
    r.pushes S B recipients = 1 ↔ ∃! uid', uid' ∈ recipients ∧ r.PushedFor S B uid' := by
  rw [pushes, Finset.card_eq_one_iff_existsUnique]
  simp only [Finset.mem_filter]

/-- A recipient with the session as its entry is the only one when there is one such entry. -/
lemma Registry.entries_eq_one_iff (huid : uid ∈ recipients) (hmgr : r.mgr S uid = some c) :
    r.entries S recipients c = 1 ↔ ∀ uid' ∈ recipients, r.mgr S uid' = some c → uid' = uid := by
  rw [entries, Finset.card_eq_one_iff_existsUnique]
  simp only [Finset.mem_filter]
  constructor
  · rintro ⟨u, -, hu⟩ uid' hmem hc
    exact (hu uid' ⟨hmem, hc⟩).trans (hu uid ⟨huid, hmgr⟩).symm
  · intro hall
    exact ⟨uid, ⟨huid, hmgr⟩, fun uid' h => hall uid' h.1 h.2⟩

/-- A server has no entries of the connections of another one. -/
lemma Registry.entries_of_ne (hl : r.Local) (hS : c.srv ≠ S) : r.entries S recipients c = 0 :=
  entries_eq_zero_iff.2 fun _ _ hmgr => hS (hl.mgr_srv hmgr)

/-- The number that the two loops compose to is the one that it should be. -/
lemma Registry.composed_iff (hl : r.Local) {members : Finset ℤ} {fromUid : ℤ}
    (huid : uid ∈ members) (hmgr : r.mgr c.srv uid = some c) :
    (r.entries S (members.erase fromUid) c +
        r.pushes S c.srv (members.erase fromUid) * r.entries c.srv (members.erase fromUid) c =
      if uid = fromUid then 0 else 1) ↔
    if uid = fromUid then
      (∀ uid' ∈ members.erase fromUid, r.mgr c.srv uid' ≠ some c) ∨
        (c.srv ≠ S ∧ ∀ uid' ∈ members.erase fromUid, ¬ r.PushedFor S c.srv uid')
    else
      (∀ uid' ∈ members.erase fromUid, r.mgr c.srv uid' = some c → uid' = uid) ∧
        if c.srv = S then ∀ uid' ∈ members.erase fromUid, ¬ r.PushedFor S S uid'
        else ∃! uid', uid' ∈ members.erase fromUid ∧ r.PushedFor S c.srv uid' := by
  by_cases hsender : uid = fromUid
  · rw [if_pos hsender, if_pos hsender, ← entries_eq_zero_iff, ← pushes_eq_zero_iff]
    by_cases hS : c.srv = S
    · -- on the sender's own server the first loop alone would notify the sender
      subst hS
      simp only [Nat.add_eq_zero_iff, Nat.mul_eq_zero, ne_eq, not_true, false_and, or_false]
      exact ⟨And.left, fun h => ⟨h, .inr h⟩⟩
    · rw [entries_of_ne hl hS, Nat.zero_add, Nat.mul_eq_zero]
      simp [hS, or_comm]
  · have hmem : uid ∈ members.erase fromUid := Finset.mem_erase.2 ⟨hsender, huid⟩
    rw [if_neg hsender, if_neg hsender, ← entries_eq_one_iff hmem hmgr]
    by_cases hS : c.srv = S
    · subst hS
      rw [if_pos rfl, ← pushes_eq_zero_iff]
      -- the member itself has such an entry, so a single text would be one too many
      have hpos : r.entries c.srv (members.erase fromUid) c ≠ 0 := fun hzero =>
        entries_eq_zero_iff.1 hzero uid hmem hmgr
      constructor
      · intro h
        have hprod : r.pushes c.srv c.srv (members.erase fromUid) *
            r.entries c.srv (members.erase fromUid) c = 0 := by omega
        rcases Nat.mul_eq_zero.1 hprod with hzero | hzero
        · rw [hzero, Nat.zero_mul, Nat.add_zero] at h
          exact ⟨h, hzero⟩
        · exact absurd hzero hpos
      · rintro ⟨hone, hzero⟩
        rw [hone, hzero]
    · rw [if_neg hS, ← pushes_eq_one_iff, entries_of_ne hl hS, Nat.zero_add, mul_eq_one,
        and_comm]

end Counts

section Answered

variable {cfg : Config} {s s₁ s₂ : State} {S : ℕ} {env : Env} {node : LogicNode} {body : Json}
  {mid fromUid groupId : ℤ} {kind : MessageKind}

/-- The handler of a group message for the identifier of a request. -/
def IsGroup (kind : MessageKind) (msgId : ℤ) : Prop :=
  (kind = groupText ∧ msgId = idGroupChatMsgReq) ∨
    (kind = groupImage ∧ msgId = idGroupImageChatMsgReq)

lemma IsGroup.handler_eq {db : Database} {mgr : ℤ → Option Conn} {session : Conn} {msgId : ℤ}
    {handler : Option Json → Option (Database × List Output)} (hkind : IsGroup kind msgId)
    (h : msgHandler env db mgr session msgId = some handler) :
    handler = groupMessage env db mgr session kind := by
  rcases hkind with ⟨rfl, rfl⟩ | ⟨rfl, rfl⟩
  · exact (Option.some.inj h).symm
  · exact (Option.some.inj h).symm

/-- A group message that is answered with success has been stored, and it has been notified or
published for every recipient. -/
lemma Answers.group_stored (h : Answers cfg s s₁ S env node body kind.rspId mid)
    (hkind : IsGroup kind node._id) (hfrom : body.getInt "fromUid" = some fromUid)
    (hgroup : body.getInt "groupId" = some groupId) :
    ∃ fromUser group content extra queues db fields,
      kind.extra body = some extra ∧ s.db.messages.last < mid ∧ db.messages.last = mid ∧
      toInt32 mid = mid ∧
      let values := groupFields extra mid fromUid fromUser groupId group content env.now
      s₁ = { s with queues := queues, db := db }.perform cfg
        (((recipients fromUid (getGroupMembers (env.ok 3) db groupId)).map UserInfo.uid).map
            (fun uid => notifyOrPublish (s.reg.mgr S) uid kind.notifyId (Json.object values)
              (Json.object (("type", .str kind.redisType) :: values))) ++
          [answer node._session kind.rspId fields]) := by
  obtain ⟨queues, handler, done, hhandler, hdone, hs₁, ans, hmem, herror, hmid⟩ := h.handled
  have hmessage : groupMessage env s.db (s.reg.mgr S) node._session kind (some body) =
      some done := by
    rw [← hkind.handler_eq hhandler, hdone]
  have hids : kind.notifyId ≠ kind.rspId := by
    rcases hkind with ⟨rfl, -⟩ | ⟨rfl, -⟩ <;> decide
  obtain ⟨body', fromUid', groupId', content, extra, hbody, hfrom', hgroup', -, hextra, hcases⟩ :=
    groupMessage_spec hmessage
  obtain rfl := Option.some.inj hbody
  obtain rfl := Option.some.inj (hfrom.symm.trans hfrom')
  obtain rfl := Option.some.inj (hgroup.symm.trans hgroup')
  rcases hcases with rfl | ⟨mid', db, fromUser, group, hstored, rfl⟩
  · -- a request that is not stored is answered with an error
    cases List.mem_singleton.1 hmem
    exact absurd herror (error_answerError (by decide))
  · have hself := hstored.toInt32_id
    obtain rfl : mid' = mid := key_of_answer _ UserInfo.uid hids hself hmem hmid
    refine ⟨fromUser, group, content, extra, queues, db,
      [("error", .num ErrorCodes.success.code), ("messageId", .num mid'), ("time", .str env.now)],
      hextra, hstored.new, hstored.last_eq, hself, ?_⟩
    dsimp only
    rw [hs₁, List.map_map]
    rfl

/-- The callback notifies the members whose entry on its server is the connection. -/
lemma notifiedBy_members {mgr : ℤ → Option Conn} {notify : Json} {id : ℤ} {c : Conn}
    (hid : id ∈ notifyIds) (hnotify : messageId notify = some mid) (members : List UserInfo) :
    notifiedBy (members.filterMap fun member =>
        (mgr member.uid).map fun c' => .send c' id notify) mid c =
      (members.map UserInfo.uid).countP fun uid => mgr uid = some c := by
  induction members with
  | nil => rfl
  | cons member members ih =>
    rw [List.map_cons, List.countP_cons, ← ih, List.filterMap_cons]
    cases hmgr : mgr member.uid with
    | none => simp
    | some c' =>
      show notifiedBy ([.send c' id notify] ++ _) mid c = _
      rw [notifiedBy_append, Nat.add_comm]
      congr 1
      simp [notifiedBy, Output.sent, Notifies, hid, hnotify, List.countP_cons]

/-- **How often a connection is notified of a group message**: once for every recipient whose
entry at the server of the sender it is, and for every text that is pushed to its own server
once for every recipient whose entry there it is. -/
lemma notified_group {db : Database} {es es' : List Event} {members : Finset ℤ} (c : Conn)
    (hrun : run (step cfg) (.init db) es = some s) (hkind : IsGroup kind node._id)
    (hanswer : Answers cfg s s₁ S env node body kind.rspId mid)
    (hfrom : body.getInt "fromUid" = some fromUid)
    (hgroup : body.getInt "groupId" = some groupId)
    (hmembers : IsMemberSet (env.ok 3) s₁.db groupId members)
    (hrun' : run (step cfg) s₁ es' = some s₂)
    (hquiet : AllSteps (step cfg) (fun s e => s.reg.Quiet (regEvent cfg s e)) s₁ es')
    (hstable : AllSteps (step cfg) (fun s e => ∀ B env', e = .deliver B env' →
      IsMemberSet (env'.ok 0) s.db groupId members) s₁ es')
    (hconsumed : ∀ B, s₂.carried cfg mid B = 0) :
    s₂.notified mid c = s.reg.entries S (members.erase fromUid) c +
      s.reg.pushes S c.srv (members.erase fromUid) *
        s.reg.entries c.srv (members.erase fromUid) c := by
  obtain ⟨fromUser, group, content, extra, queues, db', fields, hextra, hnew, hlast, hself, hs₁⟩ :=
    hanswer.group_stored hkind hfrom hgroup
  have hkind' : kind = groupText ∨ kind = groupImage := hkind.imp And.left And.left
  have hextra' := extra_of_group hkind'
  have hids : kind.notifyId ∈ notifyIds ∧ kind.rspId ∉ notifyIds := by
    rcases hkind' with rfl | rfl <;> decide
  have hl : s.reg.Local := run_invariant local_step hrun Registry.local_init
  have hs : s.Sound cfg := sound_of_run hrun
  obtain ⟨e, hstep⟩ := hanswer.stepped
  obtain ⟨hflight, hsent, hpushed⟩ := inFlight_of_stored hl hs (sound_step s e s₁ hs hstep) hnew
    hlast hs₁ hids.1 hids.2 (messageId_groupFields hextra' hextra hself _ _ _ _ _ _ [])
    (wf_groupFields hextra' hextra _ _ _ _ _ _ _)
    (messageId_groupFields hextra' hextra hself _ _ _ _ _ _ [_])
  have hdb : s₁.db = db' := hs₁ ▸ rfl
  rw [hdb] at hmembers
  -- a text becomes the notifications of the second loop on the server of the connection
  have hkey : messageId (Json.object
      (groupFields extra mid fromUid fromUser groupId group content env.now)) = some mid :=
    messageId_groupFields hextra' hextra hself _ _ _ _ _ _ []
  have hweighs : AllSteps (step cfg) (Weighs s.reg.mgr mid (Json.object (("type",
      .str kind.redisType) :: groupFields extra mid fromUid fromUser groupId group content env.now))
        c (s.reg.entries c.srv (members.erase fromUid) c)) s₁ es' := by
    refine hstable.mono fun s' e' hst env' he => ?_
    rw [subscriberCallback_groupPublished hextra hkind' mid fromUser (toInt32_of_getInt hfrom)
      (toInt32_of_getInt hgroup), notifiedBy_members hids.1 hkey,
      countP_recipients (hst c.srv env' he) fromUid fun uid => s.reg.mgr c.srv uid = some c]
    rfl
  rw [notified_of_quiet hflight hquiet hweighs hrun' (hconsumed c.srv), hsent, hpushed,
    countP_recipients hmembers fromUid fun uid => s.reg.mgr S uid = some c,
    countP_recipients hmembers fromUid fun uid => s.reg.mgr S uid = none ∧ s.reg.subs c.srv uid]
  rfl

end Answered

/-! ## Two groups -/

/-- Three users, and group 1 with the given members. -/
def groupOf (members : Table fun m : GroupMember => (m.group_id, m.uid)) : Database where
  users := ⟨[⟨1, "alice", "alice@example.com", none, none⟩,
    ⟨2, "bob", "bob@example.com", none, none⟩,
    ⟨3, "carol", "carol@example.com", none, none⟩], by decide⟩
  friendships := .empty
  friend_requests := .empty
  messages := .empty
  groups :=
    { rows := [⟨1, "team", 1, "", "2025-06-01 09:00:00"⟩]
      nodup := by decide
      last := 1
      last_nonneg := by decide
      key_pos := by decide
      key_le := by decide }
  group_members := members

/-- The group has the members 1 and 2. -/
def pair : Database := groupOf ⟨[⟨1, 1, .owner⟩, ⟨1, 2, .member⟩], by decide⟩

/-- The group has the members 1, 2 and 3. -/
def trio : Database := groupOf ⟨[⟨1, 1, .owner⟩, ⟨1, 2, .member⟩, ⟨1, 3, .member⟩], by decide⟩

/-- The body of a text from user 1 to the group. -/
def groupBody : Json :=
  Json.object [("fromUid", .num 1), ("groupId", .num 1), ("content", .str "hello")]

lemma wf_groupBody : groupBody.Wf := Json.wf_object (by simp [Json.Wf])

/-- The request that has this body. -/
def groupRequest : LogicNode := request idGroupChatMsgReq groupBody

/-- What server 0 publishes of the text. -/
def groupPublished : Json :=
  Json.object (("type", .str "group_msg") :: groupFields [] 1 1
    ⟨1, "alice", "alice@example.com", "", ""⟩ 1 ⟨1, "team", 1, "", "2025-06-01 09:00:00"⟩
    "hello" "2025-06-01 12:00:00")

lemma wf_groupPublished : groupPublished.Wf := Json.wf_object (by simp [Json.Wf, groupFields])

/-- Another client of server 1. -/
def client₄ : Conn := ⟨1, 2⟩

/-- User 1 is logged in at server 0, users 2 and 3 at server 1, and user 1 sends a text to the
group. -/
def crowdedRun : List Event :=
  connect compactConfig client₁ 1 "t" noDatabase ++
    (connect compactConfig client₃ 2 "u" noDatabase ++
      (connect compactConfig client₄ 3 "v" noDatabase ++
        received client₁ idGroupChatMsgReq groupRequest._body noDatabase))

/-- The state after these events. -/
def crowded : State where
  reg := (((((Registry.init.accept client₁).login client₁ 1).accept client₃).login client₃
    2).accept client₄).login client₄ 3
  queues := Function.update (fun _ _ => []) 0 (Function.update (fun _ => []) 1 [groupRequest])
  inbox _ := []
  db := trio
  sent := greeting client₁ "t" ++ greeting client₃ "u" ++ greeting client₄ "v"

lemma run_crowded : run (step compactConfig) (.init trio) crowdedRun = some crowded := by
  rw [crowdedRun, run_append_of
      (run_connect_noDatabase rfl (by decide) (by decide) ⟨by decide, by decide⟩),
    run_append_of
      (run_connect_noDatabase rfl (by decide) (by decide) ⟨by decide, by decide⟩),
    run_append_of
      (run_connect_noDatabase rfl (by decide) (by decide) ⟨by decide, by decide⟩),
    run_request rfl rfl (by decide) (by decide) (by decide) ⟨by decide, by decide⟩]
  rfl

lemma live_crowded (uid : ℤ) (c : Conn) :
    crowded.reg.Live uid c ↔ (c = client₄ ∧ uid = 3) ∨ (c = client₃ ∧ uid = 2) ∨
      (c = client₁ ∧ uid = 1) := by
  have h₁₃ : client₁ ≠ client₃ := by decide
  have h₁₄ : client₁ ≠ client₄ := by decide
  have h₃₄ : client₃ ≠ client₄ := by decide
  rw [crowded, live_connect_iff, live_connect_iff, live_connect_iff]
  simp only [not_live_init, and_false, or_false]
  constructor
  · rintro (h | ⟨-, h | ⟨-, h⟩⟩)
    · exact .inl h
    · exact .inr (.inl h)
    · exact .inr (.inr h)
  · rintro (h | ⟨rfl, h⟩ | ⟨rfl, h⟩)
    · exact .inl h
    · exact .inr ⟨h₃₄, .inl ⟨rfl, h⟩⟩
    · exact .inr ⟨h₁₄, .inr ⟨h₁₃, rfl, h⟩⟩

/-- The states after the request and after the two texts. -/
def crowdedSent : State := crowded.worked idGroupChatMsgReq groupBody

def crowdedRead : State :=
  (crowdedSent.forwarded groupPublished [compactConfig.codec.dump groupPublished]).forwarded
    groupPublished []

lemma run_crowdedSent :
    run (step compactConfig) crowdedSent [.deliver 1 allSucceed, .deliver 1 allSucceed] =
      some crowdedRead := by
  have hfirst : crowdedSent.inbox 1 = [compactConfig.codec.dump groupPublished,
      compactConfig.codec.dump groupPublished] := rfl
  have hsecond : (crowdedSent.forwarded groupPublished
      [compactConfig.codec.dump groupPublished]).inbox 1 =
        [compactConfig.codec.dump groupPublished] := rfl
  rw [run_cons (step_forwarded wf_groupPublished hfirst),
    run_cons (step_forwarded wf_groupPublished hsecond)]
  rfl

/-- No text is left. -/
lemma carried_crowdedRead (B : ℕ) : crowdedRead.carried compactConfig 1 B = 0 := by
  by_cases h₁ : B = 1
  · subst h₁
    rfl
  rw [crowdedRead, carried_forwarded h₁, carried_forwarded h₁]
  by_cases h₀ : B = 0
  · subst h₀
    rfl
  -- the other servers are subscribed to nothing
  have hsubs : crowded.reg.subs B = fun _ => false := by
    ext uid
    simp [crowded, Registry.subs_login, Registry.init, client₁, client₃, client₄, h₀, h₁]
  show (List.filterMap (Output.pushed _ (crowded.reg.subs B))
    [.publish 2 groupPublished, .publish 3 groupPublished, _]).countP _ = 0
  rw [hsubs]
  rfl

end WeChat
