/-
# The callback for the messages of other servers

What the callback of the subscriber sends on carries the `messageId` of the message that it was
given or none, and goes to sessions of its own server.  What the handlers of messages publish is
sent on to the recipient, or to every recipient of a group.
-/
import WeChat.Chat.Outputs

namespace WeChat

open Wire Relational Json

namespace LogicSystem

open MySQLMgr

/-- A number that was read from a value is in the range of an `int`. -/
lemma toInt32_of_getInt {j : Json} {k : String} {n : ℤ} (h : j.getInt k = some n) :
    toInt32 n = n := by
  have hself : ∀ m, toInt32 (toInt32 m) = toInt32 m := fun m =>
    toInt32_eq_self (le_toInt32 m) (toInt32_lt m)
  obtain ⟨v, -, hv⟩ := Option.bind_eq_some_iff.1 h
  cases v with
  | num m => exact Option.some.inj hv ▸ hself m
  | real m e => exact Option.some.inj hv ▸ hself _
  | bool b =>
    obtain rfl := Option.some.inj hv
    cases b <;> decide
  | null => cases hv
  | str s => cases hv
  | arr items => cases hv
  | obj fields => cases hv

section Callback

variable {env : Env} {db : Database} {mgr : ℤ → Option Conn} {msg : Json}

lemma mem_of_mapM {α β : Type*} {f : α → Option β} {l : List α} {l' : List β}
    (h : l.mapM f = some l') : ∀ b ∈ l', ∃ a ∈ l, f a = some b := by
  induction l generalizing l' with
  | nil =>
    rw [List.mapM_nil] at h
    obtain rfl := Option.some.inj h
    exact fun b hb => absurd hb List.not_mem_nil
  | cons a l ih =>
    simp only [List.mapM_cons, Option.bind_eq_bind, Option.bind_eq_some_iff] at h
    obtain ⟨b, hb, bs, hbs, h⟩ := h
    obtain rfl := Option.some.inj h
    intro b' hb'
    rcases List.mem_cons.1 hb' with rfl | hb'
    · exact ⟨a, List.mem_cons_self, hb⟩
    · obtain ⟨a', ha', hfa'⟩ := ih hbs b' hb'
      exact ⟨a', List.mem_cons_of_mem _ ha', hfa'⟩

/-- What is sent on carries the `messageId` of the message or none. -/
lemma carriesOnly_copied {fields : List (String × String)}
    {notify notifyJson : List (String × Json)}
    (hfields : ∀ f ∈ fields, f.1 = "messageId" → f.2 = "messageId")
    (h : (fields.mapM fun f => copyField msg f.1 f.2) = some notify)
    (hsub : ∀ f ∈ notifyJson, f.1 = "messageId" → f ∈ notify) :
    CarriesOnly (fun mid => messageId msg = some mid) (object notifyJson) := by
  intro mid hmid
  rw [messageId_object] at hmid
  cases hlookup : notifyJson.reverse.lookup "messageId" with
  | none =>
    rw [hlookup] at hmid
    cases hmid
  | some v =>
    rw [hlookup, Option.getD_some] at hmid
    -- the field was copied, so it is one of the copies
    obtain ⟨l₁, l₂, heq, -⟩ := List.lookup_eq_some_iff.1 hlookup
    have hmem : ("messageId", v) ∈ notify := by
      refine hsub _ ?_ rfl
      rw [← List.mem_reverse, heq]
      simp
    obtain ⟨f, hf, hcopy⟩ := mem_of_mapM h _ hmem
    rw [copyField, Option.map_eq_some_iff] at hcopy
    obtain ⟨v', hget, hv'⟩ := hcopy
    obtain ⟨hkey, rfl⟩ := Prod.mk.inj hv'
    rw [hfields f hf hkey] at hget
    rw [messageId, getInt, hget]
    exact hmid

/-- An output of the callback goes to a session that is registered, and carries no
`messageId` but that of the message. -/
def Forwards (mgr : ℤ → Option Conn) (msg : Json) (o : Output) : Prop :=
  ∃ uid c id notify, mgr uid = some c ∧ o = .send c id notify ∧
    CarriesOnly (fun mid => messageId msg = some mid) notify

lemma forwards_notifyUser {uidField : String} {id : ℤ} {fields : List (String × String)}
    (hfields : ∀ f ∈ fields, f.1 = "messageId" → f.2 = "messageId") {outputs : List Output}
    (h : notifyUser mgr msg uidField id fields = some outputs) :
    ∀ o ∈ outputs, Forwards mgr msg o := by
  simp only [notifyUser, Option.bind_eq_bind, Option.bind_eq_some_iff] at h
  obtain ⟨uid, -, h⟩ := h
  cases hmgr : mgr uid with
  | none =>
    rw [hmgr] at h
    obtain rfl := Option.some.inj h
    exact fun o ho => absurd ho List.not_mem_nil
  | some c =>
    simp only [hmgr, Option.bind_eq_some_iff] at h
    obtain ⟨notify, hnotify, h⟩ := h
    obtain rfl := Option.some.inj h
    intro o ho
    obtain rfl := List.mem_singleton.1 ho
    exact ⟨uid, c, id, _, hmgr, rfl, carriesOnly_copied hfields hnotify fun f hf _ => hf⟩

lemma forwards_notifyGroup {id : ℤ} {fields : List String} {outputs : List Output}
    (h : notifyGroup env db mgr msg id fields = some outputs) :
    ∀ o ∈ outputs, Forwards mgr msg o := by
  simp only [notifyGroup, Option.bind_eq_bind, Option.bind_eq_some_iff] at h
  obtain ⟨groupId, hgroup, notify, hnotify, fromUid, -, h⟩ := h
  obtain rfl := Option.some.inj h
  intro o ho
  obtain ⟨member, -, hsend⟩ := List.mem_filterMap.1 ho
  obtain ⟨c, hmgr, rfl⟩ := Option.map_eq_some_iff.1 hsend
  refine ⟨member.uid, c, id, _, hmgr, rfl, ?_⟩
  have hcopied : ((same fields).mapM fun f => copyField msg f.1 f.2) = some notify := by
    rwa [same, List.mapM_map]
  refine carriesOnly_copied (fun f hf hkey => ?_) hcopied fun f hf hkey => ?_
  · obtain ⟨k, -, rfl⟩ := List.mem_map.1 hf
    exact hkey
  · rcases List.mem_cons.1 hf with rfl | hf
    · exact absurd hkey (by simp)
    · exact hf

/-- What the callback does with a message. -/
lemma forwards_subscriberCallback :
    ∀ o ∈ subscriberCallback env db mgr (some msg), Forwards mgr msg o := by
  intro o ho
  simp only [subscriberCallback, Option.bind_eq_bind, Option.bind_some] at ho
  cases htype : msg.value "type" "" with
  | none =>
    rw [htype] at ho
    exact absurd ho List.not_mem_nil
  | some type =>
    rw [htype, Option.bind_some] at ho
    have hsame : ∀ {fields : List String}, ∀ f ∈ same fields,
        f.1 = "messageId" → f.2 = "messageId" := by
      intro fields f hf hkey
      obtain ⟨k, -, rfl⟩ := List.mem_map.1 hf
      exact hkey
    generalize hcall : (if type = "chat_msg" then _ else _ : Option (List Output)) = call at ho
    cases call with
    | none => exact absurd ho List.not_mem_nil
    | some outputs =>
      split_ifs at hcall
      · exact forwards_notifyUser hsame hcall o ho
      · exact forwards_notifyGroup hcall o ho
      · exact forwards_notifyUser hsame hcall o ho
      · exact forwards_notifyGroup hcall o ho
      · exact forwards_notifyUser hsame hcall o ho
      · exact forwards_notifyUser (by simp) hcall o ho
      · obtain rfl := Option.some.inj hcall
        exact absurd ho List.not_mem_nil

/-- The copies of fields of an object; a field that it lacks is copied as `null`. -/
def copied (fields : List (String × Json)) (pairs : List (String × String)) :
    List (String × Json) :=
  pairs.map fun f => (f.1, (fields.reverse.lookup f.2).getD .null)

/-- Copying fields of an object always succeeds. -/
lemma mapM_copyField_object (fields : List (String × Json)) (pairs : List (String × String)) :
    (pairs.mapM fun f => copyField (object fields) f.1 f.2) = some (copied fields pairs) := by
  induction pairs with
  | nil => rfl
  | cons f pairs ih =>
    have hf : copyField (object fields) f.1 f.2 =
        some (f.1, (fields.reverse.lookup f.2).getD .null) := by
      rw [copyField, object, Json.get, lookup_ofFields]
      rfl
    rw [List.mapM_cons, hf, ih]
    rfl

/-- The callback for an object that is meant for one user. -/
lemma notifyUser_object {fields : List (String × Json)} {uidField : String} {uid : ℤ}
    (huid : (object fields).getInt uidField = some uid) (mgr : ℤ → Option Conn) (id : ℤ)
    (pairs : List (String × String)) :
    notifyUser mgr (object fields) uidField id pairs =
      some ((mgr uid).toList.map fun c => .send c id (object (copied fields pairs))) := by
  simp only [notifyUser, huid, Option.bind_eq_bind, Option.bind_some]
  cases mgr uid with
  | none => rfl
  | some c =>
    simp only [mapM_copyField_object]
    rfl

/-- The callback for an object that is meant for the members of a group. -/
lemma notifyGroup_object {fields : List (String × Json)} {groupId fromUid : ℤ}
    (hgroup : (object fields).getInt "groupId" = some groupId)
    (hfrom : (object fields).getInt "fromUid" = some fromUid) (env : Env) (db : Database)
    (mgr : ℤ → Option Conn) (id : ℤ) (keys : List String) :
    notifyGroup env db mgr (object fields) id keys =
      some ((recipients fromUid (getGroupMembers (env.ok 0) db groupId)).filterMap
        fun member => (mgr member.uid).map fun c =>
          .send c id (object (("groupId", .num groupId) :: copied fields (same keys)))) := by
  have hcopied : (keys.mapM fun f => copyField (object fields) f f) =
      some (copied fields (same keys)) := by
    rw [← mapM_copyField_object, same, List.mapM_map]
    rfl
  simp only [notifyGroup, hgroup, hfrom, hcopied, Option.bind_eq_bind, Option.bind_some]

/-- The callback assigns the fields of a group message in another order. -/
lemma object_groupFields (extra : List (String × Json)) (hextra : extra = [] ∨
      ∃ imageType imageWidth imageHeight fileSize,
        extra = [("imageType", .str imageType), ("width", .num imageWidth),
          ("height", .num imageHeight), ("fileSize", .num fileSize)])
    (mid fromUid : ℤ) (fromUser : UserInfo) (groupId : ℤ) (group : GroupInfo)
    (content now : String) :
    object (groupFields extra mid fromUid fromUser groupId group content now) =
      object ([("groupId", .num groupId), ("groupName", .str group.name),
        ("messageId", .num mid), ("fromUid", .num fromUid), ("fromName", .str fromUser.name),
        ("fromAvatar", .str fromUser.avatar), ("content", .str content)] ++ extra ++
        [("time", .str now)]) := by
  refine object_perm ?_ ?_
  · exact (@List.perm_append_comm _ [_, _, _, _] [_, _]).append_right
      (("content", .str content) :: extra ++ [("time", .str now)])
  · rw [groupFields]
    rcases hextra with rfl | ⟨t, w, h, f, rfl⟩ <;> simp

section Values

variable {kind : MessageKind} {body : Json} {extra : List (String × Json)}
  (hextra : kind.extra body = some extra)

include hextra

/-- The callback makes of a private message what its handler sends to a session of its own
server. -/
lemma subscriberCallback_privatePublished (hkind : kind = textChat ∨ kind = imageChat)
    (mid fromUid : ℤ) (fromUser : UserInfo) {toUid : ℤ} (hto : toInt32 toUid = toUid)
    (content now : String) (env : Env) (db : Database) (mgr : ℤ → Option Conn) :
    subscriberCallback env db mgr
        (some (privatePublished kind extra mid fromUid fromUser toUid content now)) =
      (mgr toUid).toList.map fun c =>
        .send c kind.notifyId (privateNotify extra mid fromUid fromUser content now) := by
  have hto' : (privatePublished kind extra mid fromUid fromUser toUid content now).getInt "toUid" =
      some toUid := by
    rw [privatePublished, getInt_object]
    rcases extra_cases (extra_of_private hkind) hextra with rfl | ⟨t, w, h, f, rfl⟩ <;>
      simp [List.lookup, toInt, hto]
  have htype : (privatePublished kind extra mid fromUid fromUser toUid content now).value
      "type" "" = some kind.redisType := by
    rw [privatePublished, value_object]
    rcases extra_cases (extra_of_private hkind) hextra with rfl | ⟨t, w, h, f, rfl⟩ <;>
      simp [List.lookup, toStr]
  simp only [subscriberCallback, htype, Option.bind_eq_bind, Option.bind_some]
  rw [privatePublished] at hto' ⊢
  rcases hkind with rfl | rfl
  · rw [if_pos (show textChat.redisType = "chat_msg" from rfl), notifyUser_object hto',
      Option.getD_some]
    obtain rfl := Option.some.inj hextra
    rfl
  · rw [if_neg (by decide), if_neg (by decide),
      if_pos (show imageChat.redisType = "image_msg" from rfl), notifyUser_object hto',
      Option.getD_some]
    obtain ⟨t, w, h, f, rfl⟩ := imageExtra_spec hextra
    rfl

/-- The same for a group message, which goes to all recipients on the server. -/
lemma subscriberCallback_groupPublished (hkind : kind = groupText ∨ kind = groupImage)
    (mid : ℤ) {fromUid : ℤ} (fromUser : UserInfo) {groupId : ℤ} (hfrom : toInt32 fromUid = fromUid)
    (hgroup : toInt32 groupId = groupId) (group : GroupInfo) (content now : String) (env : Env)
    (db : Database) (mgr : ℤ → Option Conn) :
    subscriberCallback env db mgr (some (object (("type", .str kind.redisType) ::
        groupFields extra mid fromUid fromUser groupId group content now))) =
      (recipients fromUid (getGroupMembers (env.ok 0) db groupId)).filterMap fun member =>
        (mgr member.uid).map fun c => .send c kind.notifyId
          (object (groupFields extra mid fromUid fromUser groupId group content now)) := by
  have hgroup' : (object (("type", .str kind.redisType) ::
      groupFields extra mid fromUid fromUser groupId group content now)).getInt "groupId" =
      some groupId := by
    rw [getInt_object, groupFields]
    rcases extra_cases (extra_of_group hkind) hextra with rfl | ⟨t, w, h, f, rfl⟩ <;>
      simp [List.lookup, toInt, hgroup]
  have hfrom' : (object (("type", .str kind.redisType) ::
      groupFields extra mid fromUid fromUser groupId group content now)).getInt "fromUid" =
      some fromUid := by
    rw [getInt_object, groupFields]
    rcases extra_cases (extra_of_group hkind) hextra with rfl | ⟨t, w, h, f, rfl⟩ <;>
      simp [List.lookup, toInt, hfrom]
  have htype : (object (("type", .str kind.redisType) ::
      groupFields extra mid fromUid fromUser groupId group content now)).value "type" "" =
      some kind.redisType := by
    rw [value_object, groupFields]
    rcases extra_cases (extra_of_group hkind) hextra with rfl | ⟨t, w, h, f, rfl⟩ <;>
      simp [List.lookup, toStr]
  simp only [subscriberCallback, htype, Option.bind_eq_bind, Option.bind_some]
  rcases hkind with rfl | rfl
  · rw [if_neg (by decide), if_pos (show groupText.redisType = "group_msg" from rfl),
      notifyGroup_object hgroup' hfrom', Option.getD_some]
    obtain rfl := Option.some.inj hextra
    rw [object_groupFields _ (.inl rfl)]
    rfl
  · rw [if_neg (by decide), if_neg (by decide), if_neg (by decide),
      if_pos (show groupImage.redisType = "group_image_msg" from rfl),
      notifyGroup_object hgroup' hfrom', Option.getD_some]
    obtain ⟨t, w, h, f, rfl⟩ := imageExtra_spec hextra
    rw [object_groupFields _ (.inr ⟨_, _, _, _, rfl⟩)]
    rfl

end Values

end Callback

end LogicSystem

end WeChat
