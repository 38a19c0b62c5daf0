/-
# What the handlers read

The fields of the body that each handler of `LogicSystem` converts, in the order in which it
does.  A handler throws when a conversion does, and it does not look at anything else in the
body.  The handlers of the friend list and of the history of a chat are not here: they catch what
is thrown.
-/
import WeChat.Lib.JsonSchema
import WeChat.Chat.System

namespace WeChat

open Json

namespace LogicSystem

/-- The fields of an image that follow its content. -/
def imageSchema : List (String × Kind) :=
  [("imageType", .str), ("width", .int), ("height", .int), ("fileSize", .int)]

/-- The fields that the handler of a message converts. -/
def schemas : List (ℤ × List (String × Kind)) :=
  [(idSearchUserReq, [("keyword", .str), ("searchType", .int)]),
    (idAddFriendReq, [("fromUid", .int), ("toUid", .int), ("message", .str)]),
    (idAuthFriendReq, [("requestId", .int), ("fromUid", .int), ("toUid", .int),
      ("accept", .bool)]),
    (idTextChatMsgReq, [("fromUid", .int), ("toUid", .int), ("content", .str)]),
    (idImageChatMsgReq,
      [("fromUid", .int), ("toUid", .int), ("content", .str)] ++ imageSchema),
    (idCreateGroupReq, [("ownerUid", .int), ("name", .str), ("avatar", .strOr "")]),
    (idAddGroupMemberReq, [("groupId", .int), ("uids", .ints)]),
    (idRemoveGroupMemberReq, [("groupId", .int), ("uid", .int)]),
    (idGroupChatMsgReq, [("fromUid", .int), ("groupId", .int), ("content", .str)]),
    (idGroupImageChatMsgReq,
      [("fromUid", .int), ("groupId", .int), ("content", .str)] ++ imageSchema),
    (idGetGroupListReq, [("uid", .int)]),
    (idGetGroupMembersReq, [("groupId", .int)]),
    (idGetGroupChatHistoryReq, [("groupId", .int), ("count", .int), ("offset", .int)])]

section Reads

variable {env : Env} {db : Database} {mgr : ℤ → Option Conn} {session : Conn}

/-- A handler that converts these fields of the body. -/
def HandlerReads (handler : Option Json → Option (Database × List Output))
    (fields : List (String × Kind)) : Prop :=
  ∃ f, Reads f fields ∧ ∀ src, handler src = src.bind f

/-- A handler answers whether its work on the database succeeds or not. -/
lemma isSome_ite_some_some {α : Type*} {p : Prop} [Decidable p] {a b : α} :
    (if p then some a else some b).isSome := by
  split <;> rfl

lemma reads_imageExtra : Reads imageExtra imageSchema :=
  reads_str fun _ => reads_int fun _ => reads_int fun _ => reads_int fun _ => reads_const rfl

lemma reads_privateMessage {kind : MessageKind} {extra : List (String × Kind)}
    (h : Reads kind.extra extra) : HandlerReads (privateMessage env db mgr session kind)
      ([("fromUid", .int), ("toUid", .int), ("content", .str)] ++ extra) :=
  ⟨_, reads_int fun _ => reads_int fun _ => reads_str fun _ =>
    h.bind_const fun _ => isSome_ite_some_some, fun _ => rfl⟩

lemma reads_groupMessage {kind : MessageKind} {extra : List (String × Kind)}
    (h : Reads kind.extra extra) : HandlerReads (groupMessage env db mgr session kind)
      ([("fromUid", .int), ("groupId", .int), ("content", .str)] ++ extra) :=
  ⟨_, reads_int fun _ => reads_int fun _ => reads_str fun _ =>
    h.bind_const fun _ => isSome_ite_some_some, fun _ => rfl⟩

lemma reads_searchUser : HandlerReads (searchUser env db session)
    [("keyword", .str), ("searchType", .int)] :=
  ⟨_, reads_str fun _ => reads_int fun _ => reads_const rfl, fun _ => rfl⟩

lemma reads_addFriend : HandlerReads (addFriend env db mgr session)
    [("fromUid", .int), ("toUid", .int), ("message", .str)] :=
  ⟨_, reads_int fun _ => reads_int fun _ => reads_str fun _ => reads_const isSome_ite_some_some,
    fun _ => rfl⟩

lemma reads_authFriend : HandlerReads (authFriend env db mgr session)
    [("requestId", .int), ("fromUid", .int), ("toUid", .int), ("accept", .bool)] :=
  ⟨_, reads_int fun _ => reads_int fun _ => reads_int fun _ => reads_bool fun _ =>
    reads_const isSome_ite_some_some, fun _ => rfl⟩

lemma reads_createGroupReq : HandlerReads (createGroupReq env db session)
    [("ownerUid", .int), ("name", .str), ("avatar", .strOr "")] :=
  ⟨_, reads_int fun _ => reads_str fun _ => reads_strOr fun _ => reads_const isSome_ite_some_some,
    fun _ => rfl⟩

lemma reads_addGroupMemberReq : HandlerReads (addGroupMemberReq env db session)
    [("groupId", .int), ("uids", .ints)] :=
  ⟨_, reads_int fun _ => reads_ints fun _ => reads_const rfl, fun _ => rfl⟩

lemma reads_removeGroupMemberReq : HandlerReads (removeGroupMemberReq env db session)
    [("groupId", .int), ("uid", .int)] :=
  ⟨_, reads_int fun _ => reads_int fun _ => reads_const rfl, fun _ => rfl⟩

lemma reads_groupList : HandlerReads (groupList env db session) [("uid", .int)] :=
  ⟨_, reads_int fun _ => reads_const rfl, fun _ => rfl⟩

lemma reads_groupMembers : HandlerReads (groupMembers env db mgr session) [("groupId", .int)] :=
  ⟨_, reads_int fun _ => reads_const rfl, fun _ => rfl⟩

lemma reads_groupChatHistory : HandlerReads (groupChatHistory env db session)
    [("groupId", .int), ("count", .int), ("offset", .int)] :=
  ⟨_, reads_int fun _ => reads_int fun _ => reads_int fun _ => reads_const rfl, fun _ => rfl⟩

variable (env db mgr session)

/-- **A handler that lets an exception through converts the fields of its schema.** -/
theorem msgHandler_reads {id : ℤ} {fields : List (String × Kind)}
    (h : schemas.lookup id = some fields) :
    ∃ handler, msgHandler env db mgr session id = some handler ∧ HandlerReads handler fields := by
  have hmem : (id, fields) ∈ schemas := by
    obtain ⟨before, after, hsplit, -⟩ := List.lookup_eq_some_iff.1 h
    rw [hsplit]
    exact List.mem_append_right _ List.mem_cons_self
  simp only [schemas, List.mem_cons, Prod.mk.injEq, List.not_mem_nil, or_false] at hmem
  rcases hmem with ⟨rfl, rfl⟩ | ⟨rfl, rfl⟩ | ⟨rfl, rfl⟩ | ⟨rfl, rfl⟩ | ⟨rfl, rfl⟩ |
    ⟨rfl, rfl⟩ | ⟨rfl, rfl⟩ | ⟨rfl, rfl⟩ | ⟨rfl, rfl⟩ | ⟨rfl, rfl⟩ |
    ⟨rfl, rfl⟩ | ⟨rfl, rfl⟩ | ⟨rfl, rfl⟩
  · exact ⟨_, rfl, reads_searchUser⟩
  · exact ⟨_, rfl, reads_addFriend⟩
  · exact ⟨_, rfl, reads_authFriend⟩
  · exact ⟨_, rfl, reads_privateMessage (reads_const rfl)⟩
  · exact ⟨_, rfl, reads_privateMessage reads_imageExtra⟩
  · exact ⟨_, rfl, reads_createGroupReq⟩
  · exact ⟨_, rfl, reads_addGroupMemberReq⟩
  · exact ⟨_, rfl, reads_removeGroupMemberReq⟩
  · exact ⟨_, rfl, reads_groupMessage (reads_const rfl)⟩
  · exact ⟨_, rfl, reads_groupMessage reads_imageExtra⟩
  · exact ⟨_, rfl, reads_groupList⟩
  · exact ⟨_, rfl, reads_groupMembers⟩
  · exact ⟨_, rfl, reads_groupChatHistory⟩

end Reads

end LogicSystem

end WeChat
