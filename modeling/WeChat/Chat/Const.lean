/-
# The constants of the chat server

Error codes, message identifiers and sizes, with the values of `const.h`.  A message
identifier arrives from the network as an arbitrary short, so identifiers are integers.
-/
import Mathlib.Data.Int.Basic

namespace WeChat

/-- `enum ErrorCodes`. -/
inductive ErrorCodes
  | success | errNetwork | errorJson | rpcFailed | verifyCodeExpired | verifyCodeError
  | userNotExist | userExist | passwordError | emailExist | emailNotExist | passwordUpFailed
  | errMysql | passwordSame | tokenInvalid | serverNotFound
deriving DecidableEq, Repr

/-- The number that stands for an error code in a message. -/
def ErrorCodes.code : ErrorCodes → ℤ
  | success => 0
  | errNetwork => 1000
  | errorJson => 1001
  | rpcFailed => 1002
  | verifyCodeExpired => 1003
  | verifyCodeError => 1004
  | userNotExist => 1005
  | userExist => 1006
  | passwordError => 1007
  | emailExist => 1008
  | emailNotExist => 1009
  | passwordUpFailed => 1010
  | errMysql => 1011
  | passwordSame => 1012
  | tokenInvalid => 1013
  | serverNotFound => 1014

/-! ## `enum MSG_IDS` -/

def idChatLogin : ℤ := 1005
def idChatLoginRsp : ℤ := 1006
def idSearchUserReq : ℤ := 1007
def idSearchUserRsp : ℤ := 1008
def idAddFriendReq : ℤ := 1009
def idAddFriendRsp : ℤ := 1010
def idNotifyAddFriendReq : ℤ := 1011
def idAuthFriendReq : ℤ := 1013
def idAuthFriendRsp : ℤ := 1014
def idNotifyAuthFriendRsp : ℤ := 1015
def idTextChatMsgReq : ℤ := 1017
def idTextChatMsgRsp : ℤ := 1018
def idNotifyTextChatMsgReq : ℤ := 1019
def idHeartbeatPing : ℤ := 1020
def idHeartbeatPong : ℤ := 1021
def idFriendListReq : ℤ := 1022
def idFriendListRsp : ℤ := 1023
def idGetChatHistoryReq : ℤ := 1024
def idGetChatHistoryRsp : ℤ := 1025
def idRecentMessagesRsp : ℤ := 1026
def idFriendRequestListRsp : ℤ := 1027
def idImageChatMsgReq : ℤ := 1028
def idImageChatMsgRsp : ℤ := 1029
def idNotifyImageChatMsgReq : ℤ := 1030
def idCreateGroupReq : ℤ := 2001
def idCreateGroupRsp : ℤ := 2002
def idAddGroupMemberReq : ℤ := 2003
def idAddGroupMemberRsp : ℤ := 2004
def idRemoveGroupMemberReq : ℤ := 2005
def idRemoveGroupMemberRsp : ℤ := 2006
def idGroupChatMsgReq : ℤ := 2007
def idGroupChatMsgRsp : ℤ := 2008
def idNotifyGroupChatMsgReq : ℤ := 2009
def idGetGroupListReq : ℤ := 2010
def idGetGroupListRsp : ℤ := 2011
def idGetGroupMembersReq : ℤ := 2012
def idGetGroupMembersRsp : ℤ := 2013
def idGetGroupChatHistoryReq : ℤ := 2014
def idGetGroupChatHistoryRsp : ℤ := 2015
def idGroupImageChatMsgReq : ℤ := 2016
def idGroupImageChatMsgRsp : ℤ := 2017
def idNotifyGroupImageChatMsgReq : ℤ := 2018

/-! ## Sizes -/

/-- `MSG_MAX_LEN`, the largest body in bytes. -/
def msgMaxLen : ℤ := 8192

/-- `MSG_HEAD_SIZE`, the size of a header in bytes. -/
def msgHeadSize : ℕ := 4

/-- `QUEUE_MAX_SIZE`, the bound of the message queues. -/
def queueMaxSize : ℕ := 1000

end WeChat
