/-
# The operations of `RedisMgr`

ChatServer and GateServer have the same wrappers of the Redis commands.  Each of them takes a
connection from the pool, sends one command, and looks at the type of the reply and at its
number; on every path it then gives the connection back.  The arguments are formatted with
`%s`, which takes a C string: it ends at the first zero byte.
-/
import Mathlib.Data.List.TakeWhile
import WeChat.Lib.RedisData

namespace WeChat

namespace RedisMgr

open Wire

/-- The bytes of a string up to its first zero byte. -/
def cstr (s : Bytes) : Bytes := s.takeWhile (· ≠ 0)

/-- A string without a zero byte. -/
def Intact (s : Bytes) : Prop := (0 : UInt8) ∉ s

instance (s : Bytes) : Decidable (Intact s) := inferInstanceAs (Decidable (_ ∉ _))

lemma cstr_eq_self_iff {s : Bytes} : cstr s = s ↔ Intact s := by
  simp only [cstr, Intact, List.takeWhile_eq_self_iff, decide_eq_true_eq]
  exact ⟨fun h hmem => h 0 hmem rfl, fun h b hb h0 => h (h0 ▸ hb)⟩

lemma Intact.cstr_eq {s : Bytes} (h : Intact s) : cstr s = s := cstr_eq_self_iff.2 h

/-! ## The body of an operation -/

/-- A `redisContext *`. -/
abbrev Connection : Type := ℕ

/-- What is left of a call, up to the answers that it gets: a connection, which may be null, or
a reply, which is null when the connection has failed. -/
inductive Program (α : Type)
  | getConnection (next : Option Connection → Program α)
  | redisCommand (connect : Connection) (command : RedisData.Command)
      (next : Option RedisData.Reply → Program α)
  | returnConnection (connect : Connection) (next : Program α)
  | done (result : α)

/-- The body that the operations share.  `accept` is the test of the reply, with what it puts
into the parameter `value`; the result is `none` for `false`. -/
def operation {α : Type} (command : RedisData.Command) (accept : RedisData.Reply → Option α) :
    Program (Option α) :=
  .getConnection fun
    | none => .done none
    | some connect => .redisCommand connect command fun
      | none => .returnConnection connect (.done none)
      | some reply =>
        match accept reply with
        | none => .returnConnection connect (.done none)
        | some value => .returnConnection connect (.done (some value))

/-- `reply->type == REDIS_REPLY_STRING`, and `value = reply->str`. -/
def stringReply : RedisData.Reply → Option Bytes
  | .string s => some (cstr s)
  | _ => none

/-- `reply->type == REDIS_REPLY_STATUS` with the text `OK`. -/
def okReply (reply : RedisData.Reply) : Option Unit :=
  if reply = RedisData.ok then some () else none

/-- `reply->type == REDIS_REPLY_INTEGER`. -/
def integerReply : RedisData.Reply → Option Unit
  | .integer _ => some ()
  | _ => none

/-- `reply->type == REDIS_REPLY_INTEGER` with a positive integer. -/
def positiveReply : RedisData.Reply → Option Unit
  | .integer n => if 0 < n then some () else none
  | _ => none

/-- `reply->type != REDIS_REPLY_ERROR`. -/
def otherThanError (reply : RedisData.Reply) : Option Unit :=
  if reply = .error then none else some ()

/-! ## The operations -/

def get (key : Bytes) : Program (Option Bytes) := operation (.get (cstr key)) stringReply

def set (key value : Bytes) : Program (Option Unit) :=
  operation (.set (cstr key) (cstr value)) okReply

def auth (password : Bytes) : Program (Option Unit) :=
  operation (.auth (cstr password)) otherThanError

def lPush (key value : Bytes) : Program (Option Unit) :=
  operation (.push .left (cstr key) (cstr value)) positiveReply

def rPush (key value : Bytes) : Program (Option Unit) :=
  operation (.push .right (cstr key) (cstr value)) positiveReply

def lPop (key : Bytes) : Program (Option Bytes) := operation (.pop .left (cstr key)) stringReply

def rPop (key : Bytes) : Program (Option Bytes) := operation (.pop .right (cstr key)) stringReply

def del (key : Bytes) : Program (Option Unit) := operation (.del (cstr key)) positiveReply

def existsKey (key : Bytes) : Program (Option Unit) := operation (.exist (cstr key)) positiveReply

def hGet (key field : Bytes) : Program (Option Bytes) :=
  operation (.hget (cstr key) (cstr field)) stringReply

def hSet (key field value : Bytes) : Program (Option Unit) :=
  operation (.hset (cstr key) (cstr field) (cstr value)) positiveReply

/-- The overload of `hSet` for C strings, with the length of the value. -/
def hSetChars (key field value : Bytes) : Program (Option Unit) :=
  operation (.hset (cstr key) (cstr field) value) positiveReply

def publish (channel message : Bytes) : Program (Option Unit) :=
  operation (.publish (cstr channel) (cstr message)) integerReply

def hIncrBy (key field : Bytes) (increment : Int64) : Program (Option Unit) :=
  operation (.hincrby (cstr key) (cstr field) increment.toInt) integerReply

/-- Redis has no `HDECRBY`. -/
def hDecrBy (key field : Bytes) (decrement : Int64) : Program (Option Unit) :=
  operation (.unknown [utf8 "HDECRBY", cstr key, cstr field, utf8 decrement.toInt.repr])
    integerReply

def hDel (key field : Bytes) : Program (Option Unit) :=
  operation (.hdel (cstr key) (cstr field)) integerReply

/-! ## A call that Redis executes -/

namespace Program

variable {α : Type}

/-- The result of a call, and the database after it: there is a connection, and Redis executes
the command. -/
def eval (db : RedisData.Store) : Program α → α × RedisData.Store
  | getConnection next => (next (some 0)).eval db
  | redisCommand _ command next =>
    (next (some (RedisData.exec db command).1)).eval (RedisData.exec db command).2
  | returnConnection _ next => next.eval db
  | done result => (result, db)

/-- What an operation answers, and what it leaves behind. -/
@[simp] lemma eval_operation (db : RedisData.Store) (command : RedisData.Command)
    (accept : RedisData.Reply → Option α) :
    (operation command accept).eval db =
      (accept (RedisData.exec db command).1, (RedisData.exec db command).2) := by
  simp only [operation, eval]
  cases accept (RedisData.exec db command).1 <;> rfl

/-- The program without its result. -/
def forget : Program α → Program Unit
  | getConnection next => .getConnection fun c => (next c).forget
  | redisCommand connect command next => .redisCommand connect command fun r => (next r).forget
  | returnConnection connect next => .returnConnection connect next.forget
  | done _ => .done ()

/-! ## Connections -/

/-- How far a call is with the connection that it takes. -/
inductive Stage
  | before
  | holding (connect : Connection)
  | after

/-- The connection that a call holds. -/
def Stage.held : Stage → List Connection
  | before => []
  | holding connect => [connect]
  | after => []

/-- What is left of a call that takes one connection, if it gets one, and gives it back on every
path. -/
inductive Single : Stage → Program α → Prop
  | done (result : α) : Single .after (done result)
  | getConnection (next : Option Connection → Program α) (refused : Single .after (next none))
      (taken : ∀ connect, Single (.holding connect) (next (some connect))) :
    Single .before (getConnection next)
  | redisCommand (connect : Connection) (command : RedisData.Command)
      (next : Option RedisData.Reply → Program α)
      (rest : ∀ reply, Single (.holding connect) (next reply)) :
    Single (.holding connect) (redisCommand connect command next)
  | returnConnection (connect : Connection) (next : Program α) (rest : Single .after next) :
    Single (.holding connect) (returnConnection connect next)

lemma Single.forget {p : Program α} {stage : Stage} (h : Single stage p) :
    Single stage p.forget := by
  induction h with
  | done result => exact .done ()
  | getConnection next _ _ ih₁ ih₂ => exact .getConnection _ ih₁ ih₂
  | redisCommand connect command next _ ih => exact .redisCommand connect command _ ih
  | returnConnection connect next _ ih => exact .returnConnection connect _ ih

lemma single_operation (command : RedisData.Command) (accept : RedisData.Reply → Option α) :
    Single .before (operation command accept) := by
  refine .getConnection _ (.done _) fun connect => ?_
  refine .redisCommand _ _ _ fun reply => ?_
  cases reply with
  | none => exact .returnConnection _ _ (.done _)
  | some reply =>
    -- the path of a failed test and the path of a test that is passed
    dsimp only
    split
    · exact .returnConnection _ _ (.done _)
    · exact .returnConnection _ _ (.done _)

end Program

/-- A call of an operation of `RedisMgr`. -/
inductive Operation
  | get (key : Bytes)
  | set (key value : Bytes)
  | auth (password : Bytes)
  | lPush (key value : Bytes)
  | rPush (key value : Bytes)
  | lPop (key : Bytes)
  | rPop (key : Bytes)
  | del (key : Bytes)
  | existsKey (key : Bytes)
  | hGet (key field : Bytes)
  | hSet (key field value : Bytes)
  | hSetChars (key field value : Bytes)
  | publish (channel message : Bytes)
  | hIncrBy (key field : Bytes) (increment : Int64)
  | hDecrBy (key field : Bytes) (decrement : Int64)
  | hDel (key field : Bytes)

/-- What the operation does, up to its result. -/
def Operation.program : Operation → Program Unit
  | .get key => (RedisMgr.get key).forget
  | .set key value => (RedisMgr.set key value).forget
  | .auth password => (RedisMgr.auth password).forget
  | .lPush key value => (RedisMgr.lPush key value).forget
  | .rPush key value => (RedisMgr.rPush key value).forget
  | .lPop key => (RedisMgr.lPop key).forget
  | .rPop key => (RedisMgr.rPop key).forget
  | .del key => (RedisMgr.del key).forget
  | .existsKey key => (RedisMgr.existsKey key).forget
  | .hGet key field => (RedisMgr.hGet key field).forget
  | .hSet key field value => (RedisMgr.hSet key field value).forget
  | .hSetChars key field value => (RedisMgr.hSetChars key field value).forget
  | .publish channel message => (RedisMgr.publish channel message).forget
  | .hIncrBy key field increment => (RedisMgr.hIncrBy key field increment).forget
  | .hDecrBy key field decrement => (RedisMgr.hDecrBy key field decrement).forget
  | .hDel key field => (RedisMgr.hDel key field).forget

/-- **Every operation takes one connection and gives it back.** -/
theorem single_program (op : Operation) : Program.Single .before op.program := by
  cases op with
  | _ => exact (Program.single_operation _ _).forget

end RedisMgr

end WeChat
