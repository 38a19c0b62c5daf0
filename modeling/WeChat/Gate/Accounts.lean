/-
# The accounts in the database

The functions of `MySQLMgr` that the handlers of `GateServer` call to look up a user and to change
a password.  `queryUser`, `queryEmail` and the first half of `resetPassword` put their argument
into the text of the statement, the others bind it.  A call takes its sessions and executes its
statements one after the other; each may fail, and other calls may change the table in between.

The database server is a parameter.  What is known of it is that a statement which selects the
rows with a value in a column returns these rows in some order, where the text of the statement
counts by its tokens and the values are compared by the collation of the column.
-/
import Mathlib.Data.List.Perm.Basic
import WeChat.Gate.Handlers
import WeChat.Lib.Sql

namespace WeChat

open Sql

namespace GateServer

/-- A row of `wechat.user`. -/
structure Account where
  id : ℤ
  name : String
  email : String
  password : String
deriving DecidableEq

/-- The columns by which an account is found. -/
inductive Column
  | name | email
deriving DecidableEq

def Column.text : Column → String
  | name => "name"
  | email => "email"

def Account.entry (a : Account) : Column → String
  | .name => a.name
  | .email => a.email

/-- The tokens of ``SELECT `selected` from wechat.user where `column`='value'``. -/
def selectTokens (selected : String) (column : Column) (value : String) : List Token :=
  [.word "SELECT", .name selected, .word "from", .word "wechat", .symbol '.', .word "user",
    .word "where", .name column.text, .symbol '='] ++ [.literal value]

/-- MySQL, as a call meets it; its statements are numbered.  No result is an exception. -/
structure Server where
  /-- The comparison of two values of a column. -/
  same : String → String → Bool
  same_self : ∀ s, same s s = true
  /-- The rows that a statement without parameters returns. -/
  execute : ℕ → String → List Account → Option (List Account)
  /-- The rows that `SELECT … where column=?` returns. -/
  select : ℕ → Column → String → List Account → Option (List Account)
  /-- The `UPDATE` of a password is executed. -/
  update : ℕ → Bool
  execute_perm : ∀ {i text selected column value accounts rows},
    lex text = some (selectTokens selected column value) → execute i text accounts = some rows →
      rows.Perm (accounts.filter fun a => same (a.entry column) value)
  select_perm : ∀ {i column value accounts rows}, select i column value accounts = some rows →
    rows.Perm (accounts.filter fun a => same (a.entry column) value)

/-- What a call meets: whether it gets its sessions, and the table when it executes each of its
statements. -/
structure Call where
  server : Server
  session : ℕ → Bool
  accounts : ℕ → List Account

/-- The account is one with this value in the column. -/
def Server.Matches (server : Server) (column : Column) (value : String) (a : Account) : Prop :=
  server.same (a.entry column) value = true

/-! ## A server without failures -/

/-- The column and the value of a statement that selects accounts. -/
def readSelect : List Token → Option (Column × String)
  | [.word "SELECT", .name _, .word "from", .word "wechat", .symbol '.', .word "user",
      .word "where", .name column, .symbol '=', .literal value] =>
    if column = "name" then some (.name, value)
    else if column = "email" then some (.email, value)
    else none
  | _ => none

lemma readSelect_selectTokens (selected : String) (column : Column) (value : String) :
    readSelect (selectTokens selected column value) = some (column, value) := by
  cases column <;> rfl

/-- The rows with a value in a column. -/
def rowsWith (column : Column) (value : String) (accounts : List Account) : List Account :=
  accounts.filter fun a => a.entry column = value

/-- A server that compares values as they are and rejects every other statement. -/
def exactServer : Server where
  same s t := s = t
  same_self s := decide_eq_true rfl
  execute _ text accounts :=
    ((lex text).bind readSelect).map fun query => rowsWith query.1 query.2 accounts
  select _ column value accounts := some (rowsWith column value accounts)
  update _ := true
  execute_perm := by
    intro i text selected column value accounts rows hlex hrows
    rw [hlex, Option.bind_some, readSelect_selectTokens] at hrows
    exact .of_eq (Option.some.inj hrows).symm
  select_perm := by
    intro i column value accounts rows hrows
    exact .of_eq (Option.some.inj hrows).symm

/-- An account. -/
def alice : Account := ⟨1, "alice", "alice@example.com", "secret"⟩

namespace MySQLMgr

/-! ## The statements that hold their argument -/

def queryUserText (user : String) : String :=
  "SELECT `name` from wechat.user where `name`='" ++ user ++ "'"

def queryEmailText (email : String) : String :=
  "SELECT `email` from wechat.user where `email`='" ++ email ++ "'"

/-- The look-up of the old password in `resetPassword`. -/
def oldPasswordText (email : String) : String :=
  "SELECT `password` from wechat.user where `email`='" ++ email ++ "'"

/-! ## The functions -/

/-- `queryUser` and `queryEmail` with the text of their statement, which is the `i`-th one: an
exception means the same as no row. -/
def query (server : Server) (session : Bool) (i : ℕ) (accounts : List Account) (text : String) :
    Bool :=
  if session then
    match server.execute i text accounts with
    | some rows => !rows.isEmpty
    | none => false
  else false

def queryUser (server : Server) (session : Bool) (i : ℕ) (accounts : List Account)
    (user : String) : Bool :=
  query server session i accounts (queryUserText user)

def queryEmail (server : Server) (session : Bool) (i : ℕ) (accounts : List Account)
    (email : String) : Bool :=
  query server session i accounts (queryEmailText email)

/-- The body of `loginAcconut` and `loginEmail`: the row is found by a column.  Reading a row that
is not there throws. -/
def checkPassword (call : Call) (existing : Bool) (column : Column) (value password : String) :
    ℤ :=
  if call.session 0 then
    if existing then
      match call.server.select 1 column value (call.accounts 1) with
      | some (row :: _) => if password ≠ row.password then -3 else 0
      | some [] => -1
      | none => -1
    else -2
  else -1

def loginAcconut (call : Call) (user password : String) : ℤ :=
  checkPassword call (queryUser call.server (call.session 1) 0 (call.accounts 0) user) .name user
    password

def loginEmail (call : Call) (email password : String) : ℤ :=
  checkPassword call (queryEmail call.server (call.session 1) 0 (call.accounts 0) email) .email
    email password

/-- `UPDATE wechat.user SET password=? where email=?`. -/
def setPassword (server : Server) (email password : String) (accounts : List Account) :
    List Account :=
  accounts.map fun a => if server.same a.email email then { a with password := password } else a

/-- The result of `resetPassword`, and the table when it has executed its `UPDATE`. -/
def resetPassword (call : Call) (email password : String) : ℤ × Option (List Account) :=
  if call.session 0 then
    if queryEmail call.server (call.session 1) 0 (call.accounts 0) email then
      match call.server.execute 1 (oldPasswordText email) (call.accounts 1) with
      | some (row :: _) =>
        if password = row.password then (-3, none)
        else if call.server.update 2 then
          (0, some (setPassword call.server email password (call.accounts 2)))
        else (-1, none)
      | some [] => (-1, none)
      | none => (-1, none)
    else (-2, none)
  else (-1, none)

/-- `getUID`, whose statement is the `i`-th one. -/
def getUID (server : Server) (session : Bool) (i : ℕ) (accounts : List Account) (mod : ℤ)
    (str : String) : ℤ :=
  if session then
    match server.select i (if mod = 0 then .email else .name) str accounts with
    | some (row :: _) => row.id
    | some [] => -2
    | none => -1
  else -1

/-! ## What they find -/

section Find

variable {server : Server} {i : ℕ} {text selected value : String} {column : Column}
  {accounts rows : List Account} {row : Account}

lemma mem_select (h : server.select i column value accounts = some (row :: rows)) :
    row ∈ accounts ∧ server.Matches column value row := by
  have hmem := (server.select_perm h).mem_iff.1 List.mem_cons_self
  obtain ⟨hrow, hsame⟩ := List.mem_filter.1 hmem
  exact ⟨hrow, hsame⟩

/-- A statement that is read as it is meant finds a row exactly when there is one. -/
lemma execute_ne_nil_iff (hlex : lex text = some (selectTokens selected column value))
    (h : server.execute i text accounts = some rows) :
    rows ≠ [] ↔ ∃ a ∈ accounts, server.Matches column value a := by
  have hmem : ∀ a, a ∈ rows ↔ a ∈ accounts ∧ server.Matches column value a := by
    intro a
    rw [(server.execute_perm hlex h).mem_iff, List.mem_filter, Server.Matches]
  constructor
  · intro hne
    obtain ⟨a, ha⟩ := List.exists_mem_of_ne_nil rows hne
    exact ⟨a, (hmem a).1 ha⟩
  · rintro ⟨a, ha⟩
    exact List.ne_nil_of_mem ((hmem a).2 ha)

/-- `queryUser` and `queryEmail`, when they get a session and their statement is executed. -/
lemma query_eq_true_iff (h : server.execute i text accounts = some rows) :
    query server true i accounts text = true ↔ rows ≠ [] := by
  rw [query, if_pos rfl, h]
  cases rows with
  | nil => simp
  | cons row rows => simp

end Find

end MySQLMgr

end GateServer

end WeChat
