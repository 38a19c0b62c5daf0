/-
# The result codes of the account functions

`loginAcconut`, `loginEmail` and `resetPassword` report with a number what became of a call: `-1`
for a failure, `-2` for a user that does not exist, `-3` for a password, and `0` for a success.
They ask `queryUser` or `queryEmail` first, which report a failure like a missing row, and an
`UPDATE` that finds no row is a success.  This file determines when the numbers are true.
-/
import WeChat.Gate.Literals

namespace WeChat

open Sql

namespace GateServer

/-- At the moment of one of the first statements of a call the table has an account. -/
def Call.Had (call : Call) (statements : ℕ) (p : Account → Prop) : Prop :=
  ∃ k < statements, ∃ a ∈ call.accounts k, p a

/-- At such a moment the table has no account for the value of a column. -/
def Call.Lacked (call : Call) (statements : ℕ) (column : Column) (value : String) : Prop :=
  ∃ k < statements, ∀ a ∈ call.accounts k, ¬ call.server.Matches column value a

/-- The first statement of a call, in its second session, returns these rows. -/
def Call.Finds (call : Call) (text : String) (rows : List Account) : Prop :=
  call.session 1 = true ∧ call.server.execute 0 text (call.accounts 0) = some rows

lemma Call.Finds.unique {call : Call} {text : String} {rows rows' : List Account}
    (h : call.Finds text rows) (h' : call.Finds text rows') : rows = rows' :=
  Option.some.inj (h.2.symm.trans h'.2)

namespace MySQLMgr

/-! ## Logins -/

/-- A session or a statement that a login needs fails. -/
def LoginFails (call : Call) (column : Column) (text value : String) : Prop :=
  call.session 0 = false ∨ (∀ rows, ¬ call.Finds text rows) ∨
    ∃ rows, call.Finds text rows ∧ rows ≠ [] ∧
      call.server.select 1 column value (call.accounts 1) = none

/-- The result of a login is true of what the call has met. -/
structure LoginTells (call : Call) (column : Column) (text value password : String)
    (result : ℤ) : Prop where
  success : result = 0 →
    call.Had 2 fun a => call.server.Matches column value a ∧ a.password = password
  wrong : result = -3 →
    call.Had 2 fun a => call.server.Matches column value a ∧ a.password ≠ password
  missing : result = -2 → call.Lacked 2 column value
  failed : LoginFails call column text value → result = -1

/-- Where the login has a session, the query for the user is executed, and when it finds no row
there is none at some moment. -/
def LoginSound (call : Call) (column : Column) (text value : String) : Prop :=
  call.session 0 = true → ∃ rows, call.Finds text rows ∧
    (rows = [] → call.Lacked 2 column value)

section Login

variable {call : Call} {column : Column} {text value password : String} {rows : List Account}

/-- The query of a call is true when it returns a row. -/
lemma query_iff : query call.server (call.session 1) 0 (call.accounts 0) text = true ↔
    ∃ rows, call.Finds text rows ∧ rows ≠ [] := by
  cases hsession : call.session 1 with
  | false =>
    refine iff_of_false Bool.false_ne_true ?_
    rintro ⟨rows, hfinds, -⟩
    exact Bool.false_ne_true (hsession.symm.trans hfinds.1)
  | true =>
    cases hrows : call.server.execute 0 text (call.accounts 0) with
    | none =>
      rw [query, if_pos rfl, hrows]
      refine iff_of_false Bool.false_ne_true ?_
      rintro ⟨rows, hfinds, -⟩
      cases hrows.symm.trans hfinds.2
    | some rows =>
      rw [query_eq_true_iff hrows]
      have hfinds : call.Finds text rows := ⟨hsession, hrows⟩
      constructor
      · intro hne
        exact ⟨rows, hfinds, hne⟩
      · rintro ⟨rows', hfinds', hne⟩
        exact hfinds.unique hfinds' ▸ hne

/-- A login whose query has found the user is told the truth. -/
lemma loginTells_of_existing (hsession : call.session 0 = true) (hfinds : call.Finds text rows)
    (hne : rows ≠ []) : LoginTells call column text value password
      (checkPassword call true column value password) := by
  have hfails : LoginFails call column text value ↔
      call.server.select 1 column value (call.accounts 1) = none := by
    constructor
    · rintro (hnone | hnone | ⟨-, -, -, hselect⟩)
      · exact absurd (hsession.symm.trans hnone) (by decide)
      · exact absurd hfinds (hnone rows)
      · exact hselect
    · intro hselect
      exact .inr (.inr ⟨rows, hfinds, hne, hselect⟩)
  cases hselect : call.server.select 1 column value (call.accounts 1) with
  | none =>
    have hresult : checkPassword call true column value password = -1 := by
      simp [checkPassword, hsession, hselect]
    rw [hresult]
    exact ⟨by omega, by omega, by omega, fun _ => rfl⟩
  | some found =>
    have hnot : ¬ LoginFails call column text value := by
      rw [hfails, hselect]
      exact Option.some_ne_none found
    cases found with
    | nil =>
      have hresult : checkPassword call true column value password = -1 := by
        simp [checkPassword, hsession, hselect]
      rw [hresult]
      exact ⟨by omega, by omega, by omega, fun _ => rfl⟩
    | cons row rest =>
      obtain ⟨hrow, hmatches⟩ := mem_select hselect
      by_cases hpassword : row.password = password
      · have hresult : checkPassword call true column value password = 0 := by
          simp [checkPassword, hsession, hselect, hpassword]
        rw [hresult]
        exact ⟨fun _ => ⟨1, by omega, row, hrow, hmatches, hpassword⟩, by omega, by omega,
          fun hfailed => absurd hfailed hnot⟩
      · have hresult : checkPassword call true column value password = -3 := by
          simp [checkPassword, hsession, hselect, Ne.symm hpassword]
        rw [hresult]
        exact ⟨by omega, fun _ => ⟨1, by omega, row, hrow, hmatches, hpassword⟩, by omega,
          fun hfailed => absurd hfailed hnot⟩

/-- The result of a login is true exactly under its condition. -/
lemma loginTells_iff : LoginTells call column text value password
      (checkPassword call (query call.server (call.session 1) 0 (call.accounts 0) text) column
        value password) ↔ LoginSound call column text value := by
  cases hsession : call.session 0 with
  | false =>
    have hresult : ∀ existing, checkPassword call existing column value password = -1 := by
      intro existing
      simp [checkPassword, hsession]
    rw [hresult]
    refine iff_of_true ⟨by omega, by omega, by omega, fun _ => rfl⟩ fun htrue => ?_
    exact absurd (hsession.symm.trans htrue) (by decide)
  | true =>
    by_cases hexisting : query call.server (call.session 1) 0 (call.accounts 0) text = true
    · obtain ⟨rows, hfinds, hne⟩ := query_iff.1 hexisting
      rw [hexisting]
      exact iff_of_true (loginTells_of_existing hsession hfinds hne) fun _ =>
        ⟨rows, hfinds, fun hnil => absurd hnil hne⟩
    · have hresult : checkPassword call (query call.server (call.session 1) 0 (call.accounts 0)
          text) column value password = -2 := by
        simp [checkPassword, hsession, Bool.eq_false_iff.2 hexisting]
      rw [hresult]
      -- a failed query and one that finds nothing have the same result
      constructor
      · intro h _
        have hfound : ∃ rows, call.Finds text rows := by
          by_contra hnone
          exact absurd (h.failed (.inr (.inl fun rows hrows => hnone ⟨rows, hrows⟩))) (by decide)
        obtain ⟨rows, hfinds⟩ := hfound
        exact ⟨rows, hfinds, fun _ => h.missing rfl⟩
      · intro h
        obtain ⟨rows, hfinds, hlacked⟩ := h hsession
        have hnil : rows = [] := by
          by_contra hne
          exact hexisting (query_iff.2 ⟨rows, hfinds, hne⟩)
        refine ⟨by omega, by omega, fun _ => hlacked hnil, ?_⟩
        rintro (hnone | hnone | ⟨rows', hfinds', hne, -⟩)
        · exact absurd (hsession.symm.trans hnone) (by decide)
        · exact absurd hfinds (hnone rows)
        · exact absurd (hfinds.unique hfinds' ▸ hnil) hne

end Login

/-! ## New passwords -/

/-- A session or a statement that `resetPassword` needs fails. -/
def ResetFails (call : Call) (email password : String) : Prop :=
  call.session 0 = false ∨ (∀ rows, ¬ call.Finds (queryEmailText email) rows) ∨
    ∃ rows, call.Finds (queryEmailText email) rows ∧ rows ≠ [] ∧
      (call.server.execute 1 (oldPasswordText email) (call.accounts 1) = none ∨
        ∃ row rest, call.server.execute 1 (oldPasswordText email) (call.accounts 1) =
          some (row :: rest) ∧ row.password ≠ password ∧ call.server.update 2 = false)

/-- The result of `resetPassword` is true of what the call has met and done. -/
structure ResetTells (call : Call) (email password : String)
    (result : ℤ × Option (List Account)) : Prop where
  success : result.1 = 0 → ∃ accounts, result.2 = some accounts ∧
    ∃ a ∈ call.accounts 2, call.server.Matches .email email a ∧
      { a with password := password } ∈ accounts
  same : result.1 = -3 →
    call.Had 3 fun a => call.server.Matches .email email a ∧ a.password = password
  missing : result.1 = -2 → call.Lacked 3 .email email
  failed : ResetFails call email password → result.1 = -1

/-- The row in which the old password is read is one of this email when it holds the new password,
and otherwise the `UPDATE`, if it is executed, finds a row. -/
def OldPasswordSound (call : Call) (email password : String) : Prop :=
  ∀ row rest, call.server.execute 1 (oldPasswordText email) (call.accounts 1) =
      some (row :: rest) →
    (row.password = password →
      call.Had 3 fun a => call.server.Matches .email email a ∧ a.password = password) ∧
    (row.password ≠ password → call.server.update 2 = true →
      ∃ a ∈ call.accounts 2, call.server.Matches .email email a)

/-- Where the call has a session, the query for the email is executed, when it finds no row there
is none at some moment, and otherwise the rows that are read and updated are right. -/
def ResetSound (call : Call) (email password : String) : Prop :=
  call.session 0 = true → ∃ rows, call.Finds (queryEmailText email) rows ∧
    (rows = [] → call.Lacked 3 .email email) ∧
    (rows ≠ [] → OldPasswordSound call email password)

section Reset

variable {call : Call} {email password : String} {rows : List Account}

lemma resetTells_minus_one {accounts : Option (List Account)} :
    ResetTells call email password (-1, accounts) :=
  ⟨by omega, by omega, by omega, fun _ => rfl⟩

/-- The `UPDATE` sets the password of a row of the email, when there is one. -/
lemma mem_setPassword {accounts : List Account} {a : Account} (ha : a ∈ accounts)
    (hmatches : call.server.Matches .email email a) :
    { a with password := password } ∈ setPassword call.server email password accounts := by
  have hsame : call.server.same a.email email = true := hmatches
  refine List.mem_map.2 ⟨a, ha, ?_⟩
  rw [if_pos hsame]

/-- The result after the query has found the email. -/
lemma resetTells_of_existing (hsession : call.session 0 = true)
    (hfinds : call.Finds (queryEmailText email) rows) (hne : rows ≠ []) :
    ResetTells call email password (resetPassword call email password) ↔
      OldPasswordSound call email password := by
  have hexisting : queryEmail call.server (call.session 1) 0 (call.accounts 0) email = true :=
    query_iff.2 ⟨rows, hfinds, hne⟩
  rw [resetPassword, if_pos hsession, if_pos hexisting, OldPasswordSound]
  cases hold : call.server.execute 1 (oldPasswordText email) (call.accounts 1) with
  | none => exact iff_of_true resetTells_minus_one fun _ _ hrow => (by cases hrow)
  | some found =>
    cases found with
    | nil => exact iff_of_true resetTells_minus_one fun _ _ hrow => (by cases hrow)
    | cons row rest =>
      have hread : ∀ p : Account → Prop, (∀ row' rest', some (row :: rest) =
          some (row' :: rest') → p row') ↔ p row := by
        intro p
        constructor
        · intro h
          exact h row rest rfl
        · intro h row' rest' heq
          obtain ⟨rfl, -⟩ := List.cons.inj (Option.some.inj heq)
          exact h
      rw [hread fun row => (row.password = password → _) ∧ (row.password ≠ password → _)]
      have hfails : ResetFails call email password →
          row.password ≠ password ∧ call.server.update 2 = false := by
        rintro (hnone | hnone | ⟨-, -, -, hnone | ⟨row', rest', hrow, hne', hupdate⟩⟩)
        · exact absurd (hsession.symm.trans hnone) (by decide)
        · exact absurd hfinds (hnone rows)
        · exact absurd (hold.symm.trans hnone) (by simp)
        · obtain ⟨rfl, -⟩ := List.cons.inj (Option.some.inj (hold.symm.trans hrow))
          exact ⟨hne', hupdate⟩
      by_cases hpassword : row.password = password
      · simp only [if_pos hpassword.symm]
        constructor
        · intro h
          exact ⟨fun _ => h.same rfl, fun hne' => absurd hpassword hne'⟩
        · rintro ⟨hhad, -⟩
          exact ⟨by omega, fun _ => hhad hpassword, by omega,
            fun hfailed => absurd hpassword (hfails hfailed).1⟩
      · simp only [if_neg (Ne.symm hpassword)]
        cases hupdate : call.server.update 2 with
        | false =>
          simp only [Bool.false_eq_true, if_false]
          exact iff_of_true resetTells_minus_one
            ⟨fun heq => absurd heq hpassword, fun _ htrue => absurd htrue (by decide)⟩
        | true =>
          simp only [if_true]
          constructor
          · intro h
            obtain ⟨-, -, a, ha, hmatches, -⟩ := h.success rfl
            exact ⟨fun heq => absurd heq hpassword, fun _ _ => ⟨a, ha, hmatches⟩⟩
          · rintro ⟨-, hrow⟩
            obtain ⟨a, ha, hmatches⟩ := hrow hpassword trivial
            refine ⟨fun _ => ⟨_, rfl, a, ha, hmatches, mem_setPassword ha hmatches⟩, by omega,
              by omega, fun hfailed => ?_⟩
            exact absurd (hupdate.symm.trans (hfails hfailed).2) (by decide)

/-- The result of `resetPassword` is true exactly under its condition. -/
lemma resetTells_iff : ResetTells call email password (resetPassword call email password) ↔
    ResetSound call email password := by
  cases hsession : call.session 0 with
  | false =>
    have hresult : resetPassword call email password = (-1, none) := by
      rw [resetPassword, hsession]
      rfl
    rw [hresult]
    refine iff_of_true resetTells_minus_one fun htrue => ?_
    exact absurd (hsession.symm.trans htrue) (by decide)
  | true =>
    by_cases hexisting : queryEmail call.server (call.session 1) 0 (call.accounts 0) email = true
    · obtain ⟨rows, hfinds, hne⟩ := query_iff.1 hexisting
      rw [resetTells_of_existing hsession hfinds hne]
      constructor
      · intro h _
        exact ⟨rows, hfinds, fun hnil => absurd hnil hne, fun _ => h⟩
      · intro h
        obtain ⟨rows', hfinds', -, hsound⟩ := h hsession
        exact hsound (hfinds.unique hfinds' ▸ hne)
    · have hresult : resetPassword call email password = (-2, none) := by
        rw [resetPassword, if_pos hsession, if_neg hexisting]
      rw [hresult]
      constructor
      · intro h _
        have hfound : ∃ rows, call.Finds (queryEmailText email) rows := by
          by_contra hnone
          exact absurd (h.failed (.inr (.inl fun rows hrows => hnone ⟨rows, hrows⟩))) (by decide)
        obtain ⟨rows, hfinds⟩ := hfound
        refine ⟨rows, hfinds, fun _ => h.missing rfl, fun hne => ?_⟩
        exact absurd (query_iff.2 ⟨rows, hfinds, hne⟩) hexisting
      · intro h
        obtain ⟨rows, hfinds, hlacked, -⟩ := h hsession
        have hnil : rows = [] := by
          by_contra hne
          exact hexisting (query_iff.2 ⟨rows, hfinds, hne⟩)
        refine ⟨by omega, by omega, fun _ => hlacked hnil, ?_⟩
        rintro (hnone | hnone | ⟨rows', hfinds', hne, -⟩)
        · exact absurd (hsession.symm.trans hnone) (by decide)
        · exact absurd hfinds (hnone rows)
        · exact absurd (hfinds.unique hfinds' ▸ hnil) hne

end Reset

/-! ## The three functions -/

/-- **The result codes tell the truth if and only if the nested query does**: when it does not
fail and finds no row there is none, the row of the old password is one of the email, and the
`UPDATE` finds a row. -/
theorem credentials_tellTruth_iff (call : Call) (user email password : String) :
    (LoginTells call .name (queryUserText user) user password (loginAcconut call user password) ↔
        LoginSound call .name (queryUserText user) user) ∧
      (LoginTells call .email (queryEmailText email) email password
          (loginEmail call email password) ↔
        LoginSound call .email (queryEmailText email) email) ∧
      (ResetTells call email password (resetPassword call email password) ↔
        ResetSound call email password) :=
  ⟨loginTells_iff, loginTells_iff, resetTells_iff⟩

/-- A call that gets its first session only. -/
def oneSession : Call := ⟨exactServer, fun k => k = 0, fun _ => [alice]⟩

/-- A login that gets no second session says that the user does not exist. -/
theorem not_credentials_tellTruth :
    ¬ ∀ call user password, LoginTells call .name (queryUserText user) user password
      (loginAcconut call user password) := by
  intro h
  obtain ⟨k, -, hnone⟩ := (h oneSession "alice" "secret").missing rfl
  exact hnone alice List.mem_cons_self (exactServer.same_self "alice")

end MySQLMgr

end GateServer

end WeChat
