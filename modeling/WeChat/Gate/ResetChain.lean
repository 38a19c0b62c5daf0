/-
# From the mail to the new password

A password is reset with a code that `VerifyServer` has made, stored in Redis and mailed:
`/reset_password` compares the posted code with the one under the posted email, and then has
`MySQLMgr` update the row.  Here the calls of `GetVerifyCode` and any number of these handlers run
together, codes expire, and accounts are added in between.  The key that `RedisMgr::get` asks for
ends at its first zero byte, and the database compares emails by its collation, so the email of
the code, the posted one and that of the row need not be the same string.
-/
import WeChat.Gate.Accounts
import WeChat.Lib.Table
import WeChat.Verify.Server

namespace WeChat

open Transition Relational

namespace GateServer

open VerifyServer (VerifyEvent newCode)

/-! ## Strings that end at a zero byte -/

/-- What is left of a string behind `c_str()`. -/
def cStr (s : String) : String := String.ofList (s.toList.takeWhile (· ≠ '\x00'))

/-- The prefix of the key has no zero byte. -/
lemma cStr_key (email : String) :
    cStr (codePrefix ++ email) = codePrefix ++ cStr email := by
  have hprefix : ∀ c ∈ codePrefix.toList, decide (c ≠ '\x00') = true :=
    List.all_eq_true.1 (by decide)
  rw [cStr, String.toList_append, List.takeWhile_append_of_pos hprefix, String.ofList_append,
    String.ofList_toList]
  rfl

/-! ## The services together -/

/-- How far a handler of `/reset_password` has come. -/
inductive ResetProgress
  | idle
  /-- The posted code was the stored one. -/
  | verified (email password : String)
deriving DecidableEq

/-- The services that take part in a reset. -/
structure Desk where
  users : Table Account.id
  /-- The handlers of all gateways, numbered. -/
  handlers : ℕ → ResetProgress
  verify : VerifyServer.Server

/-- What happens at one of the services. -/
inductive DeskEvent
  /-- Anything that happens at `VerifyServer` and its codes. -/
  | verify (e : VerifyEvent)
  /-- A handler asks Redis for the code of the posted email, and it is the posted one. -/
  | checkCode (i : ℕ) (email verifyCode password : String)
  /-- `MySQLMgr::resetPassword` executes its last statement, or gives up; `earlier` are the tables
  when it executed the statements before. -/
  | resetPassword (i : ℕ) (server : Server) (session : ℕ → Bool) (earlier : ℕ → List Account)
  /-- A handler ends in another way. -/
  | giveUp (i : ℕ)
  /-- An account is added. -/
  | insert (a : Account)

/-- The table after an `UPDATE` of a password. -/
def updatePassword (users : Table Account.id) (server : Server) (email password : String) :
    Table Account.id :=
  users.update (fun a => if server.same a.email email then { a with password := password } else a)
    (by intro a; split_ifs <;> rfl)

/-- What `MySQLMgr::resetPassword` writes is the table after the `UPDATE`. -/
lemma rows_updatePassword {call : Call} {email password : String} {users : Table Account.id}
    {rows : List Account} (husers : call.accounts 2 = users.rows)
    (h : (MySQLMgr.resetPassword call email password).2 = some rows) :
    (updatePassword users call.server email password).rows = rows := by
  rw [MySQLMgr.resetPassword] at h
  split at h
  · split at h
    · split at h
      · split at h
        · cases h
        · split at h
          · rw [← Option.some.inj h, husers]
            rfl
          · cases h
      · cases h
      · cases h
    · cases h
  · cases h

/-- The table that a call of `MySQLMgr::resetPassword` leaves. -/
def afterReset (call : Call) (email password : String) (users : Table Account.id)
    (husers : call.accounts 2 = users.rows) : Table Account.id :=
  match h : (MySQLMgr.resetPassword call email password).2 with
  | some rows => ⟨rows, rows_updatePassword husers h ▸
      (updatePassword users call.server email password).nodup⟩
  | none => users

lemma afterReset_cases (call : Call) (email password : String) (users : Table Account.id)
    (husers : call.accounts 2 = users.rows) :
    afterReset call email password users husers =
        updatePassword users call.server email password ∨
      afterReset call email password users husers = users := by
  rw [afterReset]
  split
  · next rows h =>
    refine .inl ?_
    obtain rfl := rows_updatePassword husers h
    rfl
  · exact .inr rfl

/-- One step of the services. -/
def deskStep (w : Desk) : DeskEvent → Option Desk
  | .verify e => (w.verify.step e).map fun verify => { w with verify := verify }
  | .checkCode i email verifyCode password =>
    if w.handlers i = .idle ∧
        (Expiring.get w.verify.redis (cStr (codePrefix ++ email))).map cStr = some verifyCode then
      some { w with handlers := Function.update w.handlers i (.verified email password) }
    else none
  | .resetPassword i server session earlier =>
    match w.handlers i with
    | .verified email password =>
      let call : Call := ⟨server, session, fun k => if k < 2 then earlier k else w.users.rows⟩
      some { w with
        users := afterReset call email password w.users rfl
        handlers := Function.update w.handlers i .idle }
    | .idle => none
  | .giveUp i => some { w with handlers := Function.update w.handlers i .idle }
  | .insert a => (w.users.insert a).map fun users => { w with users := users }

/-- The services before the first code. -/
def Desk.init (users : Table Account.id) : Desk := ⟨users, fun _ => .idle, .init fun _ => none⟩

/-! ## The stations of a reset -/

/-- A handler has the password of this account updated, for the posted email. -/
def UpdatesPassword (i : ℕ) (a : Account) (email password : String) (w : Desk) (e : DeskEvent) :
    Prop :=
  ∃ server session earlier, e = .resetPassword i server session earlier ∧
    w.handlers i = .verified email password ∧ server.Matches .email email a

/-- A handler finds the posted code to be the one in Redis. -/
def ChecksCode (i : ℕ) (email uniqueId password : String) (w : Desk) (e : DeskEvent) : Prop :=
  e = .checkCode i email (cStr uniqueId) password ∧
    Expiring.get w.verify.redis (codePrefix ++ cStr email) = some uniqueId

/-- A call of `GetVerifyCode` stores the code that it has made. -/
def StoresCode (j : ℕ) (email uniqueId : String) (w : Desk) (e : DeskEvent) : Prop :=
  ∃ outcome, e = .verify (.set j outcome) ∧ outcome.executes = true ∧
    w.verify.calls j = some ⟨email, .storing uniqueId⟩

/-- The call makes the code, because it finds none. -/
def MakesCode (j : ℕ) (email uniqueId : String) (w : Desk) (e : DeskEvent) : Prop :=
  ∃ outcome uuid, e = .verify (.get j outcome uuid) ∧ uniqueId = newCode uuid ∧
    w.verify.calls j = some ⟨email, .reading⟩ ∧
    VerifyServer.getRedis w.verify.redis outcome (codePrefix ++ email) = none

/-- `GetVerifyCode` is called for an email. -/
def AsksCode (j : ℕ) (email : String) (_w : Desk) (e : DeskEvent) : Prop :=
  e = .verify (.call j email)

/-! ## What a step does -/

/-- The events with what they find and what they change. -/
inductive DeskEffect (w : Desk) : DeskEvent → Desk → Prop
  | verify {e : VerifyEvent} {verify : VerifyServer.Server} (heffect : w.verify.Effect e verify) :
      DeskEffect w (.verify e) { w with verify := verify }
  | checkCode {i : ℕ} {email uniqueId password : String}
      (hstored : Expiring.get w.verify.redis (codePrefix ++ cStr email) = some uniqueId) :
      DeskEffect w (.checkCode i email (cStr uniqueId) password)
        { w with handlers := Function.update w.handlers i (.verified email password) }
  | resetPassword {i : ℕ} {server : Server} {session : ℕ → Bool} {earlier : ℕ → List Account}
      {email password : String} {users : Table Account.id}
      (hverified : w.handlers i = .verified email password)
      (husers : users = updatePassword w.users server email password ∨ users = w.users) :
      DeskEffect w (.resetPassword i server session earlier)
        { w with users := users, handlers := Function.update w.handlers i .idle }
  | giveUp (i : ℕ) :
      DeskEffect w (.giveUp i) { w with handlers := Function.update w.handlers i .idle }
  | insert {a : Account} {users : Table Account.id} (hinsert : w.users.insert a = some users) :
      DeskEffect w (.insert a) { w with users := users }

lemma effect_of_deskStep {w w' : Desk} {e : DeskEvent} (h : deskStep w e = some w') :
    DeskEffect w e w' := by
  cases e with
  | verify e =>
    obtain ⟨verify, hstep, rfl⟩ := Option.map_eq_some_iff.1 h
    exact .verify (VerifyServer.Server.effect_of_step hstep)
  | checkCode i email verifyCode password =>
    simp only [deskStep, Option.ite_none_right_eq_some, Option.some.injEq] at h
    obtain ⟨⟨-, hcode⟩, rfl⟩ := h
    obtain ⟨uniqueId, hstored, rfl⟩ := Option.map_eq_some_iff.1 hcode
    rw [cStr_key] at hstored
    exact .checkCode hstored
  | resetPassword i server session earlier =>
    simp only [deskStep] at h
    split at h
    · next email password hverified =>
      obtain rfl := Option.some.inj h
      exact .resetPassword hverified (afterReset_cases _ email password w.users rfl)
    · cases h
  | giveUp i =>
    obtain rfl := Option.some.inj h
    exact .giveUp i
  | insert a =>
    obtain ⟨users, hinsert, rfl⟩ := Option.map_eq_some_iff.1 h
    exact .insert hinsert

/-! ## From one station to the one before -/

section Stations

variable {w w' : Desk} {e : DeskEvent} {i j : ℕ} {id : ℤ} {a : Account}
  {email password uniqueId : String}

/-- An account with this number has this password. -/
def Desk.HasPassword (w : Desk) (id : ℤ) (password : String) : Prop :=
  ∀ a ∈ w.users.rows, a.id = id → a.password = password

/-- The account is there, and has this email. -/
def Desk.HasEmail (w : Desk) (id : ℤ) (email : String) : Prop :=
  ∃ a ∈ w.users.rows, a.id = id ∧ a.email = email

lemma rows_insert {t t' : Table Account.id} (h : t.insert a = some t') :
    a.id ∉ t.rows.map Account.id ∧ t'.rows = t.rows ++ [a] := by
  rw [Table.insert] at h
  split at h
  · cases h
  · next hnew => exact ⟨hnew, by rw [← Option.some.inj h]⟩

lemma hasEmail_step (h : deskStep w e = some w') (hw : w.HasEmail id email) :
    w'.HasEmail id email := by
  obtain ⟨a, ha, hid, hemail⟩ := hw
  cases effect_of_deskStep h with
  | resetPassword _ husers =>
    rcases husers with rfl | rfl
    · refine ⟨_, List.mem_map_of_mem ha, ?_⟩
      split_ifs
      · exact ⟨hid, hemail⟩
      · exact ⟨hid, hemail⟩
    · exact ⟨a, ha, hid, hemail⟩
  | insert hinsert =>
    refine ⟨a, ?_, hid, hemail⟩
    show a ∈ Table.rows _
    rw [(rows_insert hinsert).2]
    exact List.mem_append_left _ ha
  | _ => exact ⟨a, ha, hid, hemail⟩

/-- A new password is that of a reset. -/
lemma password_step (h : deskStep w e = some w') (hw' : w'.HasPassword id password) :
    w.HasPassword id password ∨
      ∃ i posted, ∃ a ∈ w.users.rows, a.id = id ∧ UpdatesPassword i a posted password w e := by
  cases effect_of_deskStep h with
  | @resetPassword i server session earlier posted new users hverified husers =>
    rcases husers with rfl | rfl
    · by_cases hmatches : ∃ a ∈ w.users.rows, a.id = id ∧ server.Matches .email posted a
      · obtain ⟨a, ha, hid, hsame⟩ := hmatches
        -- the row that was updated has the password of the handler
        have hnew := hw' _ (List.mem_map_of_mem ha)
        rw [if_pos (show server.same a.email posted = true from hsame)] at hnew
        obtain rfl := hnew hid
        exact .inr ⟨i, posted, a, ha, hid, server, session, earlier, rfl, hverified, hsame⟩
      · refine .inl fun a ha hid => ?_
        have hkept := hw' _ (List.mem_map_of_mem ha)
        have hnot : ¬ server.same a.email posted = true := fun hsame =>
          hmatches ⟨a, ha, hid, hsame⟩
        rw [if_neg hnot] at hkept
        exact hkept hid
    · exact .inl hw'
  | insert hinsert =>
    refine .inl fun a ha => hw' a ?_
    show a ∈ Table.rows _
    rw [(rows_insert hinsert).2]
    exact List.mem_append_left _ ha
  | _ => exact .inl hw'

lemma verified_step (h : deskStep w e = some w')
    (hw' : w'.handlers i = .verified email password) :
    w.handlers i = .verified email password ∨
      ∃ uniqueId, ChecksCode i email uniqueId password w e := by
  have hidle : ∀ {i'}, Function.update w.handlers i' .idle i = .verified email password →
      w.handlers i = .verified email password := by
    intro i' hi
    by_cases hii : i = i'
    · subst hii
      rw [Function.update_self] at hi
      cases hi
    · rwa [Function.update_of_ne hii] at hi
  cases effect_of_deskStep h with
  | @checkCode i' email' uniqueId password' hstored =>
    by_cases hii : i = i'
    · subst hii
      rw [show ({ w with handlers := _ } : Desk).handlers i = _ from Function.update_self ..] at hw'
      cases hw'
      exact .inr ⟨uniqueId, rfl, hstored⟩
    · exact .inl ((Function.update_of_ne hii ..).symm.trans hw')
  | resetPassword => exact .inl (hidle hw')
  | giveUp i' => exact .inl (hidle hw')
  | _ => exact .inl hw'

/-- A step that is not one of `VerifyServer` leaves it alone. -/
lemma verify_step (h : deskStep w e = some w') :
    w'.verify = w.verify ∨ ∃ v, e = .verify v ∧ w.verify.Effect v w'.verify := by
  cases effect_of_deskStep h with
  | verify heffect => exact .inr ⟨_, rfl, heffect⟩
  | _ => exact .inl rfl

lemma code_step (h : deskStep w e = some w')
    (hw' : Expiring.get w'.verify.redis (codePrefix ++ email) = some uniqueId) :
    Expiring.get w.verify.redis (codePrefix ++ email) = some uniqueId ∨
      ∃ j, StoresCode j email uniqueId w e := by
  rcases verify_step h with heq | ⟨v, rfl, heffect⟩
  · exact .inl (heq ▸ hw')
  · generalize w'.verify = verify at heffect hw'
    cases heffect with
    | @set j outcome email' uniqueId' hcall =>
      rw [VerifyServer.Server.redis_resume, VerifyServer.doSet] at hw'
      split_ifs at hw' with hexecutes
      · rw [Expiring.get_set] at hw'
        split_ifs at hw' with hkey
        · obtain rfl := String.append_right_inj _ |>.1 hkey
          obtain rfl := Option.some.inj hw'
          exact .inr ⟨j, outcome, rfl, hexecutes, hcall⟩
        · exact .inl hw'
      · exact .inl hw'
    | expire hcall =>
      rw [VerifyServer.Server.redis_resume, VerifyServer.doExpire] at hw'
      split_ifs at hw'
      · rw [Expiring.get_expire] at hw'
        exact .inl hw'
      · exact .inl hw'
    | tick =>
      refine .inl ?_
      obtain ⟨entry, hentry, rfl⟩ := Option.map_eq_some_iff.1 hw'
      obtain ⟨entry', hentry', hage⟩ := Expiring.tick_eq_some hentry
      rw [Expiring.get, hentry', Option.map_some, Expiring.Entry.value_age hage]
    | _ => exact .inl hw'

/-- Whatever else a step does, it lets one call go on. -/
lemma calls_resume {s t : VerifyServer.Server} {call call' : VerifyServer.Call}
    (hcalls : t.calls = s.calls) (h : (t.resume i call).calls j = some call') :
    s.calls j = some call' ∨ j = i ∧ call = call' := by
  by_cases hij : j = i
  · subst hij
    rw [VerifyServer.Server.calls_resume_self] at h
    exact .inr ⟨rfl, Option.some.inj h⟩
  · rw [VerifyServer.Server.calls_resume_of_ne hij, hcalls] at h
    exact .inl h

lemma storing_step (h : deskStep w e = some w')
    (hw' : w'.verify.calls j = some ⟨email, .storing uniqueId⟩) :
    w.verify.calls j = some ⟨email, .storing uniqueId⟩ ∨ MakesCode j email uniqueId w e := by
  rcases verify_step h with heq | ⟨v, rfl, heffect⟩
  · exact .inl (heq ▸ hw')
  generalize w'.verify = verify at heffect hw'
  cases heffect with
  | @made i outcome uuid email' hcall hnone =>
    rcases calls_resume rfl hw' with hold | ⟨rfl, heq⟩
    · exact .inl hold
    · cases heq
      exact .inr ⟨outcome, uuid, rfl, rfl, hcall, hnone⟩
  | tick => exact .inl hw'
  | stop => cases hw'
  | set | expire =>
    rcases calls_resume rfl hw' with hold | ⟨-, heq⟩
    · exact .inl hold
    · split_ifs at heq <;> cases heq
  | _ =>
    -- the other steps of a call lead to another phase
    rcases calls_resume rfl hw' with hold | ⟨-, heq⟩
    · exact .inl hold
    · cases heq

lemma reading_step (h : deskStep w e = some w')
    (hw' : w'.verify.calls j = some ⟨email, .reading⟩) :
    w.verify.calls j = some ⟨email, .reading⟩ ∨ AsksCode j email w e := by
  rcases verify_step h with heq | ⟨v, rfl, heffect⟩
  · exact .inl (heq ▸ hw')
  generalize w'.verify = verify at heffect hw'
  cases heffect with
  | @call i email' hnew =>
    rcases calls_resume rfl hw' with hold | ⟨rfl, heq⟩
    · exact .inl hold
    · cases heq
      exact .inr rfl
  | tick => exact .inl hw'
  | stop => cases hw'
  | set | expire =>
    rcases calls_resume rfl hw' with hold | ⟨-, heq⟩
    · exact .inl hold
    · split_ifs at heq <;> cases heq
  | _ =>
    rcases calls_resume rfl hw' with hold | ⟨-, heq⟩
    · exact .inl hold
    · cases heq

end Stations

/-! ## From the password to the code -/

section Chain

variable {users : Table Account.id} {w : Desk} {es : List DeskEvent} {i j : ℕ} {a a' : Account}
  {email password uniqueId : String}

lemma goesBack_reading (hrun : run deskStep (.init users) es = some w)
    (h : w.verify.calls j = some ⟨email, .reading⟩) :
    GoesBack deskStep [AsksCode j email] (.init users) es := by
  obtain ⟨es₁, e, es₂, w₁, hes, hrun₁, hok⟩ := exists_step_of_run
    (fun _ _ _ => reading_step) hrun (fun hinit => nomatch hinit) h
  exact ⟨es₁, e, es₂, w₁, hes, hrun₁, hok, trivial⟩

lemma goesBack_storing (hrun : run deskStep (.init users) es = some w)
    (h : w.verify.calls j = some ⟨email, .storing uniqueId⟩) :
    GoesBack deskStep [MakesCode j email uniqueId, AsksCode j email] (.init users) es := by
  obtain ⟨es₁, e, es₂, w₁, hes, hrun₁, hok⟩ := exists_step_of_run
    (fun _ _ _ => storing_step) hrun (fun hinit => nomatch hinit) h
  obtain ⟨-, -, -, -, hcall, -⟩ := id hok
  exact ⟨es₁, e, es₂, w₁, hes, hrun₁, hok, goesBack_reading hrun₁ hcall⟩

lemma goesBack_code (hrun : run deskStep (.init users) es = some w)
    (h : Expiring.get w.verify.redis (codePrefix ++ email) = some uniqueId) :
    ∃ j, GoesBack deskStep [StoresCode j email uniqueId, MakesCode j email uniqueId,
      AsksCode j email] (.init users) es := by
  obtain ⟨es₁, e, es₂, w₁, hes, hrun₁, j, hok⟩ := exists_step_of_run
    (fun _ _ _ => code_step) hrun (fun hinit => nomatch hinit) h
  obtain ⟨-, -, -, hcall⟩ := id hok
  exact ⟨j, es₁, e, es₂, w₁, hes, hrun₁, hok, goesBack_storing hrun₁ hcall⟩

lemma goesBack_verified (hrun : run deskStep (.init users) es = some w)
    (h : w.handlers i = .verified email password) :
    ∃ j uniqueId, GoesBack deskStep [ChecksCode i email uniqueId password,
      StoresCode j (cStr email) uniqueId, MakesCode j (cStr email) uniqueId,
      AsksCode j (cStr email)] (.init users) es := by
  obtain ⟨es₁, e, es₂, w₁, hes, hrun₁, uniqueId, hok⟩ := exists_step_of_run
    (fun _ _ _ => verified_step) hrun (fun hinit => ResetProgress.noConfusion hinit) h
  obtain ⟨j, hback⟩ := goesBack_code hrun₁ hok.2
  exact ⟨j, uniqueId, es₁, e, es₂, w₁, hes, hrun₁, hok, hback⟩

/-- The account of a number keeps its email. -/
lemma email_of_run (hrun : run deskStep (.init users) es = some w) (ha : a ∈ users.rows)
    (ha' : a' ∈ w.users.rows) (hid : a'.id = a.id) : a'.email = a.email := by
  have hkept : w.HasEmail a.id a.email :=
    run_invariant (fun _ _ _ hw h => hasEmail_step h hw) hrun ⟨a, ha, rfl, rfl⟩
  obtain ⟨b, hb, hbid, hbemail⟩ := hkept
  rw [w.users.eq_of_key_eq ha' hb (hid.trans hbid.symm), hbemail]

/-- **A new password goes back to a code that was made for the email.**  In every run of the
services, when an account has another password than at the beginning, then in this order, with
anything in between: `GetVerifyCode` was called for an email, the call found no code under it,
made a new one and stored it; a handler of `/reset_password` found the posted code to be the one
stored under the posted email, and had `MySQLMgr` update the account with the posted password.
The email of the code is the posted one up to its first zero byte, and the posted one is that of
the account by the collation of the database. -/
theorem password_goesBack (hrun : run deskStep (.init users) es = some w) (ha : a ∈ users.rows)
    (ha' : a' ∈ w.users.rows) (hid : a'.id = a.id) (hnew : a'.password ≠ a.password) :
    ∃ i j b email uniqueId, b.id = a.id ∧ b.email = a.email ∧
      GoesBack deskStep [UpdatesPassword i b email a'.password,
        ChecksCode i email uniqueId a'.password, StoresCode j (cStr email) uniqueId,
        MakesCode j (cStr email) uniqueId, AsksCode j (cStr email)] (.init users) es := by
  have hinit : ¬ (Desk.init users).HasPassword a.id a'.password :=
    fun h => hnew (h a ha rfl).symm
  have hlast : w.HasPassword a.id a'.password := fun b hb hbid =>
    congrArg Account.password (w.users.eq_of_key_eq hb ha' (hbid.trans hid.symm))
  obtain ⟨es₁, e, es₂, w₁, hes, hrun₁, i, email, b, hb, hbid, hok⟩ := exists_step_of_run
    (fun _ _ _ => password_step) hrun hinit hlast
  obtain ⟨-, -, -, -, hverified, -⟩ := id hok
  obtain ⟨j, uniqueId, hback⟩ := goesBack_verified hrun₁ hverified
  exact ⟨i, j, b, email, uniqueId, hbid, email_of_run hrun₁ ha hb hbid, es₁, e, es₂, w₁, hes,
    hrun₁, hok, hback⟩

end Chain

/-- Alice asks for a code, and resets her password with it. -/
def aliceResets : List DeskEvent :=
  ([.call 0 "alice@example.com", .get 0 .ok "4f9c2b7a", .set 0 .ok, .expire 0 .ok,
    .sendMail 0 true] : List VerifyEvent).map .verify ++
  [.checkCode 0 "alice@example.com" "4f9c2b" "hidden",
    .resetPassword 0 exactServer (fun _ => true) (fun _ => [alice])]

lemma nodup_id_alice : ([alice].map Account.id).Nodup := List.nodup_singleton _

/-- The table with the account of alice. -/
def onlyAlice : Table Account.id := ⟨[alice], nodup_id_alice⟩

/-- Her new password goes back to the code. -/
theorem password_goesBack_alice :
    ∃ w, run deskStep (.init onlyAlice) aliceResets = some w ∧
      ∃ i j b email uniqueId, b.id = alice.id ∧ b.email = alice.email ∧
        GoesBack deskStep [UpdatesPassword i b email "hidden",
          ChecksCode i email uniqueId "hidden", StoresCode j (cStr email) uniqueId,
          MakesCode j (cStr email) uniqueId, AsksCode j (cStr email)] (.init onlyAlice)
          aliceResets := by
  have hany : (run deskStep (.init onlyAlice) aliceResets).any (fun w =>
      w.users.rows.any fun a => a.id = alice.id ∧ a.password = "hidden") = true := by
    decide +kernel
  obtain ⟨w, hrun, hrow⟩ := (Option.any_eq_true _ _).1 hany
  obtain ⟨a, ha, hcols⟩ := List.any_eq_true.1 hrow
  obtain ⟨hid, hpassword⟩ := of_decide_eq_true hcols
  have hnew : a.password ≠ alice.password := by
    rw [hpassword]
    decide
  exact ⟨w, hrun, hpassword ▸ password_goesBack hrun List.mem_cons_self ha hid hnew⟩

end GateServer

end WeChat
