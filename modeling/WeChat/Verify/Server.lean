/-
# The verification server

`GetVerifyCode` of `VerifyServer` looks for the code of an email in Redis, makes a new one when
there is none, stores it with a `SET` and an `EXPIRE`, and mails it.  At every `await` other
calls go on, so a call is also a sequence of steps that interleave with those of other calls.
A Redis command can fail before or after it was executed, and the process can stop.
-/
import WeChat.Lib.Expiry
import WeChat.Lib.Transition

namespace WeChat

namespace VerifyServer

open Transition Expiring

/-- `const_module.Error`. -/
inductive Error
  | success | redisError | exception
deriving DecidableEq

/-- The number that stands for an error in an answer. -/
def Error.code : Error → ℤ
  | success => 0
  | redisError => 1
  | exception => 2

/-- `const_module.code_prefix`. -/
def codePrefix : String := "verifycode_"

/-- What becomes of a Redis command; one that fails may have been executed. -/
inductive Outcome
  | ok
  | failed (executed : Bool)
deriving DecidableEq

/-- The command is executed. -/
def Outcome.executes : Outcome → Bool
  | ok => true
  | failed executed => executed

/-- A mail that the transport has accepted. -/
structure Mail where
  email : String
  uniqueId : String
deriving DecidableEq

/-! ## One call -/

/-- `GetRedis`: a failure counts as a key that is not there. -/
def getRedis (redis : Store String String) (outcome : Outcome) (key : String) : Option String :=
  if outcome = .ok then get redis key else none

/-- The effect of a `SET`. -/
def doSet (redis : Store String String) (outcome : Outcome) (key value : String) :
    Store String String :=
  if outcome.executes then set redis key value else redis

/-- The effect of an `EXPIRE`. -/
def doExpire (redis : Store String String) (outcome : Outcome) (key : String) (exptime : ℕ) :
    Store String String :=
  if outcome.executes then expire redis key exptime else redis

lemma doSet_of_ne {redis : Store String String} {outcome : Outcome} {key key' : String}
    (h : key' ≠ key) (value : String) : doSet redis outcome key value key' = redis key' := by
  rw [doSet]
  split_ifs
  · exact Function.update_of_ne h ..
  · rfl

lemma doExpire_of_ne {redis : Store String String} {outcome : Outcome} {key key' : String}
    (h : key' ≠ key) (exptime : ℕ) : doExpire redis outcome key exptime key' = redis key' := by
  rw [doExpire]
  split_ifs
  · exact Function.update_of_ne h ..
  · rfl

/-- `SetRedisExpire`. -/
def setRedisExpire (redis : Store String String) (set expire : Outcome) (key value : String)
    (exptime : ℕ) : Bool × Store String String :=
  let redis := doSet redis set key value
  if set = .ok then (decide (expire = .ok), doExpire redis expire key exptime) else (false, redis)

/-- The first six characters of a `uuidv4()`. -/
def newCode (uuid : String) : String :=
  if 6 < uuid.length then String.ofList (uuid.toList.take 6) else uuid

/-- The seconds for which a code is valid. -/
def exptime : ℕ := 600

/-- What a call is given by its environment. -/
structure VerifyEnv where
  get : Outcome
  set : Outcome
  expire : Outcome
  /-- The transport accepts the mail. -/
  sendMail : Bool
  uuid : String

/-- What a call leaves in Redis, the mail that was accepted, and the error of its answer. -/
structure Done where
  redis : Store String String
  mail : Option Mail
  error : Error

/-- The end of `GetVerifyCode`: the mail is sent, and a failure is caught. -/
def mailCode (env : VerifyEnv) (redis : Store String String) (email uniqueId : String) : Done :=
  if env.sendMail then ⟨redis, some ⟨email, uniqueId⟩, .success⟩ else ⟨redis, none, .exception⟩

/-- `GetVerifyCode`, when no other call goes on meanwhile. -/
def getVerifyCode (env : VerifyEnv) (redis : Store String String) (email : String) : Done :=
  match getRedis redis env.get (codePrefix ++ email) with
  | some uniqueId => mailCode env redis email uniqueId
  | none =>
    let uniqueId := newCode env.uuid
    let (bres, redis) :=
      setRedisExpire redis env.set env.expire (codePrefix ++ email) uniqueId exptime
    if bres then mailCode env redis email uniqueId else ⟨redis, none, .redisError⟩

/-! ## Calls that interleave -/

/-- Where a call stands. -/
inductive Phase
  /-- The `GET` is under way, and below the `SET`, the `EXPIRE` and the mail. -/
  | reading
  | storing (uniqueId : String)
  | expiring (uniqueId : String)
  | mailing (uniqueId : String)
  | answered (error : Error)
deriving DecidableEq

/-- A call of `GetVerifyCode`. -/
structure Call where
  email : String
  phase : Phase
deriving DecidableEq

/-- Redis, the calls of the process, which are numbered, and the mails that were accepted. -/
structure Server where
  redis : Store String String
  calls : ℕ → Option Call
  mails : List Mail

/-- What happens. -/
inductive VerifyEvent
  | call (i : ℕ) (email : String)
  /-- The command or the mail that a call waits for comes to its end. -/
  | get (i : ℕ) (outcome : Outcome) (uuid : String)
  | set (i : ℕ) (outcome : Outcome)
  | expire (i : ℕ) (outcome : Outcome)
  | sendMail (i : ℕ) (accepted : Bool)
  /-- A second passes. -/
  | tick
  /-- The process stops, and its calls with it. -/
  | stop

namespace Server

/-- No call yet. -/
def init (redis : Store String String) : Server := ⟨redis, fun _ => none, []⟩

/-- A call goes on. -/
def resume (s : Server) (i : ℕ) (call : Call) : Server :=
  { s with calls := Function.update s.calls i (some call) }

/-- One event. -/
def step (s : Server) : VerifyEvent → Option Server
  | .call i email =>
    match s.calls i with
    | none => some (s.resume i ⟨email, .reading⟩)
    | some _ => none
  | .get i outcome uuid =>
    match s.calls i with
    | some ⟨email, .reading⟩ =>
      match getRedis s.redis outcome (codePrefix ++ email) with
      | some uniqueId => some (s.resume i ⟨email, .mailing uniqueId⟩)
      | none => some (s.resume i ⟨email, .storing (newCode uuid)⟩)
    | _ => none
  | .set i outcome =>
    match s.calls i with
    | some ⟨email, .storing uniqueId⟩ =>
      let s := { s with redis := doSet s.redis outcome (codePrefix ++ email) uniqueId }
      some (s.resume i
        ⟨email, if outcome = .ok then .expiring uniqueId else .answered .redisError⟩)
    | _ => none
  | .expire i outcome =>
    match s.calls i with
    | some ⟨email, .expiring uniqueId⟩ =>
      let s := { s with redis := doExpire s.redis outcome (codePrefix ++ email) exptime }
      some (s.resume i
        ⟨email, if outcome = .ok then .mailing uniqueId else .answered .redisError⟩)
    | _ => none
  | .sendMail i accepted =>
    match s.calls i with
    | some ⟨email, .mailing uniqueId⟩ =>
      if accepted then
        let s : Server := { s with mails := s.mails ++ [⟨email, uniqueId⟩] }
        some (s.resume i ⟨email, .answered .success⟩)
      else some (s.resume i ⟨email, .answered .exception⟩)
    | _ => none
  | .tick => some { s with redis := tick s.redis }
  | .stop => some { s with calls := fun _ => none }

/-! ## What a step does -/

/-- The steps, with what each finds. -/
inductive Effect (s : Server) : VerifyEvent → Server → Prop
  | call {i : ℕ} {email : String} (hnew : s.calls i = none) :
      Effect s (.call i email) (s.resume i ⟨email, .reading⟩)
  | found {i : ℕ} {outcome : Outcome} {uuid email uniqueId : String}
      (hcall : s.calls i = some ⟨email, .reading⟩)
      (hfound : getRedis s.redis outcome (codePrefix ++ email) = some uniqueId) :
      Effect s (.get i outcome uuid) (s.resume i ⟨email, .mailing uniqueId⟩)
  | made {i : ℕ} {outcome : Outcome} {uuid email : String}
      (hcall : s.calls i = some ⟨email, .reading⟩)
      (hnone : getRedis s.redis outcome (codePrefix ++ email) = none) :
      Effect s (.get i outcome uuid) (s.resume i ⟨email, .storing (newCode uuid)⟩)
  | set {i : ℕ} {outcome : Outcome} {email uniqueId : String}
      (hcall : s.calls i = some ⟨email, .storing uniqueId⟩) :
      Effect s (.set i outcome)
        (resume { s with redis := doSet s.redis outcome (codePrefix ++ email) uniqueId } i
          ⟨email, if outcome = .ok then .expiring uniqueId else .answered .redisError⟩)
  | expire {i : ℕ} {outcome : Outcome} {email uniqueId : String}
      (hcall : s.calls i = some ⟨email, .expiring uniqueId⟩) :
      Effect s (.expire i outcome)
        (resume { s with redis := doExpire s.redis outcome (codePrefix ++ email) exptime } i
          ⟨email, if outcome = .ok then .mailing uniqueId else .answered .redisError⟩)
  | mailed {i : ℕ} {email uniqueId : String}
      (hcall : s.calls i = some ⟨email, .mailing uniqueId⟩) :
      Effect s (.sendMail i true)
        (resume { s with mails := s.mails ++ [⟨email, uniqueId⟩] } i
          ⟨email, .answered .success⟩)
  | refused {i : ℕ} {email uniqueId : String}
      (hcall : s.calls i = some ⟨email, .mailing uniqueId⟩) :
      Effect s (.sendMail i false) (s.resume i ⟨email, .answered .exception⟩)
  | tick : Effect s .tick { s with redis := Expiring.tick s.redis }
  | stop : Effect s .stop { s with calls := fun _ => none }

variable {s s' : Server}

@[simp] lemma redis_resume (i : ℕ) (call : Call) : (s.resume i call).redis = s.redis := rfl

@[simp] lemma mails_resume (i : ℕ) (call : Call) : (s.resume i call).mails = s.mails := rfl

@[simp] lemma calls_resume_self (i : ℕ) (call : Call) :
    (s.resume i call).calls i = some call := Function.update_self ..

lemma calls_resume_of_ne {i j : ℕ} (h : j ≠ i) (call : Call) :
    (s.resume i call).calls j = s.calls j := Function.update_of_ne h ..

@[simp] lemma resume_resume (i : ℕ) (call call' : Call) :
    (s.resume i call).resume i call' = s.resume i call' := by
  simp [resume]

lemma effect_of_step {e : VerifyEvent} (h : s.step e = some s') : s.Effect e s' := by
  cases e with
  | call i email =>
    simp only [step] at h
    split at h
    · next hnew =>
      obtain rfl := Option.some.inj h
      exact .call hnew
    · cases h
  | get i outcome uuid =>
    simp only [step] at h
    split at h
    · next email hcall =>
      split at h
      · next uniqueId hfound =>
        obtain rfl := Option.some.inj h
        exact .found hcall hfound
      · next hnone =>
        obtain rfl := Option.some.inj h
        exact .made hcall hnone
    · cases h
  | set i outcome =>
    simp only [step] at h
    split at h
    · next email uniqueId hcall =>
      obtain rfl := Option.some.inj h
      exact .set hcall
    · cases h
  | expire i outcome =>
    simp only [step] at h
    split at h
    · next email uniqueId hcall =>
      obtain rfl := Option.some.inj h
      exact .expire hcall
    · cases h
  | sendMail i accepted =>
    simp only [step] at h
    split at h
    · next email uniqueId hcall =>
      cases accepted with
      | true =>
        obtain rfl := Option.some.inj h
        exact .mailed hcall
      | false =>
        obtain rfl := Option.some.inj h
        exact .refused hcall
    · cases h
  | tick =>
    obtain rfl := Option.some.inj h
    exact .tick
  | stop =>
    obtain rfl := Option.some.inj h
    exact .stop

/-! ## A call alone -/

/-- The steps of a call that no other call interrupts. -/
def aloneEvents (env : VerifyEnv) (redis : Store String String) (i : ℕ) (email : String) :
    List VerifyEvent :=
  .call i email :: .get i env.get env.uuid ::
    match getRedis redis env.get (codePrefix ++ email) with
    | some _ => [.sendMail i env.sendMail]
    | none =>
      .set i env.set ::
        if env.set = .ok then
          .expire i env.expire :: if env.expire = .ok then [.sendMail i env.sendMail] else []
        else []

lemma redis_mailCode (env : VerifyEnv) (redis : Store String String) (email uniqueId : String) :
    (mailCode env redis email uniqueId).redis = redis := by
  rw [mailCode]
  split_ifs <;> rfl

lemma step_set {i : ℕ} {outcome : Outcome} {email uniqueId : String}
    (hcall : s.calls i = some ⟨email, .storing uniqueId⟩) :
    s.step (.set i outcome) = some (resume
      { s with redis := doSet s.redis outcome (codePrefix ++ email) uniqueId } i
      ⟨email, if outcome = .ok then .expiring uniqueId else .answered .redisError⟩) := by
  simp only [step, hcall]

lemma step_expire {i : ℕ} {outcome : Outcome} {email uniqueId : String}
    (hcall : s.calls i = some ⟨email, .expiring uniqueId⟩) :
    s.step (.expire i outcome) = some (resume
      { s with redis := doExpire s.redis outcome (codePrefix ++ email) exptime } i
      ⟨email, if outcome = .ok then .mailing uniqueId else .answered .redisError⟩) := by
  simp only [step, hcall]

/-- A call that has stored something goes on. -/
lemma resume_stored (redis : Store String String) (i : ℕ) (call call' : Call) :
    resume { s.resume i call with redis := redis } i call' =
      resume { s with redis := redis } i call' := by
  simp [resume]

/-- The end of a call alone. -/
lemma run_mailCode {env : VerifyEnv} {i : ℕ} {email uniqueId : String} :
    run step (s.resume i ⟨email, .mailing uniqueId⟩) [.sendMail i env.sendMail] =
      some (resume { s with
        mails := s.mails ++ (mailCode env s.redis email uniqueId).mail.toList } i
        ⟨email, .answered (mailCode env s.redis email uniqueId).error⟩) := by
  cases hsent : env.sendMail with
  | true => simp [run, step, mailCode, hsent, resume]
  | false => simp [run, step, mailCode, hsent, resume]

/-- **The steps of a call that no other call interrupts do what `GetVerifyCode` does.** -/
theorem run_alone {env : VerifyEnv} {i : ℕ} {email : String} (hnew : s.calls i = none) :
    run step s (aloneEvents env s.redis i email) =
      some (resume { s with
        redis := (getVerifyCode env s.redis email).redis
        mails := s.mails ++ (getVerifyCode env s.redis email).mail.toList } i
        ⟨email, .answered (getVerifyCode env s.redis email).error⟩) := by
  have hcall : step s (.call i email) = some (s.resume i ⟨email, .reading⟩) := by
    simp only [step, hnew]
  rw [aloneEvents, run_cons hcall]
  cases hfound : getRedis s.redis env.get (codePrefix ++ email) with
  | some uniqueId =>
    have hget : step (s.resume i ⟨email, .reading⟩) (.get i env.get env.uuid) =
        some (s.resume i ⟨email, .mailing uniqueId⟩) := by
      simp [step, hfound]
    have hdone : getVerifyCode env s.redis email = mailCode env s.redis email uniqueId := by
      simp only [getVerifyCode, hfound]
    rw [run_cons hget, hdone, redis_mailCode]
    exact run_mailCode
  | none =>
    have hget : step (s.resume i ⟨email, .reading⟩) (.get i env.get env.uuid) =
        some (s.resume i ⟨email, .storing (newCode env.uuid)⟩) := by
      simp [step, hfound]
    rw [run_cons hget, run_cons (step_set (calls_resume_self i _)), resume_stored]
    -- the call goes on as long as the commands succeed
    by_cases hset : env.set = .ok
    · rw [if_pos hset, if_pos hset, run_cons (step_expire (calls_resume_self i _)),
        resume_stored]
      by_cases hexpire : env.expire = .ok
      · have hdone : getVerifyCode env s.redis email = mailCode env
            (doExpire (doSet s.redis env.set (codePrefix ++ email) (newCode env.uuid)) env.expire
              (codePrefix ++ email) exptime) email (newCode env.uuid) := by
          simp only [getVerifyCode, hfound, setRedisExpire, if_pos hset, decide_eq_true hexpire,
            if_true]
        rw [if_pos hexpire, if_pos hexpire, hdone, redis_mailCode]
        exact run_mailCode
      · simp [getVerifyCode, hfound, setRedisExpire, hset, hexpire]
    · simp [getVerifyCode, hfound, setRedisExpire, hset]

end Server

end VerifyServer

end WeChat
