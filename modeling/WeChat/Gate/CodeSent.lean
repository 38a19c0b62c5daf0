/-
# From the mail transport to the answer of `/get_varifycode`

`VerifyServer` puts the error of a call into a field of its reply, and the call of the remote
procedure is a success.  `VerifyGrpcClient` looks at the status of the call only and overwrites
the field, and the handler of the gateway passes on what it is given.
-/
import WeChat.Gate.Login
import WeChat.Verify.Server

namespace WeChat

open Wire Json VerifyServer Expiring

/-! ## The way of an error -/

/-- `GetVerifyRsp`. -/
structure GetVerifyRsp where
  error : ℤ
  email : String
  code : String

/-- The reply of `VerifyServer`, which leaves the field `code` out. -/
def VerifyServer.Done.rsp (done : Done) (email : String) : GetVerifyRsp :=
  ⟨done.error.code, email, ""⟩

namespace GateServer

/-- `VerifyGrpcClient::GetVerifyCode`; there is no reply when the status of the call is not
`ok`. -/
def VerifyGrpcClient.getVerifyCode : Option GetVerifyRsp → GetVerifyRsp
  | some reply => { reply with error := ErrorCodes.success.code }
  | none => ⟨ErrorCodes.rpcFailed.code, "", ""⟩

/-- The services of a gateway with this `VerifyServer`; `rpc` says whether the status of the call
is `ok`. -/
def Services.withVerify (services : Services) (rpc : Bool) (env : VerifyEnv)
    (redis : Store String String) : Services :=
  { services with
    getVerifyCode := fun email =>
      let reply := VerifyGrpcClient.getVerifyCode
        (if rpc then some ((VerifyServer.getVerifyCode env redis email).rsp email) else none)
      (reply.error, reply.code) }

/-- The email in the body of a request. -/
def askedEmail (codec : Codec) (body : Bytes) : Option String :=
  (codec.parse body).bind fun src_root => src_root.getStr "email"

/-- The code is in Redis under the email, and the transport has accepted a mail with it. -/
def CodeSent (env : VerifyEnv) (redis : Store String String) (email : String) : Prop :=
  ∃ uniqueId, get (VerifyServer.getVerifyCode env redis email).redis
      (VerifyServer.codePrefix ++ email) = some uniqueId ∧
    (VerifyServer.getVerifyCode env redis email).mail = some ⟨email, uniqueId⟩

/-- The answer has the error 0 only when the code was sent. -/
def ReportsSent (codec : Codec) (services : Services) (rpc : Bool) (env : VerifyEnv)
    (redis : Store String String) (body : Bytes) : Prop :=
  ∀ response root, responseTo codec (services.withVerify rpc env redis) "/get_varifycode" false
      body = some response → response.body = .json root →
    root.getInt "error" = some ErrorCodes.success.code →
      ∃ email, askedEmail codec body = some email ∧ CodeSent env redis email

/-- Nothing fails in `VerifyServer` that the call depends on: the transport accepts the mail, and
the code is read from Redis, or it is stored and given its expiry. -/
def Undisturbed (env : VerifyEnv) (redis : Store String String) (email : String) : Prop :=
  env.sendMail = true ∧ ((env.get = .ok ∧ redis (VerifyServer.codePrefix ++ email) ≠ none) ∨
    (env.set = .ok ∧ env.expire = .ok))

section CodeSent

variable {codec : Codec} {services : Services} {rpc : Bool} {env : VerifyEnv}
  {redis : Store String String} {body : Bytes} {email : String}

lemma mail_mailCode (env : VerifyEnv) (redis : Store String String) (email uniqueId : String) :
    (mailCode env redis email uniqueId).mail =
      if env.sendMail then some ⟨email, uniqueId⟩ else none := by
  rw [mailCode]
  split_ifs <;> rfl

/-- A call that gets as far as the mail. -/
lemma codeSent_iff_of_mailCode {redis' : Store String String} {uniqueId : String}
    (hdone : VerifyServer.getVerifyCode env redis email = mailCode env redis' email uniqueId)
    (hstored : get redis' (VerifyServer.codePrefix ++ email) = some uniqueId) :
    CodeSent env redis email ↔ env.sendMail = true := by
  rw [CodeSent, hdone, Server.redis_mailCode, mail_mailCode, hstored]
  cases env.sendMail <;> simp

/-- **The code is sent exactly when nothing fails that the call depends on.** -/
theorem codeSent_iff : CodeSent env redis email ↔ Undisturbed env redis email := by
  cases hfound : getRedis redis env.get (VerifyServer.codePrefix ++ email) with
  | some uniqueId =>
    have hdone :
        VerifyServer.getVerifyCode env redis email = mailCode env redis email uniqueId := by
      simp only [VerifyServer.getVerifyCode, hfound]
    obtain ⟨hok, hstored⟩ : env.get = .ok ∧
        get redis (VerifyServer.codePrefix ++ email) = some uniqueId := by
      rw [getRedis] at hfound
      split_ifs at hfound with hok
      exact ⟨hok, hfound⟩
    have hkey : redis (VerifyServer.codePrefix ++ email) ≠ none := by
      intro hnone
      rw [get_eq_none_iff.2 hnone] at hstored
      cases hstored
    rw [codeSent_iff_of_mailCode hdone hstored, Undisturbed]
    exact (and_iff_left (.inl ⟨hok, hkey⟩)).symm
  | none =>
    -- a code that is not found is made
    have hmade : ¬ (env.get = .ok ∧ redis (VerifyServer.codePrefix ++ email) ≠ none) := by
      rintro ⟨hok, hkey⟩
      rw [getRedis, if_pos hok] at hfound
      exact hkey (get_eq_none_iff.1 hfound)
    rw [Undisturbed, or_iff_right hmade]
    by_cases hstored : env.set = .ok ∧ env.expire = .ok
    · have hdone : VerifyServer.getVerifyCode env redis email = mailCode env
          (doExpire (doSet redis env.set (VerifyServer.codePrefix ++ email) (newCode env.uuid))
            env.expire (VerifyServer.codePrefix ++ email) exptime) email (newCode env.uuid) := by
        simp only [VerifyServer.getVerifyCode, hfound, setRedisExpire, if_pos hstored.1,
          decide_eq_true hstored.2, if_true]
      rw [and_iff_left hstored]
      refine codeSent_iff_of_mailCode hdone ?_
      rw [hstored.1, hstored.2]
      exact get_expire.trans (get_set.trans (if_pos rfl))
    · refine iff_of_false ?_ fun h => hstored h.2
      rintro ⟨uniqueId, -, hmail⟩
      have hnone : (VerifyServer.getVerifyCode env redis email).mail = none := by
        by_cases hset : env.set = .ok
        · have hexpire : env.expire ≠ .ok := fun hexpire => hstored ⟨hset, hexpire⟩
          simp [VerifyServer.getVerifyCode, hfound, setRedisExpire, hset, hexpire]
        · simp [VerifyServer.getVerifyCode, hfound, setRedisExpire, hset]
      rw [hnone] at hmail
      cases hmail

/-! ## What the handler answers -/

lemma responseTo_getVarifycode (codec : Codec) (services : Services) (body : Bytes) :
    responseTo codec services "/get_varifycode" false body =
      (parsed getVarifycode services (codec.parse body)).map fun root =>
        ⟨200, some "text/json", some "GateServer", .json root⟩ := by
  simp only [responseTo, handlePost, postHandlers, List.lookup_cons, Bool.false_eq_true, if_false,
    beq_self_eq_true, Option.map_some, Option.map_map]
  rfl

lemma contains_of_getStr {src_root : Json} {k s : String} (h : src_root.getStr k = some s) :
    src_root.contains k = true := by
  obtain ⟨o, rfl⟩ := exists_obj_of_getStr (k := k) (by rw [h]; rfl)
  rw [contains]
  cases hlookup : o.lookup k with
  | some v => rfl
  | none => exact nomatch (show none = some s by rwa [getStr, Json.get, hlookup] at h)

/-- A body with an email is answered. -/
lemma parsed_of_askedEmail (services : Services)
    (hasked : askedEmail codec body = some email) :
    parsed getVarifycode services (codec.parse body) =
      some (object [("email", .str email), ("error", .num (services.getVerifyCode email).1),
        ("code", .str (services.getVerifyCode email).2)]) := by
  obtain ⟨src_root, hparse, hemail⟩ := Option.bind_eq_some_iff.1 hasked
  have hhandler : parsed getVarifycode services (some src_root) =
      getVarifycode services src_root := by
    obtain ⟨o, rfl⟩ := exists_obj_of_getStr (k := "email") (by rw [hemail]; rfl)
    rfl
  rw [hparse, hhandler, getVarifycode, if_pos (contains_of_getStr hemail), hemail]
  rfl

/-- A body without one is not, or it is refused. -/
lemma parsed_of_not_asked {root : Json} (hasked : askedEmail codec body = none)
    (hroot : parsed getVarifycode services (codec.parse body) = some root) :
    root = errorRoot .errorJson := by
  rw [askedEmail] at hasked
  cases hparse : codec.parse body with
  | none =>
    rw [hparse] at hroot
    cases hroot
  | some src_root =>
    rw [hparse] at hroot hasked
    have hnone : src_root.getStr "email" = none := hasked
    by_cases hnull : src_root = .null
    · subst hnull
      exact (Option.some.inj hroot).symm
    · have hhandler : getVarifycode services src_root = some root := by
        cases src_root with
        | null => exact absurd rfl hnull
        | _ => exact hroot
      rw [getVarifycode, hnone] at hhandler
      split_ifs at hhandler
      · cases hhandler
      · exact (Option.some.inj hhandler).symm

/-- The error of the answer only says whether the status of the call was `ok`. -/
lemma error_withVerify (services : Services) (rpc : Bool) (env : VerifyEnv)
    (redis : Store String String) (email : String) :
    ((services.withVerify rpc env redis).getVerifyCode email).1 =
      if rpc then ErrorCodes.success.code else ErrorCodes.rpcFailed.code := by
  cases rpc <;> rfl

/-- The error of the answer is `0` exactly when there is an email and the status is `ok`. -/
lemma error_eq_success_iff {root : Json} (hroot : parsed getVarifycode
      (services.withVerify rpc env redis) (codec.parse body) = some root) :
    root.getInt "error" = some ErrorCodes.success.code ↔
      askedEmail codec body ≠ none ∧ rpc = true := by
  cases hasked : askedEmail codec body with
  | none =>
    rw [parsed_of_not_asked hasked hroot, getInt_errorRoot]
    exact iff_of_false (by decide) fun h => h.1 rfl
  | some email =>
    rw [parsed_of_askedEmail _ hasked, error_withVerify] at hroot
    obtain rfl := Option.some.inj hroot
    rw [getInt, get_object]
    cases rpc with
    | true => exact iff_of_true rfl ⟨Option.some_ne_none _, rfl⟩
    | false =>
      have hne : toInt32 ErrorCodes.rpcFailed.code ≠ ErrorCodes.success.code := by decide
      exact iff_of_false (fun h => hne (Option.some.inj h)) fun h => nomatch h.2

/-- **The error `0` means that the code was sent if and only if, whenever there is an email and
the status of the call is `ok`, nothing fails in `VerifyServer` that the call depends on.** -/
theorem reportsSent_iff : ReportsSent codec services rpc env redis body ↔
    ∀ email, askedEmail codec body = some email → rpc = true → Undisturbed env redis email := by
  constructor
  · intro hsent email hasked hrpc
    have hroot := parsed_of_askedEmail (services.withVerify rpc env redis) hasked
    have hresponse := responseTo_getVarifycode codec (services.withVerify rpc env redis) body
    rw [hroot] at hresponse
    obtain ⟨email', hasked', hsent⟩ := hsent _ _ hresponse rfl
      ((error_eq_success_iff hroot).2 ⟨by simp [hasked], hrpc⟩)
    obtain rfl := Option.some.inj (hasked.symm.trans hasked')
    exact codeSent_iff.1 hsent
  · intro hundisturbed response root hresponse hbody herror
    rw [responseTo_getVarifycode] at hresponse
    obtain ⟨root', hroot, rfl⟩ := Option.map_eq_some_iff.1 hresponse
    obtain rfl : root' = root := by
      injection hbody
    obtain ⟨hasked, hrpc⟩ := (error_eq_success_iff hroot).1 herror
    obtain ⟨email, hasked⟩ := Option.ne_none_iff_exists'.1 hasked
    exact ⟨email, hasked, codeSent_iff.2 (hundisturbed email hasked hrpc)⟩

/-- Redis works, and the transport refuses the mail. -/
def refusedEnv : VerifyEnv := ⟨.ok, .ok, .ok, false, "3f2b1c9a"⟩

/-- The client is told that the code was sent although the mail was refused. -/
theorem not_reportsSent_refused : ¬ ReportsSent Json.compact openServices true refusedEnv
    (fun _ => none) (Json.compact.dump (.object [("email", .str "alice@example.com")])) := by
  intro hsent
  have hparse : Json.compact.parse (Json.compact.dump
      (.object [("email", .str "alice@example.com")])) =
        some (.object [("email", .str "alice@example.com")]) :=
    Json.compact.parse_dump (wf_object (by simp [Wf]))
  have hasked : askedEmail Json.compact (Json.compact.dump
      (.object [("email", .str "alice@example.com")])) = some "alice@example.com" := by
    rw [askedEmail, hparse]
    rfl
  have hroot := parsed_of_askedEmail
    (openServices.withVerify true refusedEnv fun _ => none) hasked
  have hresponse := responseTo_getVarifycode Json.compact
    (openServices.withVerify true refusedEnv fun _ => none)
    (Json.compact.dump (.object [("email", .str "alice@example.com")]))
  rw [hroot] at hresponse
  obtain ⟨email, -, uniqueId, -, hmail⟩ := hsent _ _ hresponse rfl
    ((error_eq_success_iff hroot).2 ⟨by simp [hasked], rfl⟩)
  -- no mail was accepted
  cases hmail

end CodeSent

end GateServer

end WeChat
