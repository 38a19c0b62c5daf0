/-
# Login tokens

`StatusServiceImpl::GetChatServer` stores a new token under the key of the user, and
`StatusServiceImpl::CheckToken` compares the stored token with the one it is asked about and
then removes it.  Each `GET`, `SET` and `DEL` is one atomic step of Redis, and the steps of
concurrent calls interleave in any order.  The random generator is the parameter
`generateUUID`: its `i`-th value is the token of the `i`-th call.
-/
import Mathlib
import WeChat.Lib.Transition
import WeChat.Chat.Const

namespace WeChat

namespace StatusServiceImpl

open Transition

/-- The key under which the token of a user is stored. -/
def tokenKey (uid : ℤ) : String := "token_" ++ uid.repr

/-- `message::CheckTokenReq`. -/
structure CheckTokenReq where
  uid : ℤ
  token : String
deriving DecidableEq

/-- The keys of Redis that hold tokens, and the calls of the service. -/
structure TokenState where
  redis : String → Option String
  /-- The tokens in the answers of `GetChatServer`. -/
  issued : List String
  /-- The calls of `CheckToken` that found their token and have not removed it yet. -/
  removing : List CheckTokenReq
  /-- The answers of `CheckToken`. -/
  answers : List (CheckTokenReq × ErrorCodes)

/-- The Redis commands of the calls, and the end of the life of a key. -/
inductive TokenEvent
  /-- The `SET` of a call `GetChatServer(uid)`. -/
  | insertToken (uid : ℤ)
  /-- The `GET` of a call of `CheckToken`, and the comparison. -/
  | checkToken (request : CheckTokenReq)
  /-- The `DEL` of one of the calls that compared successfully. -/
  | removeToken (request : CheckTokenReq)
  /-- The key of a user has lived for `tokenTTL` seconds. -/
  | expire (uid : ℤ)

section Service

variable (generateUUID : ℕ → String)

/-- One command. -/
def tokenStep (s : TokenState) : TokenEvent → Option TokenState
  | .insertToken uid =>
    let token := generateUUID s.issued.length
    some { s with
      redis := Function.update s.redis (tokenKey uid) (some token)
      issued := s.issued ++ [token] }
  | .checkToken request =>
    if s.redis (tokenKey request.uid) = some request.token then
      some { s with
        removing := request :: s.removing
        answers := s.answers ++ [(request, .success)] }
    else
      some { s with answers := s.answers ++ [(request, .tokenInvalid)] }
  | .removeToken request =>
    if request ∈ s.removing then
      some { s with
        redis := Function.update s.redis (tokenKey request.uid) none
        removing := s.removing.erase request }
    else none
  | .expire uid => some { s with redis := Function.update s.redis (tokenKey uid) none }

/-- The service before the first call. -/
def TokenState.init : TokenState := ⟨fun _ => none, [], [], []⟩

/-- How many calls of `CheckToken` accepted a token. -/
def TokenState.accepted (s : TokenState) (token : String) : ℕ :=
  s.answers.countP fun a => a.1.token = token ∧ a.2 = .success

/-- Every token that was issued has been accepted at most once. -/
def TokenState.AtMostOnce (s : TokenState) : Prop :=
  ∀ token ∈ s.issued, s.accepted token ≤ 1

/-- A call of `CheckToken` that finds its token is the only one that does: no call that found
the same token before has its `DEL` still to come. -/
def Alone (s : TokenState) : TokenEvent → Prop
  | .checkToken request =>
    s.redis (tokenKey request.uid) = some request.token →
      ∀ r ∈ s.removing, r.token ≠ request.token
  | _ => True

/-- What the commands keep true about the stored tokens. -/
structure TokenInv (s : TokenState) : Prop where
  issued_eq : ∀ token ∈ s.issued, ∃ i < s.issued.length, generateUUID i = token
  stored : ∀ {key token}, s.redis key = some token → token ∈ s.issued
  /-- A token is stored under one key only. -/
  key_unique : ∀ {key key' token}, s.redis key = some token → s.redis key' = some token →
    key = key'
  accepted_issued : ∀ {token}, 0 < s.accepted token → token ∈ s.issued
  /-- An accepted token that is still stored is about to be removed. -/
  accepted_stored : ∀ {key token}, 0 < s.accepted token → s.redis key = some token →
    ∃ r ∈ s.removing, r.token = token ∧ tokenKey r.uid = key
  removing_accepted : ∀ r ∈ s.removing, 0 < s.accepted r.token

end Service

/-! ## Counting the answers -/

section Counting

variable {s : TokenState}

/-- The state after the answer to a call that found its token. -/
lemma accepted_success (redis issued removing) (request : CheckTokenReq) (token : String) :
    TokenState.accepted ⟨redis, issued, removing, s.answers ++ [(request, .success)]⟩ token =
      s.accepted token + if request.token = token then 1 else 0 := by
  simp [TokenState.accepted, List.countP_append, List.countP_cons]

/-- The state after the answer to a call that did not. -/
lemma accepted_tokenInvalid (redis issued removing) (request : CheckTokenReq) (token : String) :
    TokenState.accepted ⟨redis, issued, removing, s.answers ++ [(request, .tokenInvalid)]⟩ token =
      s.accepted token := by
  simp [TokenState.accepted, List.countP_append]

end Counting

/-! ## The invariant -/

section Invariant

variable {generateUUID : ℕ → String} {s s' : TokenState}

lemma tokenInv_init : TokenInv generateUUID .init := by
  constructor <;> simp [TokenState.init, TokenState.accepted]

/-- The next token has not been issued before. -/
lemma fresh_token (huuid : Function.Injective generateUUID) (h : TokenInv generateUUID s) :
    generateUUID s.issued.length ∉ s.issued := by
  intro hmem
  obtain ⟨i, hi, heq⟩ := h.issued_eq _ hmem
  exact absurd (huuid heq) (by omega)

lemma tokenInv_insertToken (huuid : Function.Injective generateUUID)
    (h : TokenInv generateUUID s) (uid : ℤ) :
    TokenInv generateUUID { s with
      redis := Function.update s.redis (tokenKey uid) (some (generateUUID s.issued.length))
      issued := s.issued ++ [generateUUID s.issued.length] } := by
  have hfresh := fresh_token huuid h
  -- what the updated key and the others hold
  have hcases : ∀ {key token}, Function.update s.redis (tokenKey uid)
      (some (generateUUID s.issued.length)) key = some token →
      (key = tokenKey uid ∧ token = generateUUID s.issued.length) ∨ s.redis key = some token := by
    intro key token hkey
    by_cases heq : key = tokenKey uid
    · subst heq
      rw [Function.update_self] at hkey
      exact .inl ⟨rfl, (Option.some.inj hkey).symm⟩
    · rw [Function.update_of_ne heq] at hkey
      exact .inr hkey
  refine ⟨?_, ?_, ?_, ?_, ?_, h.removing_accepted⟩
  · intro token htoken
    rw [List.length_append, List.length_singleton]
    rcases List.mem_append.1 htoken with htoken | htoken
    · obtain ⟨i, hi, heq⟩ := h.issued_eq token htoken
      exact ⟨i, by omega, heq⟩
    · exact ⟨s.issued.length, by omega, (List.mem_singleton.1 htoken).symm⟩
  · intro key token hkey
    rcases hcases hkey with ⟨-, rfl⟩ | hold
    · exact List.mem_append_right _ (List.mem_singleton_self _)
    · exact List.mem_append_left _ (h.stored hold)
  · -- the new token is under no other key, for it has not been issued before
    intro key key' token hkey hkey'
    rcases hcases hkey with ⟨rfl, rfl⟩ | hold <;> rcases hcases hkey' with ⟨rfl, htoken⟩ | hold'
    · rfl
    · exact absurd (h.stored hold') hfresh
    · exact absurd (h.stored (htoken ▸ hold)) hfresh
    · exact h.key_unique hold hold'
  · intro token hacc
    exact List.mem_append_left _ (h.accepted_issued hacc)
  · intro key token hacc hkey
    rcases hcases hkey with ⟨-, rfl⟩ | hold
    · exact absurd (h.accepted_issued hacc) hfresh
    · exact h.accepted_stored hacc hold

lemma tokenInv_success (h : TokenInv generateUUID s) {request : CheckTokenReq}
    (hkey : s.redis (tokenKey request.uid) = some request.token) :
    TokenInv generateUUID { s with
      removing := request :: s.removing
      answers := s.answers ++ [(request, .success)] } := by
  refine ⟨h.issued_eq, h.stored, h.key_unique, ?_, ?_, ?_⟩
  · intro token hacc
    rw [accepted_success] at hacc
    by_cases heq : request.token = token
    · exact heq ▸ h.stored hkey
    · exact h.accepted_issued (by simpa [heq] using hacc)
  · intro key token hacc hold
    rw [accepted_success] at hacc
    by_cases heq : request.token = token
    · -- the call that is accepted now removes the token later
      subst heq
      exact ⟨request, List.mem_cons_self, rfl, h.key_unique hkey hold⟩
    · obtain ⟨r, hr, hkeys⟩ := h.accepted_stored (by simpa [heq] using hacc) hold
      exact ⟨r, List.mem_cons_of_mem _ hr, hkeys⟩
  · intro r hr
    rw [accepted_success]
    rcases List.mem_cons.1 hr with rfl | hr
    · simp
    · have := h.removing_accepted r hr
      omega

lemma tokenInv_tokenInvalid (h : TokenInv generateUUID s) (request : CheckTokenReq) :
    TokenInv generateUUID { s with answers := s.answers ++ [(request, .tokenInvalid)] } := by
  refine ⟨h.issued_eq, h.stored, h.key_unique, ?_, ?_, ?_⟩
  · intro token hacc
    exact h.accepted_issued (by rwa [accepted_tokenInvalid] at hacc)
  · intro key token hacc hold
    exact h.accepted_stored (by rwa [accepted_tokenInvalid] at hacc) hold
  · intro r hr
    rw [accepted_tokenInvalid]
    exact h.removing_accepted r hr

/-- A key that is deleted takes nothing away from the other keys. -/
lemma tokenInv_delete (h : TokenInv generateUUID s) (key : String) {removing : List CheckTokenReq}
    (hsub : ∀ r ∈ removing, r ∈ s.removing)
    (hkeep : ∀ r ∈ s.removing, tokenKey r.uid ≠ key → r ∈ removing) :
    TokenInv generateUUID { s with
      redis := Function.update s.redis key none, removing := removing } := by
  have hcases : ∀ {key' token}, Function.update s.redis key none key' = some token →
      key' ≠ key ∧ s.redis key' = some token := by
    intro key' token hkey
    by_cases heq : key' = key
    · simp [heq] at hkey
    · exact ⟨heq, by rwa [Function.update_of_ne heq] at hkey⟩
  refine ⟨h.issued_eq, fun hkey => h.stored (hcases hkey).2,
    fun hkey hkey' => h.key_unique (hcases hkey).2 (hcases hkey').2, h.accepted_issued, ?_,
    fun r hr => h.removing_accepted r (hsub r hr)⟩
  intro key' token hacc hkey
  obtain ⟨hne, hold⟩ := hcases hkey
  obtain ⟨r, hr, htoken, rfl⟩ := h.accepted_stored hacc hold
  exact ⟨r, hkeep r hr hne, htoken, rfl⟩

lemma tokenInv_step (huuid : Function.Injective generateUUID) {e : TokenEvent}
    (h : TokenInv generateUUID s) (hstep : tokenStep generateUUID s e = some s') :
    TokenInv generateUUID s' := by
  cases e with
  | insertToken uid =>
    obtain rfl := Option.some.inj hstep
    exact tokenInv_insertToken huuid h uid
  | checkToken request =>
    by_cases hkey : s.redis (tokenKey request.uid) = some request.token
    · simp only [tokenStep, if_pos hkey, Option.some.injEq] at hstep
      exact hstep ▸ tokenInv_success h hkey
    · simp only [tokenStep, if_neg hkey, Option.some.injEq] at hstep
      exact hstep ▸ tokenInv_tokenInvalid h request
  | removeToken request =>
    by_cases hmem : request ∈ s.removing
    · simp only [tokenStep, if_pos hmem, Option.some.injEq] at hstep
      refine hstep ▸ tokenInv_delete h _ (fun r hr => List.mem_of_mem_erase hr) ?_
      intro r hr hne
      exact (List.mem_erase_of_ne (fun heq => hne (congrArg (fun r => tokenKey r.uid) heq))).2 hr
    · simp [tokenStep, hmem] at hstep
  | expire uid =>
    obtain rfl := Option.some.inj hstep
    exact tokenInv_delete h _ (fun _ hr => hr) (fun _ hr _ => hr)

/-- A step keeps the acceptances apart exactly when the call that is accepted is alone. -/
lemma atMostOnce_step (huuid : Function.Injective generateUUID) {e : TokenEvent}
    (h : TokenInv generateUUID s) (hstep : tokenStep generateUUID s e = some s') :
    s'.AtMostOnce ↔ s.AtMostOnce ∧ Alone s e := by
  cases e with
  | insertToken uid =>
    obtain rfl := Option.some.inj hstep
    have hnone : s.accepted (generateUUID s.issued.length) = 0 := by
      by_contra hacc
      exact fresh_token huuid h (h.accepted_issued (Nat.pos_of_ne_zero hacc))
    refine Iff.trans ?_ (and_iff_left trivial).symm
    constructor
    · intro honce token htoken
      exact honce token (List.mem_append_left _ htoken)
    · intro honce token htoken
      rcases List.mem_append.1 htoken with htoken | htoken
      · exact honce token htoken
      · rw [List.mem_singleton.1 htoken]
        exact hnone.le.trans zero_le_one
  | checkToken request =>
    by_cases hkey : s.redis (tokenKey request.uid) = some request.token
    · simp only [tokenStep, if_pos hkey, Option.some.injEq] at hstep
      subst hstep
      constructor
      · intro honce
        refine ⟨fun token htoken => ?_, fun _ r hr heq => ?_⟩
        · have := honce token htoken
          rw [accepted_success] at this
          omega
        · -- a call that is about to remove the token has accepted it already
          have htwice := honce request.token (h.stored hkey)
          have hpos := h.removing_accepted r hr
          rw [accepted_success, if_pos rfl] at htwice
          rw [heq] at hpos
          omega
      · rintro ⟨honce, halone⟩ token htoken
        rw [accepted_success]
        split_ifs with heq
        · -- an earlier acceptance would still have its `DEL` to come
          subst heq
          have hnone : ¬ 0 < s.accepted request.token := by
            intro hacc
            obtain ⟨r, hr, htok, -⟩ := h.accepted_stored hacc hkey
            exact halone hkey r hr htok
          omega
        · exact honce token htoken
    · simp only [tokenStep, if_neg hkey, Option.some.injEq] at hstep
      subst hstep
      refine Iff.trans ?_ (and_iff_left fun hkey' => absurd hkey' hkey).symm
      simp only [TokenState.AtMostOnce, accepted_tokenInvalid]
  | removeToken request =>
    by_cases hmem : request ∈ s.removing
    · simp only [tokenStep, if_pos hmem, Option.some.injEq] at hstep
      subst hstep
      exact (and_iff_left trivial).symm
    · simp [tokenStep, hmem] at hstep
  | expire uid =>
    obtain rfl := Option.some.inj hstep
    exact (and_iff_left trivial).symm

end Invariant

/-! ## At most one acceptance -/

/-- **A token is accepted at most once exactly when no call of `CheckToken` finds a token
between the `GET` and the `DEL` of another call that found it.** -/
theorem atMostOnce_iff {generateUUID : ℕ → String} (huuid : Function.Injective generateUUID)
    {es : List TokenEvent} {s : TokenState}
    (hrun : run (tokenStep generateUUID) .init es = some s) :
    s.AtMostOnce ↔ AllSteps (tokenStep generateUUID) Alone .init es := by
  have hinit : TokenState.init.AtMostOnce := by simp [TokenState.AtMostOnce, TokenState.init]
  rw [final_iff_allSteps (fun _ _ _ => tokenInv_step huuid)
    (fun _ _ _ => atMostOnce_step huuid) hrun tokenInv_init]
  exact and_iff_right hinit

/-- Random identifiers that differ in their last twelve digits. -/
def someUUID (i : ℕ) : String := "3b241101-e2bb-4255-8caf-" ++ (413600000000 + i).repr

lemma someUUID_injective : Function.Injective someUUID := by
  intro i j hij
  have := Nat.repr_injective ((String.append_right_inj _).1 hij)
  omega

/-- The second of two calls comes after the `DEL` of the first. -/
theorem atMostOnce_sequential :
    ∃ s, run (tokenStep someUUID) .init [.insertToken 7, .checkToken ⟨7, someUUID 0⟩,
        .removeToken ⟨7, someUUID 0⟩, .checkToken ⟨7, someUUID 0⟩] = some s ∧ s.AtMostOnce := by
  obtain ⟨s, hrun⟩ : ∃ s, run (tokenStep someUUID) .init [.insertToken 7,
      .checkToken ⟨7, someUUID 0⟩, .removeToken ⟨7, someUUID 0⟩,
      .checkToken ⟨7, someUUID 0⟩] = some s := by
    simp [run, tokenStep, TokenState.init]
  refine ⟨s, hrun, (atMostOnce_iff someUUID_injective hrun).2 ?_⟩
  simp [AllSteps, Alone, tokenStep, TokenState.init]

/-- Both calls find the token before either removes it. -/
theorem not_atMostOnce_concurrent :
    ¬ ∀ es s, run (tokenStep someUUID) .init es = some s → s.AtMostOnce := by
  intro h
  have hrun : run (tokenStep someUUID) .init [.insertToken 7, .checkToken ⟨7, someUUID 0⟩,
      .checkToken ⟨7, someUUID 0⟩] = some
        ⟨Function.update (fun _ => none) (tokenKey 7) (some (someUUID 0)), [someUUID 0],
          [⟨7, someUUID 0⟩, ⟨7, someUUID 0⟩],
          [(⟨7, someUUID 0⟩, .success), (⟨7, someUUID 0⟩, .success)]⟩ := by
    simp [run, tokenStep, TokenState.init]
  have htwice := h _ _ hrun (someUUID 0) (List.mem_singleton_self _)
  simp [TokenState.accepted] at htwice

end StatusServiceImpl

end WeChat
