/-
# Tokens while Redis fails

`insertToken` and `removeToken` ignore what becomes of their commands, and `checkToken` takes a
`GET` that fails for a missing key.  So `GetChatServer` hands out its token even when the `SET` has
failed, and `CheckToken` answers with success even when the `DEL` has failed.  Then the token is
still there, and can be accepted once more for each such failure.
-/
import WeChat.Status.TokenHistory

namespace WeChat

namespace StatusServiceImpl

open Transition

/-- The Redis commands of the calls, with what becomes of them, and the end of the life of a
key. -/
inductive CommandEvent
  | insertToken (uid : ℤ) (ok : Bool)
  | checkToken (request : CheckTokenReq) (ok : Bool)
  | removeToken (request : CheckTokenReq) (ok : Bool)
  | expire (uid : ℤ)

section Service

variable (generateUUID : ℕ → String)

/-- One command, executed or failed. -/
def commandStep (s : TokenState) : CommandEvent → Option TokenState
  | .insertToken uid true => tokenStep generateUUID s (.insertToken uid)
  | .insertToken _ false => some { s with issued := s.issued ++ [generateUUID s.issued.length] }
  | .checkToken request true => tokenStep generateUUID s (.checkToken request)
  | .checkToken request false => some { s with answers := s.answers ++ [(request, .tokenInvalid)] }
  | .removeToken request true => tokenStep generateUUID s (.removeToken request)
  | .removeToken request false =>
    if request ∈ s.removing then some { s with removing := s.removing.erase request } else none
  | .expire uid => tokenStep generateUUID s (.expire uid)

/-- The command is a `DEL` of this token that fails. -/
def keepsToken (token : String) : CommandEvent → Bool
  | .removeToken request false => request.token = token
  | _ => false

/-- A `GET` that is executed meets the condition of `Alone`. -/
def AloneCommand (s : TokenState) : CommandEvent → Prop
  | .checkToken request true => Alone s (.checkToken request)
  | _ => True

/-- What the commands keep true about the stored tokens. -/
structure CommandInv (s : TokenState) : Prop where
  issued_eq : ∀ token ∈ s.issued, ∃ i < s.issued.length, generateUUID i = token
  stored : ∀ {key token}, s.redis key = some token → token ∈ s.issued
  /-- A token is stored under one key only. -/
  key_unique : ∀ {key key' token}, s.redis key = some token → s.redis key' = some token →
    key = key'
  accepted_issued : ∀ {token}, 0 < s.accepted token → token ∈ s.issued
  removing_issued : ∀ r ∈ s.removing, r.token ∈ s.issued
  /-- A token that is about to be removed is stored under the key of its call only. -/
  removing_key : ∀ r ∈ s.removing, ∀ {key}, s.redis key = some r.token → key = tokenKey r.uid

/-- The commands with their guards and what they change. -/
inductive CommandEffect (s : TokenState) : CommandEvent → TokenState → Prop
  | insert (uid : ℤ) : CommandEffect s (.insertToken uid true) { s with
      redis := Function.update s.redis (tokenKey uid) (some (generateUUID s.issued.length))
      issued := s.issued ++ [generateUUID s.issued.length] }
  | lose (uid : ℤ) : CommandEffect s (.insertToken uid false)
      { s with issued := s.issued ++ [generateUUID s.issued.length] }
  | accept {request : CheckTokenReq}
      (hkey : s.redis (tokenKey request.uid) = some request.token) :
      CommandEffect s (.checkToken request true) { s with
        removing := request :: s.removing
        answers := s.answers ++ [(request, .success)] }
  | reject {request : CheckTokenReq} {ok : Bool}
      (hkey : ok = true → s.redis (tokenKey request.uid) ≠ some request.token) :
      CommandEffect s (.checkToken request ok)
        { s with answers := s.answers ++ [(request, .tokenInvalid)] }
  | remove {request : CheckTokenReq} (hmem : request ∈ s.removing) :
      CommandEffect s (.removeToken request true) { s with
        redis := Function.update s.redis (tokenKey request.uid) none
        removing := s.removing.erase request }
  | keep {request : CheckTokenReq} (hmem : request ∈ s.removing) :
      CommandEffect s (.removeToken request false)
        { s with removing := s.removing.erase request }
  | expire (uid : ℤ) : CommandEffect s (.expire uid)
      { s with redis := Function.update s.redis (tokenKey uid) none }

variable {generateUUID} {s s' : TokenState} {e : CommandEvent}

lemma effect_of_commandStep (h : commandStep generateUUID s e = some s') :
    CommandEffect generateUUID s e s' := by
  cases e with
  | insertToken uid ok =>
    cases ok with
    | true => exact Option.some.inj h ▸ .insert uid
    | false => exact Option.some.inj h ▸ .lose uid
  | checkToken request ok =>
    cases ok with
    | true =>
      simp only [commandStep, tokenStep] at h
      split_ifs at h with hkey
      · exact Option.some.inj h ▸ .accept hkey
      · exact Option.some.inj h ▸ .reject fun _ => hkey
    | false => exact Option.some.inj h ▸ .reject fun hok => absurd hok Bool.false_ne_true
  | removeToken request ok =>
    cases ok with
    | true =>
      simp only [commandStep, tokenStep] at h
      split_ifs at h with hmem
      exact Option.some.inj h ▸ .remove hmem
    | false =>
      simp only [commandStep] at h
      split_ifs at h with hmem
      exact Option.some.inj h ▸ .keep hmem
  | expire uid => exact Option.some.inj h ▸ .expire uid

end Service

/-! ## The invariant -/

section Invariant

variable {generateUUID : ℕ → String} {s s' : TokenState} {e : CommandEvent}

lemma commandInv_init : CommandInv generateUUID .init := by
  constructor <;> simp [TokenState.init, TokenState.accepted]

/-- The next token has not been issued before. -/
lemma CommandInv.fresh (huuid : Function.Injective generateUUID) (h : CommandInv generateUUID s) :
    generateUUID s.issued.length ∉ s.issued := by
  intro hmem
  obtain ⟨i, hi, heq⟩ := h.issued_eq _ hmem
  exact absurd (huuid heq) hi.ne

/-- One more token is issued, and is not stored. -/
lemma CommandInv.issue (h : CommandInv generateUUID s) :
    CommandInv generateUUID
      { s with issued := s.issued ++ [generateUUID s.issued.length] } where
  issued_eq token htoken := by
    rw [List.length_append, List.length_singleton]
    rcases List.mem_append.1 htoken with htoken | htoken
    · obtain ⟨i, hi, heq⟩ := h.issued_eq token htoken
      exact ⟨i, hi.trans (Nat.lt_succ_self _), heq⟩
    · exact ⟨s.issued.length, Nat.lt_succ_self _, (List.mem_singleton.1 htoken).symm⟩
  stored hkey := List.mem_append_left _ (h.stored hkey)
  key_unique := h.key_unique
  accepted_issued hacc := List.mem_append_left _ (h.accepted_issued hacc)
  removing_issued r hr := List.mem_append_left _ (h.removing_issued r hr)
  removing_key := h.removing_key

/-- A key is deleted, or calls have sent their `DEL`. -/
lemma CommandInv.forget (h : CommandInv generateUUID s) {redis : String → Option String}
    {removing : List CheckTokenReq}
    (hredis : ∀ {key token}, redis key = some token → s.redis key = some token)
    (hremoving : ∀ r ∈ removing, r ∈ s.removing) :
    CommandInv generateUUID { s with redis := redis, removing := removing } where
  issued_eq := h.issued_eq
  stored hkey := h.stored (hredis hkey)
  key_unique hkey hkey' := h.key_unique (hredis hkey) (hredis hkey')
  accepted_issued := h.accepted_issued
  removing_issued r hr := h.removing_issued r (hremoving r hr)
  removing_key r hr _ hkey := h.removing_key r (hremoving r hr) (hredis hkey)

/-- What an updated key and the others hold. -/
lemma redis_cases {redis : String → Option String} {key key' token : String}
    {value : Option String} (h : Function.update redis key' value key = some token) :
    (key = key' ∧ value = some token) ∨ (key ≠ key' ∧ redis key = some token) := by
  by_cases heq : key = key'
  · subst heq
    exact .inl ⟨rfl, by rwa [Function.update_self] at h⟩
  · exact .inr ⟨heq, by rwa [Function.update_of_ne heq] at h⟩

/-- A key that is deleted holds nothing any more. -/
lemma redis_of_delete {redis : String → Option String} {key key' token : String}
    (h : Function.update redis key' none key = some token) :
    key ≠ key' ∧ redis key = some token :=
  (redis_cases h).resolve_left fun hnone => Option.some_ne_none _ hnone.2.symm

lemma CommandInv.insert (huuid : Function.Injective generateUUID) (h : CommandInv generateUUID s)
    (uid : ℤ) :
    CommandInv generateUUID { s with
      redis := Function.update s.redis (tokenKey uid) (some (generateUUID s.issued.length))
      issued := s.issued ++ [generateUUID s.issued.length] } := by
  have hfresh := h.fresh huuid
  refine ⟨h.issue.issued_eq, ?_, ?_, h.issue.accepted_issued, h.issue.removing_issued, ?_⟩
  · intro key token hkey
    rcases redis_cases hkey with ⟨-, hnew⟩ | ⟨-, hold⟩
    · exact List.mem_append_right _ (List.mem_singleton.2 (Option.some.inj hnew).symm)
    · exact List.mem_append_left _ (h.stored hold)
  · -- the new token is under no other key, for it has not been issued before
    intro key key' token hkey hkey'
    rcases redis_cases hkey with ⟨rfl, hnew⟩ | ⟨-, hold⟩ <;>
      rcases redis_cases hkey' with ⟨rfl, hnew'⟩ | ⟨-, hold'⟩
    · rfl
    · exact absurd (Option.some.inj hnew ▸ h.stored hold') hfresh
    · exact absurd (Option.some.inj hnew' ▸ h.stored hold) hfresh
    · exact h.key_unique hold hold'
  · intro r hr key hkey
    rcases redis_cases hkey with ⟨-, hnew⟩ | ⟨-, hold⟩
    · exact absurd (Option.some.inj hnew ▸ h.removing_issued r hr) hfresh
    · exact h.removing_key r hr hold

lemma commandInv_step (huuid : Function.Injective generateUUID) (h : CommandInv generateUUID s)
    (hstep : commandStep generateUUID s e = some s') : CommandInv generateUUID s' := by
  cases effect_of_commandStep hstep with
  | insert uid => exact h.insert huuid uid
  | lose uid => exact h.issue
  | @accept request hkey =>
    refine ⟨h.issued_eq, h.stored, h.key_unique, ?_, ?_, ?_⟩
    · intro token hacc
      rw [accepted_success] at hacc
      by_cases heq : request.token = token
      · exact heq ▸ h.stored hkey
      · exact h.accepted_issued (by simpa [heq] using hacc)
    · exact List.forall_mem_cons.2 ⟨h.stored hkey, h.removing_issued⟩
    · intro r hr key hkey'
      rcases List.mem_cons.1 hr with rfl | hr
      · exact h.key_unique hkey' hkey
      · exact h.removing_key r hr hkey'
  | reject =>
    refine ⟨h.issued_eq, h.stored, h.key_unique, ?_, h.removing_issued, h.removing_key⟩
    intro token hacc
    exact h.accepted_issued (by rwa [accepted_tokenInvalid] at hacc)
  | remove hmem =>
    exact h.forget (fun hkey => (redis_of_delete hkey).2) fun r hr => List.mem_of_mem_erase hr
  | keep hmem => exact h.forget id fun r hr => List.mem_of_mem_erase hr
  | expire uid => exact h.forget (fun hkey => (redis_of_delete hkey).2) fun _ hr => hr

end Invariant

/-! ## How often a token is accepted -/

/-- The token is stored, and no call is about to remove it. -/
def Spare (s : TokenState) (token : String) : Prop :=
  (∃ key, s.redis key = some token) ∧ ∀ r ∈ s.removing, r.token ≠ token

open Classical in
/-- How often the token may still be accepted: once, while it is not issued or spare. -/
noncomputable def chances (s : TokenState) (token : String) : ℕ :=
  if token ∈ s.issued → Spare s token then 1 else 0

section Chances

variable {generateUUID : ℕ → String} {s s' : TokenState} {e : CommandEvent} {token : String}

lemma chances_le_one (s : TokenState) (token : String) : chances s token ≤ 1 := by
  rw [chances]
  split_ifs <;> decide

lemma chances_le (hissued : ∀ token ∈ s.issued, token ∈ s'.issued)
    (h : token ∈ s.issued → Spare s' token → Spare s token) :
    chances s' token ≤ chances s token := by
  by_cases hspare : token ∈ s.issued → Spare s token
  · rw [chances, chances, if_pos hspare]
    split_ifs <;> decide
  · push Not at hspare
    have hnone : ¬(token ∈ s'.issued → Spare s' token) := fun hs' =>
      hspare.2 (h hspare.1 (hs' (hissued token hspare.1)))
    rw [chances, if_neg hnone]
    exact Nat.zero_le _

/-- A call that is about to remove the token takes the last chance. -/
lemma chances_eq_zero (hissued : token ∈ s.issued) {r : CheckTokenReq} (hr : r ∈ s.removing)
    (heq : r.token = token) : chances s token = 0 :=
  if_neg fun hspare => (hspare hissued).2 r hr heq

/-- **A token is accepted once, and once more for each `DEL` that fails.**  A command takes a
chance for each acceptance, and only a `DEL` that fails gives one back. -/
lemma chances_step (huuid : Function.Injective generateUUID) (h : CommandInv generateUUID s)
    (halone : AloneCommand s e) (hstep : commandStep generateUUID s e = some s') :
    s'.accepted token + chances s' token ≤
      s.accepted token + chances s token + if keepsToken token e then 1 else 0 := by
  have hless : ∀ {t : TokenState} {n : ℕ}, t.accepted token = s.accepted token →
      chances t token ≤ chances s token →
        t.accepted token + chances t token ≤ s.accepted token + chances s token + n := by
    intro t n hacc hle
    rw [hacc]
    exact (Nat.add_le_add_left hle _).trans (Nat.le_add_right _ _)
  have hissued : ∀ token ∈ s.issued, token ∈ s.issued ++ [generateUUID s.issued.length] :=
    fun token htoken => List.mem_append_left _ htoken
  cases effect_of_commandStep hstep with
  | insert uid =>
    refine hless rfl (chances_le hissued ?_)
    rintro htoken ⟨⟨key, hkey⟩, hnone⟩
    rcases redis_cases hkey with ⟨-, hnew⟩ | ⟨-, hold⟩
    · exact absurd (Option.some.inj hnew ▸ htoken) (h.fresh huuid)
    · exact ⟨⟨key, hold⟩, hnone⟩
  | lose uid => exact hless rfl (chances_le hissued fun _ hspare => hspare)
  | @accept request hkey =>
    by_cases heq : request.token = token
    · -- the last chance is taken
      subst heq
      have hone : chances s request.token = 1 := if_pos fun _ => ⟨⟨_, hkey⟩, halone hkey⟩
      have hzero : chances { s with
          removing := request :: s.removing
          answers := s.answers ++ [(request, .success)] } request.token = 0 :=
        chances_eq_zero (h.stored hkey) List.mem_cons_self rfl
      rw [hone, hzero, accepted_success, if_pos rfl]
      exact Nat.le_add_right _ _
    · refine hless (by rw [accepted_success, if_neg heq, Nat.add_zero]) ?_
      refine chances_le (fun _ htoken => htoken) fun _ hspare => ⟨hspare.1, fun r hr => ?_⟩
      exact hspare.2 r (List.mem_cons_of_mem _ hr)
  | reject =>
    exact hless (accepted_tokenInvalid ..) (chances_le (fun _ htoken => htoken) fun _ hs => hs)
  | @remove request hmem =>
    refine hless rfl (chances_le (fun _ htoken => htoken) ?_)
    rintro - ⟨⟨key, hkey⟩, hnone⟩
    obtain ⟨hne, hold⟩ := redis_of_delete hkey
    refine ⟨⟨key, hold⟩, fun r hr heq => ?_⟩
    -- the token would be under the key that is deleted
    by_cases hr' : r = request
    · exact hne (hr' ▸ h.removing_key r hr (heq ▸ hold))
    · exact hnone r ((List.mem_erase_of_ne hr').2 hr) heq
  | @keep request hmem =>
    by_cases heq : request.token = token
    · rw [keepsToken, if_pos (decide_eq_true heq)]
      exact (Nat.add_le_add_left (chances_le_one _ token) _).trans
        (Nat.add_le_add_right (Nat.le_add_right _ _) 1)
    · refine hless rfl (chances_le (fun _ htoken => htoken) ?_)
      rintro - ⟨hstored, hnone⟩
      refine ⟨hstored, fun r hr htoken => hnone r ((List.mem_erase_of_ne ?_).2 hr) htoken⟩
      rintro rfl
      exact heq htoken
  | expire uid =>
    refine hless rfl (chances_le (fun _ htoken => htoken) ?_)
    rintro - ⟨⟨key, hkey⟩, hnone⟩
    exact ⟨⟨key, (redis_of_delete hkey).2⟩, hnone⟩

end Chances

end StatusServiceImpl

end WeChat
