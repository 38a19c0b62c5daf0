/-
# The life of a token

The Redis commands of `GetChatServer` and `CheckToken` with a record of what was done: a token
was returned, a check was started, a check was answered, a key was deleted or expired.  When
the calls come one after the other, a check succeeds exactly for the token that stands for its
user in the record.  When they interleave, the `DEL` of a check takes whatever token is stored
under the key of the user, also one that was stored after the check had compared.
-/
import WeChat.Lib.Register
import WeChat.Status.Token

namespace WeChat

namespace StatusServiceImpl

open Transition Register

/-- What the calls have done, in the order of their commands. -/
inductive Entry
  /-- `GetChatServer(uid)` has stored the token of its answer. -/
  | issued (uid : ℤ) (token : String)
  /-- A call of `CheckToken` has arrived. -/
  | started (request : CheckTokenReq)
  /-- A call of `CheckToken` has compared, and its answer is fixed. -/
  | checked (request : CheckTokenReq) (error : ErrorCodes)
  /-- A call of `CheckToken` has deleted the key. -/
  | removed (request : CheckTokenReq)
  /-- The key of the user has expired. -/
  | expired (uid : ℤ)
deriving DecidableEq

/-- The user that an entry is about. -/
def Entry.uid : Entry → ℤ
  | issued uid _ => uid
  | started request => request.uid
  | checked request _ => request.uid
  | removed request => request.uid
  | expired uid => uid

/-- The token that an entry returns. -/
def Entry.token : Entry → Option String
  | issued _ token => some token
  | _ => none

/-- The service with its calls. -/
structure Calls where
  store : TokenState
  /-- The calls of `CheckToken` whose `GET` is still to come. -/
  pending : List CheckTokenReq
  history : List Entry

/-- A call of `CheckToken` arrives, or a command of a call is executed. -/
inductive CallEvent
  | start (request : CheckTokenReq)
  | command (e : TokenEvent)

/-- No call, and no token. -/
def Calls.init : Calls := ⟨.init, [], []⟩

/-- The calls whose `GET` is still to come after a command; a `GET` is that of one of them. -/
def Calls.pendingAfter (s : Calls) : TokenEvent → Option (List CheckTokenReq)
  | .checkToken request =>
    if request ∈ s.pending then some (s.pending.erase request) else none
  | _ => some s.pending

section Calls

variable (generateUUID : ℕ → String)

/-- What a command does. -/
def Calls.entry (s : Calls) : TokenEvent → Entry
  | .insertToken uid => .issued uid (generateUUID s.store.issued.length)
  | .checkToken request =>
    .checked request
      (if s.store.redis (tokenKey request.uid) = some request.token then .success
        else .tokenInvalid)
  | .removeToken request => .removed request
  | .expire uid => .expired uid

/-- One event. -/
def callStep (s : Calls) : CallEvent → Option Calls
  | .start request =>
    some { s with
      pending := request :: s.pending
      history := s.history ++ [.started request] }
  | .command e =>
    match s.pendingAfter e, tokenStep generateUUID s.store e with
    | some pending, some store => some ⟨store, pending, s.history ++ [s.entry generateUUID e]⟩
    | _, _ => none

end Calls

/-- The calls come one after the other: none begins before the commands of the earlier ones
have all been executed.  Keys may expire at any time. -/
def Calls.Sequential (s : Calls) : CallEvent → Prop
  | .start _ | .command (.insertToken _) => s.pending = [] ∧ s.store.removing = []
  | _ => True

/-- The token is the one that the most recent `GetChatServer` of the user returned, its key has
not expired since, and no check of it has succeeded. -/
def Standing (h : List Entry) (uid : ℤ) (token : String) : Prop :=
  (∃ h₁ h₂, h = h₁ ++ .issued uid token :: h₂ ∧
    ∀ e ∈ h₂, (∀ token', e ≠ .issued uid token') ∧ e ≠ .expired uid) ∧
  ∀ uid', .checked ⟨uid', token⟩ .success ∉ h

/-- What an entry does to the token of a user when it is seen from the calls. -/
def tokenEffect (uid : ℤ) : Entry → Option (Option String)
  | .issued uid' token => if uid' = uid then some (some token) else none
  | .checked request .success => if request.uid = uid then some none else none
  | .expired uid' => if uid' = uid then some none else none
  | _ => none

/-- The same, without the checks. -/
def issueEffect (uid : ℤ) : Entry → Option (Option String)
  | .issued uid' token => if uid' = uid then some (some token) else none
  | .expired uid' => if uid' = uid then some none else none
  | _ => none

/-- A token that was returned last, has not expired, and for which no check has been started, is
stored under the key of its user. -/
def Calls.KeepsUnchecked (s : Calls) : Prop :=
  ∀ uid token h₁ h₂, s.history = h₁ ++ .issued uid token :: h₂ →
    (∀ e ∈ h₂, (∀ token', e ≠ .issued uid token') ∧ e ≠ .expired uid) →
    .started ⟨uid, token⟩ ∉ s.history → s.store.redis (tokenKey uid) = some token

/-- A call of `CheckToken` that deletes a key finds nothing there, or a token for which a check
has been started. -/
def Calls.RemovesChecked (s : Calls) : CallEvent → Prop
  | .command (.removeToken request) =>
    ∀ token, s.store.redis (tokenKey request.uid) = some token →
      .started ⟨request.uid, token⟩ ∈ s.history
  | _ => True

/-! ## What an event does -/

section Effect

variable (generateUUID : ℕ → String)

/-- The events with their guards and the states that they lead to. -/
inductive CallEffect (s : Calls) : CallEvent → Calls → Prop
  | start (request) :
    CallEffect s (.start request)
      ⟨s.store, request :: s.pending, s.history ++ [.started request]⟩
  | insertToken (uid) :
    CallEffect s (.command (.insertToken uid))
      ⟨⟨Function.update s.store.redis (tokenKey uid)
            (some (generateUUID s.store.issued.length)),
          s.store.issued ++ [generateUUID s.store.issued.length], s.store.removing,
          s.store.answers⟩,
        s.pending, s.history ++ [.issued uid (generateUUID s.store.issued.length)]⟩
  | accept (request) (hpending : request ∈ s.pending)
      (hkey : s.store.redis (tokenKey request.uid) = some request.token) :
    CallEffect s (.command (.checkToken request))
      ⟨⟨s.store.redis, s.store.issued, request :: s.store.removing,
          s.store.answers ++ [(request, .success)]⟩,
        s.pending.erase request, s.history ++ [.checked request .success]⟩
  | reject (request) (hpending : request ∈ s.pending)
      (hkey : s.store.redis (tokenKey request.uid) ≠ some request.token) :
    CallEffect s (.command (.checkToken request))
      ⟨⟨s.store.redis, s.store.issued, s.store.removing,
          s.store.answers ++ [(request, .tokenInvalid)]⟩,
        s.pending.erase request, s.history ++ [.checked request .tokenInvalid]⟩
  | removeToken (request) (hmem : request ∈ s.store.removing) :
    CallEffect s (.command (.removeToken request))
      ⟨⟨Function.update s.store.redis (tokenKey request.uid) none, s.store.issued,
          s.store.removing.erase request, s.store.answers⟩,
        s.pending, s.history ++ [.removed request]⟩
  | expire (uid) :
    CallEffect s (.command (.expire uid))
      ⟨⟨Function.update s.store.redis (tokenKey uid) none, s.store.issued, s.store.removing,
          s.store.answers⟩,
        s.pending, s.history ++ [.expired uid]⟩

variable {generateUUID} {s s' : Calls} {e : CallEvent}

lemma effect_of_callStep (h : callStep generateUUID s e = some s') :
    CallEffect generateUUID s e s' := by
  cases e with
  | start request =>
    obtain rfl := Option.some.inj h
    exact .start request
  | command e =>
    cases e with
    | insertToken uid =>
      obtain rfl := Option.some.inj h
      exact .insertToken uid
    | checkToken request =>
      by_cases hpending : request ∈ s.pending
      · by_cases hkey : s.store.redis (tokenKey request.uid) = some request.token
        · simp only [callStep, Calls.pendingAfter, if_pos hpending, tokenStep, if_pos hkey,
            Calls.entry, Option.some.injEq] at h
          exact h ▸ .accept request hpending hkey
        · simp only [callStep, Calls.pendingAfter, if_pos hpending, tokenStep, if_neg hkey,
            Calls.entry, Option.some.injEq] at h
          exact h ▸ .reject request hpending hkey
      · simp [callStep, Calls.pendingAfter, hpending] at h
    | removeToken request =>
      by_cases hmem : request ∈ s.store.removing
      · simp only [callStep, Calls.pendingAfter, tokenStep, if_pos hmem, Calls.entry,
          Option.some.injEq] at h
        exact h ▸ .removeToken request hmem
      · simp [callStep, tokenStep, hmem] at h
    | expire uid =>
      obtain rfl := Option.some.inj h
      exact .expire uid

lemma tokenKey_injective : Function.Injective tokenKey := by
  intro uid uid' h
  have hrepr : uid.repr = uid'.repr := (String.append_right_inj _).1 h
  exact Option.some.inj (by rw [← Int.toInt?_repr, hrepr, Int.toInt?_repr])

/-- What the key of a user holds after the key of a user was written or deleted. -/
lemma redis_update {redis : String → Option String} {value : Option String} (uid uid' : ℤ) :
    Function.update redis (tokenKey uid') value (tokenKey uid) =
      if uid' = uid then value else redis (tokenKey uid) := by
  by_cases heq : uid' = uid
  · rw [if_pos heq, heq, Function.update_self]
  · rw [if_neg heq, Function.update_of_ne fun hkey => heq (tokenKey_injective hkey).symm]

end Effect

/-! ## Calls in sequence -/

section Sequential

variable {generateUUID : ℕ → String} {s s' : Calls} {e : CallEvent}

/-- Every check has succeeded exactly when its token was the one that is seen from the calls
before it. -/
def ChecksAgree (h : List Entry) : Prop :=
  ∀ h₁ request error h₂, h = h₁ ++ .checked request error :: h₂ →
    (error = .success ↔ latest (tokenEffect request.uid) h₁ = some request.token)

/-- Where the service stands between two commands of calls that come one after the other. -/
structure SequentialInv (s : Calls) : Prop where
  /-- The call in progress has its `GET` or its `DEL` still to come, not both. -/
  pending_removing : s.pending ≠ [] → s.store.removing = []
  pending_single : s.pending.length ≤ 1
  /-- The key of a user holds the token that is seen from the calls, unless a call is about to
  delete it. -/
  stored : ∀ uid, (∀ r ∈ s.store.removing, r.uid ≠ uid) →
    s.store.redis (tokenKey uid) = latest (tokenEffect uid) s.history
  removing : ∀ r ∈ s.store.removing, latest (tokenEffect r.uid) s.history = none
  checked : ChecksAgree s.history

lemma sequentialInv_init : SequentialInv .init := by
  constructor <;> simp [Calls.init, TokenState.init, ChecksAgree]

lemma ChecksAgree.concat {h : List Entry} {e : Entry} (hold : ChecksAgree h)
    (hnew : ∀ request error, e = .checked request error →
      (error = .success ↔ latest (tokenEffect request.uid) h = some request.token)) :
    ChecksAgree (h ++ [e]) := by
  intro h₁ request error h₂ heq
  rcases split_concat heq with ⟨rfl, he, -⟩ | ⟨h₂', -, heq'⟩
  · exact hnew request error he
  · exact hold h₁ request error h₂' heq'

lemma ChecksAgree.of_append {h h' : List Entry} (hagree : ChecksAgree (h ++ h')) :
    ChecksAgree h := by
  rintro h₁ request error h₂ rfl
  exact hagree h₁ request error (h₂ ++ h') (by simp)

lemma erase_eq_nil {l : List CheckTokenReq} {request : CheckTokenReq} (hlen : l.length ≤ 1)
    (hmem : request ∈ l) : l.erase request = [] := by
  refine List.eq_nil_of_length_eq_zero ?_
  rw [List.length_erase_of_mem hmem]
  omega

/-- No `DEL` is to come. -/
lemma SequentialInv.stored_all (h : SequentialInv s) (hremoving : s.store.removing = [])
    (uid : ℤ) : s.store.redis (tokenKey uid) = latest (tokenEffect uid) s.history := by
  refine h.stored uid fun r hr => ?_
  rw [hremoving] at hr
  exact absurd hr List.not_mem_nil

/-- A command that writes or deletes the key of a user, with an entry that says so. -/
lemma update_eq_latest {redis : String → Option String} {value : Option String} {h : List Entry}
    {entry : Entry} {uid uid' : ℤ}
    (hentry : tokenEffect uid entry = if uid' = uid then some value else none)
    (hold : redis (tokenKey uid) = latest (tokenEffect uid) h) :
    Function.update redis (tokenKey uid') value (tokenKey uid) =
      latest (tokenEffect uid) (h ++ [entry]) := by
  rw [redis_update, latest_concat, hentry]
  split_ifs
  · rfl
  · exact hold

lemma sequentialInv_step (h : SequentialInv s) (hseq : s.Sequential e)
    (hstep : callStep generateUUID s e = some s') : SequentialInv s' := by
  cases effect_of_callStep hstep with
  | start request =>
    obtain ⟨hpending, hremoving⟩ := hseq
    refine ⟨fun _ => hremoving, by simp [hpending], fun uid hother => ?_, fun r hr => ?_,
      h.checked.concat fun _ _ he => nomatch he⟩
    · rw [latest_concat_of_none rfl]
      exact h.stored uid hother
    · rw [latest_concat_of_none rfl]
      exact h.removing r hr
  | insertToken uid₀ =>
    obtain ⟨hpending, hremoving⟩ := hseq
    refine ⟨fun _ => hremoving, h.pending_single, fun uid hother => ?_, fun r hr => ?_,
      h.checked.concat fun _ _ he => nomatch he⟩
    · exact update_eq_latest rfl (h.stored uid hother)
    · -- no call has a `DEL` to come
      have hr' : r ∈ s.store.removing := hr
      rw [hremoving] at hr'
      exact absurd hr' List.not_mem_nil
  | accept request hpending hkey =>
    have hremoving := h.pending_removing (List.ne_nil_of_mem hpending)
    have herase := erase_eq_nil h.pending_single hpending
    refine ⟨fun hne => absurd herase hne, by simp [herase], fun uid hother => ?_, fun r hr => ?_,
      h.checked.concat fun request' error he => ?_⟩
    · have hne := hother request List.mem_cons_self
      rw [latest_concat_of_none (by rw [tokenEffect, if_neg hne])]
      exact h.stored_all hremoving uid
    · rw [hremoving] at hr
      obtain rfl := List.mem_singleton.1 hr
      rw [latest_concat, tokenEffect, if_pos rfl, Option.getD_some]
    · obtain ⟨rfl, rfl⟩ := Entry.checked.inj he
      rw [← h.stored_all hremoving]
      exact iff_of_true rfl hkey
  | reject request hpending hkey =>
    have hremoving := h.pending_removing (List.ne_nil_of_mem hpending)
    have herase := erase_eq_nil h.pending_single hpending
    refine ⟨fun hne => absurd herase hne, by simp [herase], fun uid hother => ?_, fun r hr => ?_,
      h.checked.concat fun request' error he => ?_⟩
    · rw [latest_concat_of_none rfl]
      exact h.stored uid hother
    · rw [latest_concat_of_none rfl]
      exact h.removing r hr
    · obtain ⟨rfl, rfl⟩ := Entry.checked.inj he
      refine iff_of_false (fun herror => nomatch herror) fun hlatest => hkey ?_
      rw [← hlatest]
      exact h.stored_all hremoving request.uid
  | removeToken request hmem =>
    refine ⟨fun hne => ?_, h.pending_single, fun uid hother => ?_, fun r hr => ?_,
      h.checked.concat fun _ _ he => nomatch he⟩
    · have hremoving := h.pending_removing hne
      rw [hremoving] at hmem
      exact absurd hmem List.not_mem_nil
    · refine (redis_update uid request.uid).trans ?_
      rw [latest_concat_of_none rfl]
      split_ifs with huid
      · exact huid ▸ (h.removing request hmem).symm
      · -- the calls that still have their `DEL` to come are those before, but this one
        refine h.stored uid fun r hr heq => ?_
        refine hother r ((List.mem_erase_of_ne ?_).2 hr) heq
        rintro rfl
        exact huid heq
    · rw [latest_concat_of_none rfl]
      exact h.removing r (List.mem_of_mem_erase hr)
  | expire uid₀ =>
    refine ⟨h.pending_removing, h.pending_single, fun uid hother => ?_, fun r hr => ?_,
      h.checked.concat fun _ _ he => nomatch he⟩
    · exact update_eq_latest rfl (h.stored uid hother)
    · rw [latest_concat, tokenEffect, h.removing r hr]
      split_ifs <;> rfl

/-- What every step keeps true of the returned tokens. -/
structure TokensInv (generateUUID : ℕ → String) (s : Calls) : Prop where
  issued_eq : s.store.issued = (List.range s.store.issued.length).map generateUUID
  tokens : s.history.filterMap Entry.token = s.store.issued

lemma tokensInv_step (h : TokensInv generateUUID s)
    (hstep : callStep generateUUID s e = some s') : TokensInv generateUUID s' := by
  have hkeep : ∀ {e : Entry}, e.token = none →
      (s.history ++ [e]).filterMap Entry.token = s.store.issued := by
    intro e he
    rw [List.filterMap_append, h.tokens, List.filterMap_cons_none he]
    exact List.append_nil _
  cases effect_of_callStep hstep with
  | insertToken uid =>
    refine ⟨?_, ?_⟩
    · rw [List.length_append, List.length_singleton, List.range_succ, List.map_append,
        ← h.issued_eq]
      rfl
    · rw [List.filterMap_append, h.tokens]
      rfl
  | start | accept | reject | removeToken | expire => exact ⟨h.issued_eq, hkeep rfl⟩

lemma nodup_tokens (huuid : Function.Injective generateUUID) (h : TokensInv generateUUID s) :
    (s.history.filterMap Entry.token).Nodup := by
  rw [h.tokens, h.issued_eq]
  exact List.nodup_range.map huuid

lemma tokenEffect_write {uid : ℤ} {token : String} {e : Entry} :
    tokenEffect uid e = some (some token) ↔ e = .issued uid token := by
  rcases e with ⟨uid', token'⟩ | request | ⟨request, error⟩ | request | uid'
  · by_cases huid : uid' = uid <;> simp [tokenEffect, huid]
  · simp [tokenEffect]
  · cases error <;> simp [tokenEffect]
  · simp [tokenEffect]
  · simp [tokenEffect]

lemma tokenEffect_none {uid : ℤ} {e : Entry} :
    tokenEffect uid e = none ↔ ((∀ token, e ≠ .issued uid token) ∧ e ≠ .expired uid) ∧
      ∀ token, e ≠ .checked ⟨uid, token⟩ .success := by
  rcases e with ⟨uid', token'⟩ | request | ⟨⟨uid', token'⟩, error⟩ | request | uid'
  · by_cases huid : uid' = uid <;> simp [tokenEffect, huid]
  · simp [tokenEffect]
  · cases error <;> simp [tokenEffect]
  · simp [tokenEffect]
  · by_cases huid : uid' = uid <;> simp [tokenEffect, huid]

/-- The token that is seen from the calls is the one that stands. -/
lemma latest_iff_standing {h : List Entry} {uid : ℤ} {token : String}
    (hnodup : (h.filterMap Entry.token).Nodup)
    (hagree : ChecksAgree h) :
    latest (tokenEffect uid) h = some token ↔ Standing h uid token := by
  constructor
  · intro hlatest
    obtain ⟨h₁, e, h₂, heq, hwrite, hnone⟩ := latest_eq_some_iff.1 hlatest
    obtain rfl := tokenEffect_write.1 hwrite
    refine ⟨⟨h₁, h₂, heq, fun e he => (tokenEffect_none.1 (hnone e he)).1⟩, fun uid' hmem => ?_⟩
    -- the token was returned before it was checked, and it is returned once
    obtain ⟨a, b, hab⟩ := List.append_of_mem hmem
    obtain ⟨a₁, e, a₂, rfl, hwrite', -⟩ :=
      latest_eq_some_iff.1 ((hagree a _ _ b hab).1 rfl)
    obtain rfl := tokenEffect_write.1 hwrite'
    rw [List.append_assoc, List.cons_append] at hab
    obtain ⟨-, hsame, rfl⟩ := split_unique hnodup heq hab rfl rfl
    obtain ⟨rfl, -⟩ := Entry.issued.inj hsame
    have hcheck := hnone _ (List.mem_append_right _ List.mem_cons_self)
    exact (tokenEffect_none.1 hcheck).2 token rfl
  · rintro ⟨⟨h₁, h₂, rfl, hlast⟩, hunchecked⟩
    clear hnodup
    induction h₂ using List.reverseRecOn with
    | nil => rw [latest_concat, tokenEffect, if_pos rfl, Option.getD_some]
    | append_singleton h₂ e ih =>
      have hassoc : h₁ ++ Entry.issued uid token :: (h₂ ++ [e]) =
          h₁ ++ Entry.issued uid token :: h₂ ++ [e] := by simp
      rw [hassoc] at hagree hunchecked ⊢
      have hbefore := ih (fun e' he' => hlast e' (List.mem_append_left _ he')) hagree.of_append
        (fun uid' hmem => hunchecked uid' (List.mem_append_left _ hmem))
      rw [latest_concat_of_none ?_, hbefore]
      refine tokenEffect_none.2 ⟨hlast e (by simp), ?_⟩
      -- a check that succeeds here is one of this token
      rintro token' rfl
      have hnow := (hagree _ ⟨uid, token'⟩ .success [] rfl).1 rfl
      obtain rfl := Option.some.inj (hbefore.symm.trans hnow)
      exact hunchecked uid (List.mem_append_right _ (List.mem_singleton_self _))

lemma tokensInv_init : TokensInv generateUUID .init := ⟨rfl, rfl⟩

/-- The user of an entry that touches the token of a user is that user. -/
lemma tokenEffect_of_uid_ne {uid : ℤ} {e : Entry} (h : decide (e.uid = uid) = false) :
    tokenEffect uid e = none := by
  have hne : e.uid ≠ uid := of_decide_eq_false h
  refine tokenEffect_none.2 ⟨⟨?_, ?_⟩, ?_⟩
  · rintro token rfl
    exact hne rfl
  · rintro rfl
    exact hne rfl
  · rintro token rfl
    exact hne rfl

lemma sequentialInv_run {es : List CallEvent} (hrun : run (callStep generateUUID) .init es = some s)
    (hseq : AllSteps (callStep generateUUID) Calls.Sequential .init es) : SequentialInv s :=
  run_induction (fun _ _ _ h hok hstep => sequentialInv_step h hok hstep) hrun hseq
    sequentialInv_init

end Sequential

/-- **In every run of calls that come one after the other, a check succeeds exactly for the
token that stands for its user**; and in two runs in which the same was done for a user, the
next check of a token of the user has the same answer, whatever was done for the others. -/
theorem success_iff_standing {generateUUID : ℕ → String}
    (huuid : Function.Injective generateUUID) {es : List CallEvent} {s : Calls}
    (hrun : run (callStep generateUUID) .init es = some s)
    (hseq : AllSteps (callStep generateUUID) Calls.Sequential .init es) {h₁ h₂ : List Entry}
    {request : CheckTokenReq} {error : ErrorCodes}
    (hcheck : s.history = h₁ ++ .checked request error :: h₂) :
    (error = .success ↔ Standing h₁ request.uid request.token) ∧
      ∀ (generateUUID' : ℕ → String) (es' : List CallEvent) (s' : Calls) (h₁' h₂' : List Entry)
        (error' : ErrorCodes), run (callStep generateUUID') .init es' = some s' →
        AllSteps (callStep generateUUID') Calls.Sequential .init es' →
        s'.history = h₁' ++ .checked request error' :: h₂' →
        h₁'.filter (fun e => e.uid = request.uid) = h₁.filter (fun e => e.uid = request.uid) →
        (error' = .success ↔ error = .success) := by
  have hagree := (sequentialInv_run hrun hseq).checked
  have hlatest := hagree h₁ request error h₂ hcheck
  constructor
  · have hnodup : (h₁.filterMap Entry.token).Nodup := by
      have hall := nodup_tokens huuid
        (run_invariant (fun _ _ _ => tokensInv_step) hrun tokensInv_init)
      rw [hcheck, List.filterMap_append] at hall
      exact (List.nodup_append.1 hall).1
    rw [hcheck] at hagree
    exact hlatest.trans (latest_iff_standing hnodup hagree.of_append)
  · intro generateUUID' es' s' h₁' h₂' error' hrun' hseq' hcheck' hsame
    have hlatest' := (sequentialInv_run hrun' hseq').checked h₁' request error' h₂' hcheck'
    rw [hlatest', hlatest, ← latest_filter fun _ => tokenEffect_of_uid_ne, hsame,
      latest_filter fun _ => tokenEffect_of_uid_ne]

/-- User 7 logs in, and its token is checked. -/
def loggedIn : List CallEvent :=
  [.command (.insertToken 7), .start ⟨7, someUUID 0⟩, .command (.checkToken ⟨7, someUUID 0⟩),
    .command (.removeToken ⟨7, someUUID 0⟩)]

/-- The check finds the token. -/
theorem standing_loggedIn : Standing [.issued 7 (someUUID 0), .started ⟨7, someUUID 0⟩] 7
    (someUUID 0) := by
  obtain ⟨s, hrun, hhistory⟩ : ∃ s, run (callStep someUUID) .init loggedIn = some s ∧
      s.history = [.issued 7 (someUUID 0), .started ⟨7, someUUID 0⟩] ++
        .checked ⟨7, someUUID 0⟩ .success :: [.removed ⟨7, someUUID 0⟩] := by
    simp [loggedIn, run, callStep, tokenStep, Calls.pendingAfter, Calls.entry, Calls.init,
      TokenState.init]
  have hseq : AllSteps (callStep someUUID) Calls.Sequential .init loggedIn := by
    simp [loggedIn, AllSteps, Calls.Sequential, callStep, tokenStep, Calls.pendingAfter,
      Calls.entry, Calls.init, TokenState.init]
  exact (success_iff_standing someUUID_injective hrun hseq hhistory).1.1 rfl

/-! ## Calls that interleave -/

section Interleaved

variable {generateUUID : ℕ → String} {s s' : Calls} {e : CallEvent}

lemma issueEffect_write {uid : ℤ} {token : String} {e : Entry} :
    issueEffect uid e = some (some token) ↔ e = .issued uid token := by
  rcases e with ⟨uid', token'⟩ | request | ⟨request, error⟩ | request | uid'
  · by_cases huid : uid' = uid <;> simp [issueEffect, huid]
  all_goals simp [issueEffect]

lemma issueEffect_none {uid : ℤ} {e : Entry} :
    issueEffect uid e = none ↔ (∀ token, e ≠ .issued uid token) ∧ e ≠ .expired uid := by
  rcases e with ⟨uid', token'⟩ | request | ⟨request, error⟩ | request | uid'
  · by_cases huid : uid' = uid <;> simp [issueEffect, huid]
  · simp [issueEffect]
  · simp [issueEffect]
  · simp [issueEffect]
  · by_cases huid : uid' = uid <;> simp [issueEffect, huid]

/-- The token that was returned last and has not expired is in the register of issues. -/
lemma keepsUnchecked_iff : s.KeepsUnchecked ↔ ∀ uid token,
    latest (issueEffect uid) s.history = some token → .started ⟨uid, token⟩ ∉ s.history →
      s.store.redis (tokenKey uid) = some token := by
  constructor
  · intro h uid token hlatest hunstarted
    obtain ⟨h₁, e, h₂, heq, hwrite, hnone⟩ := latest_eq_some_iff.1 hlatest
    obtain rfl := issueEffect_write.1 hwrite
    exact h uid token h₁ h₂ heq (fun e he => issueEffect_none.1 (hnone e he)) hunstarted
  · intro h uid token h₁ h₂ heq hlast hunstarted
    refine h uid token (latest_eq_some_iff.2 ⟨h₁, _, h₂, heq, issueEffect_write.2 rfl, ?_⟩)
      hunstarted
    exact fun e he => issueEffect_none.2 (hlast e he)

/-- A stored token is the one that was returned last. -/
def StoredIsLatest (s : Calls) : Prop :=
  ∀ uid token, s.store.redis (tokenKey uid) = some token →
    latest (issueEffect uid) s.history = some token

lemma storedIsLatest_step (h : StoredIsLatest s) (hstep : callStep generateUUID s e = some s') :
    StoredIsLatest s' := by
  intro uid token hkey
  cases effect_of_callStep hstep with
  | start | accept | reject =>
    rw [latest_concat_of_none rfl]
    exact h uid token hkey
  | insertToken uid₀ =>
    have hkey' := (redis_update uid uid₀).symm.trans hkey
    rw [latest_concat, issueEffect]
    split_ifs at hkey' ⊢
    · exact hkey'
    · exact h uid token hkey'
  | removeToken request =>
    have hkey' := (redis_update uid request.uid).symm.trans hkey
    rw [latest_concat_of_none rfl]
    split_ifs at hkey'
    exact h uid token hkey'
  | expire uid₀ =>
    have hkey' := (redis_update uid uid₀).symm.trans hkey
    rw [latest_concat, issueEffect]
    split_ifs at hkey' ⊢
    exact h uid token hkey'

/-- After a command that meets its condition, and after no other, the unchecked tokens are
stored. -/
lemma keepsUnchecked_step_iff (hinv : StoredIsLatest s) (h : s.KeepsUnchecked)
    (hstep : callStep generateUUID s e = some s') : s'.KeepsUnchecked ↔ s.RemovesChecked e := by
  rw [keepsUnchecked_iff] at h ⊢
  -- a token whose check has not been started after an entry had none started before it
  have hbefore : ∀ {uid token} {e : Entry}, .started ⟨uid, token⟩ ∉ s.history ++ [e] →
      .started ⟨uid, token⟩ ∉ s.history := fun hnot hmem => hnot (List.mem_append_left _ hmem)
  cases effect_of_callStep hstep with
  | start | accept | reject =>
    refine iff_of_true (fun uid token hlatest hunstarted => ?_) trivial
    rw [latest_concat_of_none rfl] at hlatest
    exact h uid token hlatest (hbefore hunstarted)
  | insertToken uid₀ | expire uid₀ =>
    refine iff_of_true (fun uid token hlatest hunstarted => ?_) trivial
    refine (redis_update uid uid₀).trans ?_
    rw [latest_concat, issueEffect] at hlatest
    by_cases huid : uid₀ = uid
    · rw [if_pos huid, Option.getD_some] at hlatest
      rw [if_pos huid, hlatest]
    · rw [if_neg huid, Option.getD_none] at hlatest
      rw [if_neg huid]
      exact h uid token hlatest (hbefore hunstarted)
  | removeToken request hmem =>
    constructor
    · intro hkeeps token hkey
      by_contra hunstarted
      -- the token would have to survive the `DEL`
      have hlatest := hinv request.uid token hkey
      have hgone := hkeeps request.uid token (by rwa [latest_concat_of_none rfl])
        (by simpa using hunstarted)
      have hnone := (redis_update request.uid request.uid).symm.trans hgone
      rw [if_pos rfl] at hnone
      cases hnone
    · intro hchecked uid token hlatest hunstarted
      rw [latest_concat_of_none rfl] at hlatest
      have hkey := h uid token hlatest (hbefore hunstarted)
      refine (redis_update uid request.uid).trans ?_
      rw [if_neg ?_, hkey]
      rintro rfl
      exact hbefore hunstarted (hchecked token hkey)

end Interleaved

/-- **In every state of a run the unchecked tokens are stored, if and only if every `DEL` of the
run is of a token for which a check has been started, or finds nothing.** -/
theorem keepsUnchecked_iff_removesChecked {generateUUID : ℕ → String} {es : List CallEvent}
    {s : Calls} (hrun : run (callStep generateUUID) .init es = some s) :
    AllStates (callStep generateUUID) Calls.KeepsUnchecked .init es ↔
      AllSteps (callStep generateUUID) Calls.RemovesChecked .init es := by
  refine allStates_iff_allSteps (I := StoredIsLatest)
    (fun _ _ _ h hstep => storedIsLatest_step h hstep)
    (fun _ _ _ hinv h hstep => keepsUnchecked_step_iff hinv h hstep) hrun ?_ ?_
  · intro uid token hkey
    cases hkey
  · rw [keepsUnchecked_iff]
    intro uid token hlatest
    cases hlatest

/-- User 7 logs in twice, and the first token is checked before the second login. -/
theorem keepsUnchecked_checkedBefore : AllStates (callStep someUUID) Calls.KeepsUnchecked .init
    [.command (.insertToken 7), .start ⟨7, someUUID 0⟩, .command (.checkToken ⟨7, someUUID 0⟩),
      .command (.removeToken ⟨7, someUUID 0⟩), .command (.insertToken 7)] := by
  obtain ⟨s, hrun⟩ : ∃ s, run (callStep someUUID) .init
      [.command (.insertToken 7), .start ⟨7, someUUID 0⟩, .command (.checkToken ⟨7, someUUID 0⟩),
        .command (.removeToken ⟨7, someUUID 0⟩), .command (.insertToken 7)] = some s := by
    simp [run, callStep, tokenStep, Calls.pendingAfter, Calls.entry, Calls.init, TokenState.init]
  refine (keepsUnchecked_iff_removesChecked hrun).2 ?_
  simp [AllSteps, Calls.RemovesChecked, callStep, tokenStep, Calls.pendingAfter, Calls.entry,
    Calls.init, TokenState.init]

/-- The second login falls between the two commands of the check of the first token. -/
theorem not_keepsUnchecked_between :
    ¬ ∀ es s, run (callStep someUUID) .init es = some s → s.KeepsUnchecked := by
  intro h
  obtain ⟨s, hrun, hhistory, hkey⟩ : ∃ s, run (callStep someUUID) .init
      [.command (.insertToken 7), .start ⟨7, someUUID 0⟩, .command (.checkToken ⟨7, someUUID 0⟩),
        .command (.insertToken 7), .command (.removeToken ⟨7, someUUID 0⟩)] = some s ∧
      s.history = [.issued 7 (someUUID 0), .started ⟨7, someUUID 0⟩,
        .checked ⟨7, someUUID 0⟩ .success] ++
        .issued 7 (someUUID 1) :: [.removed ⟨7, someUUID 0⟩] ∧
      s.store.redis (tokenKey 7) = none := by
    simp [run, callStep, tokenStep, Calls.pendingAfter, Calls.entry, Calls.init, TokenState.init]
  have hne : someUUID 1 ≠ someUUID 0 := fun heq => absurd (someUUID_injective heq) (by decide)
  have hlost := h _ _ hrun 7 (someUUID 1) _ _ hhistory (by simp) (by simp [hhistory, hne])
  rw [hkey] at hlost
  cases hlost

end StatusServiceImpl

end WeChat
