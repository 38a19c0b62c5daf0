/-
# Which codes are mailed

Two calls for one email that look for a code before either has stored one make a code each.  The
second `SET` replaces the code of the first, and both are mailed.  When nothing fails and no code
expires, this is the only way in which a mailed code is not the stored one in the end.
-/
import WeChat.Verify.Server
import WeChat.Gate.Handlers

namespace WeChat

namespace VerifyServer

open Transition Expiring

/-- The code that a call has made and not stored yet. -/
def Phase.madeCode : Phase → Option String
  | .storing uniqueId => some uniqueId
  | _ => none

/-- The code that a call has found or stored, and that it is to mail. -/
def Phase.storedCode : Phase → Option String
  | .expiring uniqueId => some uniqueId
  | .mailing uniqueId => some uniqueId
  | _ => none

namespace Server

variable (s : Server)

/-- A call for an email has a code. -/
def Has (code : Phase → Option String) (email uniqueId : String) : Prop :=
  ∃ i phase, s.calls i = some ⟨email, phase⟩ ∧ code phase = some uniqueId

/-- A code that has been stored is to be mailed, or it was. -/
def Sends (email uniqueId : String) : Prop :=
  s.Has Phase.storedCode email uniqueId ∨ ⟨email, uniqueId⟩ ∈ s.mails

/-- A code is about to be stored, it is or was to be mailed, or it is the stored one. -/
def Holds (email uniqueId : String) : Prop :=
  s.Has Phase.madeCode email uniqueId ∨ s.Sends email uniqueId ∨
    get s.redis (codePrefix ++ email) = some uniqueId

/-- There is one code for each email. -/
def Agreed : Prop :=
  ∀ email uniqueId uniqueId', s.Holds email uniqueId → s.Holds email uniqueId' →
    uniqueId = uniqueId'

/-- Every mailed code is the stored one. -/
def MailsValid : Prop :=
  ∀ mail ∈ s.mails, get s.redis (codePrefix ++ mail.email) = some mail.uniqueId

/-- All calls have been answered. -/
def Finished : Prop := ∀ i call, s.calls i = some call → ∃ error, call.phase = .answered error

/-- Nothing fails, the process goes on, and no code expires. -/
def Smooth : VerifyEvent → Prop
  | .call _ _ => True
  | .get _ outcome _ => outcome = .ok
  | .set _ outcome => outcome = .ok
  | .expire _ outcome => outcome = .ok
  | .sendMail _ accepted => accepted = true
  | .tick => ∀ email, s.redis (codePrefix ++ email) ≠ none →
      tick s.redis (codePrefix ++ email) ≠ none
  | .stop => False

/-- A call that finds no code does not make another one than a call for the same email that
found none before it and has not stored its own yet. -/
def MakesSame : VerifyEvent → Prop
  | .get i _ uuid => ∀ email, s.calls i = some ⟨email, .reading⟩ →
      get s.redis (codePrefix ++ email) = none →
        ∀ j uniqueId, s.calls j = some ⟨email, .storing uniqueId⟩ → uniqueId = newCode uuid
  | _ => True

/-- `/user_register` does not refuse a mailed code: its check passes with a Redis that has the
stored codes. -/
def Accepts (mail : Mail) : Prop :=
  ∀ (services : GateServer.Services) (src_root : Json) (handle : String → String → Option Json),
    services.get = get s.redis → src_root.getStr "email" = some mail.email →
      src_root.getStr "verifyCode" = some mail.uniqueId →
        GateServer.withVerifyCode services src_root handle = handle mail.email mail.uniqueId

variable {s} {s' : Server} {i : ℕ} {email₀ email uniqueId : String} {phase phase' : Phase}
  {code : Phase → Option String}

/-! ## The codes of calls -/

lemma call_unique (h : s.calls i = some ⟨email₀, phase⟩) (h' : s.calls i = some ⟨email, phase'⟩) :
    email₀ = email ∧ phase = phase' := by
  simpa using h.symm.trans h'

lemma has_iff (hcall : s.calls i = some ⟨email₀, phase⟩) :
    s.Has code email uniqueId ↔ (email = email₀ ∧ code phase = some uniqueId) ∨
      ∃ j phase, j ≠ i ∧ s.calls j = some ⟨email, phase⟩ ∧ code phase = some uniqueId := by
  constructor
  · rintro ⟨j, phase₁, hj, hcode⟩
    by_cases hji : j = i
    · subst hji
      obtain ⟨rfl, rfl⟩ := call_unique hcall hj
      exact .inl ⟨rfl, hcode⟩
    · exact .inr ⟨j, phase₁, hji, hj, hcode⟩
  · rintro (⟨rfl, hcode⟩ | ⟨j, phase₁, -, hj, hcode⟩)
    · exact ⟨i, phase, hcall, hcode⟩
    · exact ⟨j, phase₁, hj, hcode⟩

lemma has_resume_iff : (s.resume i ⟨email₀, phase'⟩).Has code email uniqueId ↔
    (email = email₀ ∧ code phase' = some uniqueId) ∨
      ∃ j phase, j ≠ i ∧ s.calls j = some ⟨email, phase⟩ ∧ code phase = some uniqueId := by
  rw [has_iff (calls_resume_self i _)]
  refine or_congr_right (exists_congr fun j => exists_congr fun phase => ?_)
  exact and_congr_right fun hj => by rw [calls_resume_of_ne hj]

/-- A call that had no code, or is new, brings its own. -/
lemma has_resume_gain
    (h : s.calls i = none ∨ ∃ phase, s.calls i = some ⟨email₀, phase⟩ ∧ code phase = none) :
    (s.resume i ⟨email₀, phase'⟩).Has code email uniqueId ↔
      (email = email₀ ∧ code phase' = some uniqueId) ∨ s.Has code email uniqueId := by
  rw [has_resume_iff]
  refine or_congr_right ⟨fun ⟨j, phase, _, hj, hcode⟩ => ⟨j, phase, hj, hcode⟩, ?_⟩
  rintro ⟨j, phase₁, hj, hcode⟩
  refine ⟨j, phase₁, ?_, hj, hcode⟩
  rintro rfl
  rcases h with hnew | ⟨phase, hcall, hnone⟩
  · exact nomatch hnew.symm.trans hj
  · obtain ⟨-, rfl⟩ := call_unique hcall hj
    exact nomatch hnone.symm.trans hcode

/-- A call that goes on with its code. -/
lemma has_resume_keep (hcall : s.calls i = some ⟨email₀, phase⟩) (h : code phase' = code phase) :
    (s.resume i ⟨email₀, phase'⟩).Has code email uniqueId ↔ s.Has code email uniqueId := by
  rw [has_resume_iff, has_iff hcall, h]

/-- A call that ends leaves its code to the mail. -/
lemma has_resume_lose {uniqueId₀ : String} (hcall : s.calls i = some ⟨email₀, phase⟩)
    (hcode : code phase = some uniqueId₀) (h : code phase' = none) :
    s.Has code email uniqueId ↔ (email = email₀ ∧ uniqueId = uniqueId₀) ∨
      (s.resume i ⟨email₀, phase'⟩).Has code email uniqueId := by
  rw [has_resume_iff, has_iff hcall, hcode, h]
  simp [eq_comm]

/-! ## What smooth steps do -/

/-- What a smooth step does to the codes. -/
inductive CodeEffect (s : Server) (e : VerifyEvent) (s' : Server) : Prop
  /-- A call starts, gives an expiry or is answered, or a second passes. -/
  | quiet (hsame : s.MakesSame e)
      (hget : ∀ email, get s'.redis (codePrefix ++ email) = get s.redis (codePrefix ++ email))
      (hmade : ∀ email uniqueId,
        s'.Has Phase.madeCode email uniqueId ↔ s.Has Phase.madeCode email uniqueId)
      (hsends : ∀ email uniqueId, s'.Sends email uniqueId ↔ s.Sends email uniqueId)
  /-- A call finds a code. -/
  | found (email₀ uniqueId₀ : String) (hsame : s.MakesSame e)
      (hfound : get s.redis (codePrefix ++ email₀) = some uniqueId₀)
      (hget : ∀ email, get s'.redis (codePrefix ++ email) = get s.redis (codePrefix ++ email))
      (hmade : ∀ email uniqueId,
        s'.Has Phase.madeCode email uniqueId ↔ s.Has Phase.madeCode email uniqueId)
      (hsends : ∀ email uniqueId, s'.Sends email uniqueId ↔
        (email = email₀ ∧ uniqueId = uniqueId₀) ∨ s.Sends email uniqueId)
  /-- A call finds none and makes one. -/
  | made (email₀ uniqueId₀ : String)
      (hsame : s.MakesSame e ↔
        ∀ uniqueId, s.Has Phase.madeCode email₀ uniqueId → uniqueId = uniqueId₀)
      (hnone : get s.redis (codePrefix ++ email₀) = none)
      (hget : ∀ email, get s'.redis (codePrefix ++ email) = get s.redis (codePrefix ++ email))
      (hmade : ∀ email uniqueId, s'.Has Phase.madeCode email uniqueId ↔
        (email = email₀ ∧ uniqueId = uniqueId₀) ∨ s.Has Phase.madeCode email uniqueId)
      (hsends : ∀ email uniqueId, s'.Sends email uniqueId ↔ s.Sends email uniqueId)
  /-- A call stores its code. -/
  | set (email₀ uniqueId₀ : String) (hsame : s.MakesSame e)
      (hget : ∀ email, get s'.redis (codePrefix ++ email) =
        if email = email₀ then some uniqueId₀ else get s.redis (codePrefix ++ email))
      (hmade : ∀ email uniqueId, s.Has Phase.madeCode email uniqueId ↔
        (email = email₀ ∧ uniqueId = uniqueId₀) ∨ s'.Has Phase.madeCode email uniqueId)
      (hsends : ∀ email uniqueId, s'.Sends email uniqueId ↔
        (email = email₀ ∧ uniqueId = uniqueId₀) ∨ s.Sends email uniqueId)

/-- A call that has found or stored its code. -/
lemma sends_resume_gain {redis : Store String String} {uniqueId₀ : String}
    (hcall : s.calls i = some ⟨email₀, phase⟩) (hnone : phase.storedCode = none)
    (hcode : phase'.storedCode = some uniqueId₀) :
    (resume { s with redis := redis } i ⟨email₀, phase'⟩).Sends email uniqueId ↔
      (email = email₀ ∧ uniqueId = uniqueId₀) ∨ s.Sends email uniqueId := by
  have hgain : (resume { s with redis := redis } i ⟨email₀, phase'⟩).Has Phase.storedCode email
      uniqueId ↔ (email = email₀ ∧ uniqueId = uniqueId₀) ∨
        s.Has Phase.storedCode email uniqueId := by
    refine (has_resume_gain (.inr ⟨phase, hcall, hnone⟩)).trans (or_congr_left ?_)
    rw [hcode, Option.some_inj, eq_comm (a := uniqueId₀)]
  exact (or_congr_left hgain).trans or_assoc

lemma madeCode_eq_some (h : phase.madeCode = some uniqueId) : phase = .storing uniqueId := by
  cases phase with
  | storing uniqueId' => exact congrArg _ (Option.some.inj h)
  | reading => cases h
  | expiring _ => cases h
  | mailing _ => cases h
  | answered _ => cases h

/-- The codes to be mailed after a mail has been accepted. -/
lemma sends_mailed_iff {uniqueId₀ : String} (hcall : s.calls i = some ⟨email₀, phase⟩)
    (hcode : phase.storedCode = some uniqueId₀) (h : phase'.storedCode = none) :
    (resume { s with mails := s.mails ++ [⟨email₀, uniqueId₀⟩] } i ⟨email₀, phase'⟩).Sends email
      uniqueId ↔ s.Sends email uniqueId := by
  have hsame : (resume { s with mails := s.mails ++ [⟨email₀, uniqueId₀⟩] } i
      ⟨email₀, phase'⟩).Has Phase.storedCode email uniqueId ↔
      (s.resume i ⟨email₀, phase'⟩).Has Phase.storedCode email uniqueId := Iff.rfl
  rw [Sends, Sends, hsame, has_resume_lose hcall hcode h, mails_resume, List.mem_append,
    List.mem_singleton, Mail.mk.injEq]
  tauto

lemma codeEffect_of_step {e : VerifyEvent} (hsmooth : s.Smooth e) (hstep : s.step e = some s') :
    CodeEffect s e s' := by
  cases effect_of_step hstep with
  | @call i email₀ hnew =>
    refine .quiet trivial (fun _ => rfl) (fun email uniqueId => ?_) fun email uniqueId => ?_
    · exact (has_resume_gain (.inl hnew)).trans (or_iff_right fun h => nomatch h.2)
    · refine or_congr_left ?_
      exact (has_resume_gain (.inl hnew)).trans (or_iff_right fun h => nomatch h.2)
  | @found i outcome uuid email₀ uniqueId₀ hcall hfound =>
    obtain rfl : outcome = .ok := hsmooth
    have hget : get s.redis (codePrefix ++ email₀) = some uniqueId₀ := hfound
    refine .found email₀ uniqueId₀ ?_ hget (fun _ => rfl) (fun email uniqueId => ?_)
      fun email uniqueId => ?_
    · intro email hcall' hnone
      obtain ⟨rfl, -⟩ := call_unique hcall hcall'
      exact nomatch hnone.symm.trans hget
    · exact has_resume_keep hcall rfl
    · exact sends_resume_gain hcall rfl rfl
  | @made i outcome uuid email₀ hcall hnone =>
    obtain rfl : outcome = .ok := hsmooth
    have hget : get s.redis (codePrefix ++ email₀) = none := hnone
    refine .made email₀ (newCode uuid) ?_ hget (fun _ => rfl) (fun email uniqueId => ?_)
      fun email uniqueId => ?_
    · constructor
      · rintro hsame uniqueId ⟨j, phase, hj, hcode⟩
        obtain rfl := madeCode_eq_some hcode
        exact hsame email₀ hcall hget j uniqueId hj
      · intro hsame email hcall' _ j uniqueId hj
        obtain ⟨rfl, -⟩ := call_unique hcall hcall'
        exact hsame uniqueId ⟨j, _, hj, rfl⟩
    · refine (has_resume_gain (.inr ⟨_, hcall, rfl⟩)).trans (or_congr_left ?_)
      exact and_congr_right fun _ => Option.some_inj.trans eq_comm
    · exact or_congr_left (has_resume_keep hcall rfl)
  | @set i outcome email₀ uniqueId₀ hcall =>
    obtain rfl : outcome = .ok := hsmooth
    refine .set email₀ uniqueId₀ trivial (fun email => ?_) (fun email uniqueId => ?_)
      fun email uniqueId => ?_
    · refine get_set.trans ?_
      simp only [String.append_right_inj]
    · have hlose : s.Has Phase.madeCode email uniqueId ↔
          (email = email₀ ∧ uniqueId = uniqueId₀) ∨
            (s.resume i ⟨email₀, .expiring uniqueId₀⟩).Has Phase.madeCode email uniqueId :=
        has_resume_lose hcall rfl rfl
      exact hlose
    · exact sends_resume_gain hcall rfl rfl
  | @expire i outcome email₀ uniqueId₀ hcall =>
    obtain rfl : outcome = .ok := hsmooth
    refine .quiet trivial (fun email => get_expire) (fun email uniqueId => ?_)
      fun email uniqueId => ?_
    · exact has_resume_keep (s := { s with redis := _ }) hcall rfl
    · exact or_congr_left (has_resume_keep (s := { s with redis := _ }) hcall rfl)
  | @mailed i email₀ uniqueId₀ hcall =>
    refine .quiet trivial (fun _ => rfl) (fun email uniqueId => ?_) fun email uniqueId => ?_
    · exact has_resume_keep (s := { s with mails := _ }) hcall rfl
    · exact sends_mailed_iff hcall rfl rfl
  | refused hcall => exact absurd hsmooth Bool.false_ne_true
  | tick =>
    refine .quiet trivial (fun email => get_tick (hsmooth email)) (fun _ _ => Iff.rfl) ?_
    exact fun _ _ => Iff.rfl
  | stop => exact hsmooth.elim

/-! ## What smooth steps keep -/

/-- A code that is or was to be mailed is under its key, and while a call has made a code, the
stored one, if there is one, is or was to be mailed. -/
structure Settled (s : Server) : Prop where
  sends : ∀ {email uniqueId}, s.Sends email uniqueId → get s.redis (codePrefix ++ email) ≠ none
  stored : ∀ {email uniqueId uniqueId'}, s.Has Phase.madeCode email uniqueId →
    get s.redis (codePrefix ++ email) = some uniqueId' → s.Sends email uniqueId'

lemma settled_init (redis : Store String String) : Settled (init redis) := by
  refine ⟨?_, ?_⟩
  · rintro email uniqueId (⟨i, phase, hi, -⟩ | hmail)
    · exact nomatch hi
    · exact absurd hmail List.not_mem_nil
  · rintro email uniqueId uniqueId' ⟨i, phase, hi, -⟩
    exact nomatch hi

lemma settled_of_effect {e : VerifyEvent} (hs : Settled s) (h : CodeEffect s e s') :
    Settled s' := by
  cases h with
  | quiet hsame hget hmade hsends =>
    refine ⟨fun h => ?_, fun h h' => ?_⟩
    · rw [hget]
      exact hs.sends ((hsends _ _).1 h)
    · rw [hget] at h'
      exact (hsends _ _).2 (hs.stored ((hmade _ _).1 h) h')
  | found email₀ uniqueId₀ hsame hfound hget hmade hsends =>
    refine ⟨fun h => ?_, fun h h' => ?_⟩
    · rw [hget]
      rcases (hsends _ _).1 h with ⟨rfl, -⟩ | hold
      · rw [hfound]
        exact Option.some_ne_none _
      · exact hs.sends hold
    · rw [hget] at h'
      exact (hsends _ _).2 (.inr (hs.stored ((hmade _ _).1 h) h'))
  | made email₀ uniqueId₀ hsame hnone hget hmade hsends =>
    refine ⟨fun h => ?_, fun h h' => ?_⟩
    · rw [hget]
      exact hs.sends ((hsends _ _).1 h)
    · rw [hget] at h'
      rcases (hmade _ _).1 h with ⟨rfl, -⟩ | hold
      · exact nomatch hnone.symm.trans h'
      · exact (hsends _ _).2 (hs.stored hold h')
  | set email₀ uniqueId₀ hsame hget hmade hsends =>
    refine ⟨fun h => ?_, fun h h' => ?_⟩
    · rw [hget]
      split_ifs with heq
      · exact Option.some_ne_none _
      · rcases (hsends _ _).1 h with ⟨rfl, -⟩ | hold
        · exact absurd rfl heq
        · exact hs.sends hold
    · rw [hget] at h'
      split_ifs at h' with heq
      · exact (hsends _ _).2 (.inl ⟨heq, (Option.some.inj h').symm⟩)
      · exact (hsends _ _).2 (.inr (hs.stored ((hmade _ _).2 (.inr h)) h'))

lemma agreed_congr
    (h : ∀ email uniqueId, s'.Holds email uniqueId ↔ s.Holds email uniqueId) :
    s'.Agreed ↔ s.Agreed := by
  simp only [Agreed, h]

/-- After a smooth step there is one code for each email exactly when there was before and the
call makes no other one. -/
lemma agreed_iff_of_effect {e : VerifyEvent} (hs : Settled s) (h : CodeEffect s e s') :
    s'.Agreed ↔ s.Agreed ∧ s.MakesSame e := by
  cases h with
  | quiet hsame hget hmade hsends =>
    rw [and_iff_left hsame]
    exact agreed_congr fun email uniqueId => by rw [Holds, Holds, hget, hmade, hsends]
  | found email₀ uniqueId₀ hsame hfound hget hmade hsends =>
    -- the code that is found was held before
    rw [and_iff_left hsame]
    refine agreed_congr fun email uniqueId => ?_
    have hheld : email = email₀ ∧ uniqueId = uniqueId₀ → s.Holds email uniqueId := by
      rintro ⟨rfl, rfl⟩
      exact .inr (.inr hfound)
    rw [Holds, hget, hmade, hsends]
    constructor
    · rintro (h | (h | h) | h)
      · exact .inl h
      · exact hheld h
      · exact .inr (.inl h)
      · exact .inr (.inr h)
    · rintro (h | h | h)
      · exact .inl h
      · exact .inr (.inl (.inr h))
      · exact .inr (.inr h)
  | made email₀ uniqueId₀ hsame hnone hget hmade hsends =>
    have hholds : ∀ email uniqueId, s'.Holds email uniqueId ↔
        (email = email₀ ∧ uniqueId = uniqueId₀) ∨ s.Holds email uniqueId := by
      intro email uniqueId
      rw [Holds, hget, hmade, hsends]
      exact or_assoc
    -- without a stored code, the codes of the email are those that calls have made
    have hheld : ∀ uniqueId, s.Holds email₀ uniqueId → s.Has Phase.madeCode email₀ uniqueId := by
      rintro uniqueId (h | h | h)
      · exact h
      · exact absurd hnone (hs.sends h)
      · exact nomatch hnone.symm.trans h
    rw [hsame]
    constructor
    · intro hagreed
      refine ⟨fun email uniqueId uniqueId' h h' => ?_, fun uniqueId h => ?_⟩
      · exact hagreed email uniqueId uniqueId' ((hholds _ _).2 (.inr h)) ((hholds _ _).2 (.inr h'))
      · exact hagreed email₀ uniqueId uniqueId₀ ((hholds _ _).2 (.inr (.inl h)))
          ((hholds _ _).2 (.inl ⟨rfl, rfl⟩))
    · rintro ⟨hagreed, hsame⟩ email uniqueId uniqueId' h h'
      rcases (hholds _ _).1 h with ⟨rfl, rfl⟩ | hold <;>
        rcases (hholds _ _).1 h' with ⟨heq, rfl⟩ | hold'
      · rfl
      · exact (hsame uniqueId' (hheld uniqueId' hold')).symm
      · subst heq
        exact hsame uniqueId (hheld uniqueId hold)
      · exact hagreed email uniqueId uniqueId' hold hold'
  | set email₀ uniqueId₀ hsame hget hmade hsends =>
    rw [and_iff_left hsame]
    refine agreed_congr fun email uniqueId => ?_
    rw [Holds, Holds, hget, hmade, hsends]
    by_cases heq : email = email₀
    · -- the code that is replaced is or was to be mailed
      subst heq
      have hreplaced : get s.redis (codePrefix ++ email) = some uniqueId →
          s.Sends email uniqueId :=
        hs.stored ((hmade _ _).2 (.inl ⟨rfl, rfl⟩))
      rw [if_pos rfl, Option.some_inj, eq_comm (a := uniqueId₀)]
      tauto
    · rw [if_neg heq]
      tauto

/-! ## Runs -/

/-- When all calls have been answered, every mailed code is the stored one exactly when there is
one code for each email. -/
lemma mailsValid_iff_agreed (hs : Settled s) (hfinished : s.Finished) :
    s.MailsValid ↔ s.Agreed := by
  have hanswered : ∀ {code : Phase → Option String}, (∀ error, code (.answered error) = none) →
      ∀ email uniqueId, ¬ s.Has code email uniqueId := by
    rintro code hnone email uniqueId ⟨i, phase, hi, hcode⟩
    obtain ⟨error, rfl⟩ := hfinished i _ hi
    exact nomatch (hnone error).symm.trans hcode
  constructor
  · intro hvalid email uniqueId uniqueId' h h'
    have hstored : ∀ {uniqueId}, s.Holds email uniqueId →
        get s.redis (codePrefix ++ email) = some uniqueId := by
      rintro uniqueId (h | (h | h) | h)
      · exact absurd h (hanswered (fun _ => rfl) _ _)
      · exact absurd h (hanswered (fun _ => rfl) _ _)
      · exact hvalid _ h
      · exact h
    exact Option.some.inj ((hstored h).symm.trans (hstored h'))
  · rintro hagreed ⟨email, uniqueId⟩ hmail
    obtain ⟨uniqueId', hstored⟩ := Option.ne_none_iff_exists'.1 (hs.sends (.inr hmail))
    rw [hstored, hagreed email uniqueId uniqueId' (.inr (.inl (.inr hmail))) (.inr (.inr hstored))]

/-- A mailed code that is the stored one passes the check of `/user_register`. -/
lemma accepts_of_stored {mail : Mail}
    (h : get s.redis (codePrefix ++ mail.email) = some mail.uniqueId) : s.Accepts mail := by
  intro services src_root handle hget hemail hcode
  have hvalue : services.get (GateServer.codePrefix ++ mail.email) = some mail.uniqueId := by
    rw [hget]
    exact h
  simp [GateServer.withVerifyCode, hemail, hcode, hvalue]

/-- **When nothing fails and no code expires, every code that was mailed is the stored one after
all calls have been answered, if and only if no call made another code than a call for the same
email that had made one and not stored it yet**; and `/user_register` then accepts all of them. -/
theorem mailsValid_iff {redis : Store String String} {es : List VerifyEvent}
    (hrun : run step (.init redis) es = some s) (hsmooth : AllSteps step Smooth (.init redis) es)
    (hfinished : s.Finished) :
    (s.MailsValid ↔ AllSteps step MakesSame (.init redis) es) ∧
      (s.MailsValid → ∀ mail ∈ s.mails, s.Accepts mail) := by
  have hstep : ∀ s e s', Settled s → s.Smooth e → s.step e = some s' → Settled s' :=
    fun _ _ _ hs hsmooth hstep => settled_of_effect hs (codeEffect_of_step hsmooth hstep)
  have hsettled : Settled s := run_induction hstep hrun hsmooth (settled_init redis)
  have hinit : (init redis).Agreed := by
    have hstored : ∀ {email uniqueId}, (init redis).Holds email uniqueId →
        get redis (codePrefix ++ email) = some uniqueId := by
      rintro email uniqueId (⟨i, phase, hi, -⟩ | (⟨i, phase, hi, -⟩ | hmail) | h)
      · exact nomatch hi
      · exact nomatch hi
      · exact absurd hmail List.not_mem_nil
      · exact h
    exact fun email uniqueId uniqueId' h h' =>
      Option.some.inj ((hstored h).symm.trans (hstored h'))
  refine ⟨?_, fun hvalid mail hmail => accepts_of_stored (hvalid mail hmail)⟩
  rw [mailsValid_iff_agreed hsettled hfinished, final_iff_allSteps_of hstep
    (fun _ _ _ hs hsmooth hstep => agreed_iff_of_effect hs (codeEffect_of_step hsmooth hstep))
    hrun hsmooth (settled_init redis), and_iff_right hinit]

/-- Two calls for one email, of which the second one finds the code of the first. -/
def reusingRun : List VerifyEvent :=
  [.call 0 "alice@example.com", .call 1 "alice@example.com", .get 0 .ok "4f9c2b7a", .set 0 .ok,
    .get 1 .ok "d03e4c1f", .expire 0 .ok, .sendMail 1 true, .sendMail 0 true]

/-- Both mails have the stored code. -/
theorem mailsValid_reused :
    ∃ s, run step (.init fun _ => none) reusingRun = some s ∧
      s.mails = [⟨"alice@example.com", "4f9c2b"⟩, ⟨"alice@example.com", "4f9c2b"⟩] ∧
      s.MailsValid := by
  have hrun : run step (.init fun _ => none) reusingRun = some _ := rfl
  refine ⟨_, hrun, rfl, (mailsValid_iff hrun ?_ ?_).1.2 ?_⟩
  · exact .cons rfl trivial (.cons rfl trivial (.cons rfl rfl (.cons rfl rfl (.cons rfl rfl
      (.cons rfl rfl (.cons rfl rfl (.cons rfl rfl trivial)))))))
  · intro i call hcall
    match i with
    | 0 => exact ⟨.success, congrArg Call.phase (Option.some.inj hcall).symm⟩
    | 1 => exact ⟨.success, congrArg Call.phase (Option.some.inj hcall).symm⟩
    | i + 2 => exact nomatch hcall
  · refine .cons rfl trivial (.cons rfl trivial (.cons rfl ?_ (.cons rfl trivial (.cons rfl ?_
      (.cons rfl trivial (.cons rfl trivial (.cons rfl trivial trivial)))))))
    · -- the first call finds no code, and no call has made one
      intro email _ _ j uniqueId hj
      match j with
      | 0 => exact nomatch hj
      | 1 => exact nomatch hj
      | j + 2 => exact nomatch hj
    · -- the second one finds the code of the first
      intro email hcall hnone
      obtain rfl : "alice@example.com" = email := congrArg Call.email (Option.some.inj hcall)
      exact nomatch hnone

/-- Two calls for one email that both find no code. -/
def racingRun : List VerifyEvent :=
  [.call 0 "alice@example.com", .call 1 "alice@example.com", .get 0 .ok "4f9c2b7a",
    .get 1 .ok "d03e4c1f", .set 0 .ok, .set 1 .ok, .expire 0 .ok, .expire 1 .ok,
    .sendMail 0 true, .sendMail 1 true]

/-- The code of the first mail is no longer stored. -/
theorem not_mailsValid_raced :
    ∃ s, run step (.init fun _ => none) racingRun = some s ∧
      AllSteps step Smooth (.init fun _ => none) racingRun ∧ s.Finished ∧
      s.mails = [⟨"alice@example.com", "4f9c2b"⟩, ⟨"alice@example.com", "d03e4c"⟩] ∧
      ¬ s.MailsValid := by
  refine ⟨_, rfl, ?_, ?_, rfl, fun hvalid => ?_⟩
  · exact .cons rfl trivial (.cons rfl trivial (.cons rfl rfl (.cons rfl rfl (.cons rfl rfl
      (.cons rfl rfl (.cons rfl rfl (.cons rfl rfl (.cons rfl rfl (.cons rfl rfl trivial)))))))))
  · intro i call hcall
    match i with
    | 0 => exact ⟨.success, congrArg Call.phase (Option.some.inj hcall).symm⟩
    | 1 => exact ⟨.success, congrArg Call.phase (Option.some.inj hcall).symm⟩
    | i + 2 => exact nomatch hcall
  · have hstored := hvalid ⟨"alice@example.com", "4f9c2b"⟩ List.mem_cons_self
    revert hstored
    decide

end Server

end VerifyServer

end WeChat
