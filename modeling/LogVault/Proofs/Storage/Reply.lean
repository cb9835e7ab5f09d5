import LogVault.Proofs.Storage.Bucket
import LogVault.Proofs.Text.Utf8

/-!
# LogVault.Proofs.Storage.Reply — what becomes of a server's answer

Whatever a client gives, a put succeeds just if it is an answer with a status of success, and so
does a get, with the body of the answer. A get finds no blob if the client gives an answer 404 or a
refusal 404; everything else is a fault of the server's (`result_putOutcome`, `result_getOutcome`).

A strict client gives every answer that is no success as a flaw, and 404 as a refusal only when the
body is a text. So the body of the server's answer counts there, and not the status alone
(`result_of_reply`).
-/

namespace LogVault

/-- The status is one of success. -/
def StoreReply.Succeeds (reply : StoreReply) : Prop := 200 ≤ reply.status ∧ reply.status < 300

/-- **An answer that there is no such blob**: 404, with a text for its body. -/
def StoreReply.SaysMissing (reply : StoreReply) : Prop :=
  reply.status = 404 ∧ ∃ text : String, reply.body = Text.bytes text

theorem StoreReply.isSuccess_iff {reply : StoreReply} :
    reply.isSuccess = true ↔ reply.Succeeds := by
  rw [isSuccess, Bool.and_eq_true, decide_eq_true_eq, decide_eq_true_eq, Succeeds]

/-- What is missing is no success. -/
theorem StoreReply.not_succeeds_of_status_eq {reply : StoreReply} (h : reply.status = 404) :
    ¬ reply.Succeeds := by
  rw [Succeeds, h]
  decide

namespace Bucket

/-! ## What a client gives -/

/-- **The client gives an answer of success.** -/
def Delivers : Except ClientFlaw StoreReply → Prop
  | .ok reply => reply.Succeeds
  | .error _ => False

/-- **The client gives that there is no such blob**: an answer 404, or a refusal 404. -/
def TellsMissing : Except ClientFlaw StoreReply → Prop
  | .ok reply => reply.status = 404
  | .error flaw => flaw.isNotFound = true

/-- What tells that there is no blob delivers none. -/
theorem not_delivers_of_tellsMissing {given : Except ClientFlaw StoreReply}
    (h : TellsMissing given) : ¬ Delivers given := by
  cases given with
  | error flaw => exact id
  | ok reply => exact StoreReply.not_succeeds_of_status_eq h

section Outcomes

variable {σ : Type} (key : StorageKey) (s : σ) (given : Except ClientFlaw StoreReply)

/-- What a put makes of what the client gives. -/
theorem putOutcome_cases (bucket : String) (data : Bytes) :
    Delivers given ∧ (putOutcome bucket key data s given).result = .ok () ∨
      ¬ Delivers given ∧
        ∃ detail, (putOutcome bucket key data s given).result = .error (.internal detail) := by
  cases given with
  | error flaw => exact .inr ⟨id, flaw.message, rfl⟩
  | ok reply =>
    rw [Delivers, ← StoreReply.isSuccess_iff]
    by_cases hsuccess : reply.isSuccess = true
    · rw [putOutcome, if_pos hsuccess]
      exact .inl ⟨hsuccess, rfl⟩
    · rw [putOutcome, if_neg hsuccess]
      exact .inr ⟨hsuccess, _, rfl⟩

/-- What a get makes of what the client gives. -/
theorem getOutcome_cases :
    (∃ reply, given = .ok reply ∧ reply.Succeeds ∧
        (getOutcome key s given).result = .ok reply.body) ∨
      TellsMissing given ∧ (getOutcome key s given).result = .error (Backend.missing key) ∨
      ¬ Delivers given ∧ ¬ TellsMissing given ∧
        ∃ detail, (getOutcome key s given).result = .error (.internal detail) := by
  cases given with
  | error flaw =>
    refine .inr ?_
    by_cases hflaw : flaw.isNotFound = true
    · rw [getOutcome, if_pos hflaw]
      exact .inl ⟨hflaw, rfl⟩
    · rw [getOutcome, if_neg hflaw]
      exact .inr ⟨id, hflaw, flaw.message, rfl⟩
  | ok reply =>
    by_cases hsuccess : reply.isSuccess = true
    · rw [getOutcome, if_pos hsuccess]
      exact .inl ⟨reply, rfl, StoreReply.isSuccess_iff.mp hsuccess, rfl⟩
    have hfails : ¬ reply.Succeeds := fun h => hsuccess (StoreReply.isSuccess_iff.mpr h)
    refine .inr ?_
    by_cases hstatus : reply.status = 404
    · rw [getOutcome, if_neg hsuccess, if_pos hstatus]
      exact .inl ⟨hstatus, rfl⟩
    · rw [getOutcome, if_neg hsuccess, if_neg hstatus]
      exact .inr ⟨hfails, hstatus, _, rfl⟩

/-- **The outcome of a put**, by what the client gives. -/
theorem result_putOutcome (bucket : String) (data : Bytes) :
    ((putOutcome bucket key data s given).result = .ok () ↔ Delivers given) ∧
      ((∃ detail, (putOutcome bucket key data s given).result = .error (.internal detail)) ↔
        ¬ Delivers given) := by
  rcases putOutcome_cases key s given bucket data with
    ⟨hgiven, hresult⟩ | ⟨hgiven, detail, hresult⟩
  · simp [hresult, hgiven]
  · simp [hresult, hgiven]

/-- **The outcome of a get**, by what the client gives. -/
theorem result_getOutcome :
    (∀ body, (getOutcome key s given).result = .ok body ↔
      ∃ reply, given = .ok reply ∧ reply.Succeeds ∧ body = reply.body) ∧
    (∀ what, (getOutcome key s given).result = .error (.notFound what) ↔
      TellsMissing given ∧ what = "no blob stored at " ++ key.text) ∧
    ((∃ detail, (getOutcome key s given).result = .error (.internal detail)) ↔
      ¬ Delivers given ∧ ¬ TellsMissing given) := by
  have hnone : ¬ Delivers given → ∀ body,
      ¬ ∃ reply, given = .ok reply ∧ reply.Succeeds ∧ body = reply.body := by
    rintro hnot body ⟨reply, rfl, hsucceeds, -⟩
    exact hnot hsucceeds
  -- the outcomes exclude one another, and so do the ways of the client that lead to them
  rcases getOutcome_cases key s given with
    ⟨reply, rfl, hsucceeds, hresult⟩ | ⟨hmissing, hresult⟩ | ⟨hfails, hother, detail, hresult⟩
  · have hnot : ¬ TellsMissing (.ok reply) := fun h => not_delivers_of_tellsMissing h hsucceeds
    simp [hresult, hnot, hsucceeds, Delivers, eq_comm]
  · have hfails := not_delivers_of_tellsMissing hmissing
    simp [hresult, hmissing, hnone hfails, Backend.missing, eq_comm]
  · simp [hresult, hother, hnone hfails, hfails]

end Outcomes

/-! ## Strict clients -/

section Strict

variable {reply : StoreReply}

/-- A strict client gives no answer but the one it had. -/
theorem eq_of_strictly_eq_ok {given : StoreReply} (h : reply.strictly = .ok given) :
    given = reply := by
  rw [StoreReply.strictly] at h
  split at h
  · exact (Except.ok.inj h).symm
  · split at h <;> cases h

/-- It gives a success as it is. -/
theorem delivers_strictly : Delivers reply.strictly ↔ reply.Succeeds := by
  rw [← StoreReply.isSuccess_iff, StoreReply.strictly]
  by_cases hsuccess : reply.isSuccess = true
  · rw [if_pos hsuccess]
    exact StoreReply.isSuccess_iff.symm
  · rw [if_neg hsuccess]
    cases Utf8.flaw? reply.body <;> exact iff_of_false id hsuccess

/-- **It tells that there is no blob** when the answer is 404 with a text. -/
theorem tellsMissing_strictly : TellsMissing reply.strictly ↔ reply.SaysMissing := by
  rw [StoreReply.SaysMissing, ← Utf8.flaw?_eq_none_iff, StoreReply.strictly]
  by_cases hsuccess : reply.isSuccess = true
  · rw [if_pos hsuccess]
    -- an answer that is given has a status of success, which 404 is not
    have hstatus : reply.status ≠ 404 := fun h =>
      StoreReply.not_succeeds_of_status_eq h (StoreReply.isSuccess_iff.mp hsuccess)
    exact iff_of_false hstatus fun h => hstatus h.1
  · rw [if_neg hsuccess]
    cases Utf8.flaw? reply.body with
    | some flaw => exact iff_of_false Bool.false_ne_true fun h => Option.some_ne_none flaw h.2
    | none => exact beq_iff_eq.trans (and_iff_left rfl).symm

end Strict

/-- **The answers of a server and their outcomes.** Whatever a server answers to a get, the blob is
got just if the status is one of success, and is then the body of the answer; it is missing, under
its name, just if the answer says so; and everything else is a fault of the server's. A put succeeds
just if the status is one of success, and everything else is a fault of the server's. -/
theorem result_of_reply {σ : Type} (server : StoreServer σ) (bucket : String) (key : StorageKey)
    (data : Bytes) (s : σ) :
    (∀ reply t, server ⟨"GET", target bucket key, [], none⟩ s = (.ok reply, t) →
      (∀ body, (((backend server bucket).get key).run s).result = .ok body ↔
        reply.Succeeds ∧ body = reply.body) ∧
      (∀ what, (((backend server bucket).get key).run s).result = .error (.notFound what) ↔
        reply.SaysMissing ∧ what = "no blob stored at " ++ key.text) ∧
      ((∃ detail, (((backend server bucket).get key).run s).result = .error (.internal detail)) ↔
        ¬ reply.Succeeds ∧ ¬ reply.SaysMissing)) ∧
    (∀ reply t, server ⟨"PUT", target bucket key, data, some contentType⟩ s = (.ok reply, t) →
      ((((backend server bucket).put key data).run s).result = .ok () ↔ reply.Succeeds) ∧
      ((∃ detail, (((backend server bucket).put key data).run s).result =
        .error (.internal detail)) ↔ ¬ reply.Succeeds)) := by
  constructor
  · intro reply t h
    have hrun : (((backend server bucket).get key).run s).result =
        (getOutcome key t reply.strictly).result := by
      rw [run_get, getRequest, strict_of_answer h]
    obtain ⟨hbody, hmissing, hinternal⟩ := result_getOutcome key t reply.strictly
    rw [hrun, ← delivers_strictly, ← tellsMissing_strictly]
    refine ⟨fun body => (hbody body).trans ⟨?_, ?_⟩, hmissing, hinternal⟩
    · rintro ⟨given, hgiven, hsucceeds, rfl⟩
      rw [hgiven, eq_of_strictly_eq_ok hgiven]
      exact ⟨eq_of_strictly_eq_ok hgiven ▸ hsucceeds, rfl⟩
    · rintro ⟨hdelivers, rfl⟩
      have hsucceeds := delivers_strictly.mp hdelivers
      exact ⟨reply, strictly_of_isSuccess (StoreReply.isSuccess_iff.mpr hsucceeds), hsucceeds, rfl⟩
  · intro reply t h
    have hrun : (((backend server bucket).put key data).run s).result =
        (putOutcome bucket key data t reply.strictly).result := by
      rw [run_put, putRequest, strict_of_answer h]
    rw [hrun, ← delivers_strictly]
    exact result_putOutcome key t reply.strictly bucket data

/-- A server that answers everything alike. -/
def answering (reply : StoreReply) : StoreServer Unit := fun _ s => (.ok reply, s)

/-- An empty body is a text, and then 404 says that the blob is missing. -/
theorem result_of_reply_missing :
    (((backend (answering ⟨404, []⟩) "logs").get ⟨"acct1/logA"⟩).run ()).result =
      .error (.notFound "no blob stored at acct1/logA") := by
  obtain ⟨hget, -⟩ := result_of_reply (answering ⟨404, []⟩) "logs" ⟨"acct1/logA"⟩ [] ()
  exact ((hget _ () rfl).2.1 _).mpr ⟨⟨rfl, "", rfl⟩, rfl⟩

/-- With a body that is no text, 404 does not say so: it is taken for a fault of the server's. -/
theorem missing_without_text_is_internal :
    (((backend (answering ⟨404, [0xFF]⟩) "logs").get ⟨"acct1/logA"⟩).run ()).result =
      .error (.internal "from utf8: invalid utf-8 sequence of 1 bytes from index 0") := by
  have hflaw : Utf8.flaw? [0xFF] = some ⟨0, .broken 1⟩ := by
    rw [Utf8.flaw?, Utf8.items_cons]
    rfl
  have hgiven : StoreReply.strictly ⟨404, [0xFF]⟩ = .error (.unreadable ⟨0, .broken 1⟩) := by
    rw [StoreReply.strictly, if_neg (by decide), hflaw]
  have hanswer : answering ⟨404, [0xFF]⟩ (getRequest "logs" ⟨"acct1/logA"⟩) () =
      (.ok ⟨404, [0xFF]⟩, ()) := rfl
  rw [run_get, strict_of_answer hanswer, hgiven]
  rfl

end Bucket

end LogVault
