import AioSmtpd.Proofs.Transitions

/-!
# Closing the mail transaction

`smtp_DATA` resets the transaction with `_set_post_data_state` only after `process_message`
returns. When the handler raises, the `except` clause of the loop answers `500 Error` and the
session goes on with the transaction still open, so a second DATA delivers the same envelope
again. When the call returns, the transaction is closed before the next line is read, and no
call follows until a MAIL is answered 250.

`smtp_RCPT` records `rcpt_options` before it checks them, so a RCPT refused with 555 still
changes the keyword arguments of the next delivery.
-/

namespace AioSmtpd

section

variable (E : Env)

/-- After a call that returned, the transaction stays closed and no call is made until a
MAIL is answered 250. -/
theorem returned_call_closes_transaction {xs : List Exchange} {w : World} (h : Run E xs w)
    {pre mid : List Exchange} {x : Exchange} (hs : xs = pre ++ x :: mid)
    (hx : ∃ p ∈ x.calls, p.2.isOk = true)
    (hm : ∀ z ∈ mid, ¬(z.verb = some "MAIL" ∧ answered250 z.replies = true)) :
    w.sess.mailfrom = none ∧ w.sess.rcpttos = [] ∧ ∀ z ∈ mid, z.calls = [] := by
  induction h generalizing mid with
  | start => simp at hs
  | @step xs w w' fuel hrun hf hstep ih =>
    obtain ⟨hss, hmail⟩ := World.step_effect E (hrun.hostnameEncodes E hf) hstep
    rcases snoc_eq_append_cons hs with ⟨rfl, rfl, rfl⟩ | ⟨post, rfl, rfl⟩
    · obtain ⟨p, hp, hok⟩ := hx
      exact ⟨(hss.closed_of_returned E hp hok).1, (hss.closed_of_returned E hp hok).2, by simp⟩
    · obtain ⟨hm₀, hr₀, hpost⟩ := ih rfl fun z hz => hm z (List.mem_append_left _ hz)
      have hlast := hm _ (List.mem_append_right _ (List.mem_singleton_self _))
      have hm' : w'.sess.mailfrom = none := by
        by_contra hne
        exact hlast (hmail hne (by rw [hm₀]; exact hne))
      obtain ⟨hr', hc'⟩ := hss.stays_closed E hm₀ hr₀ hm'
      refine ⟨hm', hr', fun z hz => ?_⟩
      rcases List.mem_append.mp hz with hz | hz
      · exact hpost z hz
      · rw [List.mem_singleton.mp hz]
        exact hc'

end

/-! ## The envelope of every call -/

section

variable (E : Env)

/-- A step keeps "a recipient is recorded only under a non-empty sender" and the peer, and
every call it makes names the peer, a non-empty sender and at least one recipient. -/
lemma SessStep.call_envelope {k : Bool} {s s' : Session} {c c' : ClassState} {cs}
    (h : SessStep E k s c s' c' cs) (hi : s.rcpttos ≠ [] → optTruthy s.mailfrom = true) :
    (s'.rcpttos ≠ [] → optTruthy s'.mailfrom = true) ∧ s'.peer = s.peer ∧
      ∀ p ∈ cs, p.1.peer = s.peer ∧ optTruthy p.1.mailfrom = true ∧ p.1.rcpttos ≠ [] := by
  have hcall : ∀ {call : Call} {r : Except String (Option String)}, s.rcpttos ≠ [] →
      (call.peer = s.peer ∧ call.mailfrom = s.mailfrom ∧ call.rcpttos = s.rcpttos) →
      ∀ p ∈ [(call, r)], p.1.peer = s.peer ∧ optTruthy p.1.mailfrom = true ∧ p.1.rcpttos ≠ [] :=
    fun hr hc p hp => by
      rw [List.mem_singleton.mp hp]
      exact ⟨hc.1, hc.2.1 ▸ hi hr, hc.2.2 ▸ hr⟩
  cases h with
  | keep | mailOptions | rcptOptions => exact ⟨hi, rfl, by simp⟩
  | helo | ehlo | rset | tooMuchData => exact ⟨fun h => absurd rfl h, rfl, by simp⟩
  | mail a toks _ _ ha =>
    have hae : a.isEmpty = false := by rw [← Bool.not_eq_true, String.isEmpty_iff]; exact ha
    exact ⟨fun _ => by simp [optTruthy, hae], rfl, by simp⟩
  | rcpt _ _ _ hm => exact ⟨fun _ => hm, rfl, by simp⟩
  | delivered call st hr hc => exact ⟨fun h => absurd rfl h, rfl, hcall hr hc⟩
  | raised call m hr hc => exact ⟨hi, rfl, hcall hr hc⟩

/-- In every run, whatever the handler returns or raises, every call of `process_message`
names the session's peer, a non-empty sender and at least one recipient: RCPT needs a sender,
and every reset clears the recipients with the sender. -/
theorem Run.calls_envelope {xs : List Exchange} {w : World} (h : Run E xs w) :
    (w.sess.rcpttos ≠ [] → optTruthy w.sess.mailfrom = true) ∧
    ∀ x ∈ xs, ∀ p ∈ x.calls, p.1.peer = w.sess.peer ∧ optTruthy p.1.mailfrom = true ∧ p.1.rcpttos ≠ [] := by
  induction h with
  | start peer stream => simp [Session.init]
  | step fuel hrun hf hstep ih =>
    obtain ⟨hi', hpeer, hcalls⟩ :=
      (World.step_effect E (hrun.hostnameEncodes E hf) hstep).1.call_envelope E ih.1
    refine ⟨hi', fun x hx p hp => ?_⟩
    rw [hpeer]
    rcases List.mem_append.mp hx with hx | hx
    · exact ih.2 x hx p hp
    · rw [List.mem_singleton.mp hx] at hp
      exact hcalls p hp

/-- A client sends DATA twice to a handler that raises, so both calls come from one
transaction. -/
def raisingTwiceSession : List Exchange × World :=
  World.run (sampleEnv dataSizeDefault (Handler.raising "boom")) 3 "p"
    (asciiBytes "HELO c\r\nMAIL FROM:<a@b>\r\nRCPT TO:<d@e>\r\nDATA\r\nhi\r\n.\r\nDATA\r\nhi\r\n.\r\n") 5

theorem Run.calls_envelope_sample :
    (raisingTwiceSession.2.sess.rcpttos ≠ [] → optTruthy raisingTwiceSession.2.sess.mailfrom = true) ∧
    ∀ x ∈ raisingTwiceSession.1, ∀ p ∈ x.calls, p.1.peer = raisingTwiceSession.2.sess.peer ∧
      optTruthy p.1.mailfrom = true ∧ p.1.rcpttos ≠ [] :=
  Run.calls_envelope _ (Run.run _ 3 "p" _ 5)

end

/-- A client greets with HELO, sends one message, then RCPT and DATA again, and quits. -/
def deliverySession (n : Nat) : List Exchange × World :=
  World.run (sampleEnv dataSizeDefault Handler.accepting) 3 "p"
    (asciiBytes "HELO c\r\nMAIL FROM:<a@b>\r\nRCPT TO:<d@e>\r\nDATA\r\nhi\r\n.\r\nRCPT TO:<x@y>\r\nDATA\r\nQUIT\r\n") n

/-- After the delivery, RCPT and DATA are refused with 503 and make no call. -/
theorem returned_call_closes_transaction_sample :
    ((deliverySession 6).1.drop 4).map Exchange.replies =
      [[.str "503 Error: need MAIL command"], [.str "503 Error: need RCPT command"]] ∧
    (deliverySession 6).2.sess.mailfrom = none ∧ (deliverySession 6).2.sess.rcpttos = [] ∧
      ∀ z ∈ (deliverySession 6).1.drop 4, z.calls = [] := by
  have hs : (deliverySession 6).1 = (deliverySession 6).1.take 3 ++
      (deliverySession 6).1.get ⟨3, by decide⟩ :: (deliverySession 6).1.drop 4 := by
    rw [List.get_eq_getElem, ← List.drop_eq_getElem_cons, List.take_append_drop]
  exact ⟨by decide, returned_call_closes_transaction _ (Run.run _ 3 "p" _ 6) hs (by decide) (by decide)⟩

/-- A client sends DATA twice to a handler that raises. -/
def redeliverySession (n : Nat) : List Exchange × World :=
  World.run (sampleEnv dataSizeDefault (Handler.raising "boom")) 3 "p"
    (asciiBytes "HELO c\r\nMAIL FROM:<a@b>\r\nRCPT TO:<d@e>\r\nDATA\r\nhi\r\n.\r\nDATA\r\nhi\r\n.\r\n") n

/-- After the first DATA reached its end-of-data line, the transaction is still open, and the
second DATA delivers the same envelope with no MAIL between the two calls. -/
theorem raising_handler_keeps_transaction :
    (redeliverySession 4).2.sess.mailfrom = some "a@b" ∧
    (redeliverySession 4).2.sess.rcpttos = ["d@e"] ∧
    (redeliverySession 5).1.map Exchange.verb =
      [some "HELO", some "MAIL", some "RCPT", some "DATA", some "DATA"] ∧
    ((redeliverySession 5).2.calls.map fun p => (p.1.mailfrom, p.1.rcpttos, p.2.isOk)) =
      [(some "a@b", ["d@e"], false), (some "a@b", ["d@e"], false)] := by
  decide

/-- A session after EHLO, MAIL and RCPT, sending `extra` before DATA. -/
def optionsSession (extra : String) (n : Nat) : List Exchange × World :=
  World.run (sampleEnv dataSizeDefault Handler.accepting) 3 "p"
    (asciiBytes ("EHLO c\r\nMAIL FROM:<a@b>\r\nRCPT TO:<d@e>\r\n" ++ extra ++ "DATA\r\nhi\r\n.\r\n")) n

/-- A RCPT refused with 555 replaces the `rcpt_options` that the next delivery receives: run
with and without it, the session answers the DATA alike, but `process_message` is called
with other keyword arguments. -/
theorem refused_rcpt_changes_delivery :
    ((optionsSession "RCPT TO:<x@y> FOO=BAR\r\n" 4).1.drop 3).map Exchange.replies =
      [[.str "555 RCPT TO parameters not recognized or not implemented"]] ∧
    ((optionsSession "RCPT TO:<x@y> FOO=BAR\r\n" 5).1.drop 4).map Exchange.replies =
      ((optionsSession "" 4).1.drop 3).map Exchange.replies ∧
    (optionsSession "" 4).2.calls.map (·.1.options) = [some ([], [])] ∧
    (optionsSession "RCPT TO:<x@y> FOO=BAR\r\n" 5).2.calls.map (·.1.options) =
      [some ([], ["FOO=BAR"])] := by
  decide

end AioSmtpd
