import AioSmtpd.Proofs.Params
import AioSmtpd.Proofs.LineLimits

/-!
# When MAIL is answered 250

After EHLO, with no sender set, a MAIL whose argument names an address is accepted exactly
when `_getparams` accepts its uppercased tokens and the dictionary passes the checks of
`smtp_MAIL` (`MailParamsOk`). Acceptance records the tokens and the sender and nothing else,
so `require_SMTPUTF8` keeps its value even when SMTPUTF8 was given. Every other outcome is a
refusal.
-/

namespace AioSmtpd

section

variable (E : Env)

/-- After EHLO with no sender set, a MAIL whose argument decodes to text and whose address
`_getaddr` accepts is answered `250 OK`, recording its parameter tokens and its sender and
nothing else, when its parameters pass `_getparams` and `MailParamsOk`; otherwise it is
refused: no 250 reply and no call of the handler. -/
theorem mail_answer_by_params (arg : Arg) (w : World) {a address params : String}
    (hc : w.cancelled = false) (hg : w.sess.seenGreeting.truthy = true) (hx : w.sess.extendedSmtp = true)
    (hm : optTruthy w.sess.mailfrom = false) (ha : arg.map (decodeArg E) = some (.str a))
    (hp : getaddr E (stripCommandKeyword E "FROM:" a) = .ok (address, params)) (hne : address ≠ "") :
    ((∃ d, getparams E (strSplit (E.lib.upper params)) = some d ∧ MailParamsOk E d) →
      smtpMAIL E arg w = .ret () { w with
        sess := { w.sess with mailOptions := some (strSplit (E.lib.upper params)), mailfrom := some address }
        replies := w.replies ++ [.str "250 OK"] }) ∧
    (¬(∃ d, getparams E (strSplit (E.lib.upper params)) = some d ∧ MailParamsOk E d) →
      ∀ w₁, (smtpMAIL E arg w).world? = some w₁ → Refused w w₁) := by
  have hae : address.isEmpty = false := by rw [← Bool.not_eq_true, String.isEmpty_iff]; exact hne
  have hsyn : (StrOrBytes.str ("501 Syntax: MAIL FROM: <address>" ++ " [SP <mail-parameters>]")).is250 = false :=
    mailSyntaxErr_not250 true
  simp only [smtpMAIL, Co.bind_apply, Co.get_apply, Co.ite_apply, hg, hx, hm, ha, hp, hae, Bool.not_true,
    Bool.false_and, Bool.false_eq_true, ↓reduceIte, Co.modifySess_apply]
  generalize "501 Syntax: MAIL FROM: <address>" ++ " [SP <mail-parameters>]" = syn at hsyn ⊢
  generalize strSplit (E.lib.upper params) = toks
  constructor
  · rintro ⟨d, hd, hok⟩
    simp only [hd, (mailParamsCheck_ok_none_iff E syn d).mpr hok, Co.bind_apply, Co.modifySess_apply,
      push_plain E (s := "250 OK") (by decide), Outcome.written_of_false hc]
  · intro hno w₁ h
    cases hgp : getparams E toks with
    | none =>
      simp only [hgp] at h
      exact (push_refused E hsyn h).1
    | some d =>
      simp only [hgp] at h
      revert h
      cases hc : mailParamsCheck E syn d with
      | error e => intro h; cases h; exact ⟨rfl, rfl, .inl rfl⟩
      | ok r =>
        cases r with
        | some r => exact fun h => (push_refused E (mailParamsCheck_not250 E hsyn hc) h).1
        | none => exact absurd ⟨d, hgp, (mailParamsCheck_ok_none_iff E syn d).mp hc⟩ hno

end

theorem mail_answer_by_params_sample :
    ((∃ d, getparams (sampleEnv dataSizeDefault Handler.accepting) (strSplit (Stdlib.plain.upper " SIZE=10")) =
        some d ∧ MailParamsOk (sampleEnv dataSizeDefault Handler.accepting) d) →
      smtpMAIL (sampleEnv dataSizeDefault Handler.accepting) (some (asciiBytes "FROM:<a@b> SIZE=10"))
          ehloSession.2 =
        .ret () { ehloSession.2 with
          sess := { ehloSession.2.sess with
            mailOptions := some (strSplit (Stdlib.plain.upper " SIZE=10")), mailfrom := some "a@b" }
          replies := ehloSession.2.replies ++ [.str "250 OK"] }) ∧
    (¬(∃ d, getparams (sampleEnv dataSizeDefault Handler.accepting) (strSplit (Stdlib.plain.upper " SIZE=10")) =
        some d ∧ MailParamsOk (sampleEnv dataSizeDefault Handler.accepting) d) →
      ∀ w₁, (smtpMAIL (sampleEnv dataSizeDefault Handler.accepting) (some (asciiBytes "FROM:<a@b> SIZE=10"))
          ehloSession.2).world? = some w₁ → Refused ehloSession.2 w₁) :=
  mail_answer_by_params _ _ _ (a := "FROM:<a@b> SIZE=10") (by decide) (by decide) (by decide) (by decide)
    (by decide) rfl (by decide)

/-- A server with SMTPUTF8 enabled. -/
def utf8Env : Env :=
  ⟨SMTP, { Config.default "mx" with enableSMTPUTF8 := true, not_decode_and_utf8 := by decide }, Stdlib.plain,
    Handler.accepting⟩

/-- MAIL with SMTPUTF8 does not make the session require it: with SMTPUTF8 enabled, EHLO
advertises it and `MAIL FROM:<a@b> SMTPUTF8` is answered `250 OK`, yet `require_SMTPUTF8` is
still false afterwards. MAIL also accepts what EHLO did not advertise: with
`data_size_limit = 0` the EHLO reply has no SIZE line and `SIZE=10` is accepted, and a SIZE of
21 digits is accepted. -/
theorem mail_never_requires_smtputf8 :
    (World.run utf8Env 3 "p" (asciiBytes "EHLO c\r\nMAIL FROM:<a@b> SMTPUTF8\r\n") 2).1.map Exchange.replies =
      [[.str "250-mx", .str "250-SIZE 33554432", .str "250-8BITMIME", .str "250-SMTPUTF8", .str "250 HELP"],
        [.str "250 OK"]] ∧
    (World.run utf8Env 3 "p" (asciiBytes "EHLO c\r\nMAIL FROM:<a@b> SMTPUTF8\r\n") 2).2.sess.requireSMTPUTF8 =
      false ∧
    (World.run (sampleEnv 0 Handler.accepting) 3 "p"
      (asciiBytes "EHLO c\r\nMAIL FROM:<a@b> SIZE=10\r\n") 2).1.map Exchange.replies =
      [[.str "250-mx", .str "250-8BITMIME", .str "250 HELP"], [.str "250 OK"]] ∧
    ((World.run (sampleEnv dataSizeDefault Handler.accepting) 3 "p"
      (asciiBytes "EHLO c\r\nMAIL FROM:<a@b> SIZE=000000000000000000010\r\n") 2).1.map Exchange.replies).drop 1 =
      [[.str "250 OK"]] := by
  decide

end AioSmtpd
