import AioSmtpd.Proofs.Walk

/-!
# What each command does to the session

One lemma per command, listing every way it can end from a world: the replies it writes and
the session it leaves. Commands that do not touch the envelope are described by `Quiet`.
The invariants of the later modules are proved from these lemmas alone.
-/

namespace AioSmtpd

/-- A reply with code 250. -/
def StrOrBytes.is250 : StrOrBytes → Bool
  | .str s => s.toList.take 3 == ['2', '5', '0']
  | .bytes b => b.take 3 == [50, 53, 48]

lemma is250_append (s t : String) (h : 3 ≤ s.length) :
    (StrOrBytes.str (s ++ t)).is250 = (StrOrBytes.str s).is250 := by
  simp only [StrOrBytes.is250, String.toList, String.data_append]
  rw [List.take_append_of_le_length h]

/-- `w₁` is `w` with at most one more reply, which is not a 250, and no call or change of the
class's table; what happens to the session is said separately. -/
def Refused (w w₁ : World) : Prop :=
  w₁.calls = w.calls ∧ w₁.cls = w.cls ∧
    (w₁.replies = w.replies ∨ ∃ m, w₁.replies = w.replies ++ [.str m] ∧ (StrOrBytes.str m).is250 = false)

/-- The banner went out, so the codec encodes `hostname`. -/
def Env.HostnameEncodes (E : Env) : Prop := E.cfg.default8bitEncoding.encodesText E.cfg.hostname = true

/-- `w₁` differs from `w` at most in its replies, buffer and cancellation. -/
def Quiet (w w₁ : World) : Prop := w₁.sess = w.sess ∧ w₁.calls = w.calls ∧ w₁.cls = w.cls

lemma Quiet.refl (w : World) : Quiet w w := ⟨rfl, rfl, rfl⟩

section

variable (E : Env)

lemma push_quiet {m : StrOrBytes} {w w₁ : World} (h : (push E m w).world? = some w₁) :
    Quiet w w₁ := by
  rcases push_world E h with rfl | rfl <;> exact ⟨rfl, rfl, rfl⟩

/-- What `smtp_HELO` does from a world: refuse with 501 or 503, or greet. Each branch ends in
one push, which raises the cancel of QUIT when the task has been cancelled. -/
lemma smtpHELO_cases (hn : E.HostnameEncodes) (arg : Arg) (w : World) :
    (argTruthy arg = false ∧ smtpHELO E arg w =
      .written w.cancelled { w with replies := w.replies ++ [.str "501 Syntax: HELO hostname"] }) ∨
    (w.sess.seenGreeting.truthy = true ∧ smtpHELO E arg w =
      .written w.cancelled { w with replies := w.replies ++ [.str "503 Duplicate HELO/EHLO"] }) ∨
    (argTruthy arg = true ∧ w.sess.seenGreeting.truthy = false ∧
      smtpHELO E arg w = .written w.cancelled
        { w with sess := { w.sess.setRsetState with seenGreeting := greetingName (arg.getD []) }
                 replies := w.replies ++ [.str ("250 " ++ E.cfg.hostname)] }) := by
  have h250 : E.cfg.default8bitEncoding.encodesText ("250 " ++ E.cfg.hostname) = true := by
    simp [show E.cfg.default8bitEncoding.encodesText E.cfg.hostname = true from hn,
      E.cfg.default8bitEncoding.encodesText_of_plain (s := "250 ") (by decide)]
  unfold smtpHELO
  cases ha : argTruthy arg
  · simp [ha, push_plain E (s := "501 Syntax: HELO hostname") (by decide)]
  · cases hg : w.sess.seenGreeting.truthy
    · simp [ha, hg, push_encodes E h250]
    · simp [ha, hg, push_plain E (s := "503 Duplicate HELO/EHLO") (by decide)]

/-- The replies of an accepted EHLO. -/
def ehloReplies : List StrOrBytes :=
  [.str ("250-" ++ E.cfg.hostname)] ++
  (if E.cfg.dataSizeLimit ≠ 0 then [.str ("250-SIZE " ++ toString E.cfg.dataSizeLimit)] else []) ++
  (if !E.cfg.decodeData then [.str "250-8BITMIME"] else []) ++
  (if E.cfg.enableSMTPUTF8 then [.str "250-SMTPUTF8"] else []) ++ [.str "250 HELP"]

/-- The class's table after an accepted EHLO. -/
def ehloTable (c : ClassState) : ClassState :=
  let c := if E.cfg.dataSizeLimit ≠ 0 then c.grow "MAIL" 26 else c
  if E.cfg.enableSMTPUTF8 then c.grow "MAIL" 10 else c

/-- What `smtp_EHLO` does from a world: refuse with 501 or 503, or greet, answer with its
capabilities and grow the class's table. Once QUIT has cancelled the task, the greeting raises
at its first reply, before the table grows. -/
lemma smtpEHLO_cases (hn : E.HostnameEncodes) (arg : Arg) (w : World) :
    (argTruthy arg = false ∧ smtpEHLO E arg w =
      .written w.cancelled { w with replies := w.replies ++ [.str "501 Syntax: EHLO hostname"] }) ∨
    (w.sess.seenGreeting.truthy = true ∧ smtpEHLO E arg w =
      .written w.cancelled { w with replies := w.replies ++ [.str "503 Duplicate HELO/EHLO"] }) ∨
    (argTruthy arg = true ∧ w.sess.seenGreeting.truthy = false ∧
      smtpEHLO E arg w = .written w.cancelled
        { w with sess := { w.sess.setRsetState with
                             seenGreeting := greetingName (arg.getD [])
                             extendedSmtp := true }
                 cls := if w.cancelled then w.cls else ehloTable E w.cls
                 replies := w.replies ++
                   if w.cancelled then [.str ("250-" ++ E.cfg.hostname)] else ehloReplies E }) := by
  have h250 : E.cfg.default8bitEncoding.encodesText ("250-" ++ E.cfg.hostname) = true := by
    simp [show E.cfg.default8bitEncoding.encodesText E.cfg.hostname = true from hn,
      E.cfg.default8bitEncoding.encodesText_of_plain (s := "250-") (by decide)]
  have hsize := push_plain E (s := "250-SIZE " ++ toString E.cfg.dataSizeLimit)
    (by simp [plainText_toString]; decide)
  unfold smtpEHLO
  cases ha : argTruthy arg
  · simp [ha, push_plain E (s := "501 Syntax: EHLO hostname") (by decide)]
  · cases hg : w.sess.seenGreeting.truthy
    · refine .inr (.inr ⟨rfl, rfl, ?_⟩)
      cases hc : w.cancelled
      · have h8 := push_plain E (s := "250-8BITMIME") (by decide)
        have hu := push_plain E (s := "250-SMTPUTF8") (by decide)
        have hh := push_plain E (s := "250 HELP") (by decide)
        by_cases h1 : E.cfg.dataSizeLimit = 0 <;> cases h2 : E.cfg.decodeData <;>
          cases h3 : E.cfg.enableSMTPUTF8 <;>
          simp only [ha, hg, hc, h1, h2, h3, push_encodes E h250, hsize, ehloReplies, ehloTable,
            h8, hu, hh, Outcome.written_false, Bool.false_eq_true, Bool.not_false, Bool.not_true,
            Co.bind_apply, Co.get_apply, Co.modifySess_apply, Co.modify_apply, Co.pure_apply, List.append_assoc,
            List.append_nil, List.cons_append, List.singleton_append, ne_eq, not_false_eq_true, not_true_eq_false,
            ↓reduceIte]
      · simp [ha, hg, hc, push_encodes E h250]
    · simp [ha, hg, push_plain E (s := "503 Duplicate HELO/EHLO") (by decide)]

lemma smtpRSET_cases (arg : Arg) (w : World) :
    (argTruthy arg = true ∧
      smtpRSET E arg w = .written w.cancelled { w with replies := w.replies ++ [.str "501 Syntax: RSET"] }) ∨
    (argTruthy arg = false ∧
      smtpRSET E arg w = .written w.cancelled { w with sess := w.sess.setRsetState
                                                       replies := w.replies ++ [.str "250 OK"] }) := by
  unfold smtpRSET
  cases ha : argTruthy arg
  · simp [push_plain E (s := "250 OK") (by decide)]
  · simp [push_plain E (s := "501 Syntax: RSET") (by decide)]

lemma smtpNOOP_quiet {arg : Arg} {w w₁ : World} (h : (smtpNOOP E arg w).world? = some w₁) :
    Quiet w w₁ := by
  unfold smtpNOOP at h
  split at h <;> exact push_quiet E h

lemma smtpQUIT_quiet {arg : Arg} {w w₁ : World} (h : (smtpQUIT E arg w).world? = some w₁) :
    Quiet w w₁ := by
  unfold smtpQUIT at h
  split at h
  · exact push_quiet E h
  · rcases Co.bind_world h with ⟨e, he⟩ | ⟨_, w₂, hp, hm⟩
    · exact push_quiet E (by rw [he]; rfl)
    · cases hm
      exact (push_quiet E (by rw [hp]; rfl) : Quiet w w₂)

lemma smtpHELP_quiet {arg : Arg} {w w₁ : World} (h : (smtpHELP E arg w).world? = some w₁) :
    Quiet w w₁ := by
  simp only [smtpHELP, Co.bind_apply, Co.get_apply, Co.ite_apply] at h
  split at h
  · revert h
    cases helpText w.sess.extendedSmtp (helpArg (arg.getD [])) <;> exact push_quiet E
  · exact push_quiet E h

lemma smtpVRFY_quiet {arg : Arg} {w w₁ : World} (h : (smtpVRFY E arg w).world? = some w₁) :
    Quiet w w₁ := by
  simp only [smtpVRFY, Co.ite_apply] at h
  split at h
  · revert h
    cases decodeArg E (arg.getD []) with
    | bytes raw => exact push_quiet E
    | str a => simp only [Co.ite_apply]; split <;> exact push_quiet E
  · exact push_quiet E h

lemma smtpEXPN_quiet {arg : Arg} {w w₁ : World} (h : (smtpEXPN E arg w).world? = some w₁) :
    Quiet w w₁ :=
  push_quiet E h


/-- No reply of the parameter checks is a 250, given that the syntax error is not. -/
lemma mailParamsCheck_not250 {syn : String} (hsyn : (StrOrBytes.str syn).is250 = false) {d : Params}
    {r : String} (h : mailParamsCheck E syn d = .ok (some r)) : (StrOrBytes.str r).is250 = false := by
  rcases mailParamsCheck_reply E h with rfl | rfl | rfl | rfl | rfl
  · exact hsyn
  all_goals decide

lemma push_refused {m : String} (hm : (StrOrBytes.str m).is250 = false) {w w₁ : World}
    (h : (push E (.str m) w).world? = some w₁) : Refused w w₁ ∧ w₁.sess = w.sess := by
  rcases push_world E h with rfl | rfl
  · exact ⟨⟨rfl, rfl, .inl rfl⟩, rfl⟩
  · exact ⟨⟨rfl, rfl, .inr ⟨m, rfl, hm⟩⟩, rfl⟩

/-- A refusal by one reply leaves the session alone, whatever else a command may do. -/
lemma push_refused_keep {m : String} (hm : (StrOrBytes.str m).is250 = false) {w w₁ : World}
    (h : (push E (.str m) w).world? = some w₁) {Q : Prop} : Refused w w₁ ∧ (w₁.sess = w.sess ∨ Q) :=
  ⟨(push_refused E hm h).1, .inl (push_refused E hm h).2⟩

/-- The address and the uppercased parameter tokens that a MAIL or RCPT argument names after
its keyword; `none` when the argument is missing, not text, or does not parse. -/
def commandArg (keyword : String) (arg : Arg) : Option (String × List String) :=
  match arg.map (decodeArg E) with
  | some (.str a) =>
    match getaddr E (stripCommandKeyword E keyword a) with
    | .ok (address, params) => some (address, strSplit (E.lib.upper params))
    | .error _ => none
  | _ => none

lemma mailSyntaxErr_not250 (b : Bool) :
    (StrOrBytes.str ("501 Syntax: MAIL FROM: <address>" ++ if b then " [SP <mail-parameters>]" else "")).is250 = false := by
  rw [is250_append _ _ (by decide)]; decide

/-- What `smtp_MAIL` can do: refuse, by a reply that is not a 250 or by raising, leaving the
session alone or, when no sender is set, recording only `mail_options`; or accept the sender
its argument names and answer `250 OK`. -/
lemma smtpMAIL_cases (arg : Arg) (w : World) {w₁ : World} (h : (smtpMAIL E arg w).world? = some w₁) :
    (Refused w w₁ ∧ (w₁.sess = w.sess ∨
      optTruthy w.sess.mailfrom = false ∧ ∃ toks, w₁.sess = { w.sess with mailOptions := some toks })) ∨
    (w.sess.seenGreeting.truthy = true ∧ optTruthy w.sess.mailfrom = false ∧
      ∃ a toks, commandArg E "FROM:" arg = some (a, toks) ∧ a ≠ "" ∧
        w₁ = { w with sess := { w.sess with mailOptions := some toks, mailfrom := some a }
                      replies := w.replies ++ [.str "250 OK"] }) := by
  have hsyn := mailSyntaxErr_not250 w.sess.extendedSmtp
  simp only [smtpMAIL, Co.bind_apply, Co.get_apply, Co.ite_apply] at h
  generalize ("501 Syntax: MAIL FROM: <address>" ++
    if w.sess.extendedSmtp = true then " [SP <mail-parameters>]" else "") = syn at h hsyn
  split at h
  · exact .inl (push_refused_keep E (by decide) h)
  · rename_i hg
    revert h
    cases hd : arg.map (decodeArg E) with
    | none => exact fun h => .inl (push_refused_keep E hsyn h)
    | some v =>
      cases v with
      | bytes b => exact fun h => .inl (push_refused_keep E hsyn h)
      | str a =>
        intro h
        dsimp only at h
        revert h
        cases hga : getaddr E (stripCommandKeyword E "FROM:" a) with
        | error e => intro h; cases h; exact .inl ⟨⟨rfl, rfl, .inl rfl⟩, .inl rfl⟩
        | ok p =>
          obtain ⟨address, params⟩ := p
          intro h
          simp only [Co.ite_apply] at h
          split at h
          · exact .inl (push_refused_keep E hsyn h)
          split at h
          · exact .inl (push_refused_keep E hsyn h)
          split at h
          · exact .inl (push_refused_keep E (by decide) h)
          rename_i hae _ hmf
          have hopt : optTruthy w.sess.mailfrom = false := by simpa using hmf
          simp only [Co.bind_apply, Co.modifySess_apply] at h
          revert h
          cases hp : getparams E (strSplit (E.lib.upper params)) with
          | none =>
            intro h
            exact .inl ⟨(push_refused E hsyn h).1, .inr ⟨hopt, _, (push_refused E hsyn h).2⟩⟩
          | some d =>
            intro h
            dsimp only at h
            revert h
            cases hc : mailParamsCheck E syn d with
            | error e =>
              intro h; cases h
              exact .inl ⟨⟨rfl, rfl, .inl rfl⟩, .inr ⟨hopt, _, rfl⟩⟩
            | ok r =>
              cases r with
              | some reply =>
                intro h
                have hr := mailParamsCheck_not250 E hsyn hc
                exact .inl ⟨(push_refused E hr h).1, .inr ⟨hopt, _, (push_refused E hr h).2⟩⟩
              | none =>
                intro h
                simp only [Co.bind_apply, Co.modifySess_apply, push_plain E (s := "250 OK") (by decide),
                  Outcome.world?_written, Option.some.injEq] at h
                refine .inr ⟨by simpa using hg, hopt, address, _, ?_, ?_, h.symm⟩
                · simp [commandArg, hd, hga]
                · rintro rfl; exact hae rfl

lemma rcptSyntaxErr_not250 (b : Bool) :
    (StrOrBytes.str ("501 Syntax: RCPT TO: <address>" ++
      if b then " [SP <mail-parameters>]" else "")).is250 = false := by
  rw [is250_append _ _ (by decide)]; decide

/-- What `smtp_RCPT` can do: refuse, by a reply that is not a 250 or by raising, leaving the
session alone or, when a sender is set, recording only `rcpt_options`; or accept the
recipient its argument names, append it to `rcpttos` and answer `250 OK`. -/
lemma smtpRCPT_cases (arg : Arg) (w : World) {w₁ : World} (h : (smtpRCPT E arg w).world? = some w₁) :
    (Refused w w₁ ∧ (w₁.sess = w.sess ∨
      optTruthy w.sess.mailfrom = true ∧ ∃ toks, w₁.sess = { w.sess with rcptOptions := some toks })) ∨
    (w.sess.seenGreeting.truthy = true ∧ optTruthy w.sess.mailfrom = true ∧
      ∃ a toks, commandArg E "TO:" arg = some (a, toks) ∧
        w₁ = { w with sess := { w.sess with rcptOptions := some toks, rcpttos := w.sess.rcpttos ++ [a] }
                      replies := w.replies ++ [.str "250 OK"] }) := by
  have hsyn := rcptSyntaxErr_not250 w.sess.extendedSmtp
  simp only [smtpRCPT, Co.bind_apply, Co.get_apply, Co.ite_apply] at h
  generalize ("501 Syntax: RCPT TO: <address>" ++
    if w.sess.extendedSmtp = true then " [SP <mail-parameters>]" else "") = syn at h hsyn
  split at h
  · exact .inl (push_refused_keep E (by decide) h)
  rename_i hg
  split at h
  · exact .inl (push_refused_keep E (by decide) h)
  rename_i hmf
  have hopt : optTruthy w.sess.mailfrom = true := by simpa using hmf
  revert h
  cases hd : arg.map (decodeArg E) with
  | none => exact fun h => .inl (push_refused_keep E hsyn h)
  | some v =>
    cases v with
    | bytes b => exact fun h => .inl (push_refused_keep E hsyn h)
    | str a =>
      intro h
      dsimp only at h
      revert h
      cases hga : getaddr E (stripCommandKeyword E "TO:" a) with
      | error e => intro h; cases h; exact .inl ⟨⟨rfl, rfl, .inl rfl⟩, .inl rfl⟩
      | ok p =>
        obtain ⟨address, params⟩ := p
        intro h
        simp only [Co.ite_apply] at h
        split at h
        · exact .inl (push_refused_keep E hsyn h)
        split at h
        · exact .inl (push_refused_keep E hsyn h)
        simp only [Co.bind_apply, Co.modifySess_apply] at h
        revert h
        cases hp : getparams E (strSplit (E.lib.upper params)) with
        | none =>
          intro h
          exact .inl ⟨(push_refused E hsyn h).1, .inr ⟨hopt, _, (push_refused E hsyn h).2⟩⟩
        | some d =>
          intro h
          dsimp only at h
          simp only [Co.ite_apply] at h
          split at h
          · exact .inl ⟨(push_refused E (by decide) h).1, .inr ⟨hopt, _, (push_refused E (by decide) h).2⟩⟩
          simp only [Co.bind_apply, Co.modifySess_apply, push_plain E (s := "250 OK") (by decide),
            Outcome.world?_written, Option.some.injEq] at h
          exact .inr ⟨by simpa using hg, hopt, address, _, by simp [commandArg, hd, hga], h.symm⟩

/-- `w₁` is `w` with the reader moved. -/
def OnlyBuffer (w w₁ : World) : Prop := w₁ = { w with buffer := w₁.buffer }

lemma OnlyBuffer.trans {w w' w₁ : World} (h₁ : OnlyBuffer w w') (h₂ : OnlyBuffer w' w₁) :
    OnlyBuffer w w₁ := by
  unfold OnlyBuffer at *
  rw [h₂, h₁]

lemma OnlyBuffer.sess {w w₁ : World} (h : OnlyBuffer w w₁) : w₁.sess = w.sess := by rw [h]

lemma OnlyBuffer.calls {w w₁ : World} (h : OnlyBuffer w w₁) : w₁.calls = w.calls := by rw [h]

lemma OnlyBuffer.replies {w w₁ : World} (h : OnlyBuffer w w₁) : w₁.replies = w.replies := by rw [h]

lemma OnlyBuffer.cls {w w₁ : World} (h : OnlyBuffer w w₁) : w₁.cls = w.cls := by rw [h]

lemma readline_frame {w w₁ : World} (h : (readline w).world? = some w₁) : OnlyBuffer w w₁ := by
  unfold readline at h
  split at h <;> cases h <;> rfl

/-- The read loop only moves the reader. -/
lemma dataLoop_frame : ∀ (fuel : Nat) (acc : DataAcc) (w : World) {w₁ : World},
    (dataLoop E fuel acc w).world? = some w₁ → OnlyBuffer w w₁
  | 0, _, _, _, h => by cases h
  | fuel + 1, acc, w, w₁, h => by
    rcases hr : readline w with ⟨line, w'⟩ | ⟨e, w'⟩ | _
    · have hw' := @readline_frame w w' (by rw [hr]; rfl)
      rw [dataLoop_read E hr] at h
      split at h
      · cases h; exact hw'
      · exact hw'.trans (dataLoop_frame fuel _ _ h)
    · simp only [dataLoop, Co.bind_apply, hr] at h
      cases h
      exact readline_frame (by rw [hr]; rfl)
    · simp [dataLoop, hr] at h

lemma processMessage_eq (c : Call) (w : World) :
    processMessage E c w =
      match E.handler.processMessage (w.calls.map Prod.fst) c with
      | .ok st => .ret st { w with calls := w.calls ++ [(c, .ok st)] }
      | .error m => .exc (.raised m) { w with calls := w.calls ++ [(c, .error m)] } := by
  unfold processMessage
  split <;> simp [*]

/-- How the DATA command ends after its read loop, in a task QUIT has not cancelled: the 552
reply and the reset; a raise before any call; or one `process_message` call, followed by the
reset and at most one reply when the call returned. -/
lemma dataFinish_cases (acc : DataAcc) {w : World} (hc : w.cancelled = false) {w₁ : World}
    (h : (dataFinish E acc w).world? = some w₁) :
    w₁ = { w with sess := w.sess.setPostDataState
                  replies := w.replies ++ [.str "552 Error: Too much mail data"] } ∨
    w₁ = w ∨
    ∃ opts r, w₁.calls = w.calls ++ [(dataCall E acc w.sess opts, r)] ∧ w₁.cls = w.cls ∧
      (match r with
        | .ok _ => w₁.sess = w.sess.setPostDataState ∧
            (w₁.replies = w.replies ∨ ∃ m, w₁.replies = w.replies ++ [m])
        | .error _ => w₁.sess = w.sess ∧ w₁.replies = w.replies) := by
  cases hx : acc.sizeExceeded
  · rcases dataOptions_cases E w.sess w with ⟨o, ho⟩ | ⟨e, he⟩
    · right; right
      rw [dataFinish_deliver E hx ho, Co.bind_apply, processMessage_eq] at h
      cases hr : E.handler.processMessage (w.calls.map Prod.fst) (dataCall E acc w.sess o) with
      | ok st =>
        refine ⟨o, .ok st, ?_⟩
        simp only [hr, Co.bind_apply, Co.modifySess_apply] at h
        rcases pushStatus_cases E st
            { w with calls := w.calls ++ [(dataCall E acc w.sess o, .ok st)],
                     sess := w.sess.setPostDataState } with ⟨m, hm | ⟨e, hm⟩⟩ <;>
          simp only [hm, Outcome.world?_written, Outcome.world?_exc, Option.some.injEq] at h <;> subst h
        · exact ⟨rfl, rfl, rfl, .inr ⟨m, rfl⟩⟩
        · exact ⟨rfl, rfl, rfl, .inl rfl⟩
      | error m =>
        refine ⟨o, .error m, ?_⟩
        simp only [hr] at h
        cases h
        exact ⟨rfl, rfl, rfl, rfl⟩
    · simp only [dataFinish, hx, Bool.false_eq_true, if_false, Co.bind_apply, Co.get_apply, he] at h
      cases h
      exact .inr (.inl rfl)
  · rw [dataFinish_exceeded E hx hc] at h
    cases h
    exact .inl rfl

/-- What `smtp_DATA` can do: refuse before its 354 reply; answer 354 and stop there, by a
raise of the read loop or a missing keyword argument; answer 354 and 552 and reset the
transaction; or answer 354 and make one `process_message` call with the session's envelope,
resetting the transaction when the call returns. -/
lemma smtpDATA_cases (fuel : Nat) (arg : Arg) (w : World) {w₁ : World}
    (h : (smtpDATA E fuel arg w).world? = some w₁) :
    w₁.cls = w.cls ∧
    ((Refused w w₁ ∧ w₁.sess = w.sess) ∨
     (w₁.sess = w.sess ∧ w₁.calls = w.calls ∧
        w₁.replies = w.replies ++ [.str "354 End data with <CR><LF>.<CR><LF>"]) ∨
     (w₁.sess = w.sess.setPostDataState ∧ w₁.calls = w.calls ∧
        w₁.replies = w.replies ++ [.str "354 End data with <CR><LF>.<CR><LF>",
          .str "552 Error: Too much mail data"]) ∨
     (w.sess.rcpttos ≠ [] ∧ ∃ c r, w₁.calls = w.calls ++ [(c, r)] ∧ c.peer = w.sess.peer ∧
        c.mailfrom = w.sess.mailfrom ∧ c.rcpttos = w.sess.rcpttos ∧
        (∃ rs, w₁.replies = w.replies ++ .str "354 End data with <CR><LF>.<CR><LF>" :: rs ∧
          rs.length ≤ 1) ∧
        (match r with
          | .ok _ => w₁.sess = w.sess.setPostDataState
          | .error _ => w₁.sess = w.sess))) := by
  simp only [smtpDATA, Co.bind_apply, Co.get_apply, Co.ite_apply] at h
  split at h
  · have hr := push_refused E (m := "503 Error: send HELO first") (by decide) h
    exact ⟨hr.1.2.1, .inl hr⟩
  split at h
  · have hr := push_refused E (m := "503 Error: need RCPT command") (by decide) h
    exact ⟨hr.1.2.1, .inl hr⟩
  split at h
  · have hr := push_refused E (m := "501 Syntax: DATA") (by decide) h
    exact ⟨hr.1.2.1, .inl hr⟩
  rename_i _ hrc _
  rw [push_plain E (s := "354 End data with <CR><LF>.<CR><LF>") (by decide)] at h
  rcases Bool.eq_false_or_eq_true w.cancelled with hc | hc
  · rw [Outcome.written_of_true hc] at h
    cases h
    exact ⟨rfl, .inr (.inl ⟨rfl, rfl, rfl⟩)⟩
  rw [Outcome.written_of_false hc] at h
  dsimp only at h
  rcases hl : dataLoop E fuel DataAcc.init
      { w with replies := w.replies ++ [.str "354 End data with <CR><LF>.<CR><LF>"] } with
    ⟨acc, w₄⟩ | ⟨e, w₄⟩ | _ <;> rw [hl] at h
  · have hf := @dataLoop_frame E fuel _ _ w₄ (by rw [hl]; rfl)
    rcases dataFinish_cases E acc (w := w₄) (by rw [hf]; exact hc) h with
      rfl | rfl | ⟨opts, r, hcalls, hcls, hr⟩
    · exact ⟨hf.cls, .inr (.inr (.inl ⟨by rw [hf.sess], hf.calls, by simp [hf.replies]⟩))⟩
    · exact ⟨hf.cls, .inr (.inl ⟨hf.sess, hf.calls, hf.replies⟩)⟩
    · refine ⟨hcls.trans hf.cls, .inr (.inr (.inr ⟨by simpa using hrc, _, r, by rw [hcalls, hf.calls],
        by simp [dataCall, hf.sess], by simp [dataCall, hf.sess], by simp [dataCall, hf.sess], ?_⟩))⟩
      cases r with
      | ok st =>
        obtain ⟨hs, hrp⟩ := hr
        refine ⟨?_, by rw [hs, hf.sess]⟩
        rcases hrp with hrp | ⟨m, hrp⟩
        · exact ⟨[], by simp [hrp, hf.replies], by simp⟩
        · exact ⟨[m], by simp [hrp, hf.replies], by simp⟩
      | error m =>
        obtain ⟨hs, hrp⟩ := hr
        exact ⟨⟨[], by simp [hrp, hf.replies], by simp⟩, by rw [hs, hf.sess]⟩
  · cases h
    have hf := @dataLoop_frame E fuel _ _ w₁ (by rw [hl]; rfl)
    exact ⟨hf.cls, .inr (.inl ⟨hf.sess, hf.calls, hf.replies⟩)⟩
  · cases h

/-! ## The session loop -/

/-- The replies the `except` clause adds: none, or its `500 Error` reply. -/
def CatchReplies (r : List StrOrBytes) : Prop := r = [] ∨ ∃ m, r = [.str ("500 Error: " ++ m)]

lemma notRecognized_not250 (command : String) :
    (StrOrBytes.str ("500 Error: command \"" ++ command ++ "\" not recognized")).is250 = false := by
  rw [is250_append _ _ (by rw [String.length_append]; exact Nat.le_add_right_of_le (by decide)),
    is250_append _ _ (by decide)]
  decide

/-- The `try` body either refuses the line itself, by a reply that is not a 250 or by raising,
or runs the command its verb names. -/
lemma handleLine_cases (fuel : Nat) (raw : Bytes) (w : World) {w₁ : World}
    (h : (handleLine E fuel raw w).world? = some w₁) :
    (Refused w w₁ ∧ w₁.sess = w.sess) ∨
    ∃ command method, ascii.decode (bytesUpper (splitCommand (rstripCRLF raw)).1) = .ok command ∧
      dispatch E fuel command = some method ∧
      (method (splitCommand (rstripCRLF raw)).2 w).world? = some w₁ := by
  simp only [handleLine, Co.ite_apply] at h
  split at h
  · exact .inl (push_refused E (by decide) h)
  revert h
  cases hc : ascii.decode (bytesUpper (splitCommand (rstripCRLF raw)).1) with
  | error e => intro h; cases h; exact .inl ⟨⟨rfl, rfl, .inl rfl⟩, rfl⟩
  | ok command =>
    intro h
    simp only [Co.bind_apply, Co.get_apply, Co.ite_apply] at h
    split at h
    · exact .inl (push_refused E (by decide) h)
    revert h
    cases hd : dispatch E fuel command with
    | none => exact fun h => .inl (push_refused E (notRecognized_not250 command) h)
    | some method => exact fun h => .inr ⟨command, method, rfl, hd, h⟩

/-- The `except Exception` clause adds at most its `500 Error` reply and leaves the session
alone. -/
lemma catchAll_quiet (e : Exc) (w : World) {w₁ : World} (h : (catchAll E e w).world? = some w₁) :
    Quiet w w₁ ∧ ∃ r, CatchReplies r ∧ w₁.replies = w.replies ++ r := by
  have hpush : ∀ {w₁}, (push E (.str ("500 Error: " ++ e.message)) w).world? = some w₁ →
      Quiet w w₁ ∧ ∃ r, CatchReplies r ∧ w₁.replies = w.replies ++ r := fun h => by
    rcases push_world E h with rfl | rfl
    · exact ⟨Quiet.refl _, [], .inl rfl, by simp⟩
    · exact ⟨⟨rfl, rfl, rfl⟩, _, .inr ⟨_, rfl⟩, rfl⟩
  unfold catchAll at h
  rcases Co.bind_world h with ⟨e', he⟩ | ⟨_, w₂, hp, hh⟩
  · exact hpush (by rw [he]; rfl)
  · obtain rfl : w₁ = w₂ := by
      rcases handleException_cases E e w₂ with h' | ⟨_, h'⟩ <;> rw [h'] at hh <;> simpa using hh.symm
    exact hpush (by rw [hp]; rfl)

/-- One pass of the loop either reads no command line and writes nothing (the read raised, or
the line did not end in CRLF), or runs the `try` body on a line ending in CRLF, followed by the
`except` clause when the body raised. -/
theorem World.step_cases {fuel : Nat} {w w' : World} (h : World.step E fuel w = some w') :
    (Quiet w w' ∧ w'.replies = w.replies) ∨
    ∃ line rest w₁, streamReadline w.buffer = (.ok line, rest) ∧ endsWithCRLF line = true ∧
      (handleLine E fuel line { w with buffer := rest }).world? = some w₁ ∧ Quiet w₁ w' ∧
      ∃ r, CatchReplies r ∧ w'.replies = w₁.replies ++ r := by
  obtain ⟨w'', hw'', hq, hr⟩ : ∃ w'', (clientStep E fuel w).world? = some w'' ∧ Quiet w'' w' ∧
      w'.replies = w''.replies := by
    unfold World.step at h
    rcases hc : clientStep E fuel w with ⟨a, w₀⟩ | ⟨e, w₀⟩ | _ <;> rw [hc] at h
    · cases a <;> cases h <;> exact ⟨_, rfl, ⟨rfl, rfl, rfl⟩, rfl⟩
    · cases h; exact ⟨_, rfl, ⟨rfl, rfl, rfl⟩, rfl⟩
    · cases h
  have hq' : ∀ {w₀ w₁ : World}, Quiet w₀ w₁ → Quiet w₁ w' → Quiet w₀ w' := fun h₁ h₂ =>
    ⟨h₂.1.trans h₁.1, h₂.2.1.trans h₁.2.1, h₂.2.2.trans h₁.2.2⟩
  simp only [clientStep, Co.bind_apply, readline] at hw''
  revert hw''
  rcases hs : streamReadline w.buffer with ⟨_ | line, rest⟩
  · intro hw''; cases hw''; exact .inl ⟨hq, hr⟩
  · intro hw''
    dsimp only at hw''
    split at hw''
    · split at hw''
      · rcases handleException_cases E (.incompleteRead line) { w with buffer := rest }
          with hh | ⟨e, hh⟩ <;> simp only [Co.bind_apply, hh, Co.pure_apply] at hw'' <;> cases hw'' <;>
          exact .inl ⟨hq, hr⟩
      · cases hw''; exact .inl ⟨hq, hr⟩
    · rename_i hcrlf
      simp only [Co.bind_apply, Co.tryCatch, Co.pure_apply] at hw''
      refine .inr ⟨line, rest, ?_⟩
      rcases hl : handleLine E fuel line { w with buffer := rest } with ⟨_, w₁⟩ | ⟨e, w₁⟩ | _ <;>
        rw [hl] at hw''
      · cases hw''
        exact ⟨w'', rfl, by simpa using hcrlf, rfl, hq, [], .inl rfl, by simp [hr]⟩
      · obtain ⟨hq₁, hr₁⟩ : Quiet w₁ w'' ∧ ∃ r, CatchReplies r ∧ w''.replies = w₁.replies ++ r := by
          dsimp only at hw''
          rcases hca : catchAll E e w₁ with ⟨_, w₂⟩ | ⟨e', w₂⟩ | _ <;> rw [hca] at hw'' <;>
            cases hw'' <;> exact catchAll_quiet E e w₁ (by rw [hca]; rfl)
        refine ⟨w₁, rfl, by simpa using hcrlf, rfl, hq' hq₁ hq, ?_⟩
        rw [hr]; exact hr₁
      · cases hw''

end

/-- `sampleEnv` with `default_8bit_encoding='ascii'`. -/
def asciiEnv : Env :=
  ⟨SMTP, { Config.default "mx" with default8bitEncoding := ascii }, Stdlib.plain, Handler.accepting⟩

/-- Two passes of the loop that break what the loop is meant to guarantee. Under the default
latin-1 encoding, a handler exception whose message latin-1 cannot encode makes the `except`
clause's own push raise: the exception leaves the loop, and the session ends with only the
354 reply written. Under an ASCII `default_8bit_encoding`, VRFY echoes an argument that
neither UTF-8 nor ASCII decodes as a `bytes` reply, which push writes without CRLF. -/
theorem except_clause_escapes :
    (World.step (sampleEnv dataSizeDefault (Handler.raising "\u20ac")) 3
        (sampleWorld (asciiBytes "DATA\r\nhi\r\n.\r\nNOOP\r\n"))).map (fun w => (w.finished, w.replies)) =
      some (true, [.str "354 End data with <CR><LF>.<CR><LF>"]) ∧
    (World.step asciiEnv 3 (sampleWorld (asciiBytes "VRFY " ++ [255, 13, 10]))).map (·.replies) =
      some [.bytes (asciiBytes "502 Could not VRFY " ++ [255])] := by
  decide

end AioSmtpd
