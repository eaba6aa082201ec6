import AioSmtpd.Proofs.Runs

/-!
# The envelope across a session

`Envelope.of` reads a run's exchanges the way a client sees them: which greetings were
answered 250, the MAIL answered 250 since the last greeting, RSET answered 250 or end of DATA,
and the RCPT commands answered 250 since. `EnvelopeInv` says that the session's attributes
are what these exchanges show; every pass of the loop keeps it, so it holds at every point of
every run in which `process_message` never raises, and every `process_message` call receives
the sender and the recipients of the open transaction.
-/

namespace AioSmtpd

/-- The replies `354` then `552` of a DATA over the size limit. -/
def tooMuchData : List StrOrBytes :=
  [.str "354 End data with <CR><LF>.<CR><LF>", .str "552 Error: Too much mail data"]

/-- A DATA phase reached its end-of-data line: `process_message` was called, or DATA
answered 552 after 354. -/
def Exchange.dataEnded (x : Exchange) : Bool := !x.calls.isEmpty || decide (x.replies.take 2 = tooMuchData)

/-- What the exchanges of a session show: the greetings answered 250 (`true` for EHLO), the
address and parameter tokens of the MAIL answered 250 since the latest greeting, RSET
answered 250 or end of DATA, and the addresses of the RCPT commands answered 250 since. -/
structure Envelope where
  greetings : List Bool
  sender : Option (String × List String)
  rcpts : List String

def Envelope.init : Envelope := ⟨[], none, []⟩

/-- What one exchange changes in the envelope. -/
def Envelope.step (E : Env) (v : Envelope) (x : Exchange) : Envelope :=
  match x.verb with
  | some "HELO" => if answered250 x.replies then ⟨v.greetings ++ [false], none, []⟩ else v
  | some "EHLO" => if answered250 x.replies then ⟨v.greetings ++ [true], none, []⟩ else v
  | some "MAIL" => if answered250 x.replies then ⟨v.greetings, commandArg E "FROM:" x.arg, []⟩ else v
  | some "RCPT" =>
    if answered250 x.replies then
      { v with rcpts := v.rcpts ++ ((commandArg E "TO:" x.arg).map Prod.fst).toList }
    else v
  | some "RSET" => if answered250 x.replies then { v with sender := none, rcpts := [] } else v
  | some "DATA" => if x.dataEnded then { v with sender := none, rcpts := [] } else v
  | _ => v

/-- The envelope a run's exchanges show. -/
def Envelope.of (E : Env) (xs : List Exchange) : Envelope := xs.foldl (Envelope.step E) Envelope.init

lemma catch_ne_552 (m : String) : "500 Error: " ++ m ≠ "552 Error: Too much mail data" := by
  intro h
  have h2 := congrArg (fun s : String => s.toList.take 2) h
  simp only [String.toList, String.data_append] at h2
  rw [List.take_append_of_le_length (by decide)] at h2
  exact absurd h2 (by decide)

/-- The `except` clause's reply never makes a DATA look answered 354 and 552. -/
lemma take2_catch {r e : List StrOrBytes} (he : CatchReplies e) :
    (r ++ e).take 2 = tooMuchData ↔ r.take 2 = tooMuchData := by
  rcases r with _ | ⟨a, _ | ⟨b, r⟩⟩
  · rcases he with rfl | ⟨m, rfl⟩ <;> simp [tooMuchData]
  · rcases he with rfl | ⟨m, rfl⟩
    · simp [tooMuchData]
    · simp [tooMuchData, catch_ne_552]
  · simp

/-- An exchange that is not a greeting, MAIL, RCPT or RSET answered 250 and ended no DATA
phase leaves the envelope as it was. -/
lemma Envelope.step_of_refused (E : Env) (v : Envelope) {x : Exchange}
    (ha : answered250 x.replies = false) (hd : x.dataEnded = false) : v.step E x = v := by
  unfold Envelope.step
  split <;> simp [ha, hd]

/-- How a session's attributes match the envelope its exchanges show. -/
structure EnvelopeInv (v : Envelope) (s : Session) : Prop where
  one_greeting : v.greetings.length ≤ 1
  greeted : s.seenGreeting.truthy = !v.greetings.isEmpty
  extended : s.extendedSmtp = true ↔ v.greetings = [true]
  sender : s.mailfrom = v.sender.map Prod.fst
  sender_set : ∀ a toks, v.sender = some (a, toks) → a ≠ "" ∧ s.mailOptions = some toks
  rcpts : s.rcpttos = v.rcpts
  rcpts_sender : v.sender = none → v.rcpts = []
  rcpt_options : v.rcpts ≠ [] → s.rcptOptions.isSome

namespace EnvelopeInv

variable {v : Envelope} {s : Session}

lemma init (peer : String) : EnvelopeInv Envelope.init (Session.init peer) :=
  ⟨by decide, rfl, by simp [Session.init, Envelope.init], rfl, by simp [Envelope.init], rfl,
    fun _ => rfl, fun h => absurd rfl h⟩

lemma optTruthy_mailfrom (hi : EnvelopeInv v s) : optTruthy s.mailfrom = v.sender.isSome := by
  rw [hi.sender]
  rcases hv : v.sender with _ | ⟨a, toks⟩
  · rfl
  · have ha : ¬a.isEmpty = true := fun h => (hi.sender_set a toks hv).1 ((String.isEmpty_iff a).mp h)
    simp [optTruthy, ha]

lemma setMailOptions (hi : EnvelopeInv v s) (hn : v.sender = none) (toks : List String) :
    EnvelopeInv v { s with mailOptions := some toks } :=
  { hi with sender_set := fun a t h => by simp [hn] at h }

lemma setRcptOptions (hi : EnvelopeInv v s) (toks : List String) :
    EnvelopeInv v { s with rcptOptions := some toks } :=
  { hi with rcpt_options := fun _ => rfl }

lemma reset (hi : EnvelopeInv v s) :
    EnvelopeInv { v with sender := none, rcpts := [] } s.setPostDataState :=
  { hi with
    sender := rfl
    sender_set := fun _ _ h => by cases h
    rcpts := rfl
    rcpts_sender := fun _ => rfl
    rcpt_options := fun h => absurd rfl h }

lemma mail (hi : EnvelopeInv v s) (hn : v.sender = none) {a : String} (ha : a ≠ "")
    (toks : List String) :
    EnvelopeInv ⟨v.greetings, some (a, toks), []⟩ { s with mailOptions := some toks, mailfrom := some a } :=
  { hi with
    sender := rfl
    sender_set := fun _ _ h => by cases h; exact ⟨ha, rfl⟩
    rcpts := by simp [hi.rcpts, hi.rcpts_sender hn]
    rcpts_sender := fun _ => rfl
    rcpt_options := fun h => absurd rfl h }

lemma rcpt (hi : EnvelopeInv v s) (hs : v.sender ≠ none) (a : String) (toks : List String) :
    EnvelopeInv { v with rcpts := v.rcpts ++ [a] }
      { s with rcptOptions := some toks, rcpttos := s.rcpttos ++ [a] } :=
  { hi with
    rcpts := by simp [hi.rcpts]
    rcpts_sender := fun h => absurd h hs
    rcpt_options := fun _ => rfl }

lemma no_greeting (hi : EnvelopeInv v s) (hg : s.seenGreeting.truthy = false) :
    v.greetings = [] := by
  simpa [hi.greeted] using hg

lemma helo (hi : EnvelopeInv v s) (hg : s.seenGreeting.truthy = false) {name : StrOrBytes}
    (hn : name.truthy = true) :
    EnvelopeInv ⟨v.greetings ++ [false], none, []⟩ { s.setRsetState with seenGreeting := name } := by
  have h0 := hi.no_greeting hg
  have hx : s.extendedSmtp = false := by simpa [h0] using hi.extended
  exact ⟨by simp [h0], by simpa [h0] using hn, by simp [Session.setRsetState, Session.setPostDataState, hx, h0],
    rfl, (fun _ _ h => by cases h), rfl, fun _ => rfl, fun h => absurd rfl h⟩

lemma ehlo (hi : EnvelopeInv v s) (hg : s.seenGreeting.truthy = false) {name : StrOrBytes}
    (hn : name.truthy = true) :
    EnvelopeInv ⟨v.greetings ++ [true], none, []⟩
      { s.setRsetState with seenGreeting := name, extendedSmtp := true } := by
  have h0 := hi.no_greeting hg
  exact ⟨by simp [h0], by simpa [h0] using hn, by simp [h0], rfl, (fun _ _ h => by cases h), rfl,
    fun _ => rfl, fun h => absurd rfl h⟩

end EnvelopeInv

lemma Refused.replies {w w₁ : World} (h : Refused w w₁) :
    ∃ r, w₁.replies = w.replies ++ r ∧ answered250 r = false ∧ r.length ≤ 1 := by
  rcases h.2.2 with h | ⟨m, h, hm⟩
  · exact ⟨[], by simp [h], rfl, by simp⟩
  · exact ⟨[.str m], h, hm, by simp⟩

lemma step_refused_body (E : Env) (v : Envelope) {line : Bytes} {r e : List StrOrBytes}
    (he : CatchReplies e) (hr : answered250 r = false) (hlen : r.length ≤ 1) :
    v.step E ⟨line, r ++ e, []⟩ = v := by
  refine Envelope.step_of_refused E v (by rw [answered250_catch he]; exact hr) ?_
  have : r.take 2 ≠ tooMuchData := fun h => by
    have := congrArg List.length h
    simp [tooMuchData] at this
    omega
  simpa [Exchange.dataEnded, take2_catch he] using this

section

variable (E : Env)

/-- One pass of the loop keeps `EnvelopeInv`, as long as the `process_message` call it may
make returns; that call receives the sender and the recipients of the open transaction. -/
theorem envelopeInv_step (hn : E.HostnameEncodes) {v : Envelope} {w w' : World} {fuel : Nat}
    (hi : EnvelopeInv v w.sess) (h : World.step E fuel w = some w')
    (hok : ∀ p ∈ (Exchange.of w w').calls, ∃ st, p.2 = .ok st) :
    EnvelopeInv (v.step E (Exchange.of w w')) w'.sess ∧
      ∀ p ∈ (Exchange.of w w').calls,
        p.1.mailfrom = v.sender.map Prod.fst ∧ p.1.rcpttos = v.rcpts ∧ v.rcpts ≠ [] := by
  rcases World.step_cases E h with ⟨hq, hr⟩ | ⟨line, rest, w₁, hs, -, hl, hq, e, he, hr⟩
  · have hx : (Exchange.of w w').replies = [] := by simp [Exchange.of, hr]
    have hc : (Exchange.of w w').calls = [] := by simp [Exchange.of, hq.2.1]
    rw [Envelope.step_of_refused E v (by rw [hx]; rfl) (by simp [Exchange.dataEnded, hx, hc, tooMuchData]),
      hq.1]
    exact ⟨hi, by simp [hc]⟩
  have hx := fun r c hr₁ hc₁ => exchange_of_body hs hq hr (r := r) (c := c) hr₁ hc₁
  rw [hq.1]
  have hkeep : (∃ r, w₁.replies = w.replies ++ r ∧ answered250 r = false ∧ r.length ≤ 1) →
      w₁.calls = w.calls → EnvelopeInv v w₁.sess →
      EnvelopeInv (v.step E (Exchange.of w w')) w₁.sess ∧
        ∀ p ∈ (Exchange.of w w').calls,
          p.1.mailfrom = v.sender.map Prod.fst ∧ p.1.rcpttos = v.rcpts ∧ v.rcpts ≠ [] :=
    fun ⟨r, hr₁, ha, hlen⟩ hc₁ hi₁ => by
      rw [hx r [] hr₁ (by simpa using hc₁), step_refused_body E v he ha hlen]
      exact ⟨hi₁, by simp⟩
  rcases handleLine_cases E fuel line _ hl with ⟨hrf, hs₁⟩ | ⟨command, method, hcmd, hd, hm⟩
  · exact hkeep hrf.replies hrf.1 (by rw [hs₁]; exact hi)
  have hv : ∀ rs cs, Exchange.verb ⟨line, rs, cs⟩ = some command := fun rs cs => by
    simp [Exchange.verb, hcmd]
  have hverb : (Exchange.of w w').verb = some command := by
    simp [Exchange.of, Exchange.verb, lineRead, hs, hcmd]
  have hquiet : v.step E (Exchange.of w w') = v → Quiet { w with buffer := rest } w₁ →
      EnvelopeInv (v.step E (Exchange.of w w')) w₁.sess ∧
        ∀ p ∈ (Exchange.of w w').calls,
          p.1.mailfrom = v.sender.map Prod.fst ∧ p.1.rcpttos = v.rcpts ∧ v.rcpts ≠ [] :=
    fun hvw hq₁ => by
      rw [hvw, hq₁.1]
      exact ⟨hi, by simp [Exchange.of, hq.2.1, hq₁.2.1]⟩
  have harg : ∀ rs cs, Exchange.arg ⟨line, rs, cs⟩ = (splitCommand (rstripCRLF line)).2 :=
    fun _ _ => rfl
  generalize (splitCommand (rstripCRLF line)).2 = arg at hm harg
  unfold dispatch at hd
  split at hd <;> cases hd
  · -- HELO
    rcases smtpHELO_cases E hn arg _ with ⟨-, hh⟩ | ⟨-, hh⟩ | ⟨ha, hg, hh⟩ <;>
      rw [hh, Outcome.world?_written] at hm <;> cases hm
    · exact hkeep ⟨_, rfl, by decide, by simp⟩ rfl hi
    · exact hkeep ⟨_, rfl, by decide, by simp⟩ rfl hi
    · rw [hx [.str ("250 " ++ E.cfg.hostname)] [] rfl (by simp)]
      have h250 : answered250 [.str ("250 " ++ E.cfg.hostname)] = true := by
        simp only [answered250]
        rw [is250_append _ _ (by decide)]; decide
      simp only [Envelope.step, hv, answered250_catch he, h250, if_true]
      exact ⟨hi.helo hg (greetingName_truthy_of_arg ha), by simp⟩
  · -- EHLO
    rcases smtpEHLO_cases E hn arg _ with ⟨-, hh⟩ | ⟨-, hh⟩ | ⟨ha, hg, hh⟩ <;>
      rw [hh, Outcome.world?_written] at hm <;> cases hm
    · exact hkeep ⟨_, rfl, by decide, by simp⟩ rfl hi
    · exact hkeep ⟨_, rfl, by decide, by simp⟩ rfl hi
    · rw [hx _ [] rfl (by simp)]
      -- the first reply of a greeting is a 250, whether or not QUIT cut it short
      have h250 : answered250 (if w.cancelled then [.str ("250-" ++ E.cfg.hostname)] else ehloReplies E) = true := by
        split <;> simp only [ehloReplies, List.singleton_append, List.cons_append, answered250] <;>
          rw [is250_append _ _ (by decide)] <;> decide
      simp only [Envelope.step, hv, answered250_catch he, h250, if_true]
      exact ⟨hi.ehlo hg (greetingName_truthy_of_arg ha), by simp⟩
  · exact hquiet (by simp [Envelope.step, hverb]) (smtpNOOP_quiet E hm)
  · exact hquiet (by simp [Envelope.step, hverb]) (smtpQUIT_quiet E hm)
  · exact hquiet (by simp [Envelope.step, hverb]) (smtpHELP_quiet E hm)
  · exact hquiet (by simp [Envelope.step, hverb]) (smtpVRFY_quiet E hm)
  · -- MAIL
    rcases smtpMAIL_cases E arg _ hm with ⟨hrf, hsess⟩ | ⟨-, hmf, a, toks, hca, ha, rfl⟩
    · refine hkeep hrf.replies hrf.1 ?_
      rcases hsess with hsess | ⟨hmf, toks, hsess⟩ <;> rw [hsess]
      · exact hi
      · exact hi.setMailOptions (by simpa [hi.optTruthy_mailfrom] using hmf) toks
    · rw [hx [.str "250 OK"] [] rfl (by simp)]
      have hn : v.sender = none := by simpa [hi.optTruthy_mailfrom] using hmf
      simp only [Envelope.step, hv, answered250_catch he, harg, hca]
      exact ⟨hi.mail hn ha toks, by simp⟩
  · -- RCPT
    rcases smtpRCPT_cases E arg _ hm with ⟨hrf, hsess⟩ | ⟨-, hmf, a, toks, hca, rfl⟩
    · refine hkeep hrf.replies hrf.1 ?_
      rcases hsess with hsess | ⟨-, toks, hsess⟩ <;> rw [hsess]
      · exact hi
      · exact hi.setRcptOptions toks
    · rw [hx [.str "250 OK"] [] rfl (by simp)]
      have hs : v.sender ≠ none :=
        Option.ne_none_iff_isSome.mpr (by simpa [hi.optTruthy_mailfrom] using hmf)
      simp only [Envelope.step, hv, answered250_catch he, harg, hca]
      exact ⟨hi.rcpt hs a toks, by simp⟩
  · -- RSET
    rcases smtpRSET_cases E arg _ with ⟨-, hh⟩ | ⟨-, hh⟩ <;> rw [hh, Outcome.world?_written] at hm <;>
      cases hm
    · exact hkeep ⟨_, rfl, by decide, by simp⟩ rfl hi
    · rw [hx [.str "250 OK"] [] rfl (by simp)]
      simp only [Envelope.step, hv, answered250_catch he]
      exact ⟨hi.reset, by simp⟩
  · -- DATA
    obtain ⟨-, hd⟩ := smtpDATA_cases E fuel arg _ hm
    rcases hd with ⟨hrf, hsess⟩ | ⟨hsess, hc, hrp⟩ | ⟨hsess, hc, hrp⟩ |
      ⟨hrc, c, r, hc, -, hmf, hrc', ⟨rs, hrp, -⟩, hsess⟩
    · exact hkeep hrf.replies hrf.1 (by rw [hsess]; exact hi)
    · exact hkeep ⟨_, hrp, by decide, by simp⟩ (by simpa using hc) (by rw [hsess]; exact hi)
    · rw [hx tooMuchData [] hrp (by simpa using hc)]
      have hend : Exchange.dataEnded ⟨line, tooMuchData ++ e, []⟩ = true := by
        simp [Exchange.dataEnded, take2_catch he, tooMuchData]
      simp only [Envelope.step, hv, hend, if_true]
      rw [hsess]
      exact ⟨hi.reset, by simp⟩
    · rw [hx _ [(c, r)] hrp hc] at hok ⊢
      obtain ⟨st, rfl⟩ := hok (c, r) (by simp)
      have hend : ∀ rs, Exchange.dataEnded ⟨line, rs, [(c, .ok st)]⟩ = true := fun _ => by
        simp [Exchange.dataEnded]
      simp only [Envelope.step, hv, hend, if_true]
      rw [hsess]
      refine ⟨hi.reset, ?_⟩
      simp only [List.mem_singleton]
      rintro p rfl
      exact ⟨hmf.trans hi.sender, hrc'.trans hi.rcpts, hi.rcpts ▸ hrc⟩
  · exact hquiet (by simp [Envelope.step, hverb]) (smtpEXPN_quiet E hm)

end

section

variable (E : Env)

/-- Along every run in which `process_message` never raises, `EnvelopeInv` holds, and every
call received the sender and the recipients of the envelope the exchanges before it show. -/
lemma envelopeInv_run {xs : List Exchange} {w : World} (h : Run E xs w)
    (hok : ∀ x ∈ xs, ∀ p ∈ x.calls, ∃ st, p.2 = .ok st) :
    EnvelopeInv (Envelope.of E xs) w.sess ∧
      ∀ pre x post, xs = pre ++ x :: post → ∀ p ∈ x.calls,
        p.1.mailfrom = (Envelope.of E pre).sender.map Prod.fst ∧ p.1.mailfrom ≠ none ∧
        p.1.rcpttos = (Envelope.of E pre).rcpts ∧ p.1.rcpttos ≠ [] := by
  induction h with
  | start peer stream =>
    rw [World.start_sess]
    exact ⟨EnvelopeInv.init peer, fun pre x post h => by simp at h⟩
  | @step xs w w' fuel hrun hf hstep ih =>
    obtain ⟨hi, hcalls⟩ := ih fun x hx => hok x (List.mem_append_left _ hx)
    obtain ⟨hi', hc'⟩ := envelopeInv_step E (hrun.hostnameEncodes E hf) hi hstep
      (hok _ (List.mem_append_right _ (List.mem_singleton_self _)))
    refine ⟨by rw [Envelope.of, List.foldl_append, List.foldl_cons, List.foldl_nil]; exact hi', fun pre y post hsplit p hp => ?_⟩
    rcases snoc_eq_append_cons hsplit with ⟨rfl, rfl, -⟩ | ⟨post', rfl, -⟩
    · obtain ⟨hmf, hrc, hne⟩ := hc' p hp
      have hsend : (Envelope.of E pre).sender ≠ none := fun hn => hne (hi.rcpts_sender hn)
      refine ⟨hmf, ?_, hrc, hrc ▸ hne⟩
      rw [hmf]
      simpa using hsend
    · exact hcalls pre y post' rfl p hp

/-- At every point of every run in which `process_message` never raises: at most one greeting
was answered 250, and `extended_smtp` says whether it was EHLO; `mailfrom` and `mail_options`
are the address and parameter tokens of the MAIL answered 250 since the latest greeting, RSET
answered 250 or end of DATA, and `rcpttos` the addresses of the RCPT commands answered 250
since it; and every `process_message` call received a sender and a non-empty list of
recipients, those of the transaction the exchanges before it show. -/
theorem session_tracks_envelope {xs : List Exchange} {w : World} (h : Run E xs w)
    (hok : ∀ x ∈ xs, ∀ p ∈ x.calls, ∃ st, p.2 = .ok st) :
    (Envelope.of E xs).greetings.length ≤ 1 ∧
    (w.sess.extendedSmtp = true ↔ (Envelope.of E xs).greetings = [true]) ∧
    w.sess.mailfrom = (Envelope.of E xs).sender.map Prod.fst ∧
    (∀ a toks, (Envelope.of E xs).sender = some (a, toks) → w.sess.mailOptions = some toks) ∧
    w.sess.rcpttos = (Envelope.of E xs).rcpts ∧
    ((Envelope.of E xs).sender = none → w.sess.rcpttos = []) ∧
    ∀ pre x post, xs = pre ++ x :: post → ∀ p ∈ x.calls,
      p.1.mailfrom = (Envelope.of E pre).sender.map Prod.fst ∧ p.1.mailfrom ≠ none ∧
      p.1.rcpttos = (Envelope.of E pre).rcpts ∧ p.1.rcpttos ≠ [] := by
  obtain ⟨hi, hcalls⟩ := envelopeInv_run E h hok
  exact ⟨hi.one_greeting, hi.extended, hi.sender, fun a toks hs => (hi.sender_set a toks hs).2,
    hi.rcpts, fun hs => hi.rcpts.trans (hi.rcpts_sender hs), hcalls⟩

end

/-- A client greets with EHLO, sends one message with a SIZE parameter, and quits. -/
def sampleSession : List Exchange × World :=
  World.run (sampleEnv dataSizeDefault Handler.accepting) 3 "p"
    (asciiBytes "EHLO c\r\nMAIL FROM:<a@b> SIZE=10\r\nRCPT TO:<d@e>\r\nDATA\r\nhi\r\n.\r\nQUIT\r\n") 7

theorem session_tracks_envelope_sample :
    (Envelope.of (sampleEnv dataSizeDefault Handler.accepting) sampleSession.1).greetings.length ≤ 1 ∧
    (sampleSession.2.sess.extendedSmtp = true ↔
      (Envelope.of (sampleEnv dataSizeDefault Handler.accepting) sampleSession.1).greetings = [true]) ∧
    sampleSession.2.sess.mailfrom =
      (Envelope.of (sampleEnv dataSizeDefault Handler.accepting) sampleSession.1).sender.map Prod.fst ∧
    (∀ a toks, (Envelope.of (sampleEnv dataSizeDefault Handler.accepting) sampleSession.1).sender =
      some (a, toks) → sampleSession.2.sess.mailOptions = some toks) ∧
    sampleSession.2.sess.rcpttos =
      (Envelope.of (sampleEnv dataSizeDefault Handler.accepting) sampleSession.1).rcpts ∧
    ((Envelope.of (sampleEnv dataSizeDefault Handler.accepting) sampleSession.1).sender = none →
      sampleSession.2.sess.rcpttos = []) ∧
    ∀ pre x post, sampleSession.1 = pre ++ x :: post → ∀ p ∈ x.calls,
      p.1.mailfrom = (Envelope.of (sampleEnv dataSizeDefault Handler.accepting) pre).sender.map Prod.fst ∧
      p.1.mailfrom ≠ none ∧
      p.1.rcpttos = (Envelope.of (sampleEnv dataSizeDefault Handler.accepting) pre).rcpts ∧
      p.1.rcpttos ≠ [] :=
  session_tracks_envelope _ (Run.run _ 3 "p" _ 7) (calls_ok_of_all (by decide))

end AioSmtpd
