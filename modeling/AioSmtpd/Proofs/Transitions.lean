import AioSmtpd.Proofs.Runs

/-!
# The session as a state machine

`SessStep` says what one pass of the loop can do to the instance's attributes, the class's
table and the `process_message` calls: keep them; greet; set the sender or the options of
MAIL and RCPT; add a recipient; reset the transaction; or make a call, which resets the
transaction when it returns. An EHLO grows the table only in a task QUIT has not cancelled.
`World.step_effect` shows that every pass of the loop is such a step, and that a pass that sets
a new sender is a MAIL answered 250; the invariants are proved over `SessStep`, one case per
constructor.
-/

namespace AioSmtpd

/-- One pass of the loop on the session `s` and the table `c`, making the calls `cs`; `k` says
whether QUIT has cancelled the task, whose EHLO then raises at its first reply, before the table
grows. -/
inductive SessStep (E : Env) (k : Bool) (s : Session) (c : ClassState) :
    Session → ClassState → List (Call × Except String (Option String)) → Prop
  | keep : SessStep E k s c s c []
  | helo (g : StrOrBytes) (hg : s.seenGreeting.truthy = false) (hn : g.truthy = true) :
      SessStep E k s c { s.setRsetState with seenGreeting := g } c []
  | ehlo (g : StrOrBytes) (hg : s.seenGreeting.truthy = false) (hn : g.truthy = true) :
      SessStep E k s c { s.setRsetState with seenGreeting := g, extendedSmtp := true }
        (if k then c else ehloTable E c) []
  | mailOptions (toks : List String) (hm : optTruthy s.mailfrom = false) :
      SessStep E k s c { s with mailOptions := some toks } c []
  | mail (a : String) (toks : List String) (hg : s.seenGreeting.truthy = true)
      (hm : optTruthy s.mailfrom = false) (ha : a ≠ "") :
      SessStep E k s c { s with mailOptions := some toks, mailfrom := some a } c []
  | rcptOptions (toks : List String) (hm : optTruthy s.mailfrom = true) :
      SessStep E k s c { s with rcptOptions := some toks } c []
  | rcpt (a : String) (toks : List String) (hg : s.seenGreeting.truthy = true)
      (hm : optTruthy s.mailfrom = true) :
      SessStep E k s c { s with rcptOptions := some toks, rcpttos := s.rcpttos ++ [a] } c []
  | rset : SessStep E k s c s.setRsetState c []
  | tooMuchData : SessStep E k s c s.setPostDataState c []
  | delivered (call : Call) (st : Option String) (hr : s.rcpttos ≠ [])
      (hc : call.peer = s.peer ∧ call.mailfrom = s.mailfrom ∧ call.rcpttos = s.rcpttos) :
      SessStep E k s c s.setPostDataState c [(call, .ok st)]
  | raised (call : Call) (m : String) (hr : s.rcpttos ≠ [])
      (hc : call.peer = s.peer ∧ call.mailfrom = s.mailfrom ∧ call.rcpttos = s.rcpttos) :
      SessStep E k s c s c [(call, .error m)]

section

variable (E : Env)

/-- The calls of a pass that ran the `try` body are the body's calls. -/
lemma exchange_calls_of_body {w w₁ w' : World} {rest : Bytes} (hq : Quiet w₁ w')
    {cs : List (Call × Except String (Option String))}
    (hc : w₁.calls = ({ w with buffer := rest } : World).calls ++ cs) :
    (Exchange.of w w').calls = cs := by
  simp [Exchange.of, hq.2.1, hc]

/-- Every pass of the loop is a `SessStep`, and a pass that sets a new sender is a MAIL
answered 250. -/
theorem World.step_effect (hn : E.HostnameEncodes) {fuel : Nat} {w w' : World}
    (h : World.step E fuel w = some w') :
    SessStep E w.cancelled w.sess w.cls w'.sess w'.cls (Exchange.of w w').calls ∧
    (w'.sess.mailfrom ≠ none → w'.sess.mailfrom ≠ w.sess.mailfrom →
      (Exchange.of w w').verb = some "MAIL" ∧ answered250 (Exchange.of w w').replies = true) := by
  rcases World.step_cases E h with ⟨hq, -⟩ | ⟨line, rest, w₁, hs, -, hl, hq, e, he, hr⟩
  · have hc : (Exchange.of w w').calls = [] := by simp [Exchange.of, hq.2.1]
    rw [hc, hq.1, hq.2.2]
    exact ⟨.keep, fun _ h => absurd rfl h⟩
  have hcs := fun cs => @exchange_calls_of_body w w₁ w' rest hq cs
  rw [hq.1, hq.2.2]
  suffices H : SessStep E w.cancelled w.sess w.cls w₁.sess w₁.cls (Exchange.of w w').calls ∧
      (w₁.sess.mailfrom = none ∨ w₁.sess.mailfrom = w.sess.mailfrom ∨
        (Exchange.of w w').verb = some "MAIL" ∧ answered250 (Exchange.of w w').replies = true) by
    refine ⟨H.1, fun h₁ h₂ => ?_⟩
    rcases H.2 with h | h | h
    · exact absurd h h₁
    · exact absurd h h₂
    · exact h
  have hkeep : w₁.sess = w.sess → w₁.cls = w.cls → w₁.calls = w.calls →
      SessStep E w.cancelled w.sess w.cls w₁.sess w₁.cls (Exchange.of w w').calls ∧
        (w₁.sess.mailfrom = none ∨ w₁.sess.mailfrom = w.sess.mailfrom ∨
          (Exchange.of w w').verb = some "MAIL" ∧ answered250 (Exchange.of w w').replies = true) :=
    fun hs hc hk => by
      rw [hcs [] (by simpa using hk), hs, hc]
      exact ⟨.keep, .inr (.inl rfl)⟩
  rcases handleLine_cases E fuel line _ hl with ⟨hrf, hs₁⟩ | ⟨command, method, hcmd, hd, hm⟩
  · exact hkeep hs₁ hrf.2.1 hrf.1
  have hverb : (Exchange.of w w').verb = some command := by
    simp [Exchange.of, Exchange.verb, lineRead, hs, hcmd]
  generalize (splitCommand (rstripCRLF line)).2 = arg at hm
  have hquiet : Quiet { w with buffer := rest } w₁ → _ := fun hq₁ => hkeep hq₁.1 hq₁.2.2 hq₁.2.1
  unfold dispatch at hd
  split at hd <;> cases hd
  · -- HELO
    rcases smtpHELO_cases E hn arg _ with ⟨-, hh⟩ | ⟨-, hh⟩ | ⟨ha, hg, hh⟩ <;>
      rw [hh, Outcome.world?_written] at hm <;> cases hm
    · exact hkeep rfl rfl rfl
    · exact hkeep rfl rfl rfl
    · rw [hcs [] (by simp)]
      exact ⟨.helo _ hg (greetingName_truthy_of_arg ha), .inl rfl⟩
  · -- EHLO
    rcases smtpEHLO_cases E hn arg _ with ⟨-, hh⟩ | ⟨-, hh⟩ | ⟨ha, hg, hh⟩ <;>
      rw [hh, Outcome.world?_written] at hm <;> cases hm
    · exact hkeep rfl rfl rfl
    · exact hkeep rfl rfl rfl
    · rw [hcs [] (by simp)]
      exact ⟨.ehlo _ hg (greetingName_truthy_of_arg ha), .inl rfl⟩
  · exact hquiet (smtpNOOP_quiet E hm)
  · exact hquiet (smtpQUIT_quiet E hm)
  · exact hquiet (smtpHELP_quiet E hm)
  · exact hquiet (smtpVRFY_quiet E hm)
  · -- MAIL
    rcases smtpMAIL_cases E arg _ hm with ⟨hrf, hsess⟩ | ⟨hg, hmf, a, toks, -, ha, rfl⟩
    · rw [hcs [] (by simpa using hrf.1), hrf.2.1]
      rcases hsess with hsess | ⟨hmf, toks, hsess⟩ <;> rw [hsess]
      · exact ⟨.keep, .inr (.inl rfl)⟩
      · exact ⟨.mailOptions toks hmf, .inr (.inl rfl)⟩
    · have hx := exchange_of_body hs hq hr (r := [.str "250 OK"]) (c := []) rfl (by simp)
      refine ⟨?_, .inr (.inr ⟨hverb, ?_⟩)⟩
      · rw [hx]
        exact .mail a toks hg hmf ha
      · rw [hx, answered250_catch he]
        rfl
  · -- RCPT
    rcases smtpRCPT_cases E arg _ hm with ⟨hrf, hsess⟩ | ⟨hg, hmf, a, toks, -, rfl⟩
    · rw [hcs [] (by simpa using hrf.1), hrf.2.1]
      rcases hsess with hsess | ⟨hmf, toks, hsess⟩ <;> rw [hsess]
      · exact ⟨.keep, .inr (.inl rfl)⟩
      · exact ⟨.rcptOptions toks hmf, .inr (.inl rfl)⟩
    · rw [hcs [] (by simp)]
      exact ⟨.rcpt a toks hg hmf, .inr (.inl rfl)⟩
  · -- RSET
    rcases smtpRSET_cases E arg _ with ⟨-, hh⟩ | ⟨-, hh⟩ <;> rw [hh, Outcome.world?_written] at hm <;>
      cases hm
    · exact hkeep rfl rfl rfl
    · rw [hcs [] (by simp)]
      exact ⟨.rset, .inl rfl⟩
  · -- DATA
    obtain ⟨hcls, hd⟩ := smtpDATA_cases E fuel arg _ hm
    rw [hcls]
    rcases hd with ⟨hrf, hsess⟩ | ⟨hsess, hc, -⟩ | ⟨hsess, hc, -⟩ |
      ⟨hrc, c, r, hc, hp, hmf, hrc', -, hsess⟩
    · rw [hcs [] (by simpa using hrf.1), hsess]
      exact ⟨.keep, .inr (.inl rfl)⟩
    · rw [hcs [] (by simpa using hc), hsess]
      exact ⟨.keep, .inr (.inl rfl)⟩
    · rw [hcs [] (by simpa using hc), hsess]
      exact ⟨.tooMuchData, .inl rfl⟩
    · rw [hcs [(c, r)] hc]
      cases r with
      | ok st =>
        rw [hsess]
        exact ⟨.delivered c st hrc ⟨hp, hmf, hrc'⟩, .inl rfl⟩
      | error m =>
        rw [hsess]
        exact ⟨.raised c m hrc ⟨hp, hmf, hrc'⟩, .inr (.inl rfl)⟩
  · exact hquiet (smtpEXPN_quiet E hm)

/-- A property of the session and the table that every new session has and every `SessStep`
of a task QUIT has not cancelled keeps holds at every point of every run until QUIT. -/
lemma Run.invariant (P : Session → ClassState → Prop)
    (h0 : ∀ peer, P (Session.init peer) (ClassState.clear E.K))
    (hs : ∀ {s c s' c' cs}, P s c → SessStep E false s c s' c' cs → P s' c')
    {xs : List Exchange} {w : World} (h : Run E xs w) (hc : w.cancelled = false) : P w.sess w.cls := by
  induction h with
  | start peer stream => simpa using h0 peer
  | @step xs w w' fuel hrun hf hstep ih =>
    -- the cancel is never taken back, so the task was not cancelled before this pass either
    have hc₀ : w.cancelled = false :=
      Bool.eq_false_iff.mpr fun h => by rw [World.step_cancelled E hstep h] at hc; cases hc
    have hss := (World.step_effect E (hrun.hostnameEncodes E hf) hstep).1
    rw [hc₀] at hss
    exact hs (ih hc₀) hss

/-! ## Invariants of the state machine -/

/-- The keyword arguments DATA passes are set: `mail_options` once there is a sender, and
both once there is a recipient. -/
structure OptionsSet (s : Session) : Prop where
  mail : s.mailfrom ≠ none → s.mailOptions.isSome
  rcpt : s.rcpttos ≠ [] → s.mailOptions.isSome ∧ s.rcptOptions.isSome

lemma OptionsSet.step {k : Bool} {s s' : Session} {c c' : ClassState} {cs} (hi : OptionsSet s)
    (h : SessStep E k s c s' c' cs) : OptionsSet s' := by
  have hreset : ∀ {s' : Session}, s'.mailfrom = none → s'.rcpttos = [] → OptionsSet s' :=
    fun hm hr => ⟨fun h => (h hm).elim, fun h => (h hr).elim⟩
  cases h with
  | keep | raised => exact hi
  | helo | ehlo | rset | tooMuchData | delivered => exact hreset rfl rfl
  | mailOptions | mail => exact ⟨fun _ => rfl, fun h => ⟨rfl, (hi.rcpt h).2⟩⟩
  | rcptOptions => exact ⟨hi.mail, fun h => ⟨(hi.rcpt h).1, rfl⟩⟩
  | rcpt _ _ _ hm =>
    have hmf : s.mailfrom ≠ none := fun h => by simp [h, optTruthy] at hm
    exact ⟨hi.mail, fun _ => ⟨hi.mail hmf, rfl⟩⟩

/-- The class's table as one session running alone leaves it: cleared by `__init__`, and
grown for MAIL by the EHLO that set `extended_smtp`; no session without a greeting has set
it. -/
structure TableInv (s : Session) (c : ClassState) : Prop where
  table : c = if s.extendedSmtp then ehloTable E (ClassState.clear E.K) else ClassState.clear E.K
  no_greeting : s.seenGreeting.truthy = false → s.extendedSmtp = false

lemma TableInv.step {s s' : Session} {c c' : ClassState} {cs} (hi : TableInv E s c)
    (h : SessStep E false s c s' c' cs) : TableInv E s' c' := by
  cases h with
  | helo g hg hn => exact ⟨hi.table, fun _ => hi.no_greeting hg⟩
  | ehlo g hg hn =>
    refine ⟨?_, fun h => absurd (hn.symm.trans h) (by decide)⟩
    rw [hi.table, hi.no_greeting hg]
    rfl
  | _ => exact ⟨hi.table, hi.no_greeting⟩

/-! ## The transaction -/

/-- A step whose call returned leaves the transaction closed. -/
lemma SessStep.closed_of_returned {k : Bool} {s s' : Session} {c c' : ClassState} {cs}
    (h : SessStep E k s c s' c' cs) {p : Call × Except String (Option String)} (hp : p ∈ cs)
    (hok : p.2.isOk = true) : s'.mailfrom = none ∧ s'.rcpttos = [] := by
  cases h with
  | delivered => exact ⟨rfl, rfl⟩
  | raised =>
    rw [List.mem_singleton.mp hp] at hok
    cases hok
  | _ => cases hp

/-- From a closed transaction, a step that sets no sender makes no call and keeps the
transaction closed. -/
lemma SessStep.stays_closed {k : Bool} {s s' : Session} {c c' : ClassState} {cs}
    (h : SessStep E k s c s' c' cs) (hm : s.mailfrom = none) (hr : s.rcpttos = [])
    (hm' : s'.mailfrom = none) : s'.rcpttos = [] ∧ cs = [] := by
  cases h with
  | keep | mailOptions => exact ⟨hr, rfl⟩
  | helo | ehlo | rset | tooMuchData => exact ⟨rfl, rfl⟩
  | mail => cases hm'
  | rcptOptions _ h | rcpt _ _ _ h => simp [hm, optTruthy] at h
  | delivered _ _ h | raised _ _ h => exact absurd hr h

end

end AioSmtpd
