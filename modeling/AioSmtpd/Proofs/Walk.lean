import AioSmtpd.Proofs.DataPhase

/-!
# One walk over the commands for every property they keep

`Co.Closed E M X K A` bundles the closure clauses of a property of coroutines: `K` holds of a
return, a read, a call and an update, and `bind` keeps it; `A`, which implies it, holds of a
push of a reply `M` admits and of a raise `X` admits, and of a bind one of whose halves has it.
Each command is walked once over these clauses (`Co.Closed.dispatch`), given that `M` and `X`
admit what the commands compose (`Env.Admits`, `Env.AdmitsArg`). The properties walked here are
about the task's cancel: no command but QUIT touches it, and once it is set every command
raises at its first reply, if not before.
-/

namespace AioSmtpd

/-- A pair of properties of coroutines closed under the ways `smtp.py` composes them: `K` is
kept by every way, and `A`, which implies it, by the ones that end a command: a push of a reply
`M` admits, a raise `X` admits, and a bind whose first half, or whose second half after a read
of the session or an update of it, has `A`. -/
structure Co.Closed (E : Env) (M : StrOrBytes → Prop) (X : Exc → Prop)
    (K A : ∀ {α : Type}, Co α → Prop) : Prop where
  keeps : ∀ {α : Type} {x : Co α}, A x → K x
  pure : ∀ {α : Type} (a : α), K (pure a : Co α)
  hang : ∀ {α : Type}, K (fun _ => .hang : Co α)
  bind_ret : ∀ {α β : Type} {x : Co α} {f : α → Co β} {Q : α → Prop}, K x →
    (∀ w a w₁, x w = .ret a w₁ → Q a) → (∀ a, Q a → K (f a)) → K (x >>= f)
  bind_left : ∀ {α β : Type} {x : Co α} {f : α → Co β}, A x → (∀ a, K (f a)) → A (x >>= f)
  get_bind : ∀ {α : Type} {f : World → Co α}, (∀ w w', w.sess = w'.sess → f w = f w') →
    (∀ w, K (f w)) → K (Co.get >>= f)
  get_then : ∀ {α : Type} {f : World → Co α}, (∀ w w', w.sess = w'.sess → f w = f w') →
    (∀ w, A (f w)) → A (Co.get >>= f)
  modifySess_then : ∀ {α : Type} {f : Unit → Co α} (g : Session → Session), (∀ a, A (f a)) →
    A (Co.modifySess g >>= f)
  push : ∀ {m : StrOrBytes}, M m → A (push E m)
  throw : ∀ {α : Type} {e : Exc}, X e → A (Co.throw e : Co α)
  modifySess : ∀ g, K (Co.modifySess g)
  grow : ∀ n, K (Co.modify fun w => { w with cls := w.cls.grow "MAIL" n })
  readline : K readline
  processMessage : ∀ c, K (processMessage E c)

/-! ## Replies -/

/-- The start of a reply line as RFC 5321 writes it: three digits, then a space, or a hyphen on
every line of a multi-line reply but the last. -/
def replyCode : List Char → Bool
  | a :: b :: c :: d :: _ => a.isDigit && b.isDigit && c.isDigit && (d == ' ' || d == '-')
  | _ => false

/-- A reply starts with a reply code; a `bytes` reply is read a character per byte. -/
def StrOrBytes.hasReplyCode : StrOrBytes → Bool
  | .str t => replyCode t.toList
  | .bytes b => replyCode (b.map fun x => Char.ofNat x.toNat)

lemma replyCode_append {l : List Char} (h : replyCode l = true) (m : List Char) :
    replyCode (l ++ m) = true := by
  match l, h with
  | _ :: _ :: _ :: _ :: _, h => exact h

/-- Text after a reply code keeps it. -/
lemma hasReplyCode_append {s : String} (h : (StrOrBytes.str s).hasReplyCode = true) (t : String) :
    (StrOrBytes.str (s ++ t)).hasReplyCode = true :=
  replyCode_append h t.toList

/-- Printable ASCII text that starts with a reply code, as every reply `smtp.py` composes from
literals alone is. -/
def fixedReply (t : String) : Bool :=
  replyCode t.toList && t.toList.all fun c => 32 ≤ c.toNat && c.toNat < 127

lemma helpText_fixed {extended : Bool} {v msg : String} (h : helpText extended v = some msg) :
    fixedReply msg = true := by
  unfold helpText at h
  split at h <;> cases h <;> first | decide | split <;> decide

lemma mailParamsCheck_reply (E : Env) {syn : String} {d : Params} {r : String}
    (h : mailParamsCheck E syn d = .ok (some r)) :
    r = syn ∨ r = "501 Error: BODY can only be one of 7BIT, 8BITMIME" ∨
      r = "501 Error: SMTPUTF8 takes no arguments" ∨
      r = "552 Error: message size exceeds fixed maximum message size" ∨
      r = "555 MAIL FROM parameters not recognized or not implemented" := by
  -- Which reply comes out depends only on the branch taken, not on what was popped.
  unfold mailParamsCheck at h
  generalize (if E.cfg.decodeData = true then (none, d) else d.pop "BODY") = p₁ at h
  obtain ⟨body, d₁⟩ := p₁
  dsimp only at h
  generalize (if E.cfg.enableSMTPUTF8 = true then d₁.pop "SMTPUTF8" else (none, d₁)) = p₂ at h
  obtain ⟨smtputf8, d₂⟩ := p₂
  dsimp only at h
  generalize d₂.lookup "SIZE" = size at h
  rcases size with _ | ⟨s | _⟩ <;> dsimp only at h
  on_goal 2 =>
    generalize E.lib.toInt s = t at h
    rcases t with _ | n
  all_goals
    simp only [ite_eq_iff, Except.ok.injEq, Option.some.injEq, reduceCtorEq, and_false, false_or, or_false] at h
    repeat' rcases h with ⟨-, h⟩ | ⟨-, h⟩
    all_goals
      repeat obtain ⟨-, h⟩ := h
      simp only [eq_self_iff_true, true_or, or_true]

/-- What a property asks of the replies and exceptions the commands compose without their
argument: the fixed replies, those built from the host name and the size limit, the handler's
statuses, and the `AttributeError` of a keyword argument no command has set. -/
structure Env.Admits (E : Env) (M : StrOrBytes → Prop) (X : Exc → Prop) : Prop where
  fixed : ∀ t, fixedReply t = true → M (.str t)
  hostname : M (.str ("250 " ++ E.cfg.hostname)) ∧ M (.str ("250-" ++ E.cfg.hostname))
  size : M (.str ("250-SIZE " ++ toString E.cfg.dataSizeLimit))
  status : ∀ prev c s, E.handler.processMessage prev c = .ok (some s) → s.isEmpty = false → M (.str s)
  options : X (.attributeError "mail_options") ∧ X (.attributeError "rcpt_options")

/-- What a property asks of the replies and exceptions a command composes from its argument:
the echo of VRFY, the parse error of an address and the `ValueError` of a `SIZE` value. -/
structure Env.AdmitsArg (E : Env) (M : StrOrBytes → Prop) (X : Exc → Prop) (arg : Arg) : Prop where
  vrfyBytes : ∀ raw, decodeArg E (arg.getD []) = .bytes raw → M (.bytes (asciiBytes "502 Could not VRFY " ++ raw))
  vrfyText : ∀ a, decodeArg E (arg.getD []) = .str a → M (.str ("502 Could not VRFY " ++ a))
  address : ∀ keyword a e, arg.map (decodeArg E) = some (.str a) →
    getaddr E (stripCommandKeyword E keyword a) = .error e → X e
  size : ∀ a address params d syn e, arg.map (decodeArg E) = some (.str a) →
    getaddr E (stripCommandKeyword E "FROM:" a) = .ok (address, params) →
    getparams E (strSplit (E.lib.upper params)) = some d → mailParamsCheck E syn d = .error e → X e

/-! ## The walk -/

section

variable {E : Env} {M : StrOrBytes → Prop} {X : Exc → Prop} {K A : ∀ {α : Type}, Co α → Prop}
  (L : Co.Closed E M X K A) (hA : E.Admits M X)
include L

namespace Co.Closed

omit L in
lemma ite {α : Type} {P : Co α → Prop} {c : Prop} [Decidable c] {x y : Co α} (hx : P x) (hy : P y) :
    P (if c then x else y) := by
  split <;> assumption

lemma bind {α β : Type} {x : Co α} {f : α → Co β} (hx : K x) (hf : ∀ a, K (f a)) : K (x >>= f) :=
  L.bind_ret (Q := fun _ => True) hx (fun _ _ _ _ => trivial) fun a _ => hf a

include hA

lemma fixed {t : String} (ht : fixedReply t = true) : A (AioSmtpd.push E (.str t)) := L.push (hA.fixed t ht)

lemma smtpHELO (arg : Arg) : A (smtpHELO E arg) := by
  unfold AioSmtpd.smtpHELO
  refine L.get_then (fun _ _ h => by simp only [h]) fun w => ?_
  split
  · exact L.fixed hA (by decide)
  split
  · exact L.fixed hA (by decide)
  · exact L.modifySess_then _ fun _ => L.push hA.hostname.1

lemma smtpEHLO (arg : Arg) : A (smtpEHLO E arg) := by
  unfold AioSmtpd.smtpEHLO
  refine L.get_then (fun _ _ h => by simp only [h]) fun w => ?_
  split
  · exact L.fixed hA (by decide)
  split
  · exact L.fixed hA (by decide)
  refine L.modifySess_then _ fun _ => L.bind_left (L.push hA.hostname.2) fun _ => ?_
  -- the three optional capability lines are join points of the do block
  lift_lets
  intro jpHelp jpUtf8 jp8bit
  have hHelp : ∀ y, K (jpHelp y) := fun _ => L.keeps (L.fixed hA (by decide))
  have hUtf8 : ∀ y, K (jpUtf8 y) := fun _ =>
    ite (L.bind (L.keeps (L.fixed hA (by decide))) fun _ => L.bind (L.grow _) hHelp) (L.bind (L.pure _) hHelp)
  have h8bit : ∀ y, K (jp8bit y) := fun _ =>
    ite (L.bind (L.keeps (L.fixed hA (by decide))) hUtf8) (L.bind (L.pure _) hUtf8)
  exact ite (L.bind (L.keeps (L.push hA.size)) fun _ => L.bind (L.grow _) h8bit) (L.bind (L.pure _) h8bit)

lemma smtpNOOP (arg : Arg) : A (smtpNOOP E arg) := by
  unfold AioSmtpd.smtpNOOP
  split <;> exact L.fixed hA (by decide)

lemma smtpQUIT (hc : K (Co.modify fun w => { w with cancelled := true })) (arg : Arg) :
    A (smtpQUIT E arg) := by
  unfold AioSmtpd.smtpQUIT
  split
  · exact L.fixed hA (by decide)
  · exact L.bind_left (L.fixed hA (by decide)) fun _ => hc

lemma smtpHELP (arg : Arg) : A (smtpHELP E arg) := by
  unfold AioSmtpd.smtpHELP
  refine L.get_then (fun _ _ h => by simp only [h]) fun w => ?_
  split
  · split
    · exact L.fixed hA (helpText_fixed ‹_›)
    · exact L.fixed hA (by decide)
  · exact L.fixed hA (by decide)

lemma smtpVRFY {arg : Arg} (ha : E.AdmitsArg M X arg) : A (smtpVRFY E arg) := by
  unfold AioSmtpd.smtpVRFY
  split
  · split
    · exact L.push (ha.vrfyBytes _ ‹_›)
    · dsimp only
      split
      · exact L.fixed hA (by decide)
      · exact L.push (ha.vrfyText _ ‹_›)
  · exact L.fixed hA (by decide)

/-- The syntax error of MAIL and RCPT, with or without the parameters EHLO allows. -/
lemma syntaxErr (pre : String) (hv : fixedReply pre = true)
    (hp : fixedReply (pre ++ " [SP <mail-parameters>]") = true) (b : Bool) :
    A (AioSmtpd.push E (.str (pre ++ if b = true then " [SP <mail-parameters>]" else ""))) := by
  cases b
  · simpa using L.fixed hA hv
  · exact L.fixed hA hp

lemma smtpMAIL {arg : Arg} (ha : E.AdmitsArg M X arg) : A (smtpMAIL E arg) := by
  unfold AioSmtpd.smtpMAIL
  refine L.get_then (fun _ _ h => by simp only [h]) fun w => ?_
  lift_lets
  intro syntaxerr
  have hsyn : A (AioSmtpd.push E (.str syntaxerr)) :=
    L.syntaxErr hA _ (by decide) (by decide) w.sess.extendedSmtp
  split
  · exact L.fixed hA (by decide)
  split
  · exact hsyn
  · exact hsyn
  next a hd =>
  split
  · exact L.throw (ha.address _ _ _ hd ‹_›)
  next address params hg =>
  split
  · exact hsyn
  split
  · exact hsyn
  split
  · exact L.fixed hA (by decide)
  refine L.modifySess_then _ fun _ => ?_
  split
  · exact hsyn
  next d hp =>
  split
  · exact L.throw (ha.size _ _ _ _ _ _ hd hg hp ‹_›)
  · next r hr =>
    rcases mailParamsCheck_reply E hr with rfl | rfl | rfl | rfl | rfl
    · exact hsyn
    all_goals exact L.fixed hA (by decide)
  · exact L.modifySess_then _ fun _ => L.fixed hA (by decide)

lemma smtpRCPT {arg : Arg} (ha : E.AdmitsArg M X arg) : A (smtpRCPT E arg) := by
  unfold AioSmtpd.smtpRCPT
  refine L.get_then (fun _ _ h => by simp only [h]) fun w => ?_
  lift_lets
  intro syntaxerr
  have hsyn : A (AioSmtpd.push E (.str syntaxerr)) :=
    L.syntaxErr hA _ (by decide) (by decide) w.sess.extendedSmtp
  split
  · exact L.fixed hA (by decide)
  split
  · exact L.fixed hA (by decide)
  split
  · exact hsyn
  · exact hsyn
  next a hd =>
  split
  · exact L.throw (ha.address _ _ _ hd ‹_›)
  split
  · exact hsyn
  split
  · exact hsyn
  refine L.modifySess_then _ fun _ => ?_
  split
  · exact hsyn
  split
  · exact L.fixed hA (by decide)
  · exact L.modifySess_then _ fun _ => L.fixed hA (by decide)

lemma smtpRSET (arg : Arg) : A (smtpRSET E arg) := by
  unfold AioSmtpd.smtpRSET
  split
  · exact L.fixed hA (by decide)
  · exact L.modifySess_then _ fun _ => L.fixed hA (by decide)

omit hA in
lemma dataLoop : ∀ (fuel : Nat) (acc : DataAcc), K (dataLoop E fuel acc)
  | 0, _ => L.hang
  | fuel + 1, acc => by
    rw [AioSmtpd.dataLoop]
    refine L.bind L.readline fun line => ?_
    split
    · exact L.pure _
    · exact dataLoop fuel _

/-- What DATA does after its 354 reply keeps `K`; it need not end, as `A` asks, from every
world. -/
lemma dataFinish (acc : DataAcc) : K (dataFinish E acc) := by
  unfold AioSmtpd.dataFinish
  split
  · exact L.bind (L.keeps (L.fixed hA (by decide))) fun _ => L.modifySess _
  have hopts : ∀ s, K (dataOptions E s) := fun s => by
    unfold dataOptions
    split
    · exact L.pure _
    split
    · exact L.pure _
    · exact L.keeps (L.throw hA.options.1)
    · exact L.keeps (L.throw hA.options.2)
  refine L.get_bind (fun _ _ h => by simp only [h]) fun w => L.bind (hopts _) fun _ =>
    L.bind_ret (Q := fun st => ∃ prev c, E.handler.processMessage prev c = .ok st)
      (L.processMessage _) (fun _ _ _ h => ⟨_, _, (processMessage_ret E h).1⟩)
      fun st ⟨prev, c, hst⟩ => L.bind (L.modifySess _) fun _ => L.keeps ?_
  unfold pushStatus
  split
  · split
    · exact L.fixed hA (by decide)
    · next hne => exact L.push (hA.status prev c _ hst (by simpa using hne))
  · exact L.fixed hA (by decide)

lemma smtpDATA (fuel : Nat) (arg : Arg) : A (smtpDATA E fuel arg) := by
  unfold AioSmtpd.smtpDATA
  refine L.get_then (fun _ _ h => by simp only [h]) fun w => ?_
  split
  · exact L.fixed hA (by decide)
  split
  · exact L.fixed hA (by decide)
  split
  · exact L.fixed hA (by decide)
  · exact L.bind_left (L.fixed hA (by decide)) fun _ =>
      L.bind (L.dataLoop fuel _) fun acc => L.dataFinish hA acc

/-- Every command has `A`: each branch of each `smtp_<VERB>` ends in a push or a raise. -/
lemma dispatch {fuel : Nat} {command : String} {method : Arg → Co Unit}
    (h : AioSmtpd.dispatch E fuel command = some method)
    (hq : command = "QUIT" → K (Co.modify fun w => { w with cancelled := true }))
    {arg : Arg} (ha : E.AdmitsArg M X arg) : A (method arg) := by
  unfold AioSmtpd.dispatch at h
  split at h <;> cases h
  exacts [L.smtpHELO hA arg, L.smtpEHLO hA arg, L.smtpNOOP hA arg, L.smtpQUIT hA (hq rfl) arg,
    L.smtpHELP hA arg, L.smtpVRFY hA ha, L.smtpMAIL hA ha, L.smtpRCPT hA ha, L.smtpRSET hA arg,
    L.smtpDATA hA fuel arg, L.fixed hA (by decide)]

end Co.Closed

end

/-! ## The task's cancel -/

/-- `x` leaves the task's cancel as it found it. -/
def Co.KeepsCancelled {α : Type} (x : Co α) : Prop :=
  ∀ w w₁, (x w).world? = some w₁ → w₁.cancelled = w.cancelled

lemma Co.keepsCancelled_bind_ret {α β : Type} {x : Co α} {f : α → Co β} {Q : α → Prop}
    (hx : x.KeepsCancelled) (hq : ∀ w a w₁, x w = .ret a w₁ → Q a) (hf : ∀ a, Q a → (f a).KeepsCancelled) :
    (x >>= f).KeepsCancelled := fun w w₁ h => by
  rcases Co.bind_world h with ⟨e, he⟩ | ⟨a, w₂, h₂, h₁⟩
  · exact hx w w₁ (by rw [he]; rfl)
  · exact (hf a (hq w a w₂ h₂) w₂ w₁ h₁).trans (hx w w₂ (by rw [h₂]; rfl))

section

variable (E : Env)

/-- Every coroutine but QUIT's cancel keeps the cancel. -/
lemma keepsCancelled_closed :
    Co.Closed E (fun _ => True) (fun _ => True) Co.KeepsCancelled Co.KeepsCancelled where
  keeps h := h
  pure _ _ _ h := by cases h; rfl
  hang _ _ h := by cases h
  bind_ret := Co.keepsCancelled_bind_ret
  bind_left hx hf := Co.keepsCancelled_bind_ret (Q := fun _ => True) hx (fun _ _ _ _ => trivial) fun a _ => hf a
  get_bind _ hf w w₁ h := hf w w w₁ h
  get_then _ hf w w₁ h := hf w w w₁ h
  modifySess_then g hf w w₁ h := hf () { w with sess := g w.sess } w₁ h
  push _ _ _ h := by rcases push_world E h with rfl | rfl <;> rfl
  throw _ _ _ h := by cases h; rfl
  modifySess _ _ _ h := by cases h; rfl
  grow _ _ _ h := by cases h; rfl
  readline w _ h := by unfold readline at h; split at h <;> cases h <;> rfl
  processMessage c w _ h := by simp only [processMessage] at h; split at h <;> cases h <;> rfl

lemma handleException_keepsCancelled (e : Exc) : (handleException E e).KeepsCancelled := fun w _ h => by
  rcases handleException_cases E e w with h' | ⟨e', h'⟩ <;> rw [h'] at h <;> cases h <;> rfl

/-- The replies and exceptions every property admits. -/
lemma admits_true : E.Admits (fun _ => True) (fun _ => True) :=
  ⟨fun _ _ => trivial, ⟨trivial, trivial⟩, trivial, fun _ _ _ _ _ => trivial, ⟨trivial, trivial⟩⟩

lemma admitsArg_true (arg : Arg) : E.AdmitsArg (fun _ => True) (fun _ => True) arg :=
  ⟨fun _ _ => trivial, fun _ _ => trivial, fun _ _ _ _ _ => trivial, fun _ _ _ _ _ _ _ _ _ _ => trivial⟩

lemma catchAll_keepsCancelled (e : Exc) : (catchAll E e).KeepsCancelled :=
  (keepsCancelled_closed E).bind ((keepsCancelled_closed E).push trivial) fun _ =>
    handleException_keepsCancelled E e

/-- The `try` body cancels the task only by a QUIT answered 221. -/
lemma handleLine_cancelled {fuel : Nat} {raw : Bytes} {v w₁ : World}
    (h : (handleLine E fuel raw v).world? = some w₁) :
    w₁.cancelled = v.cancelled ∨
      w₁ = { v with replies := v.replies ++ [.str "221 Bye"], cancelled := true } := by
  have L := keepsCancelled_closed E
  simp only [handleLine, Co.ite_apply] at h
  split at h
  · exact .inl (L.push trivial v w₁ h)
  revert h
  cases ascii.decode (bytesUpper (splitCommand (rstripCRLF raw)).1) with
  | error e => exact fun h => .inl (L.throw trivial v w₁ h)
  | ok command =>
    intro h
    simp only [Co.bind_apply, Co.get_apply, Co.ite_apply] at h
    split at h
    · exact .inl (L.push trivial v w₁ h)
    revert h
    cases hd : dispatch E fuel command with
    | none => exact fun h => .inl (L.push trivial v w₁ h)
    | some method =>
      intro h
      by_cases hq : command = "QUIT"
      · subst hq
        simp only [dispatch, Option.some.injEq] at hd
        subst hd
        simp only [smtpQUIT, Co.ite_apply] at h
        split at h
        · exact .inl (L.push trivial v w₁ h)
        · simp only [Co.bind_apply, push_plain E (s := "221 Bye") (by decide)] at h
          cases hc : v.cancelled <;> simp only [hc, Outcome.written_false, Outcome.written_true,
            Co.modify_apply, Outcome.world?_ret, Outcome.world?_exc, Option.some.injEq] at h <;> subst h
          · exact .inr rfl
          · exact .inl rfl
      · exact .inl (L.dispatch (admits_true E) hd (fun h => absurd h hq) (admitsArg_true E _) v w₁ h)

end

/-! ## After QUIT -/

/-- From a world whose task QUIT has cancelled, `x` leaves it cancelled. -/
def Co.StaysCancelled {α : Type} (x : Co α) : Prop :=
  ∀ w w₁, w.cancelled = true → (x w).world? = some w₁ → w₁.cancelled = true

/-- From a world whose task QUIT has cancelled, `x` raises, having changed at most the session
and the replies: a push in a cancelled task writes its reply and raises at the drain. -/
def Co.Stops {α : Type} (x : Co α) : Prop :=
  x.StaysCancelled ∧ ∀ w, w.cancelled = true → ∃ e s r, x w = .exc e { w with sess := s, replies := r }

lemma Co.KeepsCancelled.staysCancelled {α : Type} {x : Co α} (h : x.KeepsCancelled) : x.StaysCancelled :=
  fun w w₁ hc h₁ => (h w w₁ h₁).trans hc

lemma Co.staysCancelled_bind_ret {α β : Type} {x : Co α} {f : α → Co β} {Q : α → Prop}
    (hx : x.StaysCancelled) (hq : ∀ w a w₁, x w = .ret a w₁ → Q a) (hf : ∀ a, Q a → (f a).StaysCancelled) :
    (x >>= f).StaysCancelled := fun w w₁ hc h => by
  rcases Co.bind_world h with ⟨e, he⟩ | ⟨a, w₂, h₂, h₁⟩
  · exact hx w w₁ hc (by rw [he]; rfl)
  · exact hf a (hq w a w₂ h₂) w₂ w₁ (hx w w₂ hc (by rw [h₂]; rfl)) h₁

/-- A coroutine stops when it reads the world and then stops, whatever it read. -/
lemma Co.stops_get_bind {α : Type} {f : World → Co α} (hf : ∀ w, (f w).Stops) : (Co.get >>= f).Stops :=
  ⟨fun w w₁ hc h => (hf w).1 w w₁ hc h, fun w hc => (hf w).2 w hc⟩

section

variable (E : Env)

/-- In a cancelled task every command stops at its first reply, if not before. -/
lemma stops_closed : Co.Closed E (fun _ => True) (fun _ => True) Co.StaysCancelled Co.Stops where
  keeps h := h.1
  pure a := ((keepsCancelled_closed E).pure a).staysCancelled
  hang := (keepsCancelled_closed E).hang.staysCancelled
  bind_ret := Co.staysCancelled_bind_ret
  bind_left hx hf := ⟨Co.staysCancelled_bind_ret (Q := fun _ => True) hx.1 (fun _ _ _ _ => trivial) fun a _ => hf a,
    fun w hc => by
      obtain ⟨e, s, r, he⟩ := hx.2 w hc
      exact ⟨e, s, r, by rw [Co.bind_apply, he]⟩⟩
  get_bind _ hf w w₁ hc h := hf w w w₁ hc h
  get_then _ hf := Co.stops_get_bind hf
  modifySess_then g hf := ⟨fun w w₁ hc h => (hf ()).1 { w with sess := g w.sess } w₁ hc h,
    fun w hc => (hf ()).2 { w with sess := g w.sess } hc⟩
  push {m} _ := ⟨((keepsCancelled_closed E).push trivial).staysCancelled, fun w hc => by
    rcases push_cases E m w with h | ⟨e, h⟩ <;> rw [h]
    · rw [Outcome.written_of_true hc]; exact ⟨_, _, _, rfl⟩
    · exact ⟨e, _, _, rfl⟩⟩
  throw _ := ⟨((keepsCancelled_closed E).throw trivial).staysCancelled, fun _ _ => ⟨_, _, _, rfl⟩⟩
  modifySess g := ((keepsCancelled_closed E).modifySess g).staysCancelled
  grow n := ((keepsCancelled_closed E).grow n).staysCancelled
  readline := (keepsCancelled_closed E).readline.staysCancelled
  processMessage c := ((keepsCancelled_closed E).processMessage c).staysCancelled

/-- In a cancelled task the `try` body stops: an empty line, an undecodable verb, an overlong
line and an unknown command are refused by one push, and every command stops. -/
lemma handleLine_stops (fuel : Nat) (raw : Bytes) : (handleLine E fuel raw).Stops := by
  have L := stops_closed E
  unfold handleLine
  dsimp only
  split
  · exact L.push trivial
  split
  · exact L.throw trivial
  refine Co.stops_get_bind fun w => ?_
  split
  · exact L.push trivial
  split
  · exact L.push trivial
  · exact L.dispatch (admits_true E) ‹_› (fun _ _ _ _ h => by cases h; rfl) (admitsArg_true E _)

lemma catchAll_stops (e : Exc) : (catchAll E e).Stops :=
  (stops_closed E).bind_left ((stops_closed E).push trivial) fun _ =>
    (handleException_keepsCancelled E e).staysCancelled

/-- Once QUIT has cancelled the task, a pass of the loop reads one more line and ends the task,
having changed at most the session and the replies: the command that line names runs up to its
first reply, which raises at the drain, and the reply of the `except` clause raises again. -/
lemma World.step_of_cancelled (fuel : Nat) {w : World} (hc : w.cancelled = true) :
    ∃ w', World.step E fuel w = some w' ∧
      w' = { w with buffer := (streamReadline w.buffer).2, sess := w'.sess, replies := w'.replies,
                    finished := true } := by
  suffices H : ∃ s r, clientStep E fuel w =
      .ret false { w with buffer := (streamReadline w.buffer).2, sess := s, replies := r } ∨
      ∃ e, clientStep E fuel w = .exc e { w with buffer := (streamReadline w.buffer).2, sess := s, replies := r } by
    obtain ⟨s, r, h | ⟨e, h⟩⟩ := H <;>
      exact ⟨{ w with buffer := (streamReadline w.buffer).2, sess := s, replies := r, finished := true },
        by simp only [World.step, h], rfl⟩
  unfold clientStep
  simp only [Co.bind_apply, readline]
  rcases hs : streamReadline w.buffer with ⟨_ | line, rest⟩
  · exact ⟨w.sess, w.replies, .inr ⟨_, rfl⟩⟩
  dsimp only
  rw [Co.ite_apply]
  split
  · -- a line that does not end in CRLF leaves the loop, through `handle_exception` when not empty
    rw [Co.ite_apply]
    split
    · rcases handleException_cases E (.incompleteRead line) { w with buffer := rest } with h | ⟨e, h⟩ <;>
        simp only [Co.bind_apply, h, Co.pure_apply]
      exacts [⟨_, _, .inl rfl⟩, ⟨_, _, .inr ⟨e, rfl⟩⟩]
    · exact ⟨_, _, .inl rfl⟩
  · obtain ⟨e, s, r, he⟩ := (handleLine_stops E fuel line).2 { w with buffer := rest } hc
    obtain ⟨e', s', r', he'⟩ := (catchAll_stops E e).2 { w with buffer := rest, sess := s, replies := r } hc
    simp only [Co.bind_apply, Co.tryCatch, he, he']
    exact ⟨_, _, .inr ⟨_, rfl⟩⟩

/-- A pass of the loop never takes back QUIT's cancel. -/
lemma World.step_cancelled {fuel : Nat} {w w' : World} (h : World.step E fuel w = some w')
    (hc : w.cancelled = true) : w'.cancelled = true := by
  obtain ⟨w'', hw, he⟩ := World.step_of_cancelled E fuel hc
  obtain rfl : w' = w'' := Option.some.inj (h.symm.trans hw)
  exact (congrArg World.cancelled he).trans hc

end

end AioSmtpd
