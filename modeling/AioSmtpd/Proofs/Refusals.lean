import AioSmtpd.Proofs.Transaction
import AioSmtpd.Proofs.Replies

/-!
# A refused command leaves nothing a later command can see

`mail_options` is read only by the `process_message` call of DATA, which needs a recipient,
which needs a sender, which only a MAIL answered 250 sets, after writing `mail_options` anew;
RCPT writes `rcpt_options` before it records a recipient. `Session.live` clears both while they
are dead, and two worlds with the same live part make the same exchanges (`World.trace_live`).
A pass that refuses its line, writing only replies of code 500 or above and making no call,
changes nothing but these options, so the rest of the session goes as if the line had not been
sent, unless it is a RCPT sent while a recipient is recorded (`rejected_line_unobservable`).
-/

namespace AioSmtpd

/-- The session with the options that no later read can see cleared: `mail_options` while
there is neither a sender nor a recipient, `rcpt_options` while there is no recipient. -/
def Session.live (s : Session) : Session :=
  { s with
    mailOptions := if optTruthy s.mailfrom = false ∧ s.rcpttos = [] then none else s.mailOptions
    rcptOptions := if s.rcpttos = [] then none else s.rcptOptions }

/-- The world with its session's dead options cleared. -/
def World.live (w : World) : World := { w with sess := w.sess.live }

/-- The outcome `o` with the dead options of the world it ended in cleared. -/
def Outcome.live {α : Type} : Outcome α → Outcome α
  | .ret a w => .ret a w.live
  | .exc e w => .exc e w.live
  | .hang => .hang

/-- Two worlds with the same live part agree on their sessions' live parts. -/
lemma World.sess_live {w₁ w₂ : World} (h : w₁.live = w₂.live) : w₁.sess.live = w₂.sess.live :=
  congrArg World.sess h

/-- Two worlds with the same live part differ only in their sessions. -/
lemma World.with_sess_of_live {w₁ w₂ : World} (h : w₁.live = w₂.live) (s : Session) :
    { w₁ with sess := s } = { w₂ with sess := s } :=
  congrArg (fun w : World => { w with sess := s }) h

/-- Worlds with the same live part agree on everything that clearing the dead options keeps. -/
lemma World.live_congr {β : Type} {w₁ w₂ : World} (h : w₁.live = w₂.live) (f : World → β)
    (hf : ∀ w, f w.live = f w) : f w₁ = f w₂ := by
  rw [← hf w₁, h, hf w₂]

lemma World.rcpttos_of_live {w₁ w₂ : World} (h : w₁.live = w₂.live) : w₁.sess.rcpttos = w₂.sess.rcpttos :=
  World.live_congr h (·.sess.rcpttos) fun _ => rfl

lemma World.mailfrom_of_live {w₁ w₂ : World} (h : w₁.live = w₂.live) : w₁.sess.mailfrom = w₂.sess.mailfrom :=
  World.live_congr h (·.sess.mailfrom) fun _ => rfl

/-- While there is a recipient nothing is dead: worlds with the same live part are equal. -/
lemma World.eq_of_live {w₁ w₂ : World} (h : w₁.live = w₂.live) (hr : w₁.sess.rcpttos ≠ []) :
    w₁ = w₂ := by
  have hs := World.sess_live h
  have hr₂ : w₂.sess.rcpttos ≠ [] := World.rcpttos_of_live h ▸ hr
  have hs' : w₁.sess = w₂.sess := by
    simpa only [Session.live, hr, hr₂, and_false, if_false] using hs
  calc w₁ = { w₁ with sess := w₂.sess } := by rw [← hs']
    _ = w₂ := World.with_sess_of_live h _

namespace Co

variable {α β : Type} {x y : Co α} {w₁ w₂ : World}

/-- `x` ends alike from `w₁` and `w₂`: with the same value or exception, in worlds with the
same live part. -/
def LiveAt (x : Co α) (w₁ w₂ : World) : Prop := (x w₁).live = (x w₂).live

/-- `x` reads no dead option: from any two worlds with the same live part it ends alike. -/
def Live (x : Co α) : Prop := ∀ w₁ w₂, w₁.live = w₂.live → x.LiveAt w₁ w₂

/-- A coroutine that clearing the dead options before or after it makes no difference to. -/
lemma live_of_commutes (hx : ∀ w, x w.live = (x w).live) : x.Live := fun w₁ w₂ h => by
  rw [LiveAt, ← hx, h, hx]

lemma live_pure (a : α) : (pure a : Co α).Live := live_of_commutes fun _ => rfl

lemma live_throw (e : Exc) : (Co.throw e : Co α).Live := live_of_commutes fun _ => rfl

lemma liveAt_of_eq (h : w₁ = w₂) : x.LiveAt w₁ w₂ := by rw [h]; rfl

lemma liveAt_ite {c : Prop} [Decidable c] (hx : x.LiveAt w₁ w₂) (hy : y.LiveAt w₁ w₂) :
    (if c then x else y).LiveAt w₁ w₂ := by
  split <;> assumption

/-- A bound coroutine ends alike where its first half does and its second half does from the
worlds the first returns in. -/
lemma liveAt_bind {f : α → Co β} (hx : x.LiveAt w₁ w₂)
    (hf : ∀ a v₁ v₂, x w₁ = .ret a v₁ → x w₂ = .ret a v₂ → v₁.live = v₂.live → (f a).LiveAt v₁ v₂) :
    (x >>= f).LiveAt w₁ w₂ := by
  unfold LiveAt at hx ⊢
  simp only [bind_apply]
  rcases h₁ : x w₁ with ⟨a, v₁⟩ | ⟨e, v₁⟩ | _ <;> rcases h₂ : x w₂ with ⟨b, v₂⟩ | ⟨e', v₂⟩ | _ <;>
    rw [h₁, h₂] at hx <;>
    simp only [Outcome.live, Outcome.ret.injEq, Outcome.exc.injEq, reduceCtorEq] at hx ⊢
  · obtain ⟨rfl, hv⟩ := hx
    exact hf a v₁ v₂ h₁ h₂ hv
  · exact hx

lemma live_bind {f : α → Co β} (hx : x.Live) (hf : ∀ a, (f a).Live) : (x >>= f).Live :=
  fun w₁ w₂ h => liveAt_bind (hx w₁ w₂ h) fun a v₁ v₂ _ _ hv => hf a v₁ v₂ hv

/-- A `try` ends alike where its body does and its handler does from the worlds the body
raises in. -/
lemma liveAt_tryCatch {h : Exc → Co α} (hx : x.LiveAt w₁ w₂)
    (hh : ∀ e v₁ v₂, x w₁ = .exc e v₁ → x w₂ = .exc e v₂ → v₁.live = v₂.live → (h e).LiveAt v₁ v₂) :
    (Co.tryCatch x h).LiveAt w₁ w₂ := by
  unfold LiveAt at hx ⊢
  unfold Co.tryCatch
  rcases h₁ : x w₁ with ⟨a, v₁⟩ | ⟨e, v₁⟩ | _ <;> rcases h₂ : x w₂ with ⟨b, v₂⟩ | ⟨e', v₂⟩ | _ <;>
    rw [h₁, h₂] at hx <;>
    simp only [Outcome.live, Outcome.ret.injEq, Outcome.exc.injEq, reduceCtorEq] at hx ⊢
  · exact hx
  · obtain ⟨rfl, hv⟩ := hx
    exact hh e v₁ v₂ h₁ h₂ hv

/-- A coroutine that reads the world and goes on in a way that depends on its live part only
ends alike where its continuation does. -/
lemma live_get_bind {f : World → Co α} (hf : ∀ w, f w.live = f w)
    (hk : ∀ w₁ w₂, w₁.live = w₂.live → (f w₂).LiveAt w₁ w₂) : (Co.get >>= f).Live := fun w₁ w₂ h => by
  show (f w₁ w₁).live = (f w₂ w₂).live
  rw [← hf w₁, h, hf w₂]
  exact hk w₁ w₂ h

/-- An update of the session keeps two worlds alike when it leaves their sessions alike. -/
lemma liveAt_modifySess {g : Session → Session} (h : w₁.live = w₂.live)
    (hg : (g w₁.sess).live = (g w₂.sess).live) : (Co.modifySess g).LiveAt w₁ w₂ := by
  show Outcome.ret () { w₁ with sess := (g w₁.sess).live } = .ret () { w₂ with sess := (g w₂.sess).live }
  rw [hg, World.with_sess_of_live h]

/-- An update of the session keeps worlds alike when its live part depends on the live part of
the session it updates. -/
lemma live_modifySess {g : Session → Session} (hg : ∀ s, (g s.live).live = (g s).live) :
    (Co.modifySess g).Live := fun _ _ h =>
  liveAt_modifySess h (by rw [← hg, World.sess_live h, hg])

/-- An update of the session after which the two worlds are equal. -/
lemma liveAt_modifySess_bind {g : Session → Session} {k : Unit → Co α}
    (h : ({ w₁ with sess := g w₁.sess } : World) = { w₂ with sess := g w₂.sess }) :
    (Co.modifySess g >>= k).LiveAt w₁ w₂ := by
  show (k () { w₁ with sess := g w₁.sess }).live = (k () { w₂ with sess := g w₂.sess }).live
  rw [h]

end Co

/-- `rcpt_options` is dead while there is no recipient. -/
@[simp] lemma Session.live_rcptOptions {s : Session} (hr : s.rcpttos = []) (o : Option (List String)) :
    ({ s with rcptOptions := o }).live = s.live := by
  simp [Session.live, hr]

/-- Once MAIL has written `mail_options`, sessions with the same live part and no recipient
stay alike whatever sender it records. -/
lemma Session.live_mailfrom {s₁ s₂ : Session} (h : s₁.live = s₂.live) (hr : s₁.rcpttos = [])
    (hm : s₁.mailOptions = s₂.mailOptions) (f : Option String) :
    ({ s₁ with mailfrom := f }).live = ({ s₂ with mailfrom := f }).live := by
  cases s₁
  cases s₂
  simp only [Session.live, Session.mk.injEq] at h hr hm ⊢
  obtain ⟨rfl, rfl, rfl, rfl, rfl, rfl, -, -⟩ := h
  subst hr hm
  simp

/-- Under a sender `mail_options` is live, so once RCPT has written `rcpt_options`, sessions
with the same live part are equal. -/
lemma Session.eq_rcptOptions_of_live {s₁ s₂ : Session} (h : s₁.live = s₂.live)
    (hm : optTruthy s₁.mailfrom = true) (o : Option (List String)) :
    { s₁ with rcptOptions := o } = { s₂ with rcptOptions := o } := by
  cases s₁
  cases s₂
  simp only [Session.live, Session.mk.injEq] at h hm ⊢
  obtain ⟨rfl, rfl, rfl, rfl, rfl, rfl, h₇, -⟩ := h
  simpa [hm] using h₇

section

variable (E : Env)

/-! ## The primitives and the commands -/

lemma encodeReply_live (s : Session) (m : StrOrBytes) : encodeReply E s.live m = encodeReply E s m := by
  cases m <;> rfl

lemma push_live (m : StrOrBytes) : (push E m).Live := Co.live_of_commutes fun w => by
  simp only [push, World.live, encodeReply_live]
  split
  · cases w.cancelled <;> rfl
  · rfl

lemma handleException_live (e : Exc) : (handleException E e).Live := Co.live_of_commutes fun w => by
  unfold handleException
  repeat' split
  all_goals rfl

lemma readline_live : readline.Live := Co.live_of_commutes fun w => by
  unfold readline
  dsimp only [World.live]
  split <;> rfl

lemma smtpHELO_live (arg : Arg) : (smtpHELO E arg).Live := by
  unfold smtpHELO
  refine Co.live_get_bind (fun _ => rfl) fun w₁ w₂ h => ?_
  split
  · exact push_live E _ w₁ w₂ h
  split
  · exact push_live E _ w₁ w₂ h
  · refine Co.live_bind (Co.live_modifySess ?_) (fun _ => push_live E _) w₁ w₂ h
    exact fun _ => rfl

lemma smtpEHLO_live (arg : Arg) : (smtpEHLO E arg).Live := by
  unfold smtpEHLO
  refine Co.live_get_bind (fun _ => rfl) fun w₁ w₂ h => ?_
  split
  · exact push_live E _ w₁ w₂ h
  split
  · exact push_live E _ w₁ w₂ h
  have hgrow : ∀ n, (Co.modify fun w : World => { w with cls := w.cls.grow "MAIL" n }).Live :=
    fun _ => Co.live_of_commutes fun _ => rfl
  refine Co.live_bind (Co.live_modifySess ?_) (fun _ => Co.live_bind (push_live E _) fun _ => ?_) w₁ w₂ h
  · exact fun _ => rfl
  -- the three optional capability lines are join points of the do block
  lift_lets
  intro jpHelp jpUtf8 jp8bit
  have hHelp : ∀ y, (jpHelp y).Live := fun _ => push_live E _
  have hUtf8 : ∀ y, (jpUtf8 y).Live := fun _ v₁ v₂ hv =>
    Co.liveAt_ite (Co.live_bind (push_live E _) (fun _ => Co.live_bind (hgrow _) hHelp) v₁ v₂ hv)
      (Co.live_bind (Co.live_pure _) hHelp v₁ v₂ hv)
  have h8bit : ∀ y, (jp8bit y).Live := fun _ v₁ v₂ hv =>
    Co.liveAt_ite (Co.live_bind (push_live E _) hUtf8 v₁ v₂ hv) (Co.live_bind (Co.live_pure _) hUtf8 v₁ v₂ hv)
  exact fun v₁ v₂ hv => Co.liveAt_ite
    (Co.live_bind (push_live E _) (fun _ => Co.live_bind (hgrow _) h8bit) v₁ v₂ hv)
    (Co.live_bind (Co.live_pure _) h8bit v₁ v₂ hv)

lemma smtpNOOP_live (arg : Arg) : (smtpNOOP E arg).Live := fun w₁ w₂ h =>
  Co.liveAt_ite (push_live E _ w₁ w₂ h) (push_live E _ w₁ w₂ h)

lemma smtpQUIT_live (arg : Arg) : (smtpQUIT E arg).Live := fun w₁ w₂ h =>
  Co.liveAt_ite (push_live E _ w₁ w₂ h)
    (Co.live_bind (push_live E _) (fun _ => Co.live_of_commutes fun _ => rfl) w₁ w₂ h)

lemma smtpHELP_live (arg : Arg) : (smtpHELP E arg).Live := by
  unfold smtpHELP
  refine Co.live_get_bind (fun _ => rfl) fun w₁ w₂ h => ?_
  split
  · split <;> exact push_live E _ w₁ w₂ h
  · exact push_live E _ w₁ w₂ h

lemma smtpVRFY_live (arg : Arg) : (smtpVRFY E arg).Live := fun w₁ w₂ h => by
  unfold smtpVRFY
  split
  · split
    · exact push_live E _ w₁ w₂ h
    · exact Co.liveAt_ite (push_live E _ w₁ w₂ h) (push_live E _ w₁ w₂ h)
  · exact push_live E _ w₁ w₂ h

lemma smtpRSET_live (arg : Arg) : (smtpRSET E arg).Live := fun w₁ w₂ h => by
  refine Co.liveAt_ite (push_live E _ w₁ w₂ h) (Co.live_bind (Co.live_modifySess ?_) (fun _ => push_live E _) w₁ w₂ h)
  exact fun _ => rfl

/-- MAIL writes `mail_options` only while there is no sender; with no recipient either, the
two worlds then differ at most in a dead `rcpt_options` until the end of the command. -/
lemma smtpMAIL_live (arg : Arg) : (smtpMAIL E arg).Live := by
  unfold smtpMAIL
  refine Co.live_get_bind (fun _ => rfl) fun w₁ w₂ h => ?_
  lift_lets
  intro syntaxerr
  split
  · exact push_live E _ w₁ w₂ h
  split
  · exact push_live E _ w₁ w₂ h
  · exact push_live E _ w₁ w₂ h
  split
  · exact Co.live_throw _ w₁ w₂ h
  split
  · exact push_live E _ w₁ w₂ h
  split
  · exact push_live E _ w₁ w₂ h
  split
  · exact push_live E _ w₁ w₂ h
  by_cases hr : w₁.sess.rcpttos = []
  swap
  · exact Co.liveAt_of_eq (World.eq_of_live h hr)
  refine Co.liveAt_bind (Co.live_modifySess ?_ w₁ w₂ h) fun _ v₁ v₂ h₁ h₂ hv => ?_
  · exact fun s => by by_cases hs : s.rcpttos = [] <;> simp [Session.live, hs]
  simp only [Co.modifySess_apply, Outcome.ret.injEq, true_and] at h₁ h₂
  subst h₁ h₂
  split
  · exact push_live E _ _ _ hv
  split
  · exact Co.live_throw _ _ _ hv
  · exact push_live E _ _ _ hv
  exact Co.liveAt_bind (Co.liveAt_modifySess hv (Session.live_mailfrom (World.sess_live hv) hr rfl _))
    fun _ u₁ u₂ _ _ hu => push_live E _ u₁ u₂ hu

/-- RCPT writes `rcpt_options` only under a sender, where `mail_options` is live: the two worlds
are then equal. -/
lemma smtpRCPT_live (arg : Arg) : (smtpRCPT E arg).Live := by
  unfold smtpRCPT
  refine Co.live_get_bind (fun _ => rfl) fun w₁ w₂ h => ?_
  lift_lets
  intro syntaxerr
  split
  · exact push_live E _ w₁ w₂ h
  split
  · exact push_live E _ w₁ w₂ h
  rename_i hm
  have hm₁ : optTruthy w₁.sess.mailfrom = true := by
    rw [World.mailfrom_of_live h]
    simpa using hm
  split
  · exact push_live E _ w₁ w₂ h
  · exact push_live E _ w₁ w₂ h
  split
  · exact Co.live_throw _ w₁ w₂ h
  split
  · exact push_live E _ w₁ w₂ h
  split
  · exact push_live E _ w₁ w₂ h
  refine Co.liveAt_modifySess_bind ?_
  rw [Session.eq_rcptOptions_of_live (World.sess_live h) hm₁, World.with_sess_of_live h]

/-- DATA reads the options only once it has checked that there is a recipient, and then nothing
is dead. -/
lemma smtpDATA_live (fuel : Nat) (arg : Arg) : (smtpDATA E fuel arg).Live := by
  unfold smtpDATA
  refine Co.live_get_bind (fun _ => rfl) fun w₁ w₂ h => ?_
  split
  · exact push_live E _ w₁ w₂ h
  split
  · exact push_live E _ w₁ w₂ h
  rename_i hr
  have hr₁ : w₁.sess.rcpttos ≠ [] := by
    rw [World.rcpttos_of_live h]
    simpa using hr
  exact Co.liveAt_of_eq (World.eq_of_live h hr₁)

lemma dispatch_live {fuel : Nat} {command : String} {method : Arg → Co Unit}
    (h : dispatch E fuel command = some method) (arg : Arg) : (method arg).Live := by
  unfold dispatch at h
  split at h <;> cases h
  exacts [smtpHELO_live E arg, smtpEHLO_live E arg, smtpNOOP_live E arg, smtpQUIT_live E arg,
    smtpHELP_live E arg, smtpVRFY_live E arg, smtpMAIL_live E arg, smtpRCPT_live E arg,
    smtpRSET_live E arg, smtpDATA_live E fuel arg, push_live E _]

lemma catchAll_live (e : Exc) : (catchAll E e).Live :=
  Co.live_bind (push_live E _) fun _ => handleException_live E e

/-! ## Passes and traces -/

lemma handleLine_live (fuel : Nat) (raw : Bytes) : (handleLine E fuel raw).Live := fun w₁ w₂ h => by
  unfold handleLine
  dsimp only
  split
  · exact push_live E _ w₁ w₂ h
  split
  · exact Co.live_throw _ w₁ w₂ h
  refine Co.live_get_bind ?_ (fun v₁ v₂ hv => ?_) w₁ w₂ h
  · exact fun _ => rfl
  split
  · exact push_live E _ v₁ v₂ hv
  split
  · exact push_live E _ v₁ v₂ hv
  · exact dispatch_live E ‹_› _ v₁ v₂ hv

lemma clientStep_live (fuel : Nat) : (clientStep E fuel).Live := by
  unfold clientStep
  refine Co.live_bind readline_live fun line v₁ v₂ hv => ?_
  split
  · exact Co.liveAt_ite (Co.live_bind (handleException_live E _) (fun _ => Co.live_pure _) v₁ v₂ hv)
      (Co.live_pure _ v₁ v₂ hv)
  · exact Co.liveAt_bind (Co.liveAt_tryCatch (handleLine_live E fuel line v₁ v₂ hv)
      fun e u₁ u₂ _ _ hu => catchAll_live E e u₁ u₂ hu) fun _ u₁ u₂ _ _ hu => Co.live_pure _ u₁ u₂ hu

/-- A pass of the loop from two worlds with the same live part ends in two such worlds, or
in neither. -/
lemma World.step_live {w₁ w₂ : World} (h : w₁.live = w₂.live) (fuel : Nat) :
    (World.step E fuel w₁).map World.live = (World.step E fuel w₂).map World.live := by
  have hc := clientStep_live E fuel w₁ w₂ h
  unfold Co.LiveAt at hc
  unfold World.step
  rcases h₁ : clientStep E fuel w₁ with ⟨_ | _, v₁⟩ | ⟨e, v₁⟩ | _ <;>
    rcases h₂ : clientStep E fuel w₂ with ⟨_ | _, v₂⟩ | ⟨e', v₂⟩ | _ <;>
    rw [h₁, h₂] at hc <;>
    simp only [Outcome.live, Outcome.ret.injEq, Outcome.exc.injEq, reduceCtorEq, false_and,
      Bool.false_eq_true, Bool.true_eq_false, true_and, Option.map_some', Option.map_none',
      Option.some.injEq] at hc ⊢
  all_goals
    first
    | exact congrArg (fun w : World => { w with finished := true }) hc
    | exact congrArg (fun w : World => { w with finished := true }) hc.2
    | exact hc

/-- What a pass showed depends only on the live parts of the worlds it went between. -/
lemma Exchange.of_live {w₁ w₂ w₁' w₂' : World} (h : w₁.live = w₂.live) (h' : w₁'.live = w₂'.live) :
    Exchange.of w₁ w₁' = Exchange.of w₂ w₂' := by
  simp only [Exchange.of, lineRead, World.live_congr h World.buffer fun _ => rfl,
    World.live_congr h World.replies fun _ => rfl, World.live_congr h' World.replies fun _ => rfl,
    World.live_congr h World.calls fun _ => rfl, World.live_congr h' World.calls fun _ => rfl]

end

/-- The exchanges of the passes the loop makes from `w`, the `i`-th with `fuels[i]` DATA reads,
while the task runs; `none` when a pass does not end within its fuel. -/
def World.trace (E : Env) : List Nat → World → Option (List Exchange)
  | [], _ => some []
  | fuel :: fuels, w =>
    if w.finished then some []
    else (World.step E fuel w).bind fun w' => (World.trace E fuels w').map (Exchange.of w w' :: ·)

section

variable (E : Env)

/-- Worlds that agree on `κ` make the same exchanges, when `κ` fixes whether the task has
finished and what a pass shows, and every pass from two worlds that agree on it ends in two
worlds that do, or in neither. -/
lemma World.trace_congr {β : Type} (κ : World → β)
    (hfin : ∀ {w₁ w₂ : World}, κ w₁ = κ w₂ → w₁.finished = w₂.finished)
    (hstep : ∀ {w₁ w₂ : World} (fuel : Nat), κ w₁ = κ w₂ →
      (World.step E fuel w₁).map κ = (World.step E fuel w₂).map κ)
    (hx : ∀ {w₁ w₂ w₁' w₂' : World}, κ w₁ = κ w₂ → κ w₁' = κ w₂' → Exchange.of w₁ w₁' = Exchange.of w₂ w₂')
    {w₁ w₂ : World} (h : κ w₁ = κ w₂) (fuels : List Nat) :
    World.trace E fuels w₁ = World.trace E fuels w₂ := by
  induction fuels generalizing w₁ w₂ with
  | nil => rfl
  | cons fuel fuels ih =>
    have hs := hstep fuel h
    simp only [World.trace, hfin h]
    split
    · rfl
    rcases h₁ : World.step E fuel w₁ with _ | v₁ <;> rcases h₂ : World.step E fuel w₂ with _ | v₂ <;>
      rw [h₁, h₂] at hs <;> simp only [Option.map_none', Option.map_some', reduceCtorEq,
        Option.some.injEq, Option.none_bind, Option.some_bind] at hs ⊢
    rw [ih hs, hx h hs]

/-- Dead options are never seen: two sessions that differ only in a `mail_options` set while
they have neither sender nor recipient, or in an `rcpt_options` set while they have no
recipient, make the same exchanges for as long as they run, whatever the client sends next. -/
theorem World.trace_live {w₁ w₂ : World} (h : w₁.live = w₂.live) (fuels : List Nat) :
    World.trace E fuels w₁ = World.trace E fuels w₂ :=
  World.trace_congr E World.live (fun h => World.live_congr h World.finished fun _ => rfl)
    (fun fuel h => World.step_live E h fuel) Exchange.of_live h fuels

end

/-- A greeted session with no transaction, reading a whole transaction, whose options are
`opts`. -/
def staleOptionsWorld (opts : Option (List String)) : World :=
  ⟨ClassState.clear SMTP, { Session.init "p" with seenGreeting := .str "c", mailOptions := opts, rcptOptions := opts },
    asciiBytes "MAIL FROM:<a@b>\r\nRCPT TO:<d@e>\r\nDATA\r\nhi\r\n.\r\n", [], [], false, false⟩

/-- Options left from before make no difference to the transaction that follows. -/
theorem World.trace_live_sample :
    (staleOptionsWorld (some ["X"])).live = (staleOptionsWorld none).live ∧
    World.trace (sampleEnv dataSizeDefault Handler.accepting) [3, 3, 3, 3] (staleOptionsWorld (some ["X"])) =
      World.trace (sampleEnv dataSizeDefault Handler.accepting) [3, 3, 3, 3] (staleOptionsWorld none) :=
  ⟨rfl, World.trace_live _ rfl _⟩

/-! ## A refused line -/

/-- A reply with code 500 or above. -/
def StrOrBytes.is5xx : StrOrBytes → Bool
  | .str s => s.toList.head? == some '5'
  | .bytes b => b.head? == some 53

/-- A pass that refused its line: it made no call, and every reply it wrote has a code of 500
or above. -/
def Exchange.rejected (x : Exchange) : Bool := x.calls.isEmpty && x.replies.all StrOrBytes.is5xx

/-- What a refused line may change in the session `s`: nothing; `mail_options` while there is
no sender; or `rcpt_options`, when the line is a RCPT (`rcpt`). -/
def Session.RefusalChange (s s' : Session) (rcpt : Prop) : Prop :=
  s' = s ∨ (optTruthy s.mailfrom = false ∧ ∃ toks, s' = { s with mailOptions := some toks }) ∨
    (rcpt ∧ ∃ toks, s' = { s with rcptOptions := some toks })

lemma is5xx_append {s : String} (hs : s ≠ "") (t : String) :
    (StrOrBytes.str (s ++ t)).is5xx = (StrOrBytes.str s).is5xx := by
  obtain ⟨_ | ⟨c, cs⟩⟩ := s
  · exact absurd rfl hs
  · rfl

section

variable (E : Env)

/-- A pass after which the task still runs read a line and ran the `try` body on it, followed
by the `except` clause when the body raised. -/
lemma World.step_body {fuel : Nat} {w w' : World} (h : World.step E fuel w = some w')
    (hend : w'.finished = false) :
    ∃ line rest w₁ e, streamReadline w.buffer = (.ok line, rest) ∧
      (handleLine E fuel line { w with buffer := rest }).world? = some w₁ ∧ Quiet w₁ w' ∧
      w'.cancelled = w₁.cancelled ∧ CatchReplies e ∧ w'.replies = w₁.replies ++ e := by
  unfold World.step at h
  rcases hc : clientStep E fuel w with ⟨_ | _, v⟩ | ⟨e, v⟩ | _ <;> rw [hc] at h <;> cases h <;>
    try cases hend
  simp only [clientStep, Co.bind_apply, Co.ite_apply, readline] at hc
  rcases hs : streamReadline w.buffer with ⟨_ | line, rest⟩ <;> rw [hs] at hc
  · cases hc
  dsimp only at hc
  split at hc
  · split at hc
    · rcases handleException_cases E (.incompleteRead line) { w with buffer := rest } with hh | ⟨e, hh⟩ <;>
        simp only [hh, Co.pure_apply] at hc <;> cases hc
    · cases hc
  simp only [Co.bind_apply, Co.tryCatch, Co.pure_apply] at hc
  refine ⟨line, rest, ?_⟩
  rcases hl : handleLine E fuel line { w with buffer := rest } with ⟨_, w₁⟩ | ⟨e, w₁⟩ | _ <;> rw [hl] at hc
  · cases hc
    exact ⟨w', [], rfl, rfl, Quiet.refl _, rfl, .inl rfl, by simp⟩
  · dsimp only at hc
    rcases hca : catchAll E e w₁ with ⟨_, w₂⟩ | ⟨e', w₂⟩ | _ <;> rw [hca] at hc <;> cases hc
    obtain ⟨hq, r, hr, hrep⟩ := catchAll_quiet E e w₁ (by rw [hca]; rfl)
    exact ⟨w₁, r, rfl, rfl, hq, catchAll_keepsCancelled E e w₁ w' (by rw [hca]; rfl), hr, hrep⟩
  · cases hc

/-- A `try` body that wrote only replies of code 500 or above and made no call changed neither
the table, the calls nor the cancellation, and of the session at most `mail_options`, while
there is no sender, or `rcpt_options`, by a RCPT. -/
lemma handleLine_rejected (hn : E.HostnameEncodes) {fuel : Nat} {raw : Bytes} {v w₁ : World}
    (h : (handleLine E fuel raw v).world? = some w₁)
    (hrej : ∀ r c, w₁.replies = v.replies ++ r → w₁.calls = v.calls ++ c → c = [] ∧ ∀ m ∈ r, m.is5xx = true) :
    w₁.cls = v.cls ∧ w₁.calls = v.calls ∧ w₁.cancelled = v.cancelled ∧
      v.sess.RefusalChange w₁.sess (ascii.decode (bytesUpper (splitCommand (rstripCRLF raw)).1) = .ok "RCPT") := by
  -- a reply below 500 contradicts `hrej`
  have hbad : ∀ (m : String) r, w₁.replies = v.replies ++ .str m :: r → w₁.calls = v.calls →
      (StrOrBytes.str m).is5xx = true :=
    fun m r hr hc => (hrej _ [] hr (by simpa using hc)).2 _ (List.mem_cons_self _ _)
  have hcan : w₁.cancelled = v.cancelled := by
    rcases handleLine_cancelled E h with hc | rfl
    · exact hc
    · exact absurd (hbad _ [] rfl rfl) (by decide)
  suffices H : w₁.cls = v.cls ∧ w₁.calls = v.calls ∧
      v.sess.RefusalChange w₁.sess (ascii.decode (bytesUpper (splitCommand (rstripCRLF raw)).1) = .ok "RCPT")
    from ⟨H.1, H.2.1, hcan, H.2.2⟩
  rcases handleLine_cases E fuel raw v h with ⟨⟨hc, hcl, -⟩, hs⟩ | ⟨command, method, hdec, hd, hm⟩
  · exact ⟨hcl, hc, .inl hs⟩
  rw [hdec]
  have hquiet : Quiet v w₁ → w₁.cls = v.cls ∧ w₁.calls = v.calls ∧
      v.sess.RefusalChange w₁.sess ((.ok command : Except Exc String) = .ok "RCPT") :=
    fun hq => ⟨hq.2.2, hq.2.1, .inl hq.1⟩
  unfold dispatch at hd
  split at hd <;> cases hd
  · rcases smtpHELO_cases E hn _ v with ⟨-, h'⟩ | ⟨-, h'⟩ | ⟨-, -, h'⟩ <;>
      rw [h', Outcome.world?_written] at hm <;> cases hm
    · exact ⟨rfl, rfl, .inl rfl⟩
    · exact ⟨rfl, rfl, .inl rfl⟩
    · exact absurd (hbad _ [] rfl rfl) (by rw [is5xx_append (by decide)]; decide)
  · rcases smtpEHLO_cases E hn _ v with ⟨-, h'⟩ | ⟨-, h'⟩ | ⟨-, -, h'⟩ <;>
      rw [h', Outcome.world?_written] at hm <;> cases hm
    · exact ⟨rfl, rfl, .inl rfl⟩
    · exact ⟨rfl, rfl, .inl rfl⟩
    · obtain ⟨r, hr⟩ : ∃ r, (if v.cancelled then [StrOrBytes.str ("250-" ++ E.cfg.hostname)] else ehloReplies E) =
          .str ("250-" ++ E.cfg.hostname) :: r := by split <;> exact ⟨_, rfl⟩
      exact absurd (hbad _ r (congrArg (v.replies ++ ·) hr) rfl) (by rw [is5xx_append (by decide)]; decide)
  · exact hquiet (smtpNOOP_quiet E hm)
  · exact hquiet (smtpQUIT_quiet E hm)
  · exact hquiet (smtpHELP_quiet E hm)
  · exact hquiet (smtpVRFY_quiet E hm)
  · rcases smtpMAIL_cases E _ v hm with ⟨⟨hc, hcl, -⟩, hs | hs⟩ | ⟨-, -, a, toks, -, -, rfl⟩
    · exact ⟨hcl, hc, .inl hs⟩
    · exact ⟨hcl, hc, .inr (.inl hs)⟩
    · exact absurd (hbad "250 OK" [] rfl rfl) (by decide)
  · rcases smtpRCPT_cases E _ v hm with ⟨⟨hc, hcl, -⟩, hs | ⟨-, hs⟩⟩ | ⟨-, -, a, toks, -, rfl⟩
    · exact ⟨hcl, hc, .inl hs⟩
    · exact ⟨hcl, hc, .inr (.inr ⟨rfl, hs⟩)⟩
    · exact absurd (hbad "250 OK" [] rfl rfl) (by decide)
  · rcases smtpRSET_cases E _ v with ⟨-, h'⟩ | ⟨-, h'⟩ <;> rw [h', Outcome.world?_written] at hm <;> cases hm
    · exact ⟨rfl, rfl, .inl rfl⟩
    · exact absurd (hbad "250 OK" [] rfl rfl) (by decide)
  · obtain ⟨hcl, hd⟩ := smtpDATA_cases E fuel _ v hm
    rcases hd with ⟨⟨hc, -, -⟩, hs⟩ | ⟨-, hc, hr⟩ | ⟨-, hc, hr⟩ | ⟨-, c, r, hc, -, -, -, ⟨rs, hr, -⟩, -⟩
    · exact ⟨hcl, hc, .inl hs⟩
    · exact absurd (hbad _ [] hr hc) (by decide)
    · exact absurd (hbad _ _ hr hc) (by decide)
    · exact absurd (hrej _ _ hr hc).1 (by simp)
  · exact hquiet (push_quiet E hm)

/-- A pass that refused its line, with the task still running, changed neither the table, the
calls nor the cancellation, and of the session at most `mail_options`, while there is no
sender, or `rcpt_options`, by a RCPT. -/
lemma World.step_rejected (hn : E.HostnameEncodes) {fuel : Nat} {w w' : World}
    (h : World.step E fuel w = some w') (hend : w'.finished = false)
    (hrej : (Exchange.of w w').rejected = true) :
    w'.cls = w.cls ∧ w'.calls = w.calls ∧ w'.cancelled = w.cancelled ∧
      w.sess.RefusalChange w'.sess ((Exchange.of w w').verb = some "RCPT") := by
  obtain ⟨line, rest, w₁, e, hs, hl, hq, hcan, -, hr⟩ := World.step_body E h hend
  obtain ⟨hcl, hc, hcan₁, hch⟩ := handleLine_rejected E hn hl fun r c hr₁ hc₁ => by
    have hx := hrej
    rw [exchange_of_body hs hq hr hr₁ hc₁] at hx
    simp only [Exchange.rejected, Bool.and_eq_true, List.isEmpty_iff, List.all_eq_true,
      List.mem_append] at hx
    exact ⟨hx.1, fun m hm => hx.2 m (.inl hm)⟩
  refine ⟨hq.2.2.trans hcl, hq.2.1.trans hc, hcan.trans hcan₁, ?_⟩
  rw [hq.1]
  rcases hch with hs' | hs' | ⟨hv, hs'⟩
  · exact .inl hs'
  · exact .inr (.inl hs')
  · exact .inr (.inr ⟨by simp [Exchange.verb, Exchange.of, lineRead, hs, hv], hs'⟩)

/-- A refused line has no effect on the rest of the session, unless it is a RCPT sent while a
recipient is recorded. Take any run, and a pass from it that refused its line: it wrote only
replies of code 500 or above, made no call and did not end the task. Whatever the client sends
next, the session then makes the same exchanges as from the world before the pass with only the
line read and the refusal written. The options a refused MAIL records are dead, since a sender
is set only by a MAIL answered 250, which records them anew; a refused RCPT records its own
while a recipient may be recorded, and they reach the next delivery. -/
theorem rejected_line_unobservable {xs : List Exchange} {w w' : World} {fuel : Nat} (h : Run E xs w)
    (hf : w.finished = false) (hs : World.step E fuel w = some w')
    (hrej : (Exchange.of w w').rejected = true) (hend : w'.finished = false)
    (hrcpt : (Exchange.of w w').verb ≠ some "RCPT" ∨ w.sess.rcpttos = []) (fuels : List Nat) :
    World.trace E fuels w' = World.trace E fuels { w with buffer := w'.buffer, replies := w'.replies } := by
  obtain ⟨hcl, hc, hcan, hch⟩ := World.step_rejected E (h.hostnameEncodes E hf) hs hend hrej
  -- a recipient is recorded only under a sender
  have hinv : w.sess.rcpttos ≠ [] → optTruthy w.sess.mailfrom = true :=
    Run.invariant E (fun s _ => s.rcpttos ≠ [] → optTruthy s.mailfrom = true) (fun _ h => absurd rfl h)
      (fun hi hs => (hs.call_envelope E hi).1) h (World.step_live_not_cancelled E hs hend)
  have hsess : w'.sess.live = w.sess.live := by
    rcases hch with hs' | ⟨hm, toks, hs'⟩ | ⟨hv, toks, hs'⟩ <;> rw [hs']
    · have hr : w.sess.rcpttos = [] := by
        by_contra hne
        rw [hinv hne] at hm
        cases hm
      simp [Session.live, hm, hr]
    · exact Session.live_rcptOptions (hrcpt.resolve_left (not_not.mpr hv)) _
  refine World.trace_congr E World.live (fun h => World.live_congr h World.finished fun _ => rfl)
    (fun fuel h => World.step_live E h fuel) Exchange.of_live ?_ fuels
  show { w' with sess := w'.sess.live } = { w with buffer := w'.buffer, replies := w'.replies, sess := w.sess.live }
  rw [hsess]
  obtain ⟨c', s', b', r', k', n', f'⟩ := w'
  dsimp only at hcl hc hcan hend ⊢
  rw [hcl, hc, hcan, hend, hf]

end

/-- A client greets with EHLO, sends a MAIL that is refused with 555 after its parameters were
recorded, and then a whole transaction. -/
def refusedMailSession (n : Nat) : List Exchange × World :=
  World.run (sampleEnv dataSizeDefault Handler.accepting) 3 "p"
    (asciiBytes "EHLO c\r\nMAIL FROM:<a@b> FOO=BAR\r\nMAIL FROM:<a@b>\r\nRCPT TO:<d@e>\r\nDATA\r\nhi\r\n.\r\n") n

/-- The refused MAIL records `mail_options = ['FOO=BAR']`, and the session goes on as if it had
not been sent. -/
theorem rejected_line_unobservable_sample :
    (refusedMailSession 2).2.sess.mailOptions = some ["FOO=BAR"] ∧
    World.trace (sampleEnv dataSizeDefault Handler.accepting) [3, 3, 3, 3] (refusedMailSession 2).2 =
      World.trace (sampleEnv dataSizeDefault Handler.accepting) [3, 3, 3, 3]
        { (refusedMailSession 1).2 with buffer := (refusedMailSession 2).2.buffer,
                                         replies := (refusedMailSession 2).2.replies } :=
  ⟨by decide, @rejected_line_unobservable _ _ _ _ 3 (Run.run _ 3 "p" _ 1) (by decide) (by rfl) (by decide)
    (by decide) (by decide) _⟩

end AioSmtpd
