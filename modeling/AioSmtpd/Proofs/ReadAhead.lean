import AioSmtpd.Proofs.Replies

/-!
# The loop reads no further than the lines it answers

`_handle_client` and the read loop of `smtp_DATA` take their client's bytes only through
`readline`, which stops at the first LF, so what a session does with the lines it has read does
not depend on the bytes that follow them. `Co.Feeds x` says that `x` reads its client only
forward and, where it ends with an LF still unread, runs the same after the client sent any
further bytes. It is closed under the clauses of `Co.Closed`, so it holds of every command and
of a pass of the loop (`World.step_feeds`), and every run that still holds a whole line unread
is a run of the session whose client sent more after it (`Run.feed`).
-/

namespace AioSmtpd

/-- The world `w` after its client sent `r` more: `r` follows the unread bytes. -/
def World.feed (w : World) (r : Bytes) : World := { w with buffer := w.buffer ++ r }

/-- The outcome `o` with `r` following the unread bytes of the world it ended in. -/
def Outcome.feed {α : Type} (r : Bytes) : Outcome α → Outcome α
  | .ret a w => .ret a (w.feed r)
  | .exc e w => .exc e (w.feed r)
  | .hang => .hang

/-- `x`, run from `w`, reads its client only forward; and when it ends with an LF still unread,
it runs the same from `w` after the client sent any further bytes. -/
def Co.FeedsAt {α : Type} (x : Co α) (w : World) : Prop :=
  ∀ w', (x w).world? = some w' → w'.buffer <:+ w.buffer ∧
    (10 ∈ w'.buffer → ∀ r, x (w.feed r) = (x w).feed r)

/-- `x` reads no further than it has to, from every world. -/
def Co.Feeds {α : Type} (x : Co α) : Prop := ∀ w, x.FeedsAt w

/-- The first LF of bytes that hold one. -/
lemma exists_first_lf : ∀ {b : Bytes}, 10 ∈ b → ∃ c t, b = c ++ 10 :: t ∧ 10 ∉ c
  | x :: b, h => by
    by_cases hx : x = 10
    · exact ⟨[], b, by rw [hx]; rfl, List.not_mem_nil _⟩
    · obtain ⟨c, t, rfl, hc⟩ := exists_first_lf ((List.mem_cons.mp h).resolve_left (Ne.symm hx))
      exact ⟨x :: c, t, rfl, by simp [Ne.symm hx, hc]⟩

/-- `readline` stops at the first LF: the bytes after it are left as they are. -/
lemma streamReadline_append_lf {b : Bytes} (hb : 10 ∈ b) (r : Bytes) :
    streamReadline (b ++ r) = ((streamReadline b).1, (streamReadline b).2 ++ r) := by
  obtain ⟨c, t, rfl, hc⟩ := exists_first_lf hb
  obtain ⟨h1, h2⟩ := takeWhile_not_lf t hc
  obtain ⟨h3, h4⟩ := takeWhile_not_lf (t ++ r) hc
  simp only [streamReadline, List.append_assoc, List.cons_append, h1, h2, h3, h4]
  split_ifs <;> rfl

namespace Co

variable {α β : Type} {x y : Co α} {w : World}

/-- A coroutine that leaves the unread bytes alone and commutes with new ones reads no
further than it has to. -/
lemma feeds_of_commutes (h : ∀ w r, x (w.feed r) = (x w).feed r)
    (hb : ∀ w w', (x w).world? = some w' → w'.buffer = w.buffer) : x.Feeds :=
  fun w w' hw => ⟨hb w w' hw ▸ List.suffix_refl _, fun _ r => h w r⟩

lemma feeds_pure (a : α) : (pure a : Co α).Feeds :=
  feeds_of_commutes (fun _ _ => rfl) fun _ _ h => by cases h; rfl

lemma feeds_throw (e : Exc) : (Co.throw e : Co α).Feeds :=
  feeds_of_commutes (fun _ _ => rfl) fun _ _ h => by cases h; rfl

lemma feeds_modify {g : World → World} (hg : ∀ w r, g (w.feed r) = (g w).feed r)
    (hb : ∀ w, (g w).buffer = w.buffer) : (Co.modify g).Feeds :=
  feeds_of_commutes (fun w r => by rw [modify_apply, modify_apply, hg]; rfl) fun w _ h => by
    cases h; exact hb w

lemma feeds_modifySess (g : Session → Session) : (Co.modifySess g).Feeds :=
  feeds_modify (fun _ _ => rfl) fun _ => rfl

lemma feedsAt_ite {c : Prop} [Decidable c] (hx : x.FeedsAt w) (hy : y.FeedsAt w) :
    (if c then x else y).FeedsAt w := by
  split <;> assumption

/-- A bound coroutine reads no further than it has to where its first half does not, and its
second half does not from every world the first returns in. -/
lemma feedsAt_bind {f : α → Co β} (hx : x.FeedsAt w)
    (hf : ∀ a w₁, x w = .ret a w₁ → (f a).FeedsAt w₁) : (x >>= f).FeedsAt w := by
  intro w' h
  rcases hxw : x w with ⟨a, w₁⟩ | ⟨e, w₁⟩ | _ <;> simp only [bind_apply, hxw] at h ⊢
  · obtain ⟨hs₂, hf₂⟩ := hf a w₁ hxw w' h
    obtain ⟨hs₁, hf₁⟩ := hx w₁ (by rw [hxw]; rfl)
    refine ⟨hs₂.trans hs₁, fun hl r => ?_⟩
    rw [hf₁ (hs₂.subset hl) r, hxw]
    exact hf₂ hl r
  · cases h
    obtain ⟨hs₁, hf₁⟩ := hx w' (by rw [hxw]; rfl)
    exact ⟨hs₁, fun hl r => by rw [hf₁ hl r, hxw]; rfl⟩
  · cases h

lemma feeds_bind {f : α → Co β} (hx : x.Feeds) (hf : ∀ a, (f a).Feeds) : (x >>= f).Feeds :=
  fun w => feedsAt_bind (hx w) fun a w₁ _ => hf a w₁

/-- A `try` reads no further than it has to where its body does not, and its handler does not
from every world the body raises in. -/
lemma feedsAt_tryCatch {h : Exc → Co α} (hx : x.FeedsAt w)
    (hh : ∀ e w₁, x w = .exc e w₁ → (h e).FeedsAt w₁) : (Co.tryCatch x h).FeedsAt w := by
  intro w' hw
  unfold Co.tryCatch at hw ⊢
  rcases hxw : x w with ⟨a, w₁⟩ | ⟨e, w₁⟩ | _ <;> simp only [hxw] at hw ⊢
  · cases hw
    obtain ⟨hs₁, hf₁⟩ := hx w' (by rw [hxw]; rfl)
    exact ⟨hs₁, fun hl r => by rw [hf₁ hl r, hxw]; rfl⟩
  · obtain ⟨hs₂, hf₂⟩ := hh e w₁ hxw w' hw
    obtain ⟨hs₁, hf₁⟩ := hx w₁ (by rw [hxw]; rfl)
    exact ⟨hs₂.trans hs₁, fun hl r => by rw [hf₁ (hs₂.subset hl) r, hxw]; exact hf₂ hl r⟩
  · cases hw

/-- A coroutine that reads the world, but not its unread bytes, reads no further than its
continuation does. -/
lemma feedsAt_get_bind {f : World → Co α} (hf : ∀ r, f (w.feed r) = f w) (hw : (f w).FeedsAt w) :
    (Co.get >>= f).FeedsAt w := fun w' h => by
  obtain ⟨hs, hfe⟩ := hw w' h
  refine ⟨hs, fun hl r => ?_⟩
  show f (w.feed r) (w.feed r) = (f w w).feed r
  rw [hf]
  exact hfe hl r

end Co

section

variable (E : Env)

/-! ## The primitives and the commands -/

lemma push_feed (m : StrOrBytes) (w : World) (r : Bytes) : push E m (w.feed r) = (push E m w).feed r := by
  dsimp only [push, World.feed]
  cases encodeReply E w.sess m
  · rfl
  · dsimp only
    split <;> rfl

lemma push_feeds (m : StrOrBytes) : (push E m).Feeds :=
  Co.feeds_of_commutes (push_feed E m) fun _ _ h => by rcases push_world E h with rfl | rfl <;> rfl

lemma handleException_feeds (e : Exc) : (handleException E e).Feeds :=
  Co.feeds_of_commutes (fun w r => by
      unfold handleException
      rcases E.handler.handleException with _ | h
      · rfl
      · dsimp only
        cases h e <;> rfl)
    fun w _ h => by
      rcases handleException_cases E e w with hh | ⟨e', hh⟩ <;> rw [hh] at h <;> cases h <;> rfl

lemma readline_feeds : readline.Feeds := fun w w' h => by
  have hs := (streamReadline_take w.buffer).1
  have hf : 10 ∈ w.buffer → ∀ r, readline (w.feed r) = (readline w).feed r := fun hl r => by
    dsimp only [readline, World.feed]
    rw [streamReadline_append_lf hl r]
    rcases streamReadline w.buffer with ⟨_ | _, _⟩ <;> rfl
  unfold readline at h
  rcases hsr : streamReadline w.buffer with ⟨_ | _, rest⟩ <;> rw [hsr] at h hs <;> cases h <;>
    exact ⟨hs, fun hl => hf (hs.subset hl)⟩

lemma processMessage_feeds (call : Call) : (processMessage E call).Feeds :=
  Co.feeds_of_commutes (fun w r => by
      rw [processMessage_eq, processMessage_eq]
      dsimp only [World.feed]
      cases E.handler.processMessage (w.calls.map Prod.fst) call <;> rfl)
    fun w _ h => by rw [processMessage_eq] at h; split at h <;> cases h <;> rfl

/-- Reading no further than needed is closed under the ways the commands are composed. -/
lemma feeds_closed : Co.Closed E (fun _ => True) (fun _ => True) Co.Feeds Co.Feeds where
  keeps h := h
  pure := Co.feeds_pure
  hang _ _ h := by cases h
  bind_ret hx hq hf w := Co.feedsAt_bind (hx w) fun a w₁ h => hf a (hq w a w₁ h) w₁
  bind_left := Co.feeds_bind
  get_bind hs hf w := Co.feedsAt_get_bind (fun _ => hs _ _ rfl) (hf w w)
  get_then hs hf w := Co.feedsAt_get_bind (fun _ => hs _ _ rfl) (hf w w)
  modifySess_then g := Co.feeds_bind (Co.feeds_modifySess g)
  push _ := push_feeds E _
  throw _ := Co.feeds_throw _
  modifySess := Co.feeds_modifySess
  grow _ := Co.feeds_modify (fun _ _ => rfl) fun _ => rfl
  readline := readline_feeds
  processMessage := processMessage_feeds E

lemma dispatch_feeds {fuel : Nat} {command : String} {method : Arg → Co Unit}
    (h : dispatch E fuel command = some method) (arg : Arg) : (method arg).Feeds :=
  (feeds_closed E).dispatch (admits_true E) h (fun _ => Co.feeds_modify (fun _ _ => rfl) fun _ => rfl)
    (admitsArg_true E arg)

lemma catchAll_feeds (e : Exc) : (catchAll E e).Feeds :=
  Co.feeds_bind (push_feeds E _) fun _ => handleException_feeds E e

/-! ## A pass of the loop and a session -/

lemma handleLine_feeds (fuel : Nat) (raw : Bytes) : (handleLine E fuel raw).Feeds := fun w => by
  unfold handleLine
  dsimp only
  split
  · exact push_feeds E _ w
  split
  · exact Co.feeds_throw _ w
  refine Co.feedsAt_get_bind (fun _ => rfl) ?_
  split
  · exact push_feeds E _ w
  split
  · exact push_feeds E _ w
  · exact dispatch_feeds E ‹_› _ w

lemma clientStep_feeds (fuel : Nat) : (clientStep E fuel).Feeds := by
  unfold clientStep
  refine Co.feeds_bind readline_feeds fun line v => ?_
  split
  · dsimp only
    exact Co.feedsAt_ite (Co.feeds_bind (handleException_feeds E _) (fun _ => Co.feeds_pure _) v)
      (Co.feeds_bind (Co.feeds_pure _) (fun _ => Co.feeds_pure _) v)
  · revert v
    exact Co.feeds_bind (fun v => Co.feedsAt_tryCatch (handleLine_feeds E fuel line v)
      fun e v' _ => catchAll_feeds E e v') fun _ => Co.feeds_pure _

/-- A pass reads its client only forward, and a pass that ends with an LF still unread makes the
same pass after the client sent any further bytes. -/
lemma World.step_feeds {fuel : Nat} {w w' : World} (h : World.step E fuel w = some w') :
    w'.buffer <:+ w.buffer ∧ (10 ∈ w'.buffer → ∀ r, World.step E fuel (w.feed r) = some (w'.feed r)) := by
  unfold World.step at h ⊢
  rcases hc : clientStep E fuel w with ⟨a, w₀⟩ | ⟨e, w₀⟩ | _ <;> rw [hc] at h
  · obtain ⟨hs, hf⟩ := clientStep_feeds E fuel w w₀ (by rw [hc]; rfl)
    cases a <;> cases h <;> exact ⟨hs, fun hl r => by rw [hf hl r, hc]; rfl⟩
  · obtain ⟨hs, hf⟩ := clientStep_feeds E fuel w w₀ (by rw [hc]; rfl)
    cases h
    exact ⟨hs, fun hl r => by rw [hf hl r, hc]; rfl⟩
  · cases h

lemma lineRead_feed {w : World} (hl : 10 ∈ w.buffer) (r : Bytes) : lineRead (w.feed r) = lineRead w := by
  dsimp only [lineRead, World.feed]
  rw [streamReadline_append_lf hl r]
  rcases streamReadline w.buffer with ⟨_ | _, _⟩ <;> rfl

lemma World.start_feed (peer : String) (stream r : Bytes) :
    (World.start E peer stream).feed r = World.start E peer (stream ++ r) := by
  unfold World.start
  dsimp only
  rw [show (⟨ClassState.clear E.K, Session.init peer, stream ++ r, [], [], false, false⟩ : World) =
    World.feed ⟨ClassState.clear E.K, Session.init peer, stream, [], [], false, false⟩ r from rfl, push_feed]
  rcases push E _ _ with ⟨_, _⟩ | ⟨_, _⟩ | _ <;> rfl

/-- The server does not read ahead. Take any run of a session whose last world still holds a
whole line unread (an LF among its unread bytes): had the client sent any further bytes after
its stream, the session would have made the same exchanges and reached the same world, with
those bytes after the ones it left. -/
theorem Run.feed {xs : List Exchange} {w : World} (h : Run E xs w) (hl : 10 ∈ w.buffer) (r : Bytes) :
    Run E xs (w.feed r) := by
  induction h with
  | start peer stream =>
    rw [World.start_feed]
    exact .start peer (stream ++ r)
  | @step _ v v' fuel _ hf hs ih =>
    obtain ⟨hsuf, hfeed⟩ := World.step_feeds E hs
    have hl' := hsuf.subset hl
    have hx : Exchange.of (v.feed r) (v'.feed r) = Exchange.of v v' := by
      simp only [Exchange.of, lineRead_feed hl' r]
      rfl
    rw [← hx]
    exact .step fuel (ih hl') hf (hfeed hl r)

end

/-- After its EHLO a client that sent NOOP next has a whole line unread; had it sent QUIT after
the NOOP, the EHLO would have gone the same. -/
theorem Run.feed_sample :
    10 ∈ (World.run (sampleEnv dataSizeDefault Handler.accepting) 3 "p"
      (asciiBytes "EHLO c\r\nNOOP\r\n") 1).2.buffer ∧
    Run (sampleEnv dataSizeDefault Handler.accepting)
      (World.run (sampleEnv dataSizeDefault Handler.accepting) 3 "p" (asciiBytes "EHLO c\r\nNOOP\r\n") 1).1
      ((World.run (sampleEnv dataSizeDefault Handler.accepting) 3 "p"
        (asciiBytes "EHLO c\r\nNOOP\r\n") 1).2.feed (asciiBytes "QUIT\r\n")) :=
  ⟨by decide, Run.feed _ (Run.run _ 3 "p" _ 1) (by decide) _⟩

end AioSmtpd
