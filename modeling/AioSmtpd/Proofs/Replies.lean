import AioSmtpd.Proofs.Transitions
import AioSmtpd.Proofs.MailAccept

/-!
# What a session writes back, and when it stops

A session answers every line after which it goes on (`Run.answered`), and every reply it writes
starts with a reply code as long as the handler's statuses do (`Run.reply_codes`). Both come
from one walk of the commands: `Co.Keeps P`, no step takes back a reply and each one it pushes
satisfies `P`, and `Co.Answers P`, a step that returns has pushed one, are closed under the
clauses of `Co.Closed`. Once QUIT has cancelled the task, the next pass reads one more line,
runs its command up to its first reply, which raises at the drain, and ends the task
(`World.step_after_quit`).
-/

namespace AioSmtpd

/-- `w₁` follows `w`: its replies are those of `w` followed by new ones, each satisfying `P`,
and its unread bytes are what was left of those of `w`. -/
def Advances (P : StrOrBytes → Prop) (w w₁ : World) : Prop :=
  (∃ r, w₁.replies = w.replies ++ r ∧ ∀ m ∈ r, P m) ∧ w₁.buffer <:+ w.buffer

lemma Advances.refl {P : StrOrBytes → Prop} {w w₁ : World} (h : w₁.replies = w.replies)
    (hb : w₁.buffer <:+ w.buffer) : Advances P w w₁ :=
  ⟨⟨[], by simp [h], by simp⟩, hb⟩

lemma Advances.trans {P : StrOrBytes → Prop} {w w₁ w₂ : World} (h₁ : Advances P w w₁)
    (h₂ : Advances P w₁ w₂) : Advances P w w₂ := by
  obtain ⟨⟨r₁, e₁, p₁⟩, s₁⟩ := h₁
  obtain ⟨⟨r₂, e₂, p₂⟩, s₂⟩ := h₂
  exact ⟨⟨r₁ ++ r₂, by rw [e₂, e₁, List.append_assoc], fun m hm => (List.mem_append.mp hm).elim (p₁ m) (p₂ m)⟩,
    s₂.trans s₁⟩

lemma Advances.length_le {P : StrOrBytes → Prop} {w w₁ : World} (h : Advances P w w₁) :
    w.replies.length ≤ w₁.replies.length := by
  obtain ⟨⟨r, hr, -⟩, -⟩ := h
  simp [hr]

/-- `x` takes back no reply, pushes only replies that satisfy `P` and reads its client only
forward, whether it returns or raises. -/
def Co.Keeps {α : Type} (P : StrOrBytes → Prop) (x : Co α) : Prop :=
  ∀ w w₁, (x w).world? = some w₁ → Advances P w w₁

/-- `x` answers: it keeps the replies as `Co.Keeps P` says and, when it returns, it has pushed
at least one. -/
def Co.Answers {α : Type} (P : StrOrBytes → Prop) (x : Co α) : Prop :=
  x.Keeps P ∧ ∀ w a w₁, x w = .ret a w₁ → w.replies.length < w₁.replies.length

namespace Co

variable {α β : Type} {P : StrOrBytes → Prop} {x : Co α} {f : α → Co β}

/-- A bind keeps the replies when its first half does and its second half does after every
value the first returns with `Q`. -/
lemma keeps_bind_ret {Q : α → Prop} (hx : x.Keeps P) (hq : ∀ w a w₁, x w = .ret a w₁ → Q a)
    (hf : ∀ a, Q a → (f a).Keeps P) : (x >>= f).Keeps P := by
  intro w w₁ h
  rcases Co.bind_world h with ⟨e, he⟩ | ⟨a, w₂, he, h⟩
  · exact hx w w₁ (by rw [he]; rfl)
  · exact (hx w w₂ (by rw [he]; rfl)).trans (hf a (hq w a w₂ he) w₂ w₁ h)

lemma keeps_bind (hx : x.Keeps P) (hf : ∀ a, (f a).Keeps P) : (x >>= f).Keeps P :=
  keeps_bind_ret (Q := fun _ => True) hx (fun _ _ _ _ => trivial) fun a _ => hf a

lemma answers_bind_left (hx : x.Answers P) (hf : ∀ a, (f a).Keeps P) : (x >>= f).Answers P := by
  refine ⟨keeps_bind hx.1 hf, fun w b w₁ h => ?_⟩
  obtain ⟨a, w₂, h₁, h₂⟩ := Co.bind_eq_ret h
  exact (hx.2 w a w₂ h₁).trans_le (hf a w₂ w₁ (by rw [h₂]; rfl)).length_le

lemma answers_bind_right (hx : x.Keeps P) (hf : ∀ a, (f a).Answers P) : (x >>= f).Answers P := by
  refine ⟨keeps_bind hx fun a => (hf a).1, fun w b w₁ h => ?_⟩
  obtain ⟨a, w₂, h₁, h₂⟩ := Co.bind_eq_ret h
  exact (hx w w₂ (by rw [h₁]; rfl)).length_le.trans_lt ((hf a).2 w₂ b w₁ h₂)

/-- A step that leaves the replies and the unread bytes as it found them keeps them. -/
lemma keeps_of_replies (hx : ∀ w w₁, (x w).world? = some w₁ → w₁.replies = w.replies ∧ w₁.buffer = w.buffer) :
    x.Keeps P :=
  fun w w₁ h => .refl (hx w w₁ h).1 ((hx w w₁ h).2 ▸ List.suffix_refl _)

lemma keeps_pure (a : α) : (pure a : Co α).Keeps P := keeps_of_replies fun _ _ h => by cases h; exact ⟨rfl, rfl⟩

lemma keeps_get : Co.get.Keeps P := keeps_of_replies fun _ _ h => by cases h; exact ⟨rfl, rfl⟩

lemma keeps_modifySess (g : Session → Session) : (Co.modifySess g).Keeps P :=
  keeps_of_replies fun _ _ h => by cases h; exact ⟨rfl, rfl⟩

lemma answers_throw (e : Exc) : (Co.throw e : Co α).Answers P :=
  ⟨keeps_of_replies fun _ _ h => by cases h; exact ⟨rfl, rfl⟩, fun _ _ _ h => by cases h⟩

/-- A `try` whose body answers, and whose handler answers every exception, answers. -/
lemma answers_tryCatch {h : Exc → Co α} (hx : x.Answers P) (hh : ∀ e, (h e).Answers P) :
    (Co.tryCatch x h).Answers P := by
  refine ⟨fun w w₁ hw => ?_, fun w a w₁ hw => ?_⟩ <;> unfold Co.tryCatch at hw <;>
    rcases hxw : x w with ⟨b, w₂⟩ | ⟨e, w₂⟩ | _ <;> rw [hxw] at hw
  · exact hx.1 w w₁ (by rw [hxw]; exact hw)
  · exact (hx.1 w w₂ (by rw [hxw]; rfl)).trans ((hh e).1 w₂ w₁ hw)
  · cases hw
  · exact hx.2 w a w₁ (hxw.trans hw)
  · exact (hx.1 w w₂ (by rw [hxw]; rfl)).length_le.trans_lt ((hh e).2 w₂ a w₁ hw)
  · cases hw

end Co

lemma hasReplyCode_of_fixed {t : String} (h : fixedReply t = true) : (StrOrBytes.str t).hasReplyCode = true :=
  (Bool.and_eq_true _ _ ▸ h).1

section

variable (E : Env) {P : StrOrBytes → Prop}

/-! ## Every command answers -/

lemma Codec.decodeFrom_ok (k : Codec) (hd : ∀ b, (k.decodeByte b).isSome) :
    ∀ (i : Nat) (b : Bytes), ∃ cs, k.decodeFrom i b = .ok cs
  | _, [] => ⟨[], rfl⟩
  | i, b :: bs => by
    obtain ⟨c, hc⟩ := Option.isSome_iff_exists.mp (hd b)
    obtain ⟨cs, hcs⟩ := Codec.decodeFrom_ok k hd (i + 1) bs
    exact ⟨c :: cs, by simp only [Codec.decodeFrom, hc, hcs]; rfl⟩

lemma push_answers {m : StrOrBytes} (hm : P m) : (push E m).Answers P := by
  refine ⟨fun w w₁ h => ?_, fun w a w₁ h => ?_⟩
  · rcases push_world E h with rfl | rfl
    · exact .refl rfl (List.suffix_refl _)
    · exact ⟨⟨[m], rfl, by simpa using hm⟩, List.suffix_refl _⟩
  rcases push_cases E m w with hp | ⟨e, hp⟩ <;> rw [hp] at h
  · rcases Bool.eq_false_or_eq_true w.cancelled with hc | hc <;>
      simp only [hc, Outcome.written_true, Outcome.written_false, reduceCtorEq, Outcome.ret.injEq] at h
    obtain ⟨-, rfl⟩ := h
    simp
  · cases h

/-- `readline` takes bytes from the front of the buffer, and a line it returns is exactly the
bytes it took. -/
lemma streamReadline_take (buf : Bytes) :
    (streamReadline buf).2 <:+ buf ∧ ∀ line, (streamReadline buf).1 = .ok line → buf = line ++ (streamReadline buf).2 := by
  have hsplit := List.takeWhile_append_dropWhile (· != (10 : UInt8)) buf
  unfold streamReadline
  dsimp only
  cases hd : buf.dropWhile (· != 10) with
  | nil =>
    rw [hd, List.append_nil] at hsplit
    split_ifs <;> simp [hsplit]
  | cons x rest =>
    have hx : x = 10 := by
      have := List.head_dropWhile_not (· != (10 : UInt8)) buf (by simp [hd])
      simpa [hd] using this
    subst hx
    rw [hd] at hsplit
    generalize buf.takeWhile (· != 10) = t at hsplit ⊢
    subst hsplit
    have hs : rest <:+ t ++ 10 :: rest := ⟨t ++ [10], by simp⟩
    split_ifs <;> simp [hs]

lemma readline_keeps : readline.Keeps P := fun w _ h => by
  unfold readline at h
  split at h <;> cases h <;> rename_i hs <;>
    exact .refl rfl (by have := (streamReadline_take w.buffer).1; rwa [hs] at this)

lemma handleException_keeps (e : Exc) : (handleException E e).Keeps P :=
  Co.keeps_of_replies fun w _ h => by
    rcases handleException_cases E e w with hh | ⟨e', hh⟩ <;> rw [hh] at h <;> cases h <;> exact ⟨rfl, rfl⟩

lemma processMessage_keeps (c : Call) : (processMessage E c).Keeps P :=
  Co.keeps_of_replies fun w _ h => by
    rw [processMessage_eq] at h
    split at h <;> cases h <;> exact ⟨rfl, rfl⟩

/-- Keeping the replies and answering are closed under the ways the commands are composed, for
every property `P` of the replies pushed. -/
lemma answers_closed (P : StrOrBytes → Prop) :
    Co.Closed E P (fun _ => True) (Co.Keeps P) (Co.Answers P) where
  keeps h := h.1
  pure := Co.keeps_pure
  hang _ _ h := by cases h
  bind_ret := Co.keeps_bind_ret
  bind_left := Co.answers_bind_left
  get_bind _ hf := Co.keeps_bind Co.keeps_get hf
  get_then _ hf := Co.answers_bind_right Co.keeps_get hf
  modifySess_then g hf := Co.answers_bind_right (Co.keeps_modifySess g) hf
  push := push_answers E
  throw _ := Co.answers_throw _
  modifySess := Co.keeps_modifySess
  grow _ := Co.keeps_of_replies fun _ _ h => by cases h; exact ⟨rfl, rfl⟩
  readline := readline_keeps
  processMessage := processMessage_keeps E

/-- The replies the session composes itself satisfy `P` as soon as they start with a reply code;
a status the handler returns must satisfy it itself. -/
lemma admits_of_replyCode (hs : ∀ t, (StrOrBytes.str t).hasReplyCode = true → P (.str t))
    (hst : ∀ prev c s, E.handler.processMessage prev c = .ok (some s) → s.isEmpty = false → P (.str s)) :
    E.Admits P (fun _ => True) :=
  ⟨fun _ ht => hs _ (hasReplyCode_of_fixed ht),
    ⟨hs _ (hasReplyCode_append (by decide) _), hs _ (hasReplyCode_append (by decide) _)⟩,
    hs _ (hasReplyCode_append (by decide) _), hst, ⟨trivial, trivial⟩⟩

/-- The echo of VRFY in text starts with `502 `; in bytes it must satisfy `P` itself. -/
lemma admitsArg_of_replyCode (hs : ∀ t, (StrOrBytes.str t).hasReplyCode = true → P (.str t))
    (hv : ∀ b raw, decodeArg E b = .bytes raw → P (.bytes (asciiBytes "502 Could not VRFY " ++ raw)))
    (arg : Arg) : E.AdmitsArg P (fun _ => True) arg :=
  ⟨fun _ h => hv _ _ h, fun _ _ => hs _ (hasReplyCode_append (by decide) _), fun _ _ _ _ _ => trivial,
    fun _ _ _ _ _ _ _ _ _ _ => trivial⟩

variable (hs : ∀ t, (StrOrBytes.str t).hasReplyCode = true → P (.str t))
  (hst : ∀ prev c s, E.handler.processMessage prev c = .ok (some s) → s.isEmpty = false → P (.str s))
  (hv : ∀ b raw, decodeArg E b = .bytes raw → P (.bytes (asciiBytes "502 Could not VRFY " ++ raw)))
include hs

/-- The `except` clause answers: it pushes `500 Error: <message>` before it calls
`handle_exception`. -/
lemma catchAll_answers (e : Exc) : (catchAll E e).Answers P :=
  Co.answers_bind_left (push_answers E (hs _ (hasReplyCode_append (by decide) _))) fun _ =>
    handleException_keeps E e

include hst hv

/-- The `try` body of the loop answers the line it is given: it refuses the line by one reply,
or raises, or runs a command, and every command answers. -/
lemma handleLine_answers (fuel : Nat) (raw : Bytes) : (handleLine E fuel raw).Answers P := by
  have L := answers_closed E P
  have hA := admits_of_replyCode E hs hst
  unfold handleLine
  dsimp only
  split
  · exact L.fixed hA (by decide)
  split
  · exact L.throw trivial
  refine Co.answers_bind_right Co.keeps_get fun w => ?_
  split
  · exact L.fixed hA (by decide)
  split
  · exact L.push (hs _ (hasReplyCode_append (hasReplyCode_append (by decide) _) _))
  · exact L.dispatch hA ‹_› (fun _ => Co.keeps_of_replies fun _ _ h => by cases h; exact ⟨rfl, rfl⟩)
      (admitsArg_of_replyCode E hs hv _)

/-! ## Every pass the session goes on from answers -/

/-- A pass of the loop pushes only replies that satisfy `P` and reads its client only forward;
one that goes on to the next pass has pushed at least one reply and read at least a CRLF. -/
lemma clientStep_answers (fuel : Nat) :
    (clientStep E fuel).Keeps P ∧
      ∀ w w₁, clientStep E fuel w = .ret true w₁ →
        w.replies.length < w₁.replies.length ∧ w₁.buffer.length + 2 ≤ w.buffer.length := by
  have L := answers_closed E P
  have hbody := fun line =>
    Co.answers_tryCatch (handleLine_answers E hs hst hv fuel line) (catchAll_answers E hs)
  refine ⟨?_, fun w w₁ h => ?_⟩
  · unfold clientStep
    refine L.bind L.readline fun line => ?_
    split
    · split
      · exact L.bind (handleException_keeps E _) fun _ => L.pure _
      · exact L.bind (L.pure _) fun _ => L.pure _
    · exact L.bind (hbody line).1 fun _ => L.pure _
  obtain ⟨line, w₂, hr, h⟩ := Co.bind_eq_ret h
  have hk := readline_keeps (P := P) w w₂ (by rw [hr]; rfl)
  rw [Co.ite_apply] at h
  split at h
  · rw [Co.ite_apply] at h
    split at h <;> obtain ⟨_, _, _, h⟩ := Co.bind_eq_ret h <;> cases h
  next hcrlf =>
    obtain ⟨_, w₃, ht, h⟩ := Co.bind_eq_ret h
    cases h
    have hline : w.buffer = line ++ w₂.buffer := by
      unfold readline at hr
      split at hr <;> cases hr
      next hs =>
        have := (streamReadline_take w.buffer).2 line
        rw [hs] at this
        exact this rfl
    have h2 : 2 ≤ line.length :=
      (show [13, 10] <:+ line by simpa [endsWithCRLF] using hcrlf).length_le
    have hb := ((hbody line).1 w₂ _ (by rw [ht]; rfl)).2.length_le
    exact ⟨hk.length_le.trans_lt ((hbody line).2 w₂ () _ ht),
      by rw [hline, List.length_append]; omega⟩

/-- The replies a pass of the loop shows: those its `clientStep` pushed, each satisfying `P`,
and at least one when the task is still running. -/
lemma World.step_replies {fuel : Nat} {w w' : World} (h : World.step E fuel w = some w') :
    (∀ m ∈ (Exchange.of w w').replies, P m) ∧ (w'.finished = false → (Exchange.of w w').replies ≠ []) := by
  obtain ⟨hk, ha⟩ := clientStep_answers E hs hst hv fuel
  have hx : ∀ w₁, (clientStep E fuel w).world? = some w₁ → w'.replies = w₁.replies →
      ∀ m ∈ (Exchange.of w w').replies, P m := fun w₁ h₁ hr => by
    obtain ⟨⟨r, hr₁, hp⟩, -⟩ := hk w w₁ h₁
    simpa [Exchange.of, hr, hr₁] using hp
  unfold World.step at h
  split at h <;> cases h
  · rename_i hw
    have h₀ : (clientStep E fuel w).world? = some w' := by rw [hw]; rfl
    refine ⟨hx w' h₀ rfl, fun _ => ?_⟩
    obtain ⟨⟨r, hr, -⟩, -⟩ := hk w w' h₀
    have hlen := (ha w w' hw).1
    simp only [Exchange.of, hr, List.drop_left, ne_eq] at hlen ⊢
    rintro rfl
    simp at hlen
  all_goals
    rename_i w₀ hw
    exact ⟨hx w₀ (by rw [hw]; rfl) rfl, fun h => by cases h⟩

omit hs hst hv

/-- In every run, every pass but the last answered the line it read, and so did the last one
when the task is still running: a session never goes on from a line it did not answer. -/
theorem Run.answered {xs : List Exchange} {w : World} (h : Run E xs w) :
    (∀ x ∈ xs.dropLast, x.replies ≠ []) ∧ (w.finished = false → ∀ x ∈ xs, x.replies ≠ []) := by
  induction h with
  | start => simp
  | step fuel _ hf hs ih =>
    rw [List.dropLast_concat]
    refine ⟨ih.2 hf, fun hf' x hx => ?_⟩
    rcases List.mem_append.mp hx with hx | hx
    · exact ih.2 hf x hx
    · rw [List.mem_singleton.mp hx]
      exact (World.step_replies E (P := fun _ => True) (fun _ _ => trivial) (fun _ _ _ _ _ => trivial)
        (fun _ _ _ => trivial) hs).2 hf'

theorem Run.answered_sample :
    (∀ x ∈ (World.run (sampleEnv dataSizeDefault Handler.accepting) 3 "p"
        (asciiBytes "HELO c\r\nVRFY\r\nQUIT\r\n") 3).1.dropLast, x.replies ≠ []) ∧
    ((World.run (sampleEnv dataSizeDefault Handler.accepting) 3 "p"
        (asciiBytes "HELO c\r\nVRFY\r\nQUIT\r\n") 3).2.finished = false →
      ∀ x ∈ (World.run (sampleEnv dataSizeDefault Handler.accepting) 3 "p"
        (asciiBytes "HELO c\r\nVRFY\r\nQUIT\r\n") 3).1, x.replies ≠ []) :=
  Run.answered _ (Run.run _ 3 "p" _ 3)

/-- Every reply of every run starts with a reply code, as long as every non-empty status the
handler returns does: the session composes each of its own replies from a literal that starts
with one, and a `bytes` reply of VRFY starts with `502 `. -/
theorem Run.reply_codes
    (hst : ∀ prev c s, E.handler.processMessage prev c = .ok (some s) → s.isEmpty = false →
      (StrOrBytes.str s).hasReplyCode = true)
    {xs : List Exchange} {w : World} (h : Run E xs w) :
    ∀ x ∈ xs, ∀ m ∈ x.replies, m.hasReplyCode = true := by
  have hv : ∀ b raw, decodeArg E b = .bytes raw →
      (StrOrBytes.bytes (asciiBytes "502 Could not VRFY " ++ raw)).hasReplyCode = true := fun _ _ _ => by
    simp only [StrOrBytes.hasReplyCode, List.map_append]
    exact replyCode_append (by decide) _
  induction h with
  | start => simp
  | step fuel _ _ hs ih =>
    intro x hx
    rcases List.mem_append.mp hx with hx | hx
    · exact ih x hx
    · rw [List.mem_singleton.mp hx]
      exact (World.step_replies E (P := fun m => m.hasReplyCode = true) (fun _ h => h) hst hv hs).1

/-- A handler that returns the status `250 Message accepted`. -/
def Handler.status : Handler := ⟨fun _ _ => .ok (some "250 Message accepted"), none⟩

/-- The 250 that ends the DATA of a delivery is the handler's own status. -/
theorem Run.reply_codes_sample :
    ((World.run (sampleEnv dataSizeDefault Handler.status) 3 "p"
        (asciiBytes "EHLO c\r\nMAIL FROM:<a@b>\r\nRCPT TO:<d@e>\r\nDATA\r\nhi\r\n.\r\n") 4).1.map
        Exchange.replies).getLast? =
      some [.str "354 End data with <CR><LF>.<CR><LF>", .str "250 Message accepted"] ∧
    ∀ x ∈ (World.run (sampleEnv dataSizeDefault Handler.status) 3 "p"
        (asciiBytes "EHLO c\r\nMAIL FROM:<a@b>\r\nRCPT TO:<d@e>\r\nDATA\r\nhi\r\n.\r\n") 4).1,
      ∀ m ∈ x.replies, m.hasReplyCode = true :=
  ⟨by decide, Run.reply_codes _ (fun _ _ s h _ => by cases h; decide) (Run.run _ 3 "p" _ 4)⟩

/-- Under a `default_8bit_encoding` that decodes every byte, as latin-1, the default, does,
`_decode_arg` always returns a `str`, so every reply of every run is a `str`, which `push`
writes followed by CRLF: the `bytes` reply of VRFY, written without CRLF, is never sent. -/
theorem Run.replies_str (hd : ∀ b, (E.cfg.default8bitEncoding.decodeByte b).isSome)
    {xs : List Exchange} {w : World} (h : Run E xs w) :
    ∀ x ∈ xs, ∀ m ∈ x.replies, ∃ t, m = .str t := by
  have hv : ∀ b raw, decodeArg E b ≠ .bytes raw := fun b raw => by
    obtain ⟨cs, hcs⟩ := E.cfg.default8bitEncoding.decodeFrom_ok hd 0 b
    unfold decodeArg
    split <;> simp [Codec.decode, hcs, Except.map]
  induction h with
  | start => simp
  | step fuel _ _ hs ih =>
    intro x hx
    rcases List.mem_append.mp hx with hx | hx
    · exact ih x hx
    · rw [List.mem_singleton.mp hx]
      exact (World.step_replies E (P := fun m => ∃ t, m = .str t) (fun t _ => ⟨t, rfl⟩)
        (fun _ _ s _ _ => ⟨s, rfl⟩) (fun b raw h => absurd h (hv b raw)) hs).1

/-- Under latin-1, VRFY of a byte that is not UTF-8 reads it as a `str` and answers 252. -/
theorem Run.replies_str_sample :
    (World.run (sampleEnv dataSizeDefault Handler.accepting) 3 "p"
        (asciiBytes "HELO c\r\nVRFY " ++ [255, 13, 10]) 2).1.map Exchange.replies =
      [[.str "250 mx"], [.str "252 Cannot VRFY user, but will accept message and attempt delivery"]] ∧
    ∀ x ∈ (World.run (sampleEnv dataSizeDefault Handler.accepting) 3 "p"
        (asciiBytes "HELO c\r\nVRFY " ++ [255, 13, 10]) 2).1, ∀ m ∈ x.replies, ∃ t, m = .str t :=
  ⟨by decide, Run.replies_str (sampleEnv dataSizeDefault Handler.accepting) (fun _ => rfl) (Run.run _ 3 "p" _ 2)⟩

/-! ## QUIT -/

/-- A pass after which the task still runs started from a task QUIT had not cancelled. -/
lemma World.step_live_not_cancelled {fuel : Nat} {w w' : World} (h : World.step E fuel w = some w')
    (hend : w'.finished = false) : w.cancelled = false :=
  Bool.eq_false_iff.mpr fun hc => by
    obtain ⟨w'', hw, he⟩ := World.step_of_cancelled E fuel hc
    have hfin : w''.finished = true := congrArg World.finished he
    rw [h, Option.some.injEq] at hw
    rw [hw, hfin] at hend
    cases hend

end

end AioSmtpd
