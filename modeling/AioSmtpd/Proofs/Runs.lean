import AioSmtpd.Proofs.Steps

/-!
# Runs of a session

What a client sees of one pass of the loop (the verb of the line it sent, whether the reply
was a 250), and what every run shares: the world a session starts in, that a run whose banner
went out has a hostname the codec encodes, and how a run's exchanges split around one of them.
`World.run` runs the loop for a number of passes; every result is a `Run`, so concrete
sessions are runs that `decide` evaluates.
-/

namespace AioSmtpd

/-- The verb of the command line an exchange read, as the loop decodes it. -/
def Exchange.verb (x : Exchange) : Option String :=
  match ascii.decode (bytesUpper (splitCommand (rstripCRLF x.line)).1) with
  | .ok v => some v
  | .error _ => none

/-- The argument of the command line an exchange read. -/
def Exchange.arg (x : Exchange) : Arg := (splitCommand (rstripCRLF x.line)).2

/-- The first of some replies has code 250. -/
def answered250 : List StrOrBytes → Bool
  | m :: _ => m.is250
  | [] => false

/-- The `except` clause's reply never makes a refusal look answered 250. -/
lemma answered250_catch {r e : List StrOrBytes} (he : CatchReplies e) :
    answered250 (r ++ e) = answered250 r := by
  rcases r with _ | ⟨m, r⟩
  · rcases he with rfl | ⟨m, rfl⟩
    · rfl
    · show (StrOrBytes.str ("500 Error: " ++ m)).is250 = false
      rw [is250_append _ _ (by decide)]; decide
  · rfl

/-- The exchange of a pass that ran the `try` body on `line`: the body's replies and then the
`except` clause's, and the body's calls. -/
lemma exchange_of_body {w w₁ w' : World} {line rest : Bytes}
    (hs : streamReadline w.buffer = (.ok line, rest)) (hq : Quiet w₁ w') {e : List StrOrBytes}
    (hr : w'.replies = w₁.replies ++ e) {r : List StrOrBytes} (hr₁ : w₁.replies = w.replies ++ r)
    {c : List (Call × Except String (Option String))} (hc₁ : w₁.calls = w.calls ++ c) :
    Exchange.of w w' = ⟨line, r ++ e, c⟩ := by
  simp [Exchange.of, lineRead, hs, hr, hr₁, hq.2.1, hc₁]

lemma Codec.decodeFrom_length (k : Codec) : ∀ {i : Nat} {b : Bytes} {cs : List Char},
    k.decodeFrom i b = .ok cs → cs.length = b.length
  | _, [], cs, h => by cases h; rfl
  | i, b :: bs, cs, h => by
    unfold Codec.decodeFrom at h
    split at h
    · cases hr : k.decodeFrom (i + 1) bs with
      | error e => rw [hr] at h; cases h
      | ok cs' => rw [hr] at h; cases h; simp [k.decodeFrom_length hr]
    · cases h

/-- A greeting argument is recorded truthy. -/
lemma greetingName_truthy {h : Bytes} (hh : h ≠ []) : (greetingName h).truthy = true := by
  unfold greetingName Codec.decode
  cases hd : ascii.decodeFrom 0 h with
  | error e => simpa [StrOrBytes.truthy, Except.map] using hh
  | ok cs =>
    have hl := ascii.decodeFrom_length hd
    have hcs : cs ≠ [] := fun hc => hh (List.eq_nil_of_length_eq_zero (by rw [← hl, hc]; rfl))
    have hne : ¬(String.mk cs).isEmpty = true := fun he =>
      hcs (congrArg String.data ((String.isEmpty_iff _).mp he))
    simpa [StrOrBytes.truthy, Except.map] using hne

/-- HELO and EHLO record a truthy greeting for a truthy argument. -/
lemma greetingName_truthy_of_arg {arg : Arg} (h : argTruthy arg = true) :
    (greetingName (arg.getD [])).truthy = true :=
  greetingName_truthy (by cases arg <;> simp_all [argTruthy])

section

variable (E : Env)

lemma push_ret_encodes {s : String} {w w' : World} (hu : w.sess.requireSMTPUTF8 = false)
    (h : push E (.str s) w = .ret () w') : E.cfg.default8bitEncoding.encodesText s = true := by
  unfold push encodeReply at h
  simp only [hu, Bool.false_eq_true, if_false] at h
  split at h
  · rename_i b hb
    have := E.cfg.default8bitEncoding.encodesText_of_encode hb
    simp only [Codec.encodesText_append, Bool.and_eq_true] at this
    exact this.1
  · cases h

/-- A session whose banner went out has a hostname the codec encodes. -/
lemma World.start_hostname {peer : String} {stream : Bytes}
    (h : (World.start E peer stream).finished = false) : E.HostnameEncodes := by
  dsimp only [World.start] at h
  split at h
  · rename_i w hp
    have := push_ret_encodes E rfl hp
    simp only [Codec.encodesText_append, Bool.and_eq_true] at this
    exact this.1.1.2
  · cases h

@[simp] lemma World.start_sess (peer : String) (stream : Bytes) :
    (World.start E peer stream).sess = Session.init peer := by
  dsimp only [World.start]
  split
  · rename_i w hp
    exact (@push_quiet E _ _ w (by rw [hp]; rfl)).1
  · rfl

@[simp] lemma World.start_cls (peer : String) (stream : Bytes) :
    (World.start E peer stream).cls = ClassState.clear E.K := by
  dsimp only [World.start]
  split
  · rename_i w hp
    exact (@push_quiet E _ _ w (by rw [hp]; rfl)).2.2
  · rfl

@[simp] lemma World.start_calls (peer : String) (stream : Bytes) :
    (World.start E peer stream).calls = [] := by
  dsimp only [World.start]
  split
  · rename_i w hp
    exact (@push_quiet E _ _ w (by rw [hp]; rfl)).2.1
  · rfl

lemma Run.hostnameEncodes {xs : List Exchange} {w : World} (h : Run E xs w)
    (hf : w.finished = false) : E.HostnameEncodes := by
  induction h with
  | start peer stream => exact World.start_hostname E hf
  | step _ _ hf' _ ih => exact ih hf'

/-- A session with peer `peer` whose client sends `stream`, after up to `n` passes of the
loop, each DATA read loop given `fuel` reads, with what each pass showed; the passes stop when
the task has finished. -/
def World.run (fuel : Nat) (peer : String) (stream : Bytes) : Nat → List Exchange × World
  | 0 => ([], World.start E peer stream)
  | n + 1 =>
    let r := World.run fuel peer stream n
    if r.2.finished then r
    else match World.step E fuel r.2 with
      | some w' => (r.1 ++ [Exchange.of r.2 w'], w')
      | none => r

lemma Run.run (fuel : Nat) (peer : String) (stream : Bytes) :
    ∀ n, Run E (World.run E fuel peer stream n).1 (World.run E fuel peer stream n).2
  | 0 => Run.start peer stream
  | n + 1 => by
    have ih := Run.run fuel peer stream n
    dsimp only [World.run]
    split
    · exact ih
    · rename_i hf
      split
      · rename_i w' hw'
        exact Run.step fuel ih (by simpa using hf) hw'
      · exact ih

/-- A pass of the loop from the world `World.run` reached adds its exchange to the run. -/
lemma World.run_succ {fuel : Nat} {peer : String} {stream : Bytes} {n : Nat}
    (hf : (World.run E fuel peer stream n).2.finished = false)
    (hs : (World.step E fuel (World.run E fuel peer stream n).2).isSome = true) :
    (World.run E fuel peer stream (n + 1)).1 = (World.run E fuel peer stream n).1 ++
      [Exchange.of (World.run E fuel peer stream n).2 (World.run E fuel peer stream (n + 1)).2] := by
  obtain ⟨w', hw'⟩ := Option.isSome_iff_exists.mp hs
  simp only [World.run, hf, hw', Bool.false_eq_true, if_false]

/-- Every call some exchanges show returned, as a test that `decide` evaluates. -/
lemma calls_ok_of_all {xs : List Exchange}
    (h : (xs.all fun x => x.calls.all fun p => p.2.isOk) = true) :
    ∀ x ∈ xs, ∀ p ∈ x.calls, ∃ st, p.2 = .ok st := by
  simp only [List.all_eq_true] at h
  intro x hx p hp
  have hp' := h x hx p hp
  revert hp'
  cases p.2 <;> simp [Except.isOk, Except.toBool]

end

/-- An exchange of a run extended by `x` is `x` itself or an exchange of the run before it. -/
lemma snoc_eq_append_cons {α : Type} {xs pre post : List α} {x y : α}
    (h : xs ++ [x] = pre ++ y :: post) :
    (pre = xs ∧ y = x ∧ post = []) ∨ ∃ post', xs = pre ++ y :: post' ∧ post = post' ++ [x] := by
  rcases List.append_eq_append_iff.mp h with ⟨a', rfl, ha⟩ | ⟨c', rfl, hc⟩
  · rcases a' with _ | ⟨a, a'⟩
    · simp only [List.nil_append, List.cons.injEq] at ha
      exact .inl ⟨by simp, ha.1.symm, ha.2.symm⟩
    · simp at ha
  · rcases c' with _ | ⟨c, c'⟩
    · simp only [List.nil_append, List.cons.injEq] at hc
      exact .inl ⟨by simp, hc.1, hc.2⟩
    · simp only [List.cons_append, List.cons.injEq] at hc
      exact .inr ⟨c', by rw [hc.1], hc.2⟩

end AioSmtpd
