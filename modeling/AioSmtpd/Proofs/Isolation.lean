import AioSmtpd.Proofs.Pool

/-!
# A session that has not sent EHLO runs as if it were alone

The sessions of one class share only the class's `command_size_limits`, and `_handle_client`
reads it in one place: the bound `max_sz` on a line, which is `command_size_limits[command]`
only once the session's own EHLO has set `extended_smtp`. `Co.Blind x` says that `x`, run with
any other table, ends as it does apart from the table it leaves; it is closed under the clauses
of `Co.Closed`, so a pass of the loop is blind from every world whose session has not set
`extended_smtp` (`World.step_blind`). Over a whole process this is isolation: in any
interleaving such a session is, apart from the table, the world its own passes give when it
runs alone (`Pool.run_isolated`).
-/

namespace AioSmtpd

/-- The world `w` with the class's table replaced by `c`. -/
def World.withCls (w : World) (c : ClassState) : World := { w with cls := c }

@[simp] lemma World.withCls_withCls (w : World) (c d : ClassState) :
    (w.withCls c).withCls d = w.withCls d := rfl

@[simp] lemma World.withCls_cls (w : World) : w.withCls w.cls = w := rfl

/-- Two worlds that agree apart from the table differ only in it. -/
lemma World.eq_withCls_of {w₁ w₂ : World} {d : ClassState} (h : w₁.withCls d = w₂.withCls d) :
    w₁ = w₂.withCls w₁.cls :=
  calc w₁ = (w₁.withCls d).withCls w₁.cls := rfl
    _ = w₂.withCls w₁.cls := by rw [h, World.withCls_withCls]

/-- The outcome `o` with the table of the world it ended in replaced by `c`. -/
def Outcome.withCls {α : Type} (c : ClassState) : Outcome α → Outcome α
  | .ret a w => .ret a (w.withCls c)
  | .exc e w => .exc e (w.withCls c)
  | .hang => .hang

/-- `x`, run from `w` with any other table, ends as it does from `w`, apart from the table it
leaves. -/
def Co.BlindAt {α : Type} (x : Co α) (w : World) : Prop :=
  ∀ c d, (x (w.withCls c)).withCls d = (x w).withCls d

/-- `x` reads no table, whatever world it runs from. -/
def Co.Blind {α : Type} (x : Co α) : Prop := ∀ w, x.BlindAt w

namespace Co

variable {α β : Type} {x y : Co α} {w : World}

lemma blind_pure (a : α) : (pure a : Co α).Blind := fun _ _ _ => rfl

lemma blind_throw (e : Exc) : (Co.throw e : Co α).Blind := fun _ _ _ => rfl

lemma blind_modifySess (g : Session → Session) : (Co.modifySess g).Blind := fun _ _ _ => rfl

lemma blindAt_ite {c : Prop} [Decidable c] (hx : x.BlindAt w) (hy : y.BlindAt w) :
    (if c then x else y).BlindAt w := by
  split <;> assumption

/-- A bound coroutine is blind where its first half is, and its second half is blind from
every world the first returns in. -/
lemma blindAt_bind {f : α → Co β} (hx : x.BlindAt w) (hf : ∀ a w', x w = .ret a w' → (f a).BlindAt w') :
    (x >>= f).BlindAt w := by
  intro c d
  have h := hx c d
  simp only [bind_apply]
  rcases hxw : x w with ⟨a, w₂⟩ | ⟨e, w₂⟩ | _ <;> rcases hxc : x (w.withCls c) with ⟨a', w₁⟩ | ⟨e', w₁⟩ | _ <;>
    rw [hxw, hxc] at h <;>
    simp only [Outcome.withCls, Outcome.ret.injEq, Outcome.exc.injEq, reduceCtorEq] at h ⊢
  · obtain ⟨rfl, h⟩ := h
    rw [World.eq_withCls_of h]
    exact hf a' w₂ hxw _ d
  · exact h

lemma blind_bind {f : α → Co β} (hx : x.Blind) (hf : ∀ a, (f a).Blind) : (x >>= f).Blind :=
  fun w => blindAt_bind (hx w) fun a w' _ => hf a w'

/-- A `try` is blind where its body is, and its handler is blind from every world the body
raises in. -/
lemma blindAt_tryCatch {h : Exc → Co α} (hx : x.BlindAt w)
    (hh : ∀ e w', x w = .exc e w' → (h e).BlindAt w') : (Co.tryCatch x h).BlindAt w := by
  intro c d
  have hc := hx c d
  unfold Co.tryCatch
  rcases hxw : x w with ⟨a, w₂⟩ | ⟨e, w₂⟩ | _ <;> rcases hxc : x (w.withCls c) with ⟨a', w₁⟩ | ⟨e', w₁⟩ | _ <;>
    rw [hxw, hxc] at hc <;>
    simp only [Outcome.withCls, Outcome.ret.injEq, Outcome.exc.injEq, reduceCtorEq] at hc ⊢
  · exact hc
  · obtain ⟨rfl, hc⟩ := hc
    rw [World.eq_withCls_of hc]
    exact hh e' w₂ hxw _ d

/-- A coroutine that reads the world and goes on in a way that does not depend on its table
is blind where its continuation is. -/
lemma blindAt_get_bind {f : World → Co α} (hf : ∀ c, f (w.withCls c) = f w) (hw : (f w).BlindAt w) :
    (Co.get >>= f).BlindAt w := fun c d => by
  show (f (w.withCls c) (w.withCls c)).withCls d = (f w w).withCls d
  rw [hf]
  exact hw c d

end Co

section

variable (E : Env)

/-! ## The primitives and the commands -/

lemma push_blind (m : StrOrBytes) : (push E m).Blind := fun w c d => by
  unfold push
  dsimp only [World.withCls]
  split
  · cases w.cancelled <;> rfl
  · rfl

lemma handleException_blind (e : Exc) : (handleException E e).Blind := fun w c d => by
  unfold handleException
  repeat' split
  all_goals rfl

lemma readline_blind : readline.Blind := fun w c d => by
  unfold readline
  dsimp only [World.withCls]
  split <;> rfl

lemma processMessage_blind (call : Call) : (processMessage E call).Blind := fun w c d => by
  unfold processMessage
  dsimp only [World.withCls]
  split <;> rfl

/-- Reading no table is closed under the ways the commands are composed. -/
lemma blind_closed : Co.Closed E (fun _ => True) (fun _ => True) Co.Blind Co.Blind where
  keeps h := h
  pure := Co.blind_pure
  hang _ _ _ := rfl
  bind_ret hx hq hf w := Co.blindAt_bind (hx w) fun a w₁ h => hf a (hq w a w₁ h) w₁
  bind_left := Co.blind_bind
  get_bind hs hf w := Co.blindAt_get_bind (fun _ => hs _ _ rfl) (hf w w)
  get_then hs hf w := Co.blindAt_get_bind (fun _ => hs _ _ rfl) (hf w w)
  modifySess_then g := Co.blind_bind (Co.blind_modifySess g)
  push _ := push_blind E _
  throw _ := Co.blind_throw _
  modifySess := Co.blind_modifySess
  grow _ _ _ _ := rfl
  readline := readline_blind
  processMessage := processMessage_blind E

lemma dispatch_blind {fuel : Nat} {command : String} {method : Arg → Co Unit}
    (h : dispatch E fuel command = some method) (arg : Arg) : (method arg).Blind :=
  (blind_closed E).dispatch (admits_true E) h (fun _ _ _ _ => rfl) (admitsArg_true E arg)

lemma catchAll_blind (e : Exc) : (catchAll E e).Blind :=
  Co.blind_bind (push_blind E _) fun _ => handleException_blind E e

/-! ## A pass of the loop -/

/-- Before EHLO the line bound is `command_size_limit`, whatever the table. -/
lemma maxSize_withCls {w : World} (hx : w.sess.extendedSmtp = false) (c : ClassState) (command : String) :
    maxSize E (w.withCls c) command = maxSize E w command := by
  simp only [maxSize, World.withCls, hx, Bool.false_eq_true, ↓reduceIte]

lemma handleLine_blindAt {w : World} (hx : w.sess.extendedSmtp = false) (fuel : Nat) (raw : Bytes) :
    (handleLine E fuel raw).BlindAt w := by
  unfold handleLine
  dsimp only
  split
  · exact push_blind E _ w
  split
  · exact Co.blind_throw _ w
  refine Co.blindAt_get_bind (fun c => by simp only [maxSize_withCls E hx]) ?_
  split
  · exact push_blind E _ w
  split
  · exact push_blind E _ w
  · exact dispatch_blind E ‹_› _ w

lemma clientStep_blindAt {w : World} (hx : w.sess.extendedSmtp = false) (fuel : Nat) :
    (clientStep E fuel).BlindAt w := by
  unfold clientStep
  refine Co.blindAt_bind (readline_blind w) fun line w' hr => ?_
  have hx' : w'.sess.extendedSmtp = false := by
    rw [(@readline_frame w w' (by rw [hr]; rfl)).sess, hx]
  split
  · dsimp only
    exact Co.blindAt_ite (Co.blind_bind (handleException_blind E _) (fun _ => Co.blind_pure _) w')
      (Co.blind_bind (Co.blind_pure _) (fun _ => Co.blind_pure _) w')
  · exact Co.blindAt_bind (Co.blindAt_tryCatch (handleLine_blindAt E hx' fuel line)
      fun e v _ => catchAll_blind E e v) fun _ v _ => Co.blind_pure _ v

lemma World.step_withCls {w : World} (hx : w.sess.extendedSmtp = false) (fuel : Nat) (c d : ClassState) :
    (World.step E fuel (w.withCls c)).map (·.withCls d) = (World.step E fuel w).map (·.withCls d) := by
  have h := clientStep_blindAt E hx fuel c d
  unfold World.step
  rcases hw : clientStep E fuel w with ⟨_ | _, w₂⟩ | ⟨e, w₂⟩ | _ <;>
    rcases hc : clientStep E fuel (w.withCls c) with ⟨_ | _, w₁⟩ | ⟨e', w₁⟩ | _ <;>
    rw [hw, hc] at h <;>
    simp only [Outcome.withCls, Outcome.ret.injEq, Outcome.exc.injEq, reduceCtorEq, false_and,
      Bool.false_eq_true, Bool.true_eq_false, true_and] at h ⊢
  all_goals
    first
    | rw [World.eq_withCls_of h]; rfl
    | rw [World.eq_withCls_of h.2]; rfl

/-- A pass of the loop from a session that has not set `extended_smtp` reads no table: from
the same world with any other table it makes the same pass, and leaves the same world apart
from the table. -/
theorem World.step_blind {w : World} (hx : w.sess.extendedSmtp = false) (fuel : Nat) (c d : ClassState) :
    (World.step E fuel (w.withCls c)).map (·.withCls d) = (World.step E fuel w).map (·.withCls d) :=
  World.step_withCls E hx fuel c d

/-- Line bounds of 512 and, after two EHLOs elsewhere, 564 for MAIL: a session that has not sent
EHLO refuses the same 520-byte MAIL line on both. -/
theorem World.step_blind_sample :
    (sampleWorld (asciiBytes ("MAIL FROM:<" ++ String.mk (List.replicate 505 'a') ++ ">\r\n"))).sess.extendedSmtp =
        false ∧
      (World.step (sampleEnv dataSizeDefault Handler.accepting) 0
          ((sampleWorld (asciiBytes ("MAIL FROM:<" ++ String.mk (List.replicate 505 'a') ++ ">\r\n"))).withCls
            ((ehloTable (sampleEnv dataSizeDefault Handler.accepting))^[2] (ClassState.clear SMTP)))).map
          (·.withCls (ClassState.clear SMTP)) =
        (World.step (sampleEnv dataSizeDefault Handler.accepting) 0
          (sampleWorld (asciiBytes ("MAIL FROM:<" ++ String.mk (List.replicate 505 'a') ++ ">\r\n")))).map
          (·.withCls (ClassState.clear SMTP)) :=
  ⟨rfl, World.step_blind _ rfl 0 _ _⟩

/-! ## Isolation over interleavings -/

/-- The constructions of an interleaving, in order: the `i`-th builds the `i`-th session. -/
def PoolEvent.starts (evs : List PoolEvent) : List (String × Bytes) :=
  evs.filterMap fun
    | .start peer stream => some (peer, stream)
    | .step _ _ => none

/-- The numbers of DATA reads of the passes of the `i`-th session of an interleaving, in
order. -/
def PoolEvent.fuelsOf (i : Nat) (evs : List PoolEvent) : List Nat :=
  evs.filterMap fun
    | .start _ _ => none
    | .step j fuel => if j = i then some fuel else none

/-- A session alone: built from `peer` and `stream`, then the passes of its loop with the
given numbers of DATA reads, each taken while its task runs, as `Pool.step` takes them. -/
def World.alone (peer : String) (stream : Bytes) (fuels : List Nat) : Option World :=
  fuels.foldlM (fun w fuel => if w.finished then none else World.step E fuel w) (World.start E peer stream)

lemma World.alone_snoc (peer : String) (stream : Bytes) (fuels : List Nat) (fuel : Nat) :
    World.alone E peer stream (fuels ++ [fuel]) =
      (World.alone E peer stream fuels).bind fun w => if w.finished then none else World.step E fuel w := by
  simp only [World.alone, List.foldlM_append, List.foldlM_cons, List.foldlM_nil, bind_pure, Option.bind_eq_bind]

lemma Pool.run_append (evs evs' : List PoolEvent) (p : Pool) :
    Pool.run E (evs ++ evs') p = (Pool.run E evs p).bind (Pool.run E evs') := by
  induction evs generalizing p with
  | nil => rfl
  | cons ev evs ih =>
    show (p.step E ev).bind (Pool.run E (evs ++ evs')) = ((p.step E ev).bind (Pool.run E evs)).bind _
    simp only [ih, Option.bind_assoc]

lemma Pool.run_singleton (ev : PoolEvent) (p : Pool) : Pool.run E [ev] p = p.step E ev := by
  simp only [Pool.run, Option.bind_some]

/-- What an interleaving keeps: one construction per session, no pass of a session not yet
built, and each session that has not set `extended_smtp` is its own run alone, apart from the
table. -/
structure Isolated (evs : List PoolEvent) (p : Pool) : Prop where
  length : (PoolEvent.starts evs).length = p.sessions.length
  unborn : ∀ i, p.sessions.length ≤ i → PoolEvent.fuelsOf i evs = []
  alone : ∀ i w peer stream, p.sessions[i]? = some w → (PoolEvent.starts evs)[i]? = some (peer, stream) →
    w.sess.extendedSmtp = false →
      ∃ v, World.alone E peer stream (PoolEvent.fuelsOf i evs) = some v ∧ v.withCls w.cls = w

lemma Isolated.start {evs : List PoolEvent} {p : Pool} (hi : Isolated E evs p) (peer : String) (stream : Bytes) :
    Isolated E (evs ++ [.start peer stream])
      ⟨(World.start E peer stream).cls, p.sessions ++ [World.start E peer stream]⟩ := by
  have hs : PoolEvent.starts (evs ++ [.start peer stream]) = PoolEvent.starts evs ++ [(peer, stream)] := by
    simp [PoolEvent.starts]
  have hf : ∀ i, PoolEvent.fuelsOf i (evs ++ [.start peer stream]) = PoolEvent.fuelsOf i evs := by
    simp [PoolEvent.fuelsOf]
  refine ⟨by simp [hs, hi.length], fun i hl => ?_, fun i w peer' stream' hw hst hx => ?_⟩
  · rw [hf, hi.unborn i (by simp at hl; omega)]
  rw [hs] at hst
  rw [hf]
  rcases Nat.lt_or_ge i p.sessions.length with hl | hl
  · rw [List.getElem?_append_left hl] at hw
    rw [List.getElem?_append_left (hi.length ▸ hl)] at hst
    exact hi.alone i w peer' stream' hw hst hx
  · rw [List.getElem?_append_right hl] at hw
    obtain rfl : i = p.sessions.length := by
      have := (List.getElem?_eq_some_iff.mp hw).1
      simp only [List.length_singleton] at this
      omega
    rw [Nat.sub_self, List.getElem?_cons_zero, Option.some.injEq] at hw
    rw [List.getElem?_append_right hi.length.le, hi.length, Nat.sub_self, List.getElem?_cons_zero] at hst
    cases hw
    cases hst
    rw [hi.unborn _ le_rfl]
    exact ⟨_, rfl, rfl⟩

/-- A pass keeps `extended_smtp` once it is set. -/
lemma extendedSmtp_of_step {p : Pool} {k : Nat} {w w' : World} {fuel : Nat} (hp : PoolReach E p k)
    (hw : w ∈ p.sessions) (hf : w.finished = false) (h : World.step E fuel { w with cls := p.cls } = some w')
    (hx : w'.sess.extendedSmtp = false) : w.sess.extendedSmtp = false := by
  rcases (((hp.inv E).sessions w hw).step E hf h).2.1 with he | ⟨he, -⟩
  · rw [← he, hx]
  · exact he

lemma Isolated.step {evs : List PoolEvent} {p : Pool} {k : Nat} {u u' : World} {j fuel : Nat}
    (hi : Isolated E evs p) (hp : PoolReach E p k) (hu : p.sessions[j]? = some u) (hf : u.finished = false)
    (h : World.step E fuel { u with cls := p.cls } = some u') :
    Isolated E (evs ++ [.step j fuel]) ⟨u'.cls, p.sessions.set j u'⟩ := by
  have hj : j < p.sessions.length := (List.getElem?_eq_some_iff.mp hu).1
  have hs : PoolEvent.starts (evs ++ [.step j fuel]) = PoolEvent.starts evs := by
    simp [PoolEvent.starts]
  have hf' : ∀ i, PoolEvent.fuelsOf i (evs ++ [.step j fuel]) =
      PoolEvent.fuelsOf i evs ++ if j = i then [fuel] else [] := by
    intro i
    by_cases hji : j = i <;> simp [PoolEvent.fuelsOf, hji]
  refine ⟨by simp [hs, hi.length], fun i hl => ?_, fun i w peer stream hw hst hx => ?_⟩
  · simp only [List.length_set] at hl
    rw [hf', hi.unborn i hl, if_neg (by omega)]
    rfl
  rw [hs] at hst
  rw [hf']
  by_cases hji : j = i
  · subst hji
    rw [List.getElem?_set_self hj] at hw
    cases hw
    have hxu := extendedSmtp_of_step E hp (List.getElem?_mem hu) hf h hx
    obtain ⟨v, hv, hvu⟩ := hi.alone j u peer stream hu hst hxu
    have hvf : v.finished = false := by rw [← hf, ← hvu]; rfl
    have hmap := (World.step_withCls E hxu fuel v.cls u'.cls).trans (World.step_withCls E hxu fuel p.cls u'.cls).symm
    rw [← World.eq_withCls_of (d := u.cls) hvu, World.withCls, h] at hmap
    obtain ⟨v', hv', hv'u⟩ := Option.map_eq_some'.mp hmap
    refine ⟨v', ?_, hv'u⟩
    rw [if_pos rfl, World.alone_snoc, hv, Option.some_bind, if_neg (by rw [hvf]; decide), hv']
  · rw [List.getElem?_set_ne hji] at hw
    rw [if_neg hji, List.append_nil]
    exact hi.alone i w peer stream hw hst hx

/-- Every interleaving keeps `Isolated`. -/
lemma Pool.run_isolatedInv : ∀ (evs : List PoolEvent) {p : Pool}, Pool.run E evs (Pool.empty E) = some p →
    Isolated E evs p := by
  intro evs
  induction evs using List.reverseRecOn with
  | nil =>
    intro p h
    cases h
    exact ⟨rfl, fun _ _ => rfl, fun _ _ _ _ h => nomatch h⟩
  | append_singleton evs ev ih =>
    intro p h
    rw [Pool.run_append] at h
    obtain ⟨q, hq, h⟩ := Option.bind_eq_some.mp h
    rw [Pool.run_singleton] at h
    obtain ⟨k, hk⟩ := PoolReach.of_run E hq
    cases ev with
    | start peer stream =>
      cases h
      exact (ih hq).start E peer stream
    | step j fuel =>
      obtain ⟨u, hu, h⟩ := Option.bind_eq_some.mp h
      split at h
      · cases h
      · obtain ⟨u', hu', rfl⟩ := Option.map_eq_some'.mp h
        exact (ih hq).step E hk hu (Bool.not_eq_true _ ▸ ‹_›) hu'

/-- Isolation: in any interleaving of constructions and passes, a session that has not set
`extended_smtp` is exactly, apart from the class's table, what it would be had it run alone:
built from the peer and stream of its construction, then given its own passes in order. -/
theorem Pool.run_isolated {evs : List PoolEvent} {p : Pool} (h : Pool.run E evs (Pool.empty E) = some p)
    {i : Nat} {w : World} {peer : String} {stream : Bytes} (hw : p.sessions[i]? = some w)
    (hs : (PoolEvent.starts evs)[i]? = some (peer, stream)) (hx : w.sess.extendedSmtp = false) :
    ∃ v, World.alone E peer stream (PoolEvent.fuelsOf i evs) = some v ∧ v.withCls w.cls = w :=
  (Pool.run_isolatedInv E evs h).alone i w peer stream hw hs hx

/-- Two connections of the sample server: the first sends EHLO, which grows the table, and the
second then sends HELO and NOOP. -/
def heloBesideEhloEvents : List PoolEvent :=
  [.start "a" (asciiBytes "EHLO a\r\n"), .start "b" (asciiBytes "HELO b\r\nNOOP\r\n"), .step 0 1,
    .step 1 1, .step 1 1]

theorem Pool.run_isolated_sample :
    ∃ p w, Pool.run (sampleEnv dataSizeDefault Handler.accepting) heloBesideEhloEvents
        (Pool.empty (sampleEnv dataSizeDefault Handler.accepting)) = some p ∧
      p.sessions[1]? = some w ∧ w.sess.extendedSmtp = false ∧
      ∃ v, World.alone (sampleEnv dataSizeDefault Handler.accepting) "b" (asciiBytes "HELO b\r\nNOOP\r\n")
          (PoolEvent.fuelsOf 1 heloBesideEhloEvents) = some v ∧ v.withCls w.cls = w := by
  have hrun : ((Pool.run (sampleEnv dataSizeDefault Handler.accepting) heloBesideEhloEvents
      (Pool.empty (sampleEnv dataSizeDefault Handler.accepting))).bind (·.sessions[1]?)).map
        (·.sess.extendedSmtp) = some false := by decide
  obtain ⟨w, hw, hx⟩ := Option.map_eq_some'.mp hrun
  obtain ⟨p, hp, hpw⟩ := Option.bind_eq_some.mp hw
  exact ⟨p, w, hp, hpw, hx, Pool.run_isolated _ hp hpw (by decide) hx⟩

end

end AioSmtpd
