import AioSmtpd.Proofs.SharedTable

/-!
# Any number of sessions of one class

A server runs one `SMTP` instance per connection as tasks of one event loop, so the passes of
different sessions interleave in any order and a new session may be constructed between any
two. A `Pool` is the sessions constructed so far with the class's table, and `Pool.step` one
construction or one whole pass: inside a pass a session waits only for its own client and
handler, and touches neither the table nor another session. In every reachable state
(`PoolReach`) the table is the cleared table grown by exactly the EHLOs accepted since the
latest construction in tasks QUIT has not cancelled, at most one per session (`PoolReach.limits`).
-/

namespace AioSmtpd

/-- The sessions constructed so far, oldest first, and the class's table they share. The `cls`
of each world is the table as that session's latest pass left it; `Pool.cls` is the current
one. -/
structure Pool where
  cls : ClassState
  sessions : List World

/-- An event of the process: the construction of a session for a new connection, or a pass of
the loop of the `i`-th session with `fuel` reads for DATA. -/
inductive PoolEvent where
  | start (peer : String) (stream : Bytes)
  | step (i fuel : Nat)

lemma List.countP_set {α : Type} (p : α → Bool) :
    ∀ {l : List α} {i : Nat} {a : α} (b : α), l[i]? = some a →
      (l.set i b).countP p + (if p a then 1 else 0) = l.countP p + (if p b then 1 else 0)
  | x :: l, 0, a, b, h => by
    obtain rfl : x = a := by simpa using h
    simp only [List.set_cons_zero, List.countP_cons]
    omega
  | x :: l, i + 1, a, b, h => by
    have := List.countP_set p b (l := l) (i := i) (by simpa using h)
    simp only [List.set_cons_succ, List.countP_cons]
    omega

section

variable (E : Env)

/-- The process before its first connection: the class body's empty table. -/
def Pool.empty : Pool := ⟨ClassState.clear E.K, []⟩

/-- One event. A construction clears the table, as `__init__` does, and adds the session; a
pass runs the session's loop on the shared table and leaves the table it wrote. A session that
does not exist or whose task has finished takes no pass. -/
def Pool.step (p : Pool) : PoolEvent → Option Pool
  | .start peer stream =>
    some ⟨(World.start E peer stream).cls, p.sessions ++ [World.start E peer stream]⟩
  | .step i fuel =>
    p.sessions[i]?.bind fun w =>
      if w.finished then none
      else (World.step E fuel { w with cls := p.cls }).map fun w' => ⟨w'.cls, p.sessions.set i w'⟩

/-- An interleaving of events. -/
def Pool.run : List PoolEvent → Pool → Option Pool
  | [], p => some p
  | ev :: evs, p => (p.step E ev).bind (Pool.run evs)

/-- The states an interleaving reaches from the empty process, with the number of EHLOs
accepted since the latest construction: the passes of a task QUIT has not cancelled that set
a session's `extended_smtp`. An EHLO after QUIT sets it too, but raises at its first reply,
before it grows the table. -/
inductive PoolReach : Pool → Nat → Prop
  | empty : PoolReach (Pool.empty E) 0
  | start {p : Pool} {k : Nat} (peer : String) (stream : Bytes) : PoolReach p k →
      PoolReach ⟨(World.start E peer stream).cls, p.sessions ++ [World.start E peer stream]⟩ 0
  | step {p : Pool} {k : Nat} {w w' : World} (i fuel : Nat) : PoolReach p k →
      p.sessions[i]? = some w → w.finished = false → World.step E fuel { w with cls := p.cls } = some w' →
      PoolReach ⟨w'.cls, p.sessions.set i w'⟩
        (if !w.cancelled && !w.sess.extendedSmtp && w'.sess.extendedSmtp then k + 1 else k)

lemma PoolReach.step_event {p p' : Pool} {k : Nat} {ev : PoolEvent} (h : PoolReach E p k)
    (hs : p.step E ev = some p') : ∃ k', PoolReach E p' k' := by
  cases ev with
  | start peer stream =>
    cases hs
    exact ⟨0, .start peer stream h⟩
  | step i fuel =>
    obtain ⟨w, hw, hs⟩ := Option.bind_eq_some.mp hs
    split at hs
    next => cases hs
    next hf =>
      obtain ⟨w', hw', rfl⟩ := Option.map_eq_some'.mp hs
      exact ⟨_, .step i fuel h hw (Bool.not_eq_true _ ▸ hf) hw'⟩

/-- Every state an interleaving of events reaches from the empty process is reachable. -/
lemma PoolReach.of_run {evs : List PoolEvent} {p : Pool} (h : Pool.run E evs (Pool.empty E) = some p) :
    ∃ k, PoolReach E p k := by
  suffices H : ∀ (evs : List PoolEvent) {p₀ : Pool} {k₀ : Nat}, PoolReach E p₀ k₀ →
      Pool.run E evs p₀ = some p → ∃ k, PoolReach E p k from H evs .empty h
  intro evs
  induction evs with
  | nil => intro p₀ k₀ h₀ h; cases h; exact ⟨k₀, h₀⟩
  | cons ev evs ih =>
    intro p₀ k₀ h₀ h
    obtain ⟨q, hq, h⟩ := Option.bind_eq_some.mp h
    obtain ⟨k, hk⟩ := h₀.step_event E hq
    exact ih hk h

/-! ## The invariant -/

/-- What each session keeps in every interleaving: a task still running has sent its banner,
so the hostname encodes; and no session without a greeting has set `extended_smtp`. -/
structure SessionInv (w : World) : Prop where
  hostname : w.finished = false → E.HostnameEncodes
  no_greeting : w.sess.seenGreeting.truthy = false → w.sess.extendedSmtp = false

/-- The invariant of the process: the table is the cleared table grown by the `k` EHLOs
accepted since the latest construction, every session keeps `SessionInv`, and no more than `k`
sessions have set `extended_smtp`. -/
structure PoolInv (p : Pool) (k : Nat) : Prop where
  table : p.cls = (ehloTable E)^[k] (ClassState.clear E.K)
  sessions : ∀ w ∈ p.sessions, SessionInv E w
  count : k ≤ p.sessions.countP (·.sess.extendedSmtp)

/-- A pass only sets `extended_smtp`, and changes the table only by an accepted EHLO, which
sets it where it was unset, in a task QUIT has not cancelled. -/
lemma SessStep.table_or_ehlo {k : Bool} {s s' : Session} {c c' : ClassState} {cs}
    (h : SessStep E k s c s' c' cs) (hi : s.seenGreeting.truthy = false → s.extendedSmtp = false) :
    (s'.seenGreeting.truthy = false → s'.extendedSmtp = false) ∧
    (s'.extendedSmtp = s.extendedSmtp ∨ s.extendedSmtp = false ∧ s'.extendedSmtp = true) ∧
    c' = if !k && !s.extendedSmtp && s'.extendedSmtp then ehloTable E c else c := by
  have hkeep : ∀ b : Bool, c = if !k && !b && b then ehloTable E c else c := fun b => by
    cases k <;> cases b <;> rfl
  cases h with
  | helo g _ hn => exact ⟨fun h => absurd (hn.symm.trans h) (by decide), .inl rfl, hkeep _⟩
  | ehlo g hg hn =>
    exact ⟨fun h => absurd (hn.symm.trans h) (by decide), .inr ⟨hi hg, rfl⟩, by cases k <;> simp [hi hg]⟩
  | _ => exact ⟨hi, .inl rfl, hkeep _⟩

/-- A pass of a running session on any table keeps `SessionInv`; it only sets
`extended_smtp`, and grows the table only by an EHLO of a task QUIT has not cancelled. -/
lemma SessionInv.step {w w' : World} {c : ClassState} {fuel : Nat} (hi : SessionInv E w)
    (hf : w.finished = false) (h : World.step E fuel { w with cls := c } = some w') :
    SessionInv E w' ∧
    (w'.sess.extendedSmtp = w.sess.extendedSmtp ∨ w.sess.extendedSmtp = false ∧ w'.sess.extendedSmtp = true) ∧
    w'.cls = if !w.cancelled && !w.sess.extendedSmtp && w'.sess.extendedSmtp then ehloTable E c else c := by
  have hn := hi.hostname hf
  obtain ⟨hg, he, hc⟩ := (World.step_effect E hn h).1.table_or_ehlo E hi.no_greeting
  exact ⟨⟨fun _ => hn, hg⟩, he, hc⟩

lemma PoolInv.start {p : Pool} {k : Nat} (hi : PoolInv E p k) (peer : String) (stream : Bytes) :
    PoolInv E ⟨(World.start E peer stream).cls, p.sessions ++ [World.start E peer stream]⟩ 0 := by
  refine ⟨by simp, fun w hw => ?_, Nat.zero_le _⟩
  rcases List.mem_append.mp hw with hw | hw
  · exact hi.sessions w hw
  · rw [List.mem_singleton.mp hw]
    exact ⟨World.start_hostname E, by simp [Session.init]⟩

lemma PoolInv.step {p : Pool} {k : Nat} {w w' : World} {i fuel : Nat} (hi : PoolInv E p k)
    (hw : p.sessions[i]? = some w) (hf : w.finished = false)
    (h : World.step E fuel { w with cls := p.cls } = some w') :
    PoolInv E ⟨w'.cls, p.sessions.set i w'⟩
      (if !w.cancelled && !w.sess.extendedSmtp && w'.sess.extendedSmtp then k + 1 else k) := by
  obtain ⟨hs', he, hc⟩ := (hi.sessions w (List.getElem?_mem hw)).step E hf h
  have hcount := List.countP_set (fun v : World => v.sess.extendedSmtp) w' hw
  have hsessions : ∀ v ∈ p.sessions.set i w', SessionInv E v := fun v hv =>
    (List.mem_or_eq_of_mem_set hv).elim (hi.sessions v) fun h => h ▸ hs'
  have hk := hi.count
  rcases he with he | ⟨he, he'⟩
  · have hno : (!w.cancelled && !w.sess.extendedSmtp && w'.sess.extendedSmtp) = false := by
      rw [he]; cases w.cancelled <;> cases w.sess.extendedSmtp <;> rfl
    simp only [he] at hcount
    simp only [hno, Bool.false_eq_true, ↓reduceIte] at hc ⊢
    exact ⟨hc.trans hi.table, hsessions, by dsimp only; omega⟩
  · simp only [he, he', Bool.false_eq_true, ↓reduceIte] at hcount
    cases hcw : w.cancelled <;>
      simp only [hcw, he, he', Bool.not_false, Bool.not_true, Bool.and_self, Bool.false_and,
        Bool.false_eq_true, ↓reduceIte] at hc ⊢
    · refine ⟨?_, hsessions, by dsimp only; omega⟩
      rw [hc, hi.table, Function.iterate_succ_apply']
    · exact ⟨hc.trans hi.table, hsessions, by dsimp only; omega⟩

lemma PoolReach.inv {p : Pool} {k : Nat} (h : PoolReach E p k) : PoolInv E p k := by
  induction h with
  | empty => exact ⟨rfl, fun _ h => (nomatch h), Nat.zero_le _⟩
  | start peer stream _ ih => exact ih.start E peer stream
  | step i fuel _ hw hf hs ih => exact ih.step E hw hf hs

end

end AioSmtpd
