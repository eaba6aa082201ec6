import AioSmtpd.Proofs.LineLimits

/-!
# Two sessions of one class

`command_size_limits` is an attribute of the class `SMTP`, so every session of the class reads
and writes the same table: `__init__` clears it, and `smtp_EHLO` grows its MAIL entry. A
`Pair` is two sessions, A and B, whose worlds hold that one table; `PairEvent` is B's
construction or a pass of either loop, and `Pair.run` runs an interleaving of them. The
construction of B resets A's limits to those of a session that never greeted, so a MAIL line
that A's own EHLO allowed is refused once B has been created.
-/

namespace AioSmtpd

/-- An event of two sessions interleaved: a pass of A's loop, the construction of B, or a pass
of B's loop. -/
inductive PairEvent where
  | stepA (fuel : Nat)
  | startB (peer : String) (stream : Bytes)
  | stepB (fuel : Nat)

/-- Session A, and session B once it has been constructed; `cls` of both worlds is the
class's table. -/
structure Pair where
  a : World
  b : Option World

section

variable (E : Env)

/-- Session A alone, before B is constructed. -/
def Pair.init (peer : String) (stream : Bytes) : Pair := ⟨World.start E peer stream, none⟩

/-- One event: it runs on its session's world, and the table it leaves is the other
session's table too. A task that has finished takes no more passes. -/
def Pair.step (p : Pair) : PairEvent → Option Pair
  | .stepA fuel =>
    if p.a.finished then none
    else (World.step E fuel p.a).map fun a => ⟨a, p.b.map fun b => { b with cls := a.cls }⟩
  | .startB peer stream =>
    some ⟨{ p.a with cls := (World.start E peer stream).cls }, some (World.start E peer stream)⟩
  | .stepB fuel =>
    p.b.bind fun b =>
      if b.finished then none
      else (World.step E fuel b).map fun b' => ⟨{ p.a with cls := b'.cls }, some b'⟩

/-- An interleaving of events. -/
def Pair.run : List PairEvent → Pair → Option Pair
  | [], p => some p
  | ev :: evs, p => (p.step E ev).bind (Pair.run evs)

/-- The two sessions share one table. -/
def Pair.Shared (p : Pair) : Prop := ∀ b ∈ p.b, b.cls = p.a.cls

lemma Pair.step_shared {p p' : Pair} {ev : PairEvent} (h : p.step E ev = some p') : p'.Shared := by
  cases ev with
  | stepA fuel =>
    simp only [Pair.step] at h
    split at h
    · cases h
    · obtain ⟨a, -, rfl⟩ := Option.map_eq_some'.mp h
      intro b hb
      obtain ⟨b₀, -, rfl⟩ := Option.map_eq_some'.mp hb
      rfl
  | startB peer stream =>
    cases h
    intro b hb
    cases hb
    rfl
  | stepB fuel =>
    obtain ⟨b, -, h⟩ := Option.bind_eq_some.mp h
    split at h
    · cases h
    · obtain ⟨b', -, rfl⟩ := Option.map_eq_some'.mp h
      intro b'' hb
      cases hb
      rfl

/-- Every interleaving keeps the table shared. -/
theorem Pair.run_shared : ∀ (evs : List PairEvent) {p p' : Pair}, p.Shared →
    Pair.run E evs p = some p' → p'.Shared
  | [], _, _, hp, h => by cases h; exact hp
  | ev :: evs, p, p', _, h => by
    obtain ⟨q, hq, h⟩ := Option.bind_eq_some.mp h
    exact Pair.run_shared evs (Pair.step_shared E hq) h

end

/-- A client whose MAIL line is 520 bytes without its CRLF: more than the limit of 512, within
the 538 that its EHLO allows MAIL. -/
def longMailStream : Bytes :=
  asciiBytes "EHLO c\r\nMAIL FROM:<a@b>" ++ List.replicate 505 32 ++ [13, 10]

/-- Alone, session A has its MAIL line answered 250. When B is constructed between A's EHLO
and A's MAIL, the same line is refused as too long. -/
theorem second_session_shrinks_limit :
    ((World.run (sampleEnv dataSizeDefault Handler.accepting) 3 "a" longMailStream 2).1.map
        Exchange.replies).getLast? = some [.str "250 OK"] ∧
    ((Pair.run (sampleEnv dataSizeDefault Handler.accepting) [.stepA 3, .startB "b" [], .stepA 3]
        (Pair.init (sampleEnv dataSizeDefault Handler.accepting) "a" longMailStream)).map
        fun p => p.a.replies.getLast?) = some (some (.str "500 Error: line too long")) := by
  set_option maxRecDepth 20000 in
  decide

end AioSmtpd
