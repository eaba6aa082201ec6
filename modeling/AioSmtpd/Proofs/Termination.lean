import AioSmtpd.Proofs.Replies

/-!
# The loop reads its client to the end

Every pass of the loop of `_handle_client` reads its client only forward, and a pass after
which the task goes on has read a whole line that ends in CRLF (`World.step_consumes`). So a
session over a stream of `n` bytes makes at most `n / 2 + 1` passes, and after `n / 2 + 2` of
them the task has ended, unless the next pass hangs, which only the read loop of a DATA does,
when it runs out of reads (`World.run_terminates`).
-/

namespace AioSmtpd

section

variable (E : Env)

/-- A pass reads its client only forward, and one after which the task goes on has read at
least a CRLF. -/
lemma World.step_consumes {fuel : Nat} {w w' : World} (h : World.step E fuel w = some w') :
    w'.buffer <:+ w.buffer ∧ (w'.finished = false → w'.buffer.length + 2 ≤ w.buffer.length) := by
  obtain ⟨hk, ha⟩ := clientStep_answers E (P := fun _ => True) (fun _ _ => trivial)
    (fun _ _ _ _ _ => trivial) (fun _ _ _ => trivial) fuel
  unfold World.step at h
  split at h <;> cases h
  · rename_i hw
    exact ⟨(hk w w' (by rw [hw]; rfl)).2, fun _ => (ha w w' hw).2⟩
  all_goals
    rename_i w₀ hw
    exact ⟨(hk w w₀ (by rw [hw]; rfl)).2, fun h => by cases h⟩

/-- Over the passes `World.run` makes, the unread bytes shrink by at least two for each pass
after which the task went on. -/
lemma World.run_consumes (fuel : Nat) (peer : String) (stream : Bytes) (n : Nat) :
    (World.run E fuel peer stream n).2.buffer.length + 2 * ((World.run E fuel peer stream n).1.length - 1) ≤
        stream.length ∧
      ((World.run E fuel peer stream n).2.finished = false →
        (World.run E fuel peer stream n).2.buffer.length + 2 * (World.run E fuel peer stream n).1.length ≤
          stream.length) := by
  induction n with
  | zero =>
    have hb : (World.start E peer stream).buffer = stream := by
      unfold World.start
      dsimp only
      split
      · next hp =>
        rcases push_cases E _ _ with h | ⟨_, h⟩ <;> rw [h] at hp <;> cases hp
        rfl
      · rfl
    simp [World.run, hb]
  | succ n ih =>
    dsimp only [World.run]
    split
    · exact ih
    next hf =>
      split
      · next w' hw =>
        have hc := World.step_consumes E hw
        have hle := hc.1.length_le
        have := ih.2 (by simpa using hf)
        simp only [List.length_append, List.length_singleton, Nat.add_sub_cancel]
        exact ⟨by omega, fun h => by have := hc.2 h; omega⟩
      · exact ih

/-- Until it gets stuck, `World.run` adds one exchange for each pass it is given; stuck means
the task has ended or its next pass hangs, and a stuck run stays stuck. -/
lemma World.run_length_or_stuck (fuel : Nat) (peer : String) (stream : Bytes) (n : Nat) :
    (World.run E fuel peer stream n).1.length = n ∨
      (World.run E fuel peer stream n).2.finished = true ∨
      World.step E fuel (World.run E fuel peer stream n).2 = none := by
  induction n with
  | zero => exact .inl rfl
  | succ n ih =>
    dsimp only [World.run]
    split
    · next hf => exact .inr (.inl hf)
    next hf =>
      split
      · next w' hw =>
        rcases ih with h | h | h
        · exact .inl (by simp [h])
        · exact absurd h hf
        · rw [h] at hw
          cases hw
      · next hw => exact .inr (.inr hw)

/-- The loop of `_handle_client` reads its client to the end: over a stream of `n` bytes a
session makes at most `n / 2 + 1` passes, and after `n / 2 + 2` the task has ended or its
next pass hangs in the read loop of a DATA. -/
theorem World.run_terminates (fuel : Nat) (peer : String) (stream : Bytes) :
    (∀ n, (World.run E fuel peer stream n).1.length ≤ stream.length / 2 + 1) ∧
      ((World.run E fuel peer stream (stream.length / 2 + 2)).2.finished = true ∨
        World.step E fuel (World.run E fuel peer stream (stream.length / 2 + 2)).2 = none) := by
  have hbound : ∀ n, (World.run E fuel peer stream n).1.length ≤ stream.length / 2 + 1 := fun n => by
    have := (World.run_consumes E fuel peer stream n).1
    omega
  refine ⟨hbound, ?_⟩
  rcases World.run_length_or_stuck E fuel peer stream (stream.length / 2 + 2) with h | h
  · have := hbound (stream.length / 2 + 2)
    omega
  · exact h

end

end AioSmtpd
