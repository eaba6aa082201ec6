import AioSmtpd.Python

/-!
# The stream reader

A session reads its client through an `asyncio.StreamReader` built with the default line
limit of `2 ^ 16` bytes. The reader's buffer holds every byte the client sends that the
session has not read yet, and the stream ends after them. `readline` then behaves as asyncio's does
at the end of a stream: a line up to and including the next LF, then the partial bytes that
are left, then `b''` on every further call; a line past the limit raises `ValueError` and is
dropped.
-/

namespace AioSmtpd

/-- `asyncio.streams._DEFAULT_LIMIT`, the limit of the reader `SMTP.__init__` builds. -/
def streamLimit : Nat := 65536

/-- `StreamReader.readline()` on a stream that has ended after the unread bytes `buf`: the
line or the `ValueError`, and the bytes left unread. -/
def streamReadline (buf : Bytes) : Except Exc Bytes × Bytes :=
  let line := buf.takeWhile (· != 10)
  match buf.dropWhile (· != 10) with
  | [] =>
    if line.length > streamLimit then
      (.error (.valueError "Separator is not found, and chunk exceed the limit"), [])
    else (.ok line, [])
  | _ :: rest =>
    if line.length > streamLimit then
      (.error (.valueError "Separator is found, but chunk is longer than limit"), rest)
    else (.ok (line ++ [10]), rest)

/-- A line that `readline` returns whole: LF-free bytes, at most `streamLimit` of them, then LF. -/
def IsLine (l : Bytes) : Prop := ∃ c, l = c ++ [10] ∧ 10 ∉ c ∧ c.length ≤ streamLimit

lemma takeWhile_not_lf {c : Bytes} (rest : Bytes) (hc : 10 ∉ c) :
    (c ++ 10 :: rest).takeWhile (· != 10) = c ∧ (c ++ 10 :: rest).dropWhile (· != 10) = 10 :: rest := by
  induction c with
  | nil => simp
  | cons b c ih =>
    have hb : (b != 10) = true := bne_iff_ne.mpr fun h => hc (h ▸ List.mem_cons_self _ _)
    obtain ⟨h1, h2⟩ := ih fun h => hc (List.mem_cons_of_mem _ h)
    rw [List.cons_append, List.takeWhile_cons_of_pos (p := fun x => x != 10) hb,
      List.dropWhile_cons_of_pos (p := fun x => x != 10) hb, h1, h2]
    exact ⟨rfl, rfl⟩

/-- `readline` returns a whole line of the buffer and leaves the rest. -/
lemma streamReadline_line {l : Bytes} (hl : IsLine l) (rest : Bytes) :
    streamReadline (l ++ rest) = (.ok l, rest) := by
  obtain ⟨c, rfl, hc, hlen⟩ := hl
  obtain ⟨h1, h2⟩ := takeWhile_not_lf rest hc
  simp only [streamReadline, List.append_assoc, List.singleton_append, h1, h2]
  rw [if_neg (by omega)]

/-- At the end of the stream `readline` returns `b''` and stays at the end. -/
@[simp] theorem streamReadline_nil : streamReadline [] = (.ok [], []) := rfl

/-- A line longer than the limit raises `ValueError` and is dropped with its LF. -/
lemma streamReadline_long {c : Bytes} (hc : 10 ∉ c) (hlen : streamLimit < c.length) (rest : Bytes) :
    streamReadline (c ++ 10 :: rest) =
      (.error (.valueError "Separator is found, but chunk is longer than limit"), rest) := by
  obtain ⟨h1, h2⟩ := takeWhile_not_lf rest hc
  simp only [streamReadline, h1, h2, if_pos hlen]

end AioSmtpd
