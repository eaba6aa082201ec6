import AioSmtpd.Proofs.DotStuffing

/-!
# The size DATA enforces and the size MAIL announces

RFC 1870 counts a message as its lines with their CRLFs, leaving out the quoting dots and the
end-of-data line; `SIZE=N` at MAIL announces that count. The DATA loop counts the bytes it
reads, quoting dots included. The two counts agree on messages with no line that starts with a
dot, and DATA counts one byte more for each line that does.
-/

namespace AioSmtpd

/-- The size of a message as RFC 1870 counts it: each line with its CRLF, without the quoting
dots and the end-of-data line. -/
def rfc1870Size (msg : List Bytes) : Nat := (msg.map fun l => l.length + 2).sum

/-- The lines of a message that start with a dot, which the client quotes with another. -/
def quotedLines (msg : List Bytes) : Nat := (msg.filter fun l => l.head? == some 46).length

lemma sentLine_length (l : Bytes) :
    (sentLine l).length = l.length + 2 + if l.head? = some 46 then 1 else 0 := by
  unfold sentLine dotStuff
  split
  · simp
  · rename_i h
    have : l.head? ≠ some 46 := by
      rcases l with _ | ⟨b, t⟩
      · simp
      · simp only [List.head?_cons, ne_eq, Option.some.injEq]
        rintro rfl
        exact h t rfl
    simp [this]

/-- What DATA counts for a sent message is its RFC 1870 size and one byte per quoted line. -/
lemma sentLines_size (msg : List Bytes) :
    ((msg.map sentLine).map List.length).sum = rfc1870Size msg + quotedLines msg := by
  induction msg with
  | nil => rfl
  | cons l msg ih =>
    simp only [List.map_cons, List.sum_cons, sentLine_length, ih, rfc1870Size, quotedLines,
      List.filter_cons]
    by_cases h : l.head? = some 46 <;> simp [h] <;> omega

section

variable (E : Env)

/-- In a task QUIT has not cancelled, after an accepted DATA, a message whose lines hold no CR
or LF and are each returned whole by the reader, sent dot-stuffed and ended by `.\r\n`, is
answered 552 exactly when `data_size_limit` is set and below the message's RFC 1870 size plus
its number of quoted lines. -/
theorem smtpDATA_exceeded_iff_sent (msg : List Bytes)
    (hm : ∀ l ∈ msg, NoCRLF l ∧ (dotStuff l).length < streamLimit) (rest : Bytes) {fuel : Nat}
    (hf : msg.length < fuel) {w : World} (hc : w.cancelled = false) (hg : w.sess.seenGreeting.truthy = true)
    (hr : w.sess.rcpttos ≠ []) (hb : w.buffer = (msg.map sentLine).flatten ++ dotLine ++ rest) :
    (∃ w', smtpDATA E fuel none w = .ret () w' ∧
        w'.replies = w.replies ++ [.str "354 End data with <CR><LF>.<CR><LF>",
          .str "552 Error: Too much mail data"] ∧ w'.calls = w.calls) ↔
      E.cfg.dataSizeLimit ≠ 0 ∧ E.cfg.dataSizeLimit < rfc1870Size msg + quotedLines msg := by
  have hl : ∀ l ∈ msg.map sentLine, IsLine l ∧ l ≠ dotLine := by
    simp only [List.mem_map]
    rintro _ ⟨l, hl, rfl⟩
    exact ⟨sentLine_isLine (hm l hl).1 (hm l hl).2, sentLine_ne_dotLine l⟩
  rw [← sentLines_size]
  exact (smtpDATA_exceeded_iff E (msg.map sentLine) hl rest (by simpa using hf) hc hg hr hb).1

end

/-- The message `.`, dot-stuffed as `..`, against a limit of 3: its RFC 1870 size is 3, and DATA
counts 4. -/
theorem smtpDATA_exceeded_iff_sent_quoted_dot :
    ((∃ w', smtpDATA (sampleEnv 3 Handler.accepting) 2 none (sampleWorld (sentLine [46] ++ dotLine)) =
        .ret () w' ∧ w'.replies = (sampleWorld (sentLine [46] ++ dotLine)).replies ++
          [.str "354 End data with <CR><LF>.<CR><LF>", .str "552 Error: Too much mail data"] ∧
        w'.calls = (sampleWorld (sentLine [46] ++ dotLine)).calls) ↔
      (sampleEnv 3 Handler.accepting).cfg.dataSizeLimit ≠ 0 ∧
        (sampleEnv 3 Handler.accepting).cfg.dataSizeLimit < rfc1870Size [[46]] + quotedLines [[46]]) :=
  smtpDATA_exceeded_iff_sent _ [[46]]
    (by simp only [List.mem_singleton, forall_eq]; exact ⟨by decide, by decide⟩) [] (by decide) rfl rfl
    (List.cons_ne_nil _ _) (by simp [sampleWorld])

/-- A client announces `SIZE=3` and sends the one-line message `.`, whose RFC 1870 size is 3:
MAIL accepts the announced size, and DATA, which also counts the quoting dot, answers 552 and
delivers nothing. -/
theorem size_limit_counts_quoting_dots :
    rfc1870Size [[46]] = 3 ∧
    (World.run (sampleEnv 3 Handler.accepting) 3 "p"
      (asciiBytes "EHLO c\r\nMAIL FROM:<a@b> SIZE=3\r\nRCPT TO:<d@e>\r\nDATA\r\n" ++ sentLine [46] ++
        dotLine) 4).1.map Exchange.replies =
      [[.str "250-mx", .str "250-SIZE 3", .str "250-8BITMIME", .str "250 HELP"], [.str "250 OK"],
        [.str "250 OK"],
        [.str "354 End data with <CR><LF>.<CR><LF>", .str "552 Error: Too much mail data"]] ∧
    (World.run (sampleEnv 3 Handler.accepting) 3 "p"
      (asciiBytes "EHLO c\r\nMAIL FROM:<a@b> SIZE=3\r\nRCPT TO:<d@e>\r\nDATA\r\n" ++ sentLine [46] ++
        dotLine) 4).2.calls.length = 0 := by
  decide

end AioSmtpd
