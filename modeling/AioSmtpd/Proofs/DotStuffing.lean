import AioSmtpd.Proofs.Transitions

/-!
# Dot-stuffing round trip

A client sends the lines of a message after DATA's 354 reply dot-stuffed (RFC 5321 4.5.2: a
'.' before every line that starts with '.'), each ended with CRLF, and then `.\r\n`.
`smtp_DATA` strips CR and LF from the end of each line, removes the stuffing and joins the
lines with LF. From every reachable session whose transaction has a recipient, a message
whose sent lines fit the reader's line limit and whose size is within `data_size_limit`
reaches `process_message` exactly once, as `b'\n'.join(lines)`. A sent line longer than the
reader's limit makes `readline` raise instead, and the message is never delivered.
-/

namespace AioSmtpd

/-- The client's dot-stuffing of one line. -/
def dotStuff : Bytes → Bytes
  | 46 :: rest => 46 :: 46 :: rest
  | l => l

/-- What a client sends for one line of a message. -/
def sentLine (l : Bytes) : Bytes := dotStuff l ++ [13, 10]

/-- A line with neither CR nor LF. -/
def NoCRLF (l : Bytes) : Prop := 13 ∉ l ∧ 10 ∉ l

instance : DecidablePred NoCRLF := fun l => inferInstanceAs (Decidable (13 ∉ l ∧ 10 ∉ l))

lemma unstuff_dotStuff (l : Bytes) : unstuff (dotStuff l) = l := by
  unfold dotStuff
  split
  · rfl
  · rename_i h
    unfold unstuff
    split
    · rename_i rest
      exact absurd rfl (h rest)
    · rfl

lemma mem_dotStuff {l : Bytes} {b : UInt8} (hb : b ∈ dotStuff l) : b ∈ l ∨ b = 46 := by
  unfold dotStuff at hb
  split at hb
  · simp only [List.mem_cons] at hb
    rcases hb with rfl | rfl | hb
    · exact .inr rfl
    · exact .inr rfl
    · exact .inl (List.mem_cons_of_mem _ hb)
  · exact .inl hb

lemma dotStuff_noCRLF {l : Bytes} (hl : NoCRLF l) : ∀ b ∈ dotStuff l, isCRLF b = false := by
  intro b hb
  rcases mem_dotStuff hb with hb | rfl
  · have h13 : b ≠ 13 := fun h => hl.1 (h ▸ hb)
    have h10 : b ≠ 10 := fun h => hl.2 (h ▸ hb)
    simp [isCRLF, h13, h10]
  · decide

lemma dropWhile_isCRLF_of_none {c : Bytes} (hc : ∀ b ∈ c, isCRLF b = false) :
    c.dropWhile isCRLF = c := by
  cases c with
  | nil => rfl
  | cons a t => simp [List.dropWhile, hc a (List.mem_cons_self a t)]

/-- `rstrip(b'\r\n')` gives back the dot-stuffed line. -/
lemma rstripCRLF_sentLine {l : Bytes} (hl : NoCRLF l) : rstripCRLF (sentLine l) = dotStuff l := by
  unfold rstripCRLF sentLine
  rw [List.reverse_append, List.dropWhile_append_of_pos (by decide),
    dropWhile_isCRLF_of_none fun b hb => dotStuff_noCRLF hl b (List.mem_reverse.mp hb),
    List.reverse_reverse]

lemma unstuff_rstrip_sentLine {l : Bytes} (hl : NoCRLF l) : unstuff (rstripCRLF (sentLine l)) = l := by
  rw [rstripCRLF_sentLine hl, unstuff_dotStuff]

lemma sentLine_isLine {l : Bytes} (hl : NoCRLF l) (hlen : (dotStuff l).length < streamLimit) :
    IsLine (sentLine l) := by
  refine ⟨dotStuff l ++ [13], by simp [sentLine], fun h => ?_, by simp; omega⟩
  rcases List.mem_append.mp h with h | h
  · rcases mem_dotStuff h with h | h
    · exact hl.2 h
    · cases h
  · simp at h

lemma sentLine_ne_dotLine (l : Bytes) : sentLine l ≠ dotLine := by
  intro h
  have h46 : dotStuff l = [46] := List.append_cancel_right (h.trans (rfl : dotLine = [46] ++ [13, 10]))
  unfold dotStuff at h46
  split at h46
  · simp at h46
  · rename_i hn
    exact hn [] h46

/-- `readline` raises the reader's error and drops what it read. -/
lemma readline_error {w : World} {e : Exc} {rest : Bytes}
    (h : streamReadline w.buffer = (.error e, rest)) : readline w = .exc e { w with buffer := rest } := by
  simp [readline, h]

section

variable (E : Env)

/-- A read that raises ends the read loop with the reader's error. -/
lemma dataLoop_raise {fuel : Nat} {acc : DataAcc} {w w' : World} {e : Exc}
    (h : readline w = .exc e w') : dataLoop E (fuel + 1) acc w = .exc e w' := by
  simp [dataLoop, h]

/-- Sent lines within the size limit leave the loop's flag down. -/
lemma foldl_sentLines_within {lines : List Bytes}
    (hsize : E.cfg.dataSizeLimit = 0 ∨
      ((lines.map sentLine).map List.length).sum ≤ E.cfg.dataSizeLimit) :
    ((lines.map sentLine).foldl (DataAcc.add E.cfg.dataSizeLimit) DataAcc.init).sizeExceeded = false := by
  have hi := (@DataAcc.Inv.init E.cfg.dataSizeLimit).foldl (lines.map sentLine)
  cases hx : ((lines.map sentLine).foldl (DataAcc.add E.cfg.dataSizeLimit) DataAcc.init).sizeExceeded
  · rfl
  · have hn := hi.flag.mp hx
    rw [DataAcc.foldl_numBytes] at hn
    have h0 : DataAcc.init.numBytes = 0 := rfl
    omega

/-- Every reachable session whose transaction has a recipient has the keyword arguments
that DATA passes. -/
lemma dataOptions_reachable {xs : List Exchange} {w : World} (h : Run E xs w) (hc : w.cancelled = false)
    (hr : w.sess.rcpttos ≠ []) (w' : World) : ∃ opts, dataOptions E w.sess w' = .ret opts w' := by
  have hi : OptionsSet w.sess := Run.invariant E (fun s _ => OptionsSet s)
    (fun _ => ⟨fun h => (h rfl).elim, fun h => (h rfl).elim⟩) (fun hi hs => hi.step E hs) h hc
  obtain ⟨hm, hrc⟩ := hi.rcpt hr
  obtain ⟨m, hm⟩ := Option.isSome_iff_exists.mp hm
  obtain ⟨r, hrc⟩ := Option.isSome_iff_exists.mp hrc
  unfold dataOptions
  cases E.cfg.decodeData
  · exact ⟨some (m, r), by simp [hm, hrc]⟩
  · exact ⟨none, rfl⟩

/-- With the flag down and the keyword arguments at hand, the end of DATA makes one call,
whatever the handler does. -/
lemma dataFinish_delivers {acc : DataAcc} (hx : acc.sizeExceeded = false) {w : World}
    {opts : Option (List String × List String)} (ho : dataOptions E w.sess w = .ret opts w) :
    ∃ r w', (dataFinish E acc w).world? = some w' ∧
      w'.calls = w.calls ++ [(dataCall E acc w.sess opts, r)] := by
  rw [dataFinish_deliver E hx ho, Co.bind_apply, processMessage_eq]
  cases E.handler.processMessage (w.calls.map Prod.fst) (dataCall E acc w.sess opts) with
  | ok st =>
    simp only [Co.bind_apply, Co.modifySess_apply]
    rcases pushStatus_cases E st
        { w with calls := w.calls ++ [(dataCall E acc w.sess opts, .ok st)], sess := w.sess.setPostDataState }
      with ⟨m, hm | ⟨e, he⟩⟩
    · exact ⟨.ok st, _, by rw [hm, Outcome.world?_written], rfl⟩
    · exact ⟨.ok st, _, by rw [he]; rfl, rfl⟩
  | error m => exact ⟨.error m, _, rfl, rfl⟩

/-- From every reachable session whose transaction has a recipient, and whose task QUIT has
not cancelled, DATA followed by the dot-stuffed lines of a message and `.\r\n` calls
`process_message` exactly once, with `b'\n'.join(lines)`, when every sent line fits the
reader's limit and the sent lines are within `data_size_limit`. -/
theorem dot_stuffing_round_trip {xs : List Exchange} {w : World} (h : Run E xs w)
    (hc : w.cancelled = false) (hg : w.sess.seenGreeting.truthy = true) (hr : w.sess.rcpttos ≠ [])
    (lines : List Bytes) (hl : ∀ l ∈ lines, NoCRLF l ∧ (dotStuff l).length < streamLimit)
    (hsize : E.cfg.dataSizeLimit = 0 ∨
      ((lines.map sentLine).map List.length).sum ≤ E.cfg.dataSizeLimit)
    (rest : Bytes) {fuel : Nat} (hf : lines.length < fuel) :
    ∃ opts r w', (smtpDATA E fuel none
        { w with buffer := (lines.map sentLine).flatten ++ dotLine ++ rest }).world? = some w' ∧
      w'.calls = w.calls ++ [(⟨w.sess.peer, w.sess.mailfrom, w.sess.rcpttos,
        if E.cfg.decodeData then decodeArg E (joinLF lines) else .bytes (joinLF lines), opts⟩, r)] := by
  have hlines : ∀ l ∈ lines.map sentLine, IsLine l ∧ l ≠ dotLine := by
    simp only [List.mem_map]
    rintro _ ⟨l, hl', rfl⟩
    exact ⟨sentLine_isLine (hl l hl').1 (hl l hl').2, sentLine_ne_dotLine l⟩
  rw [smtpDATA_lines E (lines.map sentLine) hlines rest (by simpa using hf)
    (w := { w with buffer := (lines.map sentLine).flatten ++ dotLine ++ rest }) hc hg hr rfl]
  have hx := foldl_sentLines_within E hsize
  obtain ⟨opts, ho⟩ := dataOptions_reachable E h hc hr
    { w with buffer := rest, replies := w.replies ++ [.str "354 End data with <CR><LF>.<CR><LF>"] }
  obtain ⟨r, w', hw', hcalls⟩ := dataFinish_delivers E hx
    (w := { w with buffer := rest, replies := w.replies ++ [.str "354 End data with <CR><LF>.<CR><LF>"] }) ho
  refine ⟨opts, r, w', hw', ?_⟩
  have hdata : ((lines.map sentLine).foldl (DataAcc.add E.cfg.dataSizeLimit) DataAcc.init).data.map unstuff =
      lines := by
    rw [DataAcc.foldl_data _ hx]
    simp only [DataAcc.init, List.nil_append, List.map_map]
    exact (List.map_congr_left fun l hl' => unstuff_rstrip_sentLine (hl l hl').1).trans (List.map_id _)
  rw [hcalls]
  simp only [dataCall, hdata]

end

/-- A client greets, opens a transaction and sends DATA. -/
def openSession : List Exchange × World :=
  World.run (sampleEnv dataSizeDefault Handler.accepting) 3 "p"
    (asciiBytes "EHLO c\r\nMAIL FROM:<a@b>\r\nRCPT TO:<d@e>\r\n") 3

theorem dot_stuffing_round_trip_sample :
    ∃ opts r w', (smtpDATA (sampleEnv dataSizeDefault Handler.accepting) 3 none
        { openSession.2 with buffer := ([[104, 105], [46]].map sentLine).flatten ++ dotLine ++ [] }).world? =
          some w' ∧
      w'.calls = openSession.2.calls ++ [(⟨openSession.2.sess.peer, openSession.2.sess.mailfrom,
        openSession.2.sess.rcpttos,
        if (sampleEnv dataSizeDefault Handler.accepting).cfg.decodeData then
          decodeArg (sampleEnv dataSizeDefault Handler.accepting) (joinLF [[104, 105], [46]])
        else .bytes (joinLF [[104, 105], [46]]), opts⟩, r)] :=
  dot_stuffing_round_trip _ (Run.run _ 3 "p" _ 3) (by decide) (by decide) (by decide) [[104, 105], [46]]
    (by decide) (by decide) [] (by decide)

/-- A message line whose sent line passes the reader's limit makes `readline` raise
`ValueError`, after any number of whole lines before it: DATA ends before any `process_message`
call, however much fuel the read loop has. -/
lemma smtpDATA_long_line {E : Env} (lines : List Bytes) (hls : ∀ l ∈ lines, IsLine l ∧ l ≠ dotLine)
    {l : Bytes} (hl : NoCRLF l) (hlen : streamLimit ≤ (dotStuff l).length) (rest : Bytes) (fuel : Nat)
    {w : World} (hc : w.cancelled = false) (hg : w.sess.seenGreeting.truthy = true)
    (hr : w.sess.rcpttos ≠ []) :
    smtpDATA E (fuel + 1 + lines.length) none { w with buffer := lines.flatten ++ sentLine l ++ rest } =
      .exc (.valueError "Separator is found, but chunk is longer than limit")
        { w with buffer := rest, replies := w.replies ++ [.str "354 End data with <CR><LF>.<CR><LF>"] } := by
  have hs : sentLine l ++ rest = (dotStuff l ++ [13]) ++ 10 :: rest := by simp [sentLine]
  have hc' : (10 : UInt8) ∉ dotStuff l ++ [13] := fun h => by
    rcases List.mem_append.mp h with h | h
    · rcases mem_dotStuff h with h | h
      · exact hl.2 h
      · cases h
    · simp at h
  have hlen' : streamLimit < (dotStuff l ++ [13]).length := by simp; omega
  rw [smtpDATA_accept E (w := { w with buffer := lines.flatten ++ sentLine l ++ rest }) hc hg hr, Co.bind_apply,
    dataLoop_reads E lines hls (sentLine l ++ rest) _ _ _ (List.append_assoc _ _ _),
    dataLoop_raise E (readline_error
    (by show streamReadline (sentLine l ++ rest) = _; rw [hs]; exact streamReadline_long hc' hlen' rest))]

/-- The message of one line of 65536 bytes 'a', well within the default `data_size_limit`, is
never delivered, even with the two reads its line and `.\r\n` take. -/
theorem long_line_never_delivered :
    smtpDATA (sampleEnv dataSizeDefault Handler.accepting) 2 none
        { sampleWorld [] with buffer := sentLine (List.replicate 65536 97) ++ dotLine } =
      .exc (.valueError "Separator is found, but chunk is longer than limit")
        { sampleWorld [] with buffer := dotLine,
                              replies := [.str "354 End data with <CR><LF>.<CR><LF>"] } := by
  have hd : dotStuff (List.replicate 65536 97) = List.replicate 65536 97 := rfl
  have hl : NoCRLF (List.replicate 65536 97) := by
    constructor <;> · simp only [List.mem_replicate]; decide
  exact smtpDATA_long_line (E := sampleEnv dataSizeDefault Handler.accepting) [] (fun _ h => nomatch h) hl
    (by rw [hd, List.length_replicate]; decide) dotLine 1 (w := sampleWorld []) rfl (by decide) (by decide)

end AioSmtpd
