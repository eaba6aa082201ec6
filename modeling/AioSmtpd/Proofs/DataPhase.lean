import AioSmtpd.Proofs.Effects
import Mathlib

/-!
# The DATA read loop

Over a buffer of whole lines, none of them `.\r\n`, followed by `.\r\n`, the read loop of
`smtp_DATA` is a fold of `DataAcc.add` over the lines and stops right after the end-of-data
line; at the end of the stream it reads `b''` forever. What the loop consumes, how it counts
the message size, and how the dot-stuffing is undone all follow from these two facts.
-/

namespace AioSmtpd

/-- `.\r\n` is a line `readline` returns whole. -/
lemma isLine_dotLine : IsLine dotLine := ⟨[46, 13], rfl, by decide, by decide⟩

section

variable (E : Env)

lemma dataLoop_read {fuel : Nat} {acc : DataAcc} {w w' : World} {line : Bytes}
    (hr : readline w = .ret line w') :
    dataLoop E (fuel + 1) acc w =
      if line = dotLine then .ret acc w' else dataLoop E fuel (acc.add E.cfg.dataSizeLimit line) w' := by
  simp only [dataLoop, Co.bind_apply, hr, Co.ite_apply, Co.pure_apply]

/-- Reading whole lines, none of them the end-of-data line, takes one read each and folds
`DataAcc.add` over them. -/
lemma dataLoop_reads (lines : List Bytes) (hl : ∀ l ∈ lines, IsLine l ∧ l ≠ dotLine)
    (more : Bytes) : ∀ (fuel : Nat) (acc : DataAcc) (w : World), w.buffer = lines.flatten ++ more →
    dataLoop E (fuel + lines.length) acc w =
      dataLoop E fuel (lines.foldl (DataAcc.add E.cfg.dataSizeLimit) acc) { w with buffer := more } := by
  induction lines with
  | nil =>
    intro fuel acc w hb
    simp only [List.flatten_nil, List.nil_append] at hb
    rw [← hb]
    rfl
  | cons l ls ih =>
    intro fuel acc w hb
    have hr := readline_of_line (hl l (List.mem_cons_self _ _)).1 (w := w)
      (by rw [hb, List.flatten_cons, List.append_assoc])
    rw [List.length_cons, ← Nat.add_assoc, dataLoop_read E hr, if_neg (hl l (List.mem_cons_self _ _)).2]
    exact ih (fun l' h => hl l' (List.mem_cons_of_mem _ h)) fuel _ _ rfl

/-- Over whole lines, none of them the end-of-data line, the loop is the fold of
`DataAcc.add` over the lines, and it stops right after the end-of-data line. -/
theorem dataLoop_lines (lines : List Bytes) (hl : ∀ l ∈ lines, IsLine l ∧ l ≠ dotLine)
    (rest : Bytes) {fuel : Nat} (hf : lines.length < fuel) (acc : DataAcc) {w : World}
    (hb : w.buffer = lines.flatten ++ dotLine ++ rest) :
    dataLoop E fuel acc w = .ret (lines.foldl (DataAcc.add E.cfg.dataSizeLimit) acc) { w with buffer := rest } := by
  obtain ⟨f, rfl⟩ : ∃ f, fuel = f + 1 + lines.length := ⟨fuel - 1 - lines.length, by omega⟩
  rw [dataLoop_reads E lines hl (dotLine ++ rest) _ acc w (by rw [hb, List.append_assoc]),
    dataLoop_read E (readline_of_line isLine_dotLine rfl),
    if_pos rfl]

/-- At the end of the stream the loop reads `b''` forever: no fuel is enough. -/
lemma dataLoop_eof : ∀ (fuel : Nat) (acc : DataAcc) (w : World), w.buffer = [] →
    dataLoop E fuel acc w = .hang
  | 0, _, _, _ => rfl
  | fuel + 1, acc, w, hb => by
    rw [dataLoop_read E (readline_eof hb), if_neg (by decide)]
    exact dataLoop_eof fuel _ w hb

lemma streamReadline_partial {tail : Bytes} (ht : 10 ∉ tail) (hlen : tail.length ≤ streamLimit) :
    streamReadline tail = (.ok tail, []) := by
  have h1 : tail.takeWhile (· != 10) = tail :=
    List.takeWhile_eq_self_iff.mpr fun b hb => bne_iff_ne.mpr fun h => ht (h ▸ hb)
  have h2 : tail.dropWhile (· != 10) = [] :=
    List.dropWhile_eq_nil_iff.mpr fun b hb => bne_iff_ne.mpr fun h => ht (h ▸ hb)
  simp only [streamReadline, h1, h2, if_neg (Nat.not_lt.mpr hlen)]

/-- A stream that ends before its end-of-data line keeps the loop reading: after the whole
lines and the partial bytes at the end, every read returns `b''`, and no fuel is enough. -/
theorem dataLoop_unterminated (lines : List Bytes) (hl : ∀ l ∈ lines, IsLine l ∧ l ≠ dotLine)
    {tail : Bytes} (ht : 10 ∉ tail) (htl : tail.length ≤ streamLimit) (fuel : Nat) (acc : DataAcc)
    {w : World} (hb : w.buffer = lines.flatten ++ tail) :
    dataLoop E fuel acc w = .hang := by
  by_cases hfuel : fuel ≤ lines.length
  · have hk : (lines.take fuel).length = fuel := List.length_take_of_le hfuel
    have h := dataLoop_reads E (lines.take fuel) (fun l h => hl l (List.mem_of_mem_take h))
      ((lines.drop fuel).flatten ++ tail) 0 acc w
      (by rw [hb, ← List.append_assoc, ← List.flatten_append, List.take_append_drop])
    rwa [hk, Nat.zero_add] at h
  · obtain ⟨f, rfl⟩ : ∃ f, fuel = f + 1 + lines.length := ⟨fuel - 1 - lines.length, by omega⟩
    have hr : readline { w with buffer := tail } = .ret tail { w with buffer := [] } := by
      simp only [readline, streamReadline_partial ht htl]
    have hne : tail ≠ dotLine := fun h => ht (h ▸ by decide)
    rw [dataLoop_reads E lines hl tail _ acc w hb, dataLoop_read E hr, if_neg hne]
    exact dataLoop_eof E f _ _ rfl

end

/-! ## Size accounting -/

lemma length_rstripCRLF_le (l : Bytes) : (rstripCRLF l).length ≤ l.length := by
  simpa [rstripCRLF] using (List.dropWhile_suffix isCRLF (l := l.reverse)).length_le

/-- What holds of the loop's accumulators after every read: the flag says exactly whether
the count has passed a positive limit, the kept lines are no longer than the count, and
once the flag is set they are within the limit. -/
structure DataAcc.Inv (limit : Nat) (acc : DataAcc) : Prop where
  flag : acc.sizeExceeded = true ↔ limit ≠ 0 ∧ limit < acc.numBytes
  kept_le_count : (acc.data.map List.length).sum ≤ acc.numBytes
  kept_le_limit : acc.sizeExceeded = true → (acc.data.map List.length).sum ≤ limit

namespace DataAcc

variable {limit : Nat}

@[simp] theorem add_numBytes (acc : DataAcc) (l : Bytes) :
    (acc.add limit l).numBytes = acc.numBytes + l.length := rfl

lemma add_sizeExceeded (acc : DataAcc) (l : Bytes) :
    (acc.add limit l).sizeExceeded = true ↔
      acc.sizeExceeded = true ∨ (limit ≠ 0 ∧ limit < acc.numBytes + l.length) := by
  simp [DataAcc.add]

lemma add_data (acc : DataAcc) (l : Bytes) :
    (acc.add limit l).data =
      if (acc.add limit l).sizeExceeded then acc.data else acc.data ++ [rstripCRLF l] := rfl

lemma Inv.init : Inv limit DataAcc.init := ⟨by simp [DataAcc.init], by simp [DataAcc.init], by simp [DataAcc.init]⟩

lemma Inv.add {acc : DataAcc} (h : Inv limit acc) (l : Bytes) : Inv limit (acc.add limit l) := by
  have hl := length_rstripCRLF_le l
  have hc := h.kept_le_count
  have hx := @add_sizeExceeded limit acc l
  refine ⟨by rw [hx, h.flag, add_numBytes]; omega, ?_, fun hxt => ?_⟩
  · rw [add_data, add_numBytes]
    split
    · omega
    · simp only [List.map_append, List.map_singleton, List.sum_append, List.sum_singleton]
      omega
  · rw [add_data, if_pos hxt]
    by_cases ha : acc.sizeExceeded = true
    · exact h.kept_le_limit ha
    · have hf := h.flag.not.mp ha
      have hn := (hx.mp hxt).resolve_left ha
      omega

lemma Inv.foldl {acc : DataAcc} (h : Inv limit acc) (lines : List Bytes) :
    Inv limit (lines.foldl (DataAcc.add limit) acc) := by
  induction lines generalizing acc with
  | nil => exact h
  | cons l ls ih => exact ih (h.add l)

lemma foldl_numBytes (lines : List Bytes) (acc : DataAcc) :
    (lines.foldl (DataAcc.add limit) acc).numBytes = acc.numBytes + (lines.map List.length).sum := by
  induction lines generalizing acc with
  | nil => simp
  | cons l ls ih => simp only [List.foldl_cons, ih, DataAcc.add, List.map_cons, List.sum_cons]; omega

lemma foldl_sizeExceeded_of {acc : DataAcc} (h : acc.sizeExceeded = true) (lines : List Bytes) :
    (lines.foldl (DataAcc.add limit) acc).sizeExceeded = true := by
  induction lines generalizing acc with
  | nil => exact h
  | cons l ls ih => exact ih (by simp [DataAcc.add, h])

/-- While the flag stays down the loop keeps every line, stripped of its CR and LF bytes. -/
lemma foldl_data {acc : DataAcc} (lines : List Bytes)
    (h : (lines.foldl (DataAcc.add limit) acc).sizeExceeded = false) :
    (lines.foldl (DataAcc.add limit) acc).data = acc.data ++ lines.map rstripCRLF := by
  induction lines generalizing acc with
  | nil => simp
  | cons l ls ih =>
    cases hx : (acc.add limit l).sizeExceeded
    · rw [List.foldl_cons, ih h]
      simp only [DataAcc.add] at hx ⊢
      simp [hx]
    · simp [foldl_sizeExceeded_of hx ls] at h

end DataAcc

/-! ## The end of the DATA command -/

section

variable (E : Env)

/-- The `process_message` call `smtp_DATA` makes from session `s`, with the lines kept in
`acc` and the keyword arguments `opts`. -/
def dataCall (acc : DataAcc) (s : Session) (opts : Option (List String × List String)) : Call :=
  let received := joinLF (acc.data.map unstuff)
  ⟨s.peer, s.mailfrom, s.rcpttos,
    if E.cfg.decodeData then decodeArg E received else .bytes received, opts⟩

/-- An accepted DATA answers 354 and runs the read loop. -/
theorem smtpDATA_accept {fuel : Nat} {w : World} (hc : w.cancelled = false)
    (hg : w.sess.seenGreeting.truthy = true) (hr : w.sess.rcpttos ≠ []) :
    smtpDATA E fuel none w = (dataLoop E fuel DataAcc.init >>= dataFinish E)
      { w with replies := w.replies ++ [.str "354 End data with <CR><LF>.<CR><LF>"] } := by
  simp [smtpDATA, hg, hr, argTruthy, push_plain E (s := "354 End data with <CR><LF>.<CR><LF>") (by decide), hc]

lemma dataFinish_exceeded {acc : DataAcc} (hx : acc.sizeExceeded = true) {w : World}
    (hc : w.cancelled = false) :
    dataFinish E acc w = .ret ()
      { w with sess := w.sess.setPostDataState
               replies := w.replies ++ [.str "552 Error: Too much mail data"] } := by
  simp [dataFinish, hx, push_plain E (s := "552 Error: Too much mail data") (by decide), hc]

lemma dataOptions_cases (s : Session) (w : World) :
    (∃ o, dataOptions E s w = .ret o w) ∨ ∃ e, dataOptions E s w = .exc e w := by
  unfold dataOptions
  cases E.cfg.decodeData <;> cases s.mailOptions <;> cases s.rcptOptions <;> simp [Co.throw]

lemma dataFinish_deliver {acc : DataAcc} (hx : acc.sizeExceeded = false) {w : World}
    {opts : Option (List String × List String)} (ho : dataOptions E w.sess w = .ret opts w) :
    dataFinish E acc w = (processMessage E (dataCall E acc w.sess opts) >>= fun st =>
      Co.modifySess Session.setPostDataState >>= fun _ => pushStatus E st) w := by
  simp [dataFinish, hx, ho, dataCall]

lemma processMessage_ret {c : Call} {w w' : World} {st : Option String}
    (h : processMessage E c w = .ret st w') :
    E.handler.processMessage (w.calls.map Prod.fst) c = .ok st ∧
      w' = { w with calls := w.calls ++ [(c, .ok st)] } := by
  simp only [processMessage] at h
  split at h
  · rename_i hr
    cases h
    exact ⟨hr, by rw [hr]⟩
  · cases h

lemma pushStatus_cases (st : Option String) (w : World) : ∃ m,
    pushStatus E st w = .written w.cancelled { w with replies := w.replies ++ [m] } ∨
    ∃ e, pushStatus E st w = .exc e w := by
  unfold pushStatus
  split
  · split <;> exact ⟨_, push_cases E _ w⟩
  · exact ⟨_, push_cases E _ w⟩

/-- A DATA end that returns and did not take the 552 branch has made exactly one call. -/
lemma dataFinish_ret_calls {acc : DataAcc} (hx : acc.sizeExceeded = false) {w w' : World}
    (h : dataFinish E acc w = .ret () w') : w'.calls.length = w.calls.length + 1 := by
  rcases dataOptions_cases E w.sess w with ⟨o, ho⟩ | ⟨e, he⟩
  · rw [dataFinish_deliver E hx ho] at h
    obtain ⟨st, w₁, h₁, h⟩ := Co.bind_eq_ret h
    obtain ⟨-, rfl⟩ := processMessage_ret E h₁
    obtain ⟨_, w₂, h₂, h⟩ := Co.bind_eq_ret h
    cases h₂
    rcases pushStatus_cases E st _ with ⟨m, hm | ⟨e, hm⟩⟩ <;> rw [hm] at h
    · revert h
      cases w.cancelled <;> rintro ⟨⟩
      simp
    · cases h
  · simp [dataFinish, hx, he] at h

/-- An accepted DATA over whole lines and the end-of-data line answers 354, folds the
loop body over the lines and ends with the accumulators it reached. -/
theorem smtpDATA_lines (lines : List Bytes) (hl : ∀ l ∈ lines, IsLine l ∧ l ≠ dotLine)
    (rest : Bytes) {fuel : Nat} (hf : lines.length < fuel) {w : World} (hc : w.cancelled = false)
    (hg : w.sess.seenGreeting.truthy = true) (hr : w.sess.rcpttos ≠ [])
    (hb : w.buffer = lines.flatten ++ dotLine ++ rest) :
    smtpDATA E fuel none w = dataFinish E (lines.foldl (DataAcc.add E.cfg.dataSizeLimit) DataAcc.init)
      { w with buffer := rest, replies := w.replies ++ [.str "354 End data with <CR><LF>.<CR><LF>"] } := by
  rw [smtpDATA_accept E hc hg hr, Co.bind_apply, dataLoop_lines E lines hl rest hf _
    (w := { w with replies := w.replies ++ [.str "354 End data with <CR><LF>.<CR><LF>"] }) hb]

/-- DATA over lines that the reader returns whole answers 354 and then 552, with no
`process_message` call, exactly when `data_size_limit` is set and the lines before the
end-of-data line sum to more than it; and then the transaction is reset and the loop has read
up to the end-of-data line. -/
lemma smtpDATA_exceeded_iff (lines : List Bytes) (hl : ∀ l ∈ lines, IsLine l ∧ l ≠ dotLine)
    (rest : Bytes) {fuel : Nat} (hf : lines.length < fuel) {w : World} (hc : w.cancelled = false)
    (hg : w.sess.seenGreeting.truthy = true) (hr : w.sess.rcpttos ≠ [])
    (hb : w.buffer = lines.flatten ++ dotLine ++ rest) :
    ((∃ w', smtpDATA E fuel none w = .ret () w' ∧
        w'.replies = w.replies ++ [.str "354 End data with <CR><LF>.<CR><LF>",
          .str "552 Error: Too much mail data"] ∧ w'.calls = w.calls) ↔
      E.cfg.dataSizeLimit ≠ 0 ∧ E.cfg.dataSizeLimit < (lines.map List.length).sum) ∧
    (E.cfg.dataSizeLimit ≠ 0 ∧ E.cfg.dataSizeLimit < (lines.map List.length).sum →
      smtpDATA E fuel none w = .ret ()
        { w with sess := w.sess.setPostDataState, buffer := rest,
                 replies := w.replies ++ [.str "354 End data with <CR><LF>.<CR><LF>",
                   .str "552 Error: Too much mail data"] }) := by
  have hinv := (@DataAcc.Inv.init E.cfg.dataSizeLimit).foldl lines
  have hnum : (lines.foldl (DataAcc.add E.cfg.dataSizeLimit) DataAcc.init).numBytes =
      (lines.map List.length).sum := (DataAcc.foldl_numBytes lines DataAcc.init).trans (Nat.zero_add _)
  have hrun := smtpDATA_lines E lines hl rest hf hc hg hr hb
  have hover : E.cfg.dataSizeLimit ≠ 0 ∧ E.cfg.dataSizeLimit < (lines.map List.length).sum →
      smtpDATA E fuel none w = .ret ()
        { w with sess := w.sess.setPostDataState, buffer := rest,
                 replies := w.replies ++ [.str "354 End data with <CR><LF>.<CR><LF>",
                   .str "552 Error: Too much mail data"] } := fun hlt => by
    rw [hrun, dataFinish_exceeded E (hinv.flag.mpr (hnum ▸ hlt)) ?_]
    · simp
    · exact hc
  refine ⟨⟨fun ⟨w', hw', _, hcalls⟩ => ?_, fun hlt => ⟨_, hover hlt, by simp, rfl⟩⟩, hover⟩
  by_contra hle
  have hx : (lines.foldl (DataAcc.add E.cfg.dataSizeLimit) DataAcc.init).sizeExceeded = false := by
    rw [← Bool.not_eq_true, hinv.flag, hnum]
    exact hle
  have := dataFinish_ret_calls E hx (hrun ▸ hw')
  simp [hcalls] at this

end

/-- Lines are split at LF alone, so a content line ended by a bare LF and followed by
`.\r\n` ends the data: after the 354 reply the client sends `a LF . CR LF NOOP CR LF`, in
which no CRLF is followed by `.` CR LF, and DATA delivers `a` and leaves `NOOP\r\n` to the
command loop, which answers it. -/
theorem data_ends_after_bare_lf :
    (∀ k ≤ 11, [13, 10, 46, 13, 10].isSuffixOf
      ([13, 10] ++ ([97, 10, 46, 13, 10, 78, 79, 79, 80, 13, 10] : Bytes).take k) = false) ∧
    (World.step (sampleEnv dataSizeDefault Handler.accepting) 3
      (sampleWorld (asciiBytes "DATA\r\n" ++ [97, 10, 46, 13, 10, 78, 79, 79, 80, 13, 10]))).map
      (fun w => (w.buffer, w.calls.map (·.1.data))) = some ([78, 79, 79, 80, 13, 10], [.bytes [97]]) ∧
    ((World.step (sampleEnv dataSizeDefault Handler.accepting) 3
      (sampleWorld (asciiBytes "DATA\r\n" ++ [97, 10, 46, 13, 10, 78, 79, 79, 80, 13, 10]))).bind
      (World.step (sampleEnv dataSizeDefault Handler.accepting) 3)).map (·.replies) =
      some [.str "354 End data with <CR><LF>.<CR><LF>", .str "250 OK", .str "250 OK"] := by
  decide

lemma foldl_add_empty (limit n k : Nat) :
    (List.replicate n ([] : Bytes)).foldl (DataAcc.add limit) ⟨List.replicate k [], 0, false⟩ =
      ⟨List.replicate (n + k) [], 0, false⟩ := by
  induction n generalizing k with
  | zero => simp
  | succ n ih =>
    have hadd : DataAcc.add limit ⟨List.replicate k [], 0, false⟩ [] =
        ⟨List.replicate (k + 1) [], 0, false⟩ := by
      simp [DataAcc.add, List.replicate_succ', rstripCRLF]
    rw [List.replicate_succ, List.foldl_cons, hadd, ih]
    congr 2
    omega

/-- At the end of the stream every read returns `b''`, which the loop adds as a line. -/
lemma dataLoop_eof_reads (E : Env) {w : World} (hb : w.buffer = []) :
    ∀ n fuel acc, dataLoop E (fuel + n) acc w =
      dataLoop E fuel ((List.replicate n []).foldl (DataAcc.add E.cfg.dataSizeLimit) acc) w
  | 0, _, _ => rfl
  | n + 1, fuel, acc => by
    rw [← Nat.add_assoc, dataLoop_read E (readline_eof hb), if_neg (by decide),
      dataLoop_eof_reads E hb n fuel, List.replicate_succ, List.foldl_cons]

/-- With the stream empty after the 354 reply the read loop never ends: no number of reads
is enough, and after `n` reads it holds `n` empty lines. -/
theorem smtpDATA_spins_at_eof :
    (∀ fuel, smtpDATA (sampleEnv dataSizeDefault Handler.accepting) fuel none (sampleWorld []) = .hang) ∧
    ∀ n fuel, dataLoop (sampleEnv dataSizeDefault Handler.accepting) (fuel + n) DataAcc.init
      (sampleWorld []) = dataLoop (sampleEnv dataSizeDefault Handler.accepting) fuel
        ⟨List.replicate n [], 0, false⟩ (sampleWorld []) := by
  refine ⟨fun fuel => ?_, fun n fuel => ?_⟩
  · rw [smtpDATA_accept _ (w := sampleWorld []) rfl rfl (List.cons_ne_nil _ _), Co.bind_apply,
      dataLoop_unterminated _ [] (fun _ h => nomatch h) (List.not_mem_nil _) (Nat.zero_le _) fuel _ rfl]
  · rw [dataLoop_eof_reads _ rfl]
    exact congrArg (fun acc => dataLoop _ fuel acc _) (foldl_add_empty _ n 0)

end AioSmtpd
