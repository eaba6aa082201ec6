import AioSmtpd.Proofs.Effects
import AioSmtpd.Proofs.Utf8

/-!
# The verb of a command line is read in any case

`_handle_client` splits a command line at its first space and looks the verb up as
`line[:i].upper()`, so that, as RFC 5321 asks, a verb is recognised in any case. Nothing else
of a pass reads the verb's bytes: the line ends where it ends, it has the same length, and the
argument after the space is the same, whatever the case in which the verb is written. So a
pass over a line whose verb is written in another case makes the same pass and leaves the same
world (`World.step_verb_case`).
-/

namespace AioSmtpd

/-- `bytes.upper()` changes no LF, CR or space, and makes none. -/
lemma upper_eq_iff {c t : UInt8} (ht : t = 10 ∨ t = 13 ∨ t = 32) :
    (if 97 ≤ c ∧ c ≤ 122 then c - 32 else c) = t ↔ c = t := by
  split_ifs with h
  · simp only [UInt8.le_iff_toNat, UInt8.reduceToNat] at h
    have hsub : (c - 32).toNat = c.toNat - 32 :=
      UInt8.toNat_sub_of_le _ _ (by simp only [UInt8.le_iff_toNat, UInt8.reduceToNat]; omega)
    rw [UInt8.eq_iff_toNat, UInt8.eq_iff_toNat c, hsub]
    rcases ht with rfl | rfl | rfl <;> simp only [UInt8.reduceToNat] <;> omega
  · exact Iff.rfl

/-- A verb written in another case has no LF, CR or space either. -/
lemma verb_bytes_of_upper {v v' : Bytes} (hv : ∀ b ∈ v, b ≠ 10 ∧ b ≠ 13 ∧ b ≠ 32)
    (hu : bytesUpper v = bytesUpper v') : ∀ b ∈ v', b ≠ 10 ∧ b ≠ 13 ∧ b ≠ 32 := by
  intro b' hb'
  have hm : (if 97 ≤ b' ∧ b' ≤ 122 then b' - 32 else b') ∈ bytesUpper v := hu ▸ List.mem_map_of_mem _ hb'
  obtain ⟨b, hb, he⟩ := List.mem_map.mp hm
  have key : ∀ t : UInt8, (t = 10 ∨ t = 13 ∨ t = 32) → b ≠ t → b' ≠ t := fun t ht hb h' =>
    hb ((upper_eq_iff ht).mp (he.trans ((upper_eq_iff ht).mpr h')))
  exact ⟨key 10 (.inl rfl) (hv b hb).1, key 13 (.inr (.inl rfl)) (hv b hb).2.1,
    key 32 (.inr (.inr rfl)) (hv b hb).2.2⟩

/-- `readline` reads past a verb: what it reads of a line that starts with LF-free bytes depends
on them only through their length, and starts with them. -/
lemma streamReadline_verb {v : Bytes} (hv : ∀ b ∈ v, b ≠ 10) (r : Bytes) :
    ∃ (res : Except Exc Bytes) (rest : Bytes), ∀ v' : Bytes, (∀ b ∈ v', b ≠ 10) → v'.length = v.length →
      streamReadline (v' ++ r) = (res.map (v' ++ ·), rest) := by
  have hlf : ∀ v' : Bytes, (∀ b ∈ v', b ≠ 10) → ∀ a ∈ v', (a != 10) = true := fun v' h a ha =>
    bne_iff_ne.mpr (h a ha)
  refine ⟨(streamReadline (v ++ r)).1.map (·.drop v.length), (streamReadline (v ++ r)).2,
    fun v' h hlen => ?_⟩
  simp only [streamReadline, List.takeWhile_append_of_pos (hlf v' h), List.takeWhile_append_of_pos (hlf v hv),
    List.dropWhile_append_of_pos (hlf v' h), List.dropWhile_append_of_pos (hlf v hv), List.length_append, hlen]
  cases r.dropWhile (· != 10) <;> split_ifs <;> simp [Except.map]

/-- `line.rstrip(b'\r\n')` keeps a verb with no CR or LF in front of what it strips. -/
lemma rstripCRLF_append {v : Bytes} (hv : ∀ b ∈ v, b ≠ 10 ∧ b ≠ 13) (x : Bytes) :
    rstripCRLF (v ++ x) = v ++ rstripCRLF x := by
  have hself : v.reverse.dropWhile isCRLF = v.reverse := by
    rcases hr : v.reverse with _ | ⟨a, l⟩
    · rfl
    · have ha := hv a (List.mem_reverse.mp (hr ▸ List.mem_cons_self a l))
      exact List.dropWhile_cons_of_neg (by simp [isCRLF, ha.1, ha.2])
  unfold rstripCRLF
  rw [List.reverse_append, List.dropWhile_append]
  split
  · rename_i h
    rw [hself, List.reverse_reverse, List.isEmpty_iff.mp h, List.reverse_nil, List.append_nil]
  · rw [List.reverse_append, List.reverse_reverse]

lemma endsWithCRLF_cons {b : UInt8} (hb : b ≠ 13) (l : Bytes) :
    endsWithCRLF (b :: l) = endsWithCRLF l := by
  unfold endsWithCRLF
  rw [Bool.eq_iff_iff, List.isSuffixOf_iff_suffix, List.isSuffixOf_iff_suffix, List.suffix_cons_iff]
  exact or_iff_right fun h => hb (List.cons.inj h).1.symm

/-- Whether a line ends in CRLF does not depend on a verb with no CR in front of it. -/
lemma endsWithCRLF_append {v : Bytes} (hv : ∀ b ∈ v, b ≠ 13) (x : Bytes) :
    endsWithCRLF (v ++ x) = endsWithCRLF x := by
  induction v with
  | nil => rfl
  | cons b v ih =>
    rw [List.cons_append, endsWithCRLF_cons (hv b (List.mem_cons_self _ _)),
      ih fun a ha => hv a (List.mem_cons_of_mem _ ha)]

/-- A line split at its first space, after a verb with no space: the verb stays in front. -/
lemma splitCommand_append {v : Bytes} (hv : ∀ b ∈ v, b ≠ 32) (t : Bytes) :
    splitCommand (v ++ t) = (v ++ (splitCommand t).1, (splitCommand t).2) := by
  have hp : ∀ a ∈ v, (a != 32) = true := fun a ha => bne_iff_ne.mpr (hv a ha)
  unfold splitCommand
  rw [List.dropWhile_append_of_pos hp, List.takeWhile_append_of_pos hp]
  cases t.dropWhile (· != 32) <;> rfl

@[simp] theorem bytesUpper_append (a b : Bytes) : bytesUpper (a ++ b) = bytesUpper a ++ bytesUpper b :=
  List.map_append _ _ _

@[simp] theorem bytesUpper_length (a : Bytes) : (bytesUpper a).length = a.length := List.length_map _ _

section

variable (E : Env)

/-- The `try` body reads the verb only through its upper case. -/
lemma handleLine_verb_case {v v' : Bytes} (hv : ∀ b ∈ v, b ≠ 10 ∧ b ≠ 13 ∧ b ≠ 32)
    (hv' : ∀ b ∈ v', b ≠ 10 ∧ b ≠ 13 ∧ b ≠ 32) (hu : bytesUpper v = bytesUpper v') (fuel : Nat)
    (x : Bytes) : handleLine E fuel (v ++ x) = handleLine E fuel (v' ++ x) := by
  have hlen : v.length = v'.length := by rw [← bytesUpper_length v, hu, bytesUpper_length]
  have he : ∀ y : Bytes, (v ++ y).isEmpty = (v' ++ y).isEmpty := fun y => by
    cases v <;> cases v' <;> first | rfl | simp at hlen
  simp only [handleLine, rstripCRLF_append (fun b hb => ⟨(hv b hb).1, (hv b hb).2.1⟩),
    rstripCRLF_append (fun b hb => ⟨(hv' b hb).1, (hv' b hb).2.1⟩),
    splitCommand_append (fun b hb => (hv b hb).2.2), splitCommand_append (fun b hb => (hv' b hb).2.2),
    bytesUpper_append, hu, List.length_append, hlen, he]

/-- A pass whose read returned a line: it ends the task, with nothing else done, when the line
does not end in CRLF, and otherwise runs the `try` body on it. -/
lemma World.step_read {fuel : Nat} {w : World} {line rest : Bytes}
    (hs : streamReadline w.buffer = (.ok line, rest)) :
    World.step E fuel w =
      if endsWithCRLF line then
        match Co.tryCatch (handleLine E fuel line) (catchAll E) { w with buffer := rest } with
        | .ret _ w' => some w'
        | .exc _ w' => some { w' with finished := true }
        | .hang => none
      else some { w with buffer := rest, finished := true } := by
  simp only [World.step, clientStep, Co.bind_apply, Co.ite_apply, readline, hs]
  cases endsWithCRLF line
  · rcases handleException_cases E (.incompleteRead line) { w with buffer := rest } with hh | ⟨e, hh⟩ <;>
      simp only [hh, Bool.not_false, Bool.false_eq_true, if_true, if_false] <;> split_ifs <;> rfl
  · simp only [Bool.not_true, Bool.false_eq_true, if_true, if_false]
    cases Co.tryCatch (handleLine E fuel line) (catchAll E) { w with buffer := rest } <;> rfl

/-- A pass whose read raised ends the task, with nothing but the reader changed. -/
lemma World.step_readError {fuel : Nat} {w : World} {e : Exc} {rest : Bytes}
    (hs : streamReadline w.buffer = (.error e, rest)) :
    World.step E fuel w = some { w with buffer := rest, finished := true } := by
  simp only [World.step, clientStep, Co.bind_apply, readline, hs]

/-- A verb is read in any case. Take a line whose verb, the bytes before its first space, holds
no CR or LF, and write the verb in another case, so that `bytes.upper()` of the two is the same:
a pass of the loop over either line, whatever the client sends after it, leaves the same world. -/
theorem World.step_verb_case {v v' : Bytes} (hv : ∀ b ∈ v, b ≠ 10 ∧ b ≠ 13 ∧ b ≠ 32)
    (hu : bytesUpper v = bytesUpper v') {w : World} (r : Bytes)
    (fuel : Nat) :
    World.step E fuel { w with buffer := v ++ r } = World.step E fuel { w with buffer := v' ++ r } := by
  have hv' := verb_bytes_of_upper hv hu
  have hlen : v'.length = v.length := by rw [← bytesUpper_length v, hu, bytesUpper_length]
  obtain ⟨res, rest, hrd⟩ := streamReadline_verb (fun b hb => (hv b hb).1) r
  have hs := hrd v (fun b hb => (hv b hb).1) rfl
  have hs' := hrd v' (fun b hb => (hv' b hb).1) hlen
  cases res with
  | error e =>
    rw [World.step_readError E (w := { w with buffer := v ++ r }) hs,
      World.step_readError E (w := { w with buffer := v' ++ r }) hs']
  | ok x =>
    rw [World.step_read E (w := { w with buffer := v ++ r }) hs,
      World.step_read E (w := { w with buffer := v' ++ r }) hs', endsWithCRLF_append (fun b hb => (hv b hb).2.1),
      endsWithCRLF_append (fun b hb => (hv' b hb).2.1), handleLine_verb_case E hv hv' hu]

end

/-- RSET written `rSeT` clears the envelope of `sampleWorld` as RSET does. -/
theorem World.step_verb_case_sample :
    (World.step (sampleEnv dataSizeDefault Handler.accepting) 3
        (sampleWorld (asciiBytes "rSeT\r\n"))).map (fun w => (w.replies, w.sess.mailfrom)) =
      some ([.str "250 OK"], none) ∧
    World.step (sampleEnv dataSizeDefault Handler.accepting) 3
        { sampleWorld [] with buffer := asciiBytes "rSeT" ++ asciiBytes "\r\n" } =
      World.step (sampleEnv dataSizeDefault Handler.accepting) 3
        { sampleWorld [] with buffer := asciiBytes "RSET" ++ asciiBytes "\r\n" } :=
  ⟨by decide, World.step_verb_case _ (by decide) (by decide) _ _⟩

end AioSmtpd
