import AioSmtpd.Proofs.Transitions

/-!
# Command line length limits

`_handle_client` refuses a command line with `500 Error: line too long` when the line, once
stripped of its CR and LF bytes, is longer than the limit for its verb. Before EHLO that
limit is `command_size_limit`. After it the limit comes from the class's table
`command_size_limits`, whose default was bound to `command_size_limit` when the class body
ran, and which EHLO grew for MAIL by 26 when `data_size_limit` is set and by 10 when SMTPUTF8
is enabled. For a session running alone, `TableInv` gives this limit as `lineLimit` at every
point of every run.
-/

namespace AioSmtpd

/-- The limit a session running alone applies to a command line with verb `verb`. -/
def lineLimit (E : Env) (extended : Bool) (verb : String) : Nat :=
  if extended then
    E.K.commandSizeLimitsDefault +
      (if verb = "MAIL" then
        (if E.cfg.dataSizeLimit ≠ 0 then 26 else 0) + (if E.cfg.enableSMTPUTF8 then 10 else 0)
      else 0)
  else E.K.commandSizeLimit

section

variable (E : Env)

lemma ehloTable_clear (verb : String) :
    (ehloTable E (ClassState.clear E.K)).commandSizeLimits verb =
      E.K.commandSizeLimitsDefault +
        (if verb = "MAIL" then
          (if E.cfg.dataSizeLimit ≠ 0 then 26 else 0) + (if E.cfg.enableSMTPUTF8 then 10 else 0)
        else 0) := by
  unfold ehloTable ClassState.grow ClassState.clear
  by_cases hv : verb = "MAIL" <;> by_cases hd : E.cfg.dataSizeLimit ≠ 0 <;>
    cases E.cfg.enableSMTPUTF8 <;> simp [hv, hd]

/-- In a session running alone, the limit `maxSize` reads is `lineLimit`. -/
lemma maxSize_of_tableInv {w : World} (hi : TableInv E w.sess w.cls) (verb : String) :
    maxSize E w verb = lineLimit E w.sess.extendedSmtp verb := by
  unfold maxSize lineLimit
  cases hx : w.sess.extendedSmtp
  · rfl
  · rw [hi.table, hx]
    exact ehloTable_clear E verb

/-- A pass of the loop that reads a CRLF line and whose `try` body returns. -/
lemma World.step_of_handleLine {fuel : Nat} {w w₁ : World} {line rest : Bytes}
    (hs : streamReadline w.buffer = (.ok line, rest))
    (hcrlf : endsWithCRLF line = true)
    (hl : handleLine E fuel line { w with buffer := rest } = .ret () w₁) :
    World.step E fuel w = some w₁ := by
  simp only [World.step, clientStep, Co.bind_apply, readline, hs, hcrlf, Bool.not_true, Bool.false_eq_true,
    if_false, Co.tryCatch, hl]
  rfl

/-- In every reachable state of a session running alone, a CRLF command line whose stripped
form is not empty and whose verb decodes is refused with `500 Error: line too long`, leaving
everything but the reader and the replies as it was, when its stripped length exceeds
`lineLimit`; otherwise the `try` body runs the command its verb names. -/
theorem line_length_check {xs : List Exchange} {w : World} (h : Run E xs w)
    (hc : w.cancelled = false) {raw rest : Bytes} (hb : w.buffer = raw ++ rest) (hl : IsLine raw)
    (hcrlf : endsWithCRLF raw = true) (hne : rstripCRLF raw ≠ []) {verb : String}
    (hv : ascii.decode (bytesUpper (splitCommand (rstripCRLF raw)).1) = .ok verb) (fuel : Nat) :
    (lineLimit E w.sess.extendedSmtp verb < (rstripCRLF raw).length →
      World.step E fuel w =
        some { w with buffer := rest, replies := w.replies ++ [.str "500 Error: line too long"] }) ∧
    ((rstripCRLF raw).length ≤ lineLimit E w.sess.extendedSmtp verb →
      handleLine E fuel raw { w with buffer := rest } =
        match dispatch E fuel verb with
        | none => push E (.str ("500 Error: command \"" ++ verb ++ "\" not recognized"))
            { w with buffer := rest }
        | some method => method (splitCommand (rstripCRLF raw)).2 { w with buffer := rest }) := by
  have hi : TableInv E w.sess w.cls := Run.invariant E (TableInv E)
    (fun _ => ⟨rfl, fun _ => rfl⟩) (fun hi hs => hi.step E hs) h hc
  have hm := maxSize_of_tableInv E (w := { w with buffer := rest }) hi verb
  have hemp : (rstripCRLF raw).isEmpty = false := by
    cases hr : rstripCRLF raw with
    | nil => exact absurd hr hne
    | cons _ _ => rfl
  constructor
  · intro hlt
    refine World.step_of_handleLine E (by rw [hb]; exact streamReadline_line hl rest) hcrlf ?_
    simp only [handleLine, Co.ite_apply, hemp, Bool.false_eq_true, if_false, hv, Co.bind_apply,
      Co.get_apply, hm, hlt, if_true]
    rw [push_plain E (s := "500 Error: line too long") (by decide)]
    exact Outcome.written_of_false hc _
  · intro hle
    simp only [handleLine, Co.ite_apply, hemp, Bool.false_eq_true, if_false, hv, Co.bind_apply,
      Co.get_apply, hm, not_lt.mpr hle]
    cases dispatch E fuel verb <;> rfl

end

/-- A session after one pass of the loop on EHLO, about to read a NOOP line. -/
def ehloSession : List Exchange × World :=
  World.run (sampleEnv dataSizeDefault Handler.accepting) 3 "p" (asciiBytes "EHLO c\r\nNOOP\r\n") 1

theorem line_length_check_sample :
    (lineLimit (sampleEnv dataSizeDefault Handler.accepting) ehloSession.2.sess.extendedSmtp "NOOP" <
        (rstripCRLF (asciiBytes "NOOP\r\n")).length →
      World.step (sampleEnv dataSizeDefault Handler.accepting) 3 ehloSession.2 =
        some { ehloSession.2 with buffer := [],
                                  replies := ehloSession.2.replies ++ [.str "500 Error: line too long"] }) ∧
    ((rstripCRLF (asciiBytes "NOOP\r\n")).length ≤
        lineLimit (sampleEnv dataSizeDefault Handler.accepting) ehloSession.2.sess.extendedSmtp "NOOP" →
      handleLine (sampleEnv dataSizeDefault Handler.accepting) 3 (asciiBytes "NOOP\r\n")
          { ehloSession.2 with buffer := [] } =
        match dispatch (sampleEnv dataSizeDefault Handler.accepting) 3 "NOOP" with
        | none => push (sampleEnv dataSizeDefault Handler.accepting)
            (.str ("500 Error: command \"" ++ "NOOP" ++ "\" not recognized")) { ehloSession.2 with buffer := [] }
        | some method => method (splitCommand (rstripCRLF (asciiBytes "NOOP\r\n"))).2
            { ehloSession.2 with buffer := [] }) :=
  line_length_check _ (Run.run _ 3 "p" _ 1) (by decide) (by decide)
    ⟨asciiBytes "NOOP\r", rfl, by decide, by decide⟩ (by decide) (by decide) rfl 3

/-- A NOOP line of 513 bytes with its CRLF, one more than the limit of 512, is not refused: the
length check leaves out the CRLF, and NOOP answers 250. -/
theorem crlf_not_counted :
    (asciiBytes "NOOP" ++ List.replicate 507 32 ++ [13, 10]).length = SMTP.commandSizeLimit + 1 ∧
    ((World.run (sampleEnv dataSizeDefault Handler.accepting) 3 "p"
      (asciiBytes "NOOP" ++ List.replicate 507 32 ++ [13, 10]) 1).1.map Exchange.replies) =
        [[.str "250 OK"]] := by
  set_option maxRecDepth 20000 in
  decide

end AioSmtpd
