import AioSmtpd.Commands

/-!
# The DATA command

`smtp_DATA` answers 354 and then reads lines until one is exactly `b'.\r\n'`, counting
every line toward `num_bytes` and keeping the lines while the count is within
`data_size_limit`. The read loop is `dataLoop`, one read per unit of fuel; it stops at the
end-of-data line or when `readline` raises. After it the command refuses an oversized
message with 552, or removes the dot-stuffing, joins the lines with LF and hands the
envelope to `process_message`.
-/

namespace AioSmtpd

/-- The end-of-data line `b'.\r\n'`. -/
def dotLine : Bytes := [46, 13, 10]

/-- The read loop's accumulators: `data`, `self.num_bytes` and `size_exceeded`. -/
structure DataAcc where
  data : List Bytes
  numBytes : Nat
  sizeExceeded : Bool
  deriving DecidableEq, Repr

/-- The accumulators before the first read. -/
def DataAcc.init : DataAcc := ⟨[], 0, false⟩

/-- The loop body for a line that is not the end-of-data line. -/
def DataAcc.add (limit : Nat) (acc : DataAcc) (line : Bytes) : DataAcc :=
  let numBytes := acc.numBytes + line.length
  let sizeExceeded := acc.sizeExceeded || (limit != 0 && decide (numBytes > limit))
  { data := if sizeExceeded then acc.data else acc.data ++ [rstripCRLF line]
    numBytes := numBytes
    sizeExceeded := sizeExceeded }

/-- `if text and text[:1] == b'.': data[i] = text[1:]`. -/
def unstuff : Bytes → Bytes
  | 46 :: rest => rest
  | line => line

/-- `b'\n'.join(data)`. -/
def joinLF (lines : List Bytes) : Bytes := [10].intercalate lines

section

variable (E : Env)

/-- `while not self.connection_closed: ...` with `fuel` reads left. -/
def dataLoop : Nat → DataAcc → Co DataAcc
  | 0, _ => fun _ => .hang
  | fuel + 1, acc => do
    let line ← readline
    if line = dotLine then pure acc
    else dataLoop fuel (acc.add E.cfg.dataSizeLimit line)

/-- `process_message(*args, **kwargs)`, recorded with its outcome. -/
def processMessage (c : Call) : Co (Option String) := fun w =>
  let r := E.handler.processMessage (w.calls.map Prod.fst) c
  let w' := { w with calls := w.calls ++ [(c, r)] }
  match r with
  | .ok status => .ret status w'
  | .error m => .exc (.raised m) w'

/-- The keyword arguments `mail_options` and `rcpt_options`, passed when `decode_data` is off;
reading an attribute that no command has set raises `AttributeError`. -/
def dataOptions (s : Session) : Co (Option (List String × List String)) :=
  if E.cfg.decodeData then pure none
  else match s.mailOptions, s.rcptOptions with
    | some m, some r => pure (some (m, r))
    | none, _ => Co.throw (.attributeError "mail_options")
    | some _, none => Co.throw (.attributeError "rcpt_options")

/-- `if status: push(status) else: push('250 OK')`. -/
def pushStatus : Option String → Co Unit
  | some s => if s.isEmpty then push E (.str "250 OK") else push E (.str s)
  | none => push E (.str "250 OK")

/-- What `smtp_DATA` does once the read loop has ended with `acc`. -/
def dataFinish (acc : DataAcc) : Co Unit := do
  if acc.sizeExceeded then
    push E (.str "552 Error: Too much mail data")
    Co.modifySess Session.setPostDataState
  else
    let received := joinLF (acc.data.map unstuff)
    let data : StrOrBytes := if E.cfg.decodeData then decodeArg E received else .bytes received
    let w ← Co.get
    let options ← dataOptions E w.sess
    let status ← processMessage E ⟨w.sess.peer, w.sess.mailfrom, w.sess.rcpttos, data, options⟩
    Co.modifySess Session.setPostDataState
    pushStatus E status

/-- `smtp_DATA(arg)`, its read loop given `fuel` reads. -/
def smtpDATA (fuel : Nat) (arg : Arg) : Co Unit := do
  let w ← Co.get
  if !w.sess.seenGreeting.truthy then push E (.str "503 Error: send HELO first")
  else if w.sess.rcpttos.isEmpty then push E (.str "503 Error: need RCPT command")
  else if argTruthy arg then push E (.str "501 Syntax: DATA")
  else do
    push E (.str "354 End data with <CR><LF>.<CR><LF>")
    let acc ← dataLoop E fuel DataAcc.init
    dataFinish E acc

end

end AioSmtpd
