import AioSmtpd.Data

/-!
# The session loop

`_handle_client` pushes the 220 banner and then reads a line, leaves the loop on a line that does not end in CRLF, and otherwise runs the `try`
body on it: strip the line, split off the verb, check the line against its size limit and
call `smtp_<VERB>`. Every exception of that body is answered `500 Error: <message>` and
handed to `handle_exception`; an exception raised anywhere else ends the task. `close()` in
the `finally` clause is a generator-based coroutine that is called and never awaited, so it
does nothing. After QUIT the next pass still reads a buffered line and runs its command up to
its first push, where the cancel lands; the `except` clause catches the `CancelledError` (an
`Exception` up to Python 3.7), and the push of its own reply raises again, on the lost
connection, and ends the task.

`World.step` is one pass of the loop, `Run` a session's runs with what each pass showed.
-/

namespace AioSmtpd

/-- The verb and argument of a stripped line: the bytes before the first space, and the
stripped bytes after it (`None` when there is no space). -/
def splitCommand (line : Bytes) : Bytes × Arg :=
  match line.dropWhile (· != 32) with
  | [] => (line, none)
  | _ :: rest => (line.takeWhile (· != 32), some (bytesStrip rest))

/-- `line.endswith(b'\r\n')`. -/
def endsWithCRLF (line : Bytes) : Bool := [13, 10].isSuffixOf line

section

variable (E : Env)

/-- `getattr(self, 'smtp_' + command, None)`, the DATA read loop given `fuel` reads. -/
def dispatch (fuel : Nat) : String → Option (Arg → Co Unit)
  | "HELO" => some (smtpHELO E)
  | "EHLO" => some (smtpEHLO E)
  | "NOOP" => some (smtpNOOP E)
  | "QUIT" => some (smtpQUIT E)
  | "HELP" => some (smtpHELP E)
  | "VRFY" => some (smtpVRFY E)
  | "MAIL" => some (smtpMAIL E)
  | "RCPT" => some (smtpRCPT E)
  | "RSET" => some (smtpRSET E)
  | "DATA" => some (smtpDATA E fuel)
  | "EXPN" => some (smtpEXPN E)
  | _ => none

/-- The size limit for `command`: `command_size_limits[command]` after EHLO, else
`command_size_limit`. -/
def maxSize (w : World) (command : String) : Nat :=
  if w.sess.extendedSmtp then w.cls.commandSizeLimits command else E.K.commandSizeLimit

/-- The `try` body of `_handle_client` for a line read. -/
def handleLine (fuel : Nat) (raw : Bytes) : Co Unit := do
  let line := rstripCRLF raw
  if line.isEmpty then push E (.str "500 Error: bad syntax")
  else
    match ascii.decode (bytesUpper (splitCommand line).1) with
    | .error e => Co.throw e
    | .ok command => do
      let w ← Co.get
      if line.length > maxSize E w command then push E (.str "500 Error: line too long")
      else match dispatch E fuel command with
        | none => push E (.str ("500 Error: command \"" ++ command ++ "\" not recognized"))
        | some method => method (splitCommand line).2

/-- The `except Exception` clause of the loop. -/
def catchAll (e : Exc) : Co Unit := do
  push E (.str ("500 Error: " ++ e.message))
  handleException E e

/-- One pass of `while not self.connection_closed:`, returning whether the loop goes on. -/
def clientStep (fuel : Nat) : Co Bool := do
  let line ← readline
  if !endsWithCRLF line then do
    if !line.isEmpty then handleException E (.incompleteRead line)
    pure false
  else do
    Co.tryCatch (handleLine E fuel line) (catchAll E)
    pure true

/-- The world of a new session: `__init__` cleared the class's table, `connection_made`
started `_handle_client`, and the 220 banner was pushed; when the banner does not encode,
the task has ended. -/
def World.start (peer : String) (stream : Bytes) : World :=
  let w0 : World := ⟨ClassState.clear E.K, Session.init peer, stream, [], [], false, false⟩
  match push E (.str ("220 " ++ E.cfg.hostname ++ " " ++ ident)) w0 with
  | .ret () w => w
  | _ => { w0 with finished := true }

/-- One pass of the loop from `w`, the DATA read loop given `fuel` reads; the task has
finished when the loop ended or an exception left it. -/
def World.step (fuel : Nat) (w : World) : Option World :=
  match clientStep E fuel w with
  | .ret true w' => some w'
  | .ret false w' => some { w' with finished := true }
  | .exc _ w' => some { w' with finished := true }
  | .hang => none

end

/-- The line a pass of the loop reads from `w`. -/
def lineRead (w : World) : Bytes :=
  match streamReadline w.buffer with
  | (.ok line, _) => line
  | (.error _, _) => []

/-- What a pass of the loop from `w` to `w'` showed: the line it read, the replies it pushed
and the `process_message` calls it made. -/
structure Exchange where
  line : Bytes
  replies : List StrOrBytes
  calls : List (Call × Except String (Option String))

def Exchange.of (w w' : World) : Exchange :=
  ⟨lineRead w, w'.replies.drop w.replies.length, w'.calls.drop w.calls.length⟩

/-- The runs of a session: the exchanges so far and the world they lead to. -/
inductive Run (E : Env) : List Exchange → World → Prop
  | start (peer : String) (stream : Bytes) : Run E [] (World.start E peer stream)
  | step {xs : List Exchange} {w w' : World} (fuel : Nat) :
      Run E xs w → w.finished = false → World.step E fuel w = some w' →
      Run E (xs ++ [Exchange.of w w']) w'

end AioSmtpd
