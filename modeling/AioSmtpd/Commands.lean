import AioSmtpd.Session

/-!
# The SMTP commands

`smtp_HELO` to `smtp_EXPN` except `smtp_DATA`, with the helpers they call: `_decode_arg`,
`_strip_command_keyword`, `_getaddr` and `_getparams`. Each command is written branch for
branch as the source has it; the checks that `smtp_MAIL` makes on its ESMTP parameters are
the pure function `mailParamsCheck`.
-/

namespace AioSmtpd

/-- A command's argument: `None` when the line has no space, else the stripped bytes after it. -/
abbrev Arg := Option Bytes

/-- Python truthiness of an argument. -/
def argTruthy : Arg → Bool
  | none => false
  | some b => !b.isEmpty

/-- Python truthiness of `mailfrom`. -/
def optTruthy : Option String → Bool
  | none => false
  | some s => !s.isEmpty

/-- The bytes of an ASCII `bytes` literal. -/
def asciiBytes (s : String) : Bytes := s.toList.map fun c => c.toNat.toUInt8

/-- A value in the dictionary `_getparams` builds: a `str`, or `True` for a bare keyword. -/
inductive ParamValue where
  | str (s : String)
  | flag
  deriving DecidableEq, Repr

/-- A Python `dict` from parameter keywords, in insertion order. -/
abbrev Params := List (String × ParamValue)

/-- `d[k] = v`: a key already present keeps its place. -/
def Params.set (d : Params) (k : String) (v : ParamValue) : Params :=
  if d.any (·.1 == k) then d.map fun p => if p.1 = k then (k, v) else p else d ++ [(k, v)]

/-- `d.pop(k, default)`, with the default left to the caller. -/
def Params.pop (d : Params) (k : String) : Option ParamValue × Params :=
  (d.lookup k, d.filter (·.1 != k))

section

variable (E : Env)

/-- `_decode_arg(arg)`: UTF-8, then `default_8bit_encoding`, then the bytes as they are. -/
def decodeArg (b : Bytes) : StrOrBytes :=
  match utf8Decode b with
  | some s => .str s
  | none =>
    match E.cfg.default8bitEncoding.decode b with
    | .ok s => .str s
    | .error _ => .bytes b

/-- `_strip_command_keyword(keyword, arg)`. -/
def stripCommandKeyword (keyword arg : String) : String :=
  if E.lib.upper (String.mk (arg.toList.take keyword.length)) = keyword then
    strStrip (String.mk (arg.toList.drop keyword.length))
  else ""

/-- `_getaddr(arg)`: the address (`""` when there is none) and the rest of the argument. -/
def getaddr (arg : String) : Except Exc (String × String) :=
  if arg.isEmpty then .ok ("", "")
  else
    let parsed :=
      match (strLstrip arg).toList with
      | '<' :: _ => E.lib.getAngleAddr arg
      | _ => E.lib.getAddrSpec arg
    match parsed with
    | .ok r => .ok r
    | .error m => .error (.headerParse m)

/-- `_getparams(params)`. -/
def getparams (params : List String) : Option Params :=
  params.foldlM (fun result param =>
    match strPartition param with
    | (key, eq, value) =>
      if !E.lib.isAlnum key || (eq && value.isEmpty) then none
      else some (result.set key (if eq then .str value else .flag))) []

/-- The greeting `smtp_HELO` and `smtp_EHLO` record: `str(arg, encoding='ascii')`, or the
bytes themselves when they are not ASCII. -/
def greetingName (h : Bytes) : StrOrBytes :=
  match ascii.decode h with
  | .ok s => .str s
  | .error _ => .bytes h

/-- `smtp_HELO(hostname)`. -/
def smtpHELO (hostname : Arg) : Co Unit := do
  let w ← Co.get
  if !argTruthy hostname then push E (.str "501 Syntax: HELO hostname")
  else if w.sess.seenGreeting.truthy then push E (.str "503 Duplicate HELO/EHLO")
  else
    Co.modifySess fun s => { s.setRsetState with seenGreeting := greetingName (hostname.getD []) }
    push E (.str ("250 " ++ E.cfg.hostname))

/-- `smtp_EHLO(arg)`. `ehlo_hook` does nothing in `SMTP`. -/
def smtpEHLO (arg : Arg) : Co Unit := do
  let w ← Co.get
  if !argTruthy arg then push E (.str "501 Syntax: EHLO hostname")
  else if w.sess.seenGreeting.truthy then push E (.str "503 Duplicate HELO/EHLO")
  else
    Co.modifySess fun s =>
      { s.setRsetState with seenGreeting := greetingName (arg.getD []), extendedSmtp := true }
    push E (.str ("250-" ++ E.cfg.hostname))
    if E.cfg.dataSizeLimit ≠ 0 then
      push E (.str ("250-SIZE " ++ toString E.cfg.dataSizeLimit))
      Co.modify fun w => { w with cls := w.cls.grow "MAIL" 26 }
    if !E.cfg.decodeData then push E (.str "250-8BITMIME")
    if E.cfg.enableSMTPUTF8 then
      push E (.str "250-SMTPUTF8")
      Co.modify fun w => { w with cls := w.cls.grow "MAIL" 10 }
    push E (.str "250 HELP")

/-- `smtp_NOOP(arg)`. -/
def smtpNOOP (arg : Arg) : Co Unit :=
  if argTruthy arg then push E (.str "501 Syntax: NOOP") else push E (.str "250 OK")

/-- `smtp_QUIT(arg)`: it cancels the task and closes the transport, which the flag `cancelled`
records; `CancelledError` is raised at the task's next suspension, the `drain()` of its next
push. -/
def smtpQUIT (arg : Arg) : Co Unit :=
  if argTruthy arg then push E (.str "501 Syntax: QUIT")
  else do
    push E (.str "221 Bye")
    Co.modify fun w => { w with cancelled := true }

/-- The verbs that `smtp_HELP` describes, with their syntax. -/
def helpText (extended : Bool) : String → Option String
  | "EHLO" => some "250 Syntax: EHLO hostname"
  | "HELO" => some "250 Syntax: HELO hostname"
  | "MAIL" => some ("250 Syntax: MAIL FROM: <address>" ++ if extended then " [SP <mail-parameters>]" else "")
  | "RCPT" => some ("250 Syntax: RCPT TO: <address>" ++ if extended then " [SP <mail-parameters>]" else "")
  | "DATA" => some "250 Syntax: DATA"
  | "RSET" => some "250 Syntax: RSET"
  | "NOOP" => some "250 Syntax: NOOP"
  | "QUIT" => some "250 Syntax: QUIT"
  | "VRFY" => some "250 Syntax: VRFY <address>"
  | _ => none

/-- `lc_arg` of `smtp_HELP`: the argument decoded as ASCII and uppercased, or `''` when it is
not ASCII. -/
def helpArg (arg : Bytes) : String :=
  match ascii.decode arg with
  | .ok s => s.map Char.toUpper
  | .error _ => ""

/-- `smtp_HELP(arg)`. -/
def smtpHELP (arg : Arg) : Co Unit := do
  let w ← Co.get
  if argTruthy arg then
    match helpText w.sess.extendedSmtp (helpArg (arg.getD [])) with
    | some msg => push E (.str msg)
    | none => push E (.str "501 Supported commands: EHLO HELO MAIL RCPT DATA RSET NOOP QUIT VRFY")
  else push E (.str "250 Supported commands: EHLO HELO MAIL RCPT DATA RSET NOOP QUIT VRFY")

/-- `smtp_VRFY(arg)`. -/
def smtpVRFY (arg : Arg) : Co Unit :=
  if argTruthy arg then
    match decodeArg E (arg.getD []) with
    | .bytes raw => push E (.bytes (asciiBytes "502 Could not VRFY " ++ raw))
    | .str a =>
      let address := match getaddr E a with
        | .ok (address, _) => address
        | .error _ => ""
      if !address.isEmpty then
        push E (.str "252 Cannot VRFY user, but will accept message and attempt delivery")
      else push E (.str ("502 Could not VRFY " ++ a))
  else push E (.str "501 Syntax: VRFY <address>")

/-- The checks `smtp_MAIL` makes on the dictionary `_getparams` built: the reply that refuses
the parameters, or `none` when they pass. `int(size)` may raise `ValueError`. -/
def mailParamsCheck (syntaxerr : String) (d : Params) : Except Exc (Option String) :=
  let (body, d) := if E.cfg.decodeData then (none, d) else d.pop "BODY"
  if !E.cfg.decodeData && (body.getD (.str "7BIT") != .str "7BIT" && body.getD (.str "7BIT") != .str "8BITMIME") then
    .ok (some "501 Error: BODY can only be one of 7BIT, 8BITMIME")
  else
    let (smtputf8, d) := if E.cfg.enableSMTPUTF8 then d.pop "SMTPUTF8" else (none, d)
    if (match smtputf8 with | some (.str _) => true | _ => false) then
      .ok (some "501 Error: SMTPUTF8 takes no arguments")
    else
      let rest : Except Exc (Option String) :=
        if d.filter (·.1 != "SIZE") = [] then .ok none
        else .ok (some "555 MAIL FROM parameters not recognized or not implemented")
      match d.lookup "SIZE" with
      | some .flag => .ok (some syntaxerr)
      | some (.str size) =>
        if size.isEmpty then rest
        else if !E.lib.isDigit size then .ok (some syntaxerr)
        else if E.cfg.dataSizeLimit = 0 then rest
        else
          match E.lib.toInt size with
          | none => .error (.valueError ("invalid literal for int() with base 10: \x27" ++ size ++ "\x27"))
          | some n =>
            if n > E.cfg.dataSizeLimit then
              .ok (some "552 Error: message size exceeds fixed maximum message size")
            else rest
      | none => rest

/-- `smtp_MAIL(arg)`. -/
def smtpMAIL (arg : Arg) : Co Unit := do
  let w ← Co.get
  let syntaxerr := "501 Syntax: MAIL FROM: <address>" ++
    if w.sess.extendedSmtp then " [SP <mail-parameters>]" else ""
  if !w.sess.seenGreeting.truthy then push E (.str "503 Error: send HELO first")
  else match arg.map (decodeArg E) with
    | none | some (.bytes _) => push E (.str syntaxerr)
    | some (.str a) =>
      match getaddr E (stripCommandKeyword E "FROM:" a) with
      | .error e => Co.throw e
      | .ok (address, params) =>
        if address.isEmpty then push E (.str syntaxerr)
        else if !w.sess.extendedSmtp && !params.isEmpty then push E (.str syntaxerr)
        else if optTruthy w.sess.mailfrom then push E (.str "503 Error: nested MAIL command")
        else do
          let options := strSplit (E.lib.upper params)
          Co.modifySess fun s => { s with mailOptions := some options }
          match getparams E options with
          | none => push E (.str syntaxerr)
          | some d =>
            match mailParamsCheck E syntaxerr d with
            | .error e => Co.throw e
            | .ok (some reply) => push E (.str reply)
            | .ok none => do
              Co.modifySess fun s => { s with mailfrom := some address }
              push E (.str "250 OK")

/-- `smtp_RCPT(arg)`. -/
def smtpRCPT (arg : Arg) : Co Unit := do
  let w ← Co.get
  let syntaxerr := "501 Syntax: RCPT TO: <address>" ++
    if w.sess.extendedSmtp then " [SP <mail-parameters>]" else ""
  if !w.sess.seenGreeting.truthy then push E (.str "503 Error: send HELO first")
  else if !optTruthy w.sess.mailfrom then push E (.str "503 Error: need MAIL command")
  else match arg.map (decodeArg E) with
    | none | some (.bytes _) => push E (.str syntaxerr)
    | some (.str a) =>
      match getaddr E (stripCommandKeyword E "TO:" a) with
      | .error e => Co.throw e
      | .ok (address, params) =>
        if address.isEmpty then push E (.str syntaxerr)
        else if !w.sess.extendedSmtp && !params.isEmpty then push E (.str syntaxerr)
        else do
          let options := strSplit (E.lib.upper params)
          Co.modifySess fun s => { s with rcptOptions := some options }
          match getparams E options with
          | none => push E (.str syntaxerr)
          | some d =>
            if d ≠ [] then push E (.str "555 RCPT TO parameters not recognized or not implemented")
            else do
              Co.modifySess fun s => { s with rcpttos := s.rcpttos ++ [address] }
              push E (.str "250 OK")

/-- `smtp_RSET(arg)`. `rset_hook` does nothing in `SMTP`. -/
def smtpRSET (arg : Arg) : Co Unit :=
  if argTruthy arg then push E (.str "501 Syntax: RSET")
  else do
    Co.modifySess Session.setRsetState
    push E (.str "250 OK")

/-- `smtp_EXPN(arg)`. -/
def smtpEXPN (_arg : Arg) : Co Unit := push E (.str "502 EXPN not implemented")

end

end AioSmtpd
