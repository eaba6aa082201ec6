import AioSmtpd.StreamReader

/-!
# Session state

The attributes of an `SMTP` instance that the commands read and write, the class attribute
`command_size_limits` that every instance of the class shares, the handler, and the
coroutine monad `Co` in which `smtp.py`'s coroutines run: a step from a world gives the
value and the world after it, or the exception raised and the world at that point (Python
keeps every assignment made before a raise), or `hang` when the step did not return within
its fuel.
-/

namespace AioSmtpd

/-- `__version__` and `__ident__` of `smtp.py`. -/
def version : String := "1.0a3+"

def ident : String := "Python SMTP " ++ version

/-- `DATA_SIZE_DEFAULT`. -/
def dataSizeDefault : Nat := 33554432

/-- The class attributes a session reads: `command_size_limit`, and the value that
`command_size_limits` gives a verb without an entry. That value is the lambda's default
argument, bound to `command_size_limit` when the class body ran. -/
structure SmtpClass where
  commandSizeLimit : Nat
  commandSizeLimitsDefault : Nat

/-- The class `SMTP` itself. -/
def SMTP : SmtpClass := ⟨512, 512⟩

/-- `SMTP.command_size_limits`: a class attribute, so one table that every session of the
class reads and writes. -/
structure ClassState where
  commandSizeLimits : String → Nat

/-- `command_size_limits.clear()`: every verb falls back to the table's default. -/
def ClassState.clear (K : SmtpClass) : ClassState := ⟨fun _ => K.commandSizeLimitsDefault⟩

/-- `command_size_limits[verb] += n`. -/
def ClassState.grow (c : ClassState) (verb : String) (n : Nat) : ClassState :=
  ⟨fun v => if v = verb then c.commandSizeLimits v + n else c.commandSizeLimits v⟩

/-- The arguments of `SMTP.__init__`, with `hostname` already resolved (`socket.getfqdn()`
when none is given). `__init__` raises `ValueError` for `decode_data` with
`enable_SMTPUTF8`. -/
structure Config where
  dataSizeLimit : Nat
  enableSMTPUTF8 : Bool
  default8bitEncoding : Codec
  decodeData : Bool
  hostname : String
  not_decode_and_utf8 : ¬(enableSMTPUTF8 = true ∧ decodeData = true)

/-- `SMTP(handler, hostname=hostname)`. -/
def Config.default (hostname : String) : Config :=
  ⟨dataSizeDefault, false, latin1, false, hostname, by simp⟩

/-- The instance attributes the commands read and write. `connection_closed`, which both read
loops test, is left out: `connection_made` sets it to `False` and nothing assigns it again
(`close()` assigns `_connection_closed`), so the loops run until they break or raise. -/
structure Session where
  peer : String
  seenGreeting : StrOrBytes
  extendedSmtp : Bool
  mailfrom : Option String
  rcpttos : List String
  requireSMTPUTF8 : Bool
  mailOptions : Option (List String)
  rcptOptions : Option (List String)

/-- The instance after `__init__` and `connection_made`. -/
def Session.init (peer : String) : Session :=
  ⟨peer, .str "", false, none, [], false, none, none⟩

/-- `_set_post_data_state`. -/
def Session.setPostDataState (s : Session) : Session :=
  { s with mailfrom := none, rcpttos := [], requireSMTPUTF8 := false }

/-- `_set_rset_state`; `received_data` and `received_lines`, which no command reads, are left
out. -/
def Session.setRsetState (s : Session) : Session := s.setPostDataState

/-- The arguments of one `process_message` call. `options` holds the keyword arguments
`mail_options` and `rcpt_options`, passed when `decode_data` is off. -/
structure Call where
  peer : String
  mailfrom : Option String
  rcpttos : List String
  data : StrOrBytes
  options : Option (List String × List String)
  deriving DecidableEq, Repr

/-- The handler. `process_message` sees every earlier call and returns a status (`None` or a
`str`) or raises an exception with a message; `handle_exception`, when the handler has one,
returns or raises. -/
structure Handler where
  processMessage : List Call → Call → Except String (Option String)
  handleException : Option (Exc → Except String Unit)

/-- What stays fixed while a session runs. -/
structure Env where
  K : SmtpClass
  cfg : Config
  lib : Stdlib
  handler : Handler

/-- Everything a session step reads and writes: the shared table, the instance, the bytes
the reader has not returned yet, the replies pushed so far, the `process_message` calls so
far with their outcomes, whether `smtp_QUIT` has cancelled the task and closed the transport,
and whether `_handle_client` has returned. -/
structure World where
  cls : ClassState
  sess : Session
  buffer : Bytes
  replies : List StrOrBytes
  calls : List (Call × Except String (Option String))
  cancelled : Bool
  finished : Bool

/-- How a coroutine step ends. -/
inductive Outcome (α : Type) where
  | ret (a : α) (w : World)
  | exc (e : Exc) (w : World)
  | hang

/-- A coroutine of the session. -/
def Co (α : Type) : Type := World → Outcome α

namespace Co

protected def pure {α : Type} (a : α) : Co α := fun w => .ret a w

protected def bind {α β : Type} (x : Co α) (f : α → Co β) : Co β := fun w =>
  match x w with
  | .ret a w' => f a w'
  | .exc e w' => .exc e w'
  | .hang => .hang

instance : Monad Co where
  pure := Co.pure
  bind := Co.bind

/-- `raise e`. -/
def throw {α : Type} (e : Exc) : Co α := fun w => .exc e w

/-- `try: x except Exception as e: h e`. -/
def tryCatch {α : Type} (x : Co α) (h : Exc → Co α) : Co α := fun w =>
  match x w with
  | .exc e w' => h e w'
  | o => o

def get : Co World := fun w => .ret w w

def modify (f : World → World) : Co Unit := fun w => .ret () (f w)

def modifySess (f : Session → Session) : Co Unit := modify fun w => { w with sess := f w.sess }

@[simp] theorem pure_apply {α : Type} (a : α) (w : World) : (pure a : Co α) w = .ret a w := rfl

@[simp] theorem bind_apply {α β : Type} (x : Co α) (f : α → Co β) (w : World) :
    (x >>= f) w = match x w with
      | .ret a w' => f a w'
      | .exc e w' => .exc e w'
      | .hang => .hang := rfl

@[simp] theorem throw_apply {α : Type} (e : Exc) (w : World) : (throw e : Co α) w = .exc e w := rfl

@[simp] theorem get_apply (w : World) : get w = .ret w w := rfl

@[simp] theorem modify_apply (f : World → World) (w : World) : modify f w = .ret () (f w) := rfl

@[simp] theorem ite_apply {α : Type} (c : Prop) [Decidable c] (x y : Co α) (w : World) :
    (if c then x else y) w = if c then x w else y w := by
  split <;> rfl

@[simp] theorem modifySess_apply (f : Session → Session) (w : World) :
    modifySess f w = .ret () { w with sess := f w.sess } := rfl

end Co

section

variable (E : Env)

/-- The bytes `push(msg)` writes: a `str` reply with CRLF, encoded in UTF-8 when
`require_SMTPUTF8` is set and in `default_8bit_encoding` otherwise; a `bytes` reply as it is. -/
def encodeReply (s : Session) : StrOrBytes → Except Exc Bytes
  | .bytes b => .ok b
  | .str t =>
    if s.requireSMTPUTF8 then .ok (utf8Encode (t ++ "\r\n"))
    else E.cfg.default8bitEncoding.encode (t ++ "\r\n")

/-- `push(msg)`: write the encoded reply, or raise the encoding's error. The `drain()` after the
write yields to the event loop only once `smtp_QUIT` has closed the transport, and the cancel
QUIT asked for lands there: the reply is written and `CancelledError` raised. -/
def push (m : StrOrBytes) : Co Unit := fun w =>
  match encodeReply E w.sess m with
  | .ok _ =>
    if w.cancelled then .exc .cancelled { w with replies := w.replies ++ [m] }
    else .ret () { w with replies := w.replies ++ [m] }
  | .error e => .exc e w

/-- `SMTP.handle_exception(e)`: hand the exception to the handler's `handle_exception`, if
it has one. -/
def handleException (e : Exc) : Co Unit := fun w =>
  match E.handler.handleException with
  | none => .ret () w
  | some h =>
    match h e with
    | .ok () => .ret () w
    | .error m => .exc (.raised m) w

end

/-- `self._reader.readline()`. -/
def readline : Co Bytes := fun w =>
  match streamReadline w.buffer with
  | (.ok line, rest) => .ret line { w with buffer := rest }
  | (.error e, rest) => .exc e { w with buffer := rest }

end AioSmtpd
