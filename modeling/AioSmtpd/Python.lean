import Mathlib.Data.List.Basic

/-!
# Python values of a session

`smtp.py` reads `bytes` from the client, decodes some of them to `str`, writes `str` and
`bytes` replies, and catches the exceptions that codecs, the address parser and the handler
raise. This file gives each of them a Lean counterpart: `bytes` is a list of octets, `str`
is `String`, and each `bytes`, `str` and codec operation that the session calls is written
as CPython computes it. The Unicode database and `email._header_value_parser` are not part
of this repository; `Stdlib` takes them as parameters.
-/

namespace AioSmtpd

/-- A Python `bytes` value. -/
abbrev Bytes := List UInt8

/-- A value that is a `str` or a `bytes`: what `_decode_arg` returns, what `seen_greeting`
holds, and what `push` accepts. -/
inductive StrOrBytes where
  | str (s : String)
  | bytes (b : Bytes)
  deriving DecidableEq, Repr

/-- Python truthiness of a `str` or `bytes`. -/
def StrOrBytes.truthy : StrOrBytes → Bool
  | .str s => !s.isEmpty
  | .bytes b => !b.isEmpty

/-- `'%0wx' % n`. -/
def hexPad (w n : Nat) : String :=
  let ds := Nat.toDigits 16 n
  String.mk (List.replicate (w - ds.length) '0' ++ ds)

/-- How a `UnicodeEncodeError` message shows one character. -/
def charEscape (c : Char) : String :=
  if c.toNat ≤ 0xff then "\\x" ++ hexPad 2 c.toNat
  else if c.toNat ≤ 0xffff then "\\u" ++ hexPad 4 c.toNat
  else "\\U" ++ hexPad 8 c.toNat

/-- The exceptions a session raises or catches. -/
inductive Exc where
  /-- `asyncio.IncompleteReadError(line, None)`, raised by `_handle_client` itself. -/
  | incompleteRead (line : Bytes)
  /-- The `ValueError` of `StreamReader.readline` for a line past the reader's limit. -/
  | valueError (msg : String)
  | unicodeDecode (codec : String) (byte : UInt8) (pos : Nat) (reason : String)
  /-- A codec could not encode the run of characters `chars` starting at `start`. -/
  | unicodeEncode (codec : String) (chars : List Char) (start : Nat) (reason : String)
  | headerParse (msg : String)
  | attributeError (name : String)
  /-- `CancelledError`, where the cancel of `smtp_QUIT` lands: the task's next suspension. -/
  | cancelled
  /-- An exception raised by the handler, with its `str`. -/
  | raised (msg : String)
  deriving DecidableEq, Repr

/-- `str(e)`. -/
def Exc.message : Exc → String
  | .incompleteRead line => toString line.length ++ " bytes read on a total of None expected bytes"
  | .valueError m => m
  | .unicodeDecode codec b pos reason =>
    "\x27" ++ codec ++ "\x27 codec can\x27t decode byte 0x" ++ hexPad 2 b.toNat ++
      " in position " ++ toString pos ++ ": " ++ reason
  | .unicodeEncode codec [c] pos reason =>
    "\x27" ++ codec ++ "\x27 codec can\x27t encode character \x27" ++ charEscape c ++
      "\x27 in position " ++ toString pos ++ ": " ++ reason
  | .unicodeEncode codec cs pos reason =>
    "\x27" ++ codec ++ "\x27 codec can\x27t encode characters in position " ++ toString pos ++
      "-" ++ toString (pos + cs.length - 1) ++ ": " ++ reason
  | .headerParse m => m
  | .attributeError name => "\x27SMTP\x27 object has no attribute \x27" ++ name ++ "\x27"
  | .cancelled => ""
  | .raised m => m

/-! ## Codecs -/

/-- A single-byte codec, as `default_8bit_encoding` names one: what each byte decodes to, what
each character encodes to, and the `reason` its errors give. Every single-byte codec that
Python ships encodes every ASCII character (cp864 has no `%`). -/
structure Codec where
  name : String
  decodeByte : UInt8 → Option Char
  encodeChar : Char → Option UInt8
  reason : String
  encodes_ascii : ∀ c : Char, c.toNat < 128 → c ≠ '%' → (encodeChar c).isSome

/-- `bytes(s, encoding)` on the characters from position `i` on; an error names the run of
characters that do not encode. -/
def Codec.encodeFrom (k : Codec) (i : Nat) : List Char → Except Exc Bytes
  | [] => .ok []
  | c :: cs =>
    match k.encodeChar c with
    | some b => (k.encodeFrom (i + 1) cs).map (b :: ·)
    | none => .error (.unicodeEncode k.name ((c :: cs).takeWhile fun d => (k.encodeChar d).isNone) i k.reason)

/-- `bytes(s, encoding)`. -/
def Codec.encode (k : Codec) (s : String) : Except Exc Bytes := k.encodeFrom 0 s.toList

/-- `str(b, encoding)` on the bytes from position `i` on. -/
def Codec.decodeFrom (k : Codec) (i : Nat) : Bytes → Except Exc (List Char)
  | [] => .ok []
  | b :: bs =>
    match k.decodeByte b with
    | some c => (k.decodeFrom (i + 1) bs).map (c :: ·)
    | none => .error (.unicodeDecode k.name b i k.reason)

/-- `str(b, encoding)`. -/
def Codec.decode (k : Codec) (b : Bytes) : Except Exc String := (k.decodeFrom 0 b).map String.mk

/-- The `latin1` codec, `default_8bit_encoding`'s default. -/
def latin1 : Codec where
  name := "latin-1"
  decodeByte b := some (Char.ofNat b.toNat)
  encodeChar c := if c.toNat < 256 then some c.toNat.toUInt8 else none
  reason := "ordinal not in range(256)"
  encodes_ascii c h _ := by simp only [Option.isSome_ite]; omega

/-- The `ascii` codec. -/
def ascii : Codec where
  name := "ascii"
  decodeByte b := if b < 128 then some (Char.ofNat b.toNat) else none
  encodeChar c := if c.toNat < 128 then some c.toNat.toUInt8 else none
  reason := "ordinal not in range(128)"
  encodes_ascii c h _ := by simp only [Option.isSome_ite]; exact h

/-- State of the strict UTF-8 decoder between two bytes: the characters decoded so far
(last first), the code point being read, how many continuation bytes it still needs, and
the range its next byte must lie in. -/
structure Utf8State where
  out : List Char := []
  cp : Nat := 0
  need : Nat := 0
  lo : UInt8 := 0x80
  hi : UInt8 := 0xbf

/-- One byte of CPython's strict UTF-8 decoder: no overlong forms, no surrogates, nothing
past U+10FFFF. -/
def utf8Step (s : Utf8State) (b : UInt8) : Option Utf8State :=
  if s.need = 0 then
    if b < 0x80 then some { s with out := Char.ofNat b.toNat :: s.out }
    else if 0xc2 ≤ b ∧ b ≤ 0xdf then some { s with cp := b.toNat % 32, need := 1 }
    else if b = 0xe0 then some { s with cp := 0, need := 2, lo := 0xa0 }
    else if b = 0xed then some { s with cp := 13, need := 2, hi := 0x9f }
    else if 0xe1 ≤ b ∧ b ≤ 0xef then some { s with cp := b.toNat % 16, need := 2 }
    else if b = 0xf0 then some { s with cp := 0, need := 3, lo := 0x90 }
    else if b = 0xf4 then some { s with cp := 4, need := 3, hi := 0x8f }
    else if 0xf1 ≤ b ∧ b ≤ 0xf3 then some { s with cp := b.toNat % 8, need := 3 }
    else none
  else if s.lo ≤ b ∧ b ≤ s.hi then
    let cp := s.cp * 64 + b.toNat % 64
    if s.need = 1 then some { out := Char.ofNat cp :: s.out }
    else some { s with cp := cp, need := s.need - 1, lo := 0x80, hi := 0xbf }
  else none

/-- `str(b, encoding='utf-8')`, or `none` where it raises `UnicodeDecodeError`. -/
def utf8Decode (b : Bytes) : Option String :=
  match b.foldlM utf8Step {} with
  | some s => if s.need = 0 then some (String.mk s.out.reverse) else none
  | none => none

/-- `bytes(s, encoding='utf-8')`. -/
def utf8Encode (s : String) : Bytes := s.toUTF8.toList

/-! ## `bytes` methods -/

/-- The bytes that `rstrip(b'\r\n')` removes. -/
def isCRLF (b : UInt8) : Bool := b == 13 || b == 10

/-- `line.rstrip(b'\r\n')`. -/
def rstripCRLF (b : Bytes) : Bytes := (b.reverse.dropWhile isCRLF).reverse

/-- The ASCII whitespace that `bytes.strip()` removes. -/
def isAsciiSpace (b : UInt8) : Bool := b == 32 || (9 ≤ b && b ≤ 13)

/-- `bytes.strip()`. -/
def bytesStrip (b : Bytes) : Bytes :=
  ((b.dropWhile isAsciiSpace).reverse.dropWhile isAsciiSpace).reverse

/-- `bytes.upper()`, which changes ASCII letters only. -/
def bytesUpper (b : Bytes) : Bytes := b.map fun c => if 97 ≤ c ∧ c ≤ 122 then c - 32 else c

/-! ## `str` methods -/

/-- The characters that `str.isspace()` accepts, and so `str.strip()` and `str.split()` use. -/
def isSpaceChar (c : Char) : Bool :=
  (9 ≤ c.toNat && c.toNat ≤ 13) || (0x1c ≤ c.toNat && c.toNat ≤ 0x20) || c.toNat == 0x85 ||
    c.toNat == 0xa0 || c.toNat == 0x1680 || (0x2000 ≤ c.toNat && c.toNat ≤ 0x200a) ||
    c.toNat == 0x2028 || c.toNat == 0x2029 || c.toNat == 0x202f || c.toNat == 0x205f ||
    c.toNat == 0x3000

/-- `str.lstrip()`. -/
def strLstrip (s : String) : String := String.mk (s.toList.dropWhile isSpaceChar)

/-- `str.strip()`. -/
def strStrip (s : String) : String :=
  String.mk ((s.toList.dropWhile isSpaceChar).reverse.dropWhile isSpaceChar).reverse

/-- The words of `str.split()`, reading `cs` with the current word `w` kept last first. -/
def splitWords : List Char → List Char → List String
  | [], [] => []
  | [], w => [String.mk w.reverse]
  | c :: cs, w =>
    if isSpaceChar c then
      if w = [] then splitWords cs [] else String.mk w.reverse :: splitWords cs []
    else splitWords cs (c :: w)

/-- `str.split()`. -/
def strSplit (s : String) : List String := splitWords s.toList []

/-- `s.partition('=')`: the text before the first `=`, whether there was one, and the rest. -/
def strPartition (s : String) : String × Bool × String :=
  match s.toList.span (· != '=') with
  | (head, []) => (String.mk head, false, "")
  | (head, _ :: tail) => (String.mk head, true, String.mk tail)

/-- The parts of Python's standard library that `smtp.py` calls and this repository does not
contain: the Unicode database behind `str.upper`, `str.isalnum`, `str.isdigit` and `int`,
and `get_angle_addr` and `get_addr_spec` of `email._header_value_parser`. A parser returns
the `addr_spec` of the address it read (`""` for an empty token) and the rest of its input,
or the message of its `HeaderParseError`. On ASCII the database is the ASCII one. -/
structure Stdlib where
  upperChar : Char → String
  isAlnumChar : Char → Bool
  isDigitChar : Char → Bool
  decimal : Char → Option Nat
  getAngleAddr : String → Except String (String × String)
  getAddrSpec : String → Except String (String × String)
  upper_ascii : ∀ c : Char, c.toNat < 128 → upperChar c = c.toUpper.toString
  isAlnum_ascii : ∀ c : Char, c.toNat < 128 → isAlnumChar c = c.isAlphanum
  isDigit_ascii : ∀ c : Char, c.toNat < 128 → isDigitChar c = c.isDigit
  decimal_ascii : ∀ c : Char, c.toNat < 128 → decimal c = if c.isDigit then some (c.toNat - 48) else none

namespace Stdlib

variable (lib : Stdlib)

/-- `str.upper()`. -/
def upper (s : String) : String := String.join (s.toList.map lib.upperChar)

/-- `str.isalnum()`. -/
def isAlnum (s : String) : Bool := !s.isEmpty && s.toList.all lib.isAlnumChar

/-- `str.isdigit()`. -/
def isDigit (s : String) : Bool := !s.isEmpty && s.toList.all lib.isDigitChar

/-- `int(s)` on a string of digits, or `none` where it raises `ValueError`. -/
def toInt (s : String) : Option Nat :=
  s.toList.foldlM (fun n c => (lib.decimal c).map (n * 10 + ·)) 0

/-- A parser that reads `<addr-spec>` and a bare `addr-spec` up to the next space, as
`email._header_value_parser` does on plain addresses; `<>` reads as the null path. -/
def plainAngleAddr (s : String) : Except String (String × String) :=
  match s.toList.dropWhile isSpaceChar with
  | '<' :: rest =>
    match rest.span (· != '>') with
    | ([], _ :: after) => .ok ("<>", String.mk after)
    | (inside, _ :: after) => .ok (String.mk inside, String.mk after)
    | (_, []) => .error ("expected \x27>\x27 but found \x27" ++ String.mk rest ++ "\x27")
  | cs => .error ("expected angle-addr but found \x27" ++ String.mk cs ++ "\x27")

def plainAddrSpec (s : String) : Except String (String × String) :=
  match (s.toList.dropWhile isSpaceChar).span (fun c => !isSpaceChar c) with
  | ([], rest) => .error ("expected local-part but found \x27" ++ String.mk rest ++ "\x27")
  | (word, rest) => .ok (String.mk word, String.mk rest)

/-- The ASCII part of the Unicode database, with the plain address parsers: enough to run a
session on ASCII input. -/
def plain : Stdlib where
  upperChar c := c.toUpper.toString
  isAlnumChar c := c.isAlphanum
  isDigitChar c := c.isDigit
  decimal c := if c.isDigit then some (c.toNat - 48) else none
  getAngleAddr := plainAngleAddr
  getAddrSpec := plainAddrSpec
  upper_ascii _ _ := rfl
  isAlnum_ascii _ _ := rfl
  isDigit_ascii _ _ := rfl
  decimal_ascii _ _ := rfl

end Stdlib

end AioSmtpd
