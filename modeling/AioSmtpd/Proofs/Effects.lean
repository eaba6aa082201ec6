import AioSmtpd.Client

/-!
# What a step writes and reads

The replies `smtp.py` writes on its own are ASCII text without `%`, which every codec
encodes, so pushing one only appends it; any other push either appends its reply or raises
and leaves the world as it was. `readline` hands out the buffer a line at a time and
returns `b''` once it is empty.
-/

namespace AioSmtpd

/-- Text that every codec encodes: ASCII characters other than `%`. -/
def plainText (s : String) : Bool := s.toList.all fun c => c.toNat < 128 && c != '%'

lemma Codec.encodeFrom_ok (k : Codec) : ∀ (i : Nat) (cs : List Char),
    (∀ c ∈ cs, (k.encodeChar c).isSome) → ∃ b, k.encodeFrom i cs = .ok b
  | _, [], _ => ⟨[], rfl⟩
  | i, c :: cs, h => by
    obtain ⟨b, hb⟩ := Option.isSome_iff_exists.mp (h c (List.mem_cons_self _ _))
    obtain ⟨bs, hbs⟩ := k.encodeFrom_ok (i + 1) cs fun d hd => h d (List.mem_cons_of_mem _ hd)
    exact ⟨b :: bs, by simp only [Codec.encodeFrom, hb, hbs]; rfl⟩

lemma Codec.encodes_of_encodeFrom (k : Codec) : ∀ {i : Nat} {cs : List Char} {b : Bytes},
    k.encodeFrom i cs = .ok b → ∀ c ∈ cs, (k.encodeChar c).isSome
  | _, [], _, _ => by simp
  | i, c :: cs, b, h => by
    unfold Codec.encodeFrom at h
    split at h
    · rename_i hc
      cases hr : k.encodeFrom (i + 1) cs with
      | error e => rw [hr] at h; cases h
      | ok bs =>
        intro d hd
        rcases List.mem_cons.mp hd with rfl | hd
        · simp [hc]
        · exact k.encodes_of_encodeFrom hr d hd
    · cases h

@[simp] theorem plainText_append (s t : String) :
    plainText (s ++ t) = (plainText s && plainText t) := by
  simp [plainText, String.toList, List.all_append]

lemma plain_digitChar : ∀ d < 10, (Nat.digitChar d).toNat < 128 ∧ Nat.digitChar d ≠ '%' := by
  decide

lemma plain_toDigitsCore : ∀ (fuel n : Nat) (ds : List Char),
    (∀ c ∈ ds, c.toNat < 128 ∧ c ≠ '%') →
    ∀ c ∈ Nat.toDigitsCore 10 fuel n ds, c.toNat < 128 ∧ c ≠ '%'
  | 0, _, _, h => h
  | fuel + 1, n, ds, h => by
    have hd : ∀ c ∈ Nat.digitChar (n % 10) :: ds, c.toNat < 128 ∧ c ≠ '%' :=
      List.forall_mem_cons.mpr ⟨plain_digitChar _ (Nat.mod_lt _ (by decide)), h⟩
    show ∀ c ∈ (if n / 10 = 0 then Nat.digitChar (n % 10) :: ds
      else Nat.toDigitsCore 10 fuel (n / 10) (Nat.digitChar (n % 10) :: ds)), _
    split
    · exact hd
    · exact plain_toDigitsCore fuel _ _ hd

/-- Decimal numerals are plain text. -/
lemma plainText_toString (n : Nat) : plainText (toString n) = true := by
  have h := plain_toDigitsCore (n + 1) n [] (by simp)
  simp only [plainText, List.all_eq_true, Bool.and_eq_true, decide_eq_true_eq, bne_iff_ne]
  exact h

/-- The characters of `s` all encode under `k`. -/
def Codec.encodesText (k : Codec) (s : String) : Bool := s.toList.all fun c => (k.encodeChar c).isSome

@[simp] theorem Codec.encodesText_append (k : Codec) (s t : String) :
    k.encodesText (s ++ t) = (k.encodesText s && k.encodesText t) := by
  simp [Codec.encodesText, String.toList, List.all_append]

lemma Codec.encodesText_of_encode (k : Codec) {s : String} {b : Bytes} (h : k.encode s = .ok b) :
    k.encodesText s = true := by
  simpa only [Codec.encodesText, List.all_eq_true] using k.encodes_of_encodeFrom h

lemma Codec.encodesText_of_plain (k : Codec) {s : String} (hs : plainText s = true) :
    k.encodesText s = true := by
  simp only [plainText, List.all_eq_true, Bool.and_eq_true, decide_eq_true_eq, bne_iff_ne] at hs
  simp only [Codec.encodesText, List.all_eq_true]
  exact fun c hc => k.encodes_ascii c (hs c hc).1 (hs c hc).2

/-- The world a coroutine ended in, by a return or a raise; `none` when it ran out of fuel. -/
def Outcome.world? {α : Type} : Outcome α → Option World
  | .ret _ w => some w
  | .exc _ w => some w
  | .hang => none

@[simp] theorem Outcome.world?_ret {α : Type} (a : α) (w : World) : (Outcome.ret a w).world? = some w := rfl

@[simp] theorem Outcome.world?_exc {α : Type} (e : Exc) (w : World) :
    (Outcome.exc e w : Outcome α).world? = some w := rfl

@[simp] theorem Outcome.world?_hang {α : Type} : (Outcome.hang : Outcome α).world? = none := rfl

/-- A bound coroutine that returned ran both halves to their return. -/
lemma Co.bind_eq_ret {α β : Type} {x : Co α} {f : α → Co β} {w w' : World} {b : β}
    (h : (x >>= f) w = .ret b w') : ∃ a w₁, x w = .ret a w₁ ∧ f a w₁ = .ret b w' := by
  simp only [Co.bind_apply] at h
  split at h
  · exact ⟨_, _, ‹_›, h⟩
  all_goals cases h

/-- A bound coroutine ended either in a raise of its first half or in an end of its second. -/
lemma Co.bind_world {α β : Type} {x : Co α} {f : α → Co β} {w w₁ : World}
    (h : ((x >>= f) w).world? = some w₁) :
    (∃ e, x w = .exc e w₁) ∨ ∃ a w₂, x w = .ret a w₂ ∧ (f a w₂).world? = some w₁ := by
  simp only [Co.bind_apply] at h
  split at h
  · exact .inr ⟨_, _, ‹_›, h⟩
  · cases h; exact .inl ⟨_, ‹_›⟩
  · cases h

section

variable (E : Env)

/-- How a coroutine whose last step is a written reply ends: it returns, or, once QUIT has
cancelled the task, raises the cancel in the `drain()` after that write. -/
def Outcome.written (cancelled : Bool) (w : World) : Outcome Unit :=
  if cancelled then .exc .cancelled w else .ret () w

@[simp] theorem Outcome.written_false (w : World) : Outcome.written false w = .ret () w := rfl

@[simp] theorem Outcome.written_true (w : World) : Outcome.written true w = .exc .cancelled w := rfl

lemma Outcome.written_of_false {c : Bool} (hc : c = false) (w : World) :
    Outcome.written c w = .ret () w := by
  rw [hc]; rfl

lemma Outcome.written_of_true {c : Bool} (hc : c = true) (w : World) :
    Outcome.written c w = .exc .cancelled w := by
  rw [hc]; rfl

@[simp] theorem Outcome.world?_written (c : Bool) (w : World) : (Outcome.written c w).world? = some w := by
  cases c <;> rfl

/-- A push that could encode its reply writes it. -/
lemma push_written {m : StrOrBytes} {w : World} {b : Bytes} (hb : encodeReply E w.sess m = .ok b) :
    push E m w = .written w.cancelled { w with replies := w.replies ++ [m] } := by
  simp only [push, hb, Outcome.written]

@[simp] theorem push_bytes (b : Bytes) (w : World) :
    push E (.bytes b) w = .written w.cancelled { w with replies := w.replies ++ [.bytes b] } :=
  push_written E (rfl : encodeReply E w.sess (.bytes b) = .ok b)

/-- A reply whose characters the codec encodes is written: `require_SMTPUTF8` selects UTF-8,
which encodes everything, and otherwise the codec is used. -/
lemma push_encodes {s : String} (hs : E.cfg.default8bitEncoding.encodesText s = true) (w : World) :
    push E (.str s) w = .written w.cancelled { w with replies := w.replies ++ [.str s] } := by
  have hcrlf := E.cfg.default8bitEncoding.encodesText_of_plain (s := "\r\n") (by decide)
  have hall : E.cfg.default8bitEncoding.encodesText (s ++ "\r\n") = true := by simp [hs, hcrlf]
  obtain ⟨b, hb⟩ := E.cfg.default8bitEncoding.encodeFrom_ok 0 _
    (by simpa only [Codec.encodesText, List.all_eq_true] using hall)
  have he : ∃ b, encodeReply E w.sess (.str s) = .ok b := by
    unfold encodeReply
    by_cases hu : w.sess.requireSMTPUTF8 = true
    · simp [hu]
    · simp only [hu, Bool.false_eq_true, if_false, Codec.encode, hb, Except.ok.injEq, exists_eq']
  exact push_written E he.choose_spec

lemma push_plain {s : String} (hs : plainText s = true) (w : World) :
    push E (.str s) w = .written w.cancelled { w with replies := w.replies ++ [.str s] } :=
  push_encodes E (Codec.encodesText_of_plain _ hs) w

/-- A push writes its reply and returns, or writes it and raises the cancel of QUIT, or raises
the encoding's error and leaves the world as it was. -/
lemma push_cases (m : StrOrBytes) (w : World) :
    push E m w = .written w.cancelled { w with replies := w.replies ++ [m] } ∨ ∃ e, push E m w = .exc e w := by
  unfold push
  cases encodeReply E w.sess m <;> simp [Outcome.written]

lemma push_world {m : StrOrBytes} {w w₁ : World} (h : (push E m w).world? = some w₁) :
    w₁ = w ∨ w₁ = { w with replies := w.replies ++ [m] } := by
  rcases push_cases E m w with h' | ⟨e, h'⟩ <;> rw [h'] at h <;> simp only [Outcome.world?_written,
    Outcome.world?_exc, Option.some.injEq] at h <;> subst h
  · exact .inr rfl
  · exact .inl rfl

lemma handleException_cases (e : Exc) (w : World) :
    handleException E e w = .ret () w ∨ ∃ e', handleException E e w = .exc e' w := by
  unfold handleException
  split
  · simp
  · split <;> simp

end

lemma readline_of_line {w : World} {l : Bytes} (hl : IsLine l) {rest : Bytes}
    (hb : w.buffer = l ++ rest) : readline w = .ret l { w with buffer := rest } := by
  simp only [readline, hb, streamReadline_line hl]

@[simp] theorem readline_eof {w : World} (hb : w.buffer = []) : readline w = .ret [] w := by
  cases w
  subst hb
  rfl

/-! ## A sample session -/

/-- A handler whose `process_message` returns `None` and that has no `handle_exception`. -/
def Handler.accepting : Handler := ⟨fun _ _ => .ok none, none⟩

/-- A handler whose `process_message` raises an exception with the message `m`. -/
def Handler.raising (m : String) : Handler := ⟨fun _ _ => .error m, none⟩

/-- `SMTP(handler, hostname='mx', data_size_limit=limit)`, with the ASCII stand-ins for the
address parsers. -/
def sampleEnv (limit : Nat) (h : Handler) : Env :=
  ⟨SMTP, { Config.default "mx" with dataSizeLimit := limit }, Stdlib.plain, h⟩

/-- A session greeted by `c` with sender `a@b` and recipient `d@e` accepted, reading
`buffer`. -/
def sampleWorld (buffer : Bytes) : World :=
  ⟨ClassState.clear SMTP,
    { Session.init "p" with
      seenGreeting := .str "c"
      mailfrom := some "a@b"
      rcpttos := ["d@e"]
      mailOptions := some []
      rcptOptions := some [] },
    buffer, [], [], false, false⟩

end AioSmtpd
