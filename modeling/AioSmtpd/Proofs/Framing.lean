import AioSmtpd.Proofs.Replies
import AioSmtpd.Proofs.Utf8

/-!
# Every reply is one line

`push` writes a text reply and then CRLF, and a client reads the replies back a line at a time,
so a reply that held a line feed would read as two, the second written by whoever chose its
text. The session composes its replies from literals, the host name, the verb and argument of
the line it read and what it decodes from them, the messages of the exceptions it caught, and
the handler's statuses; a client's line holds no line feed but its last byte, which `rstrip`
removes. So as long as the host name, the codec's messages, the address parser's errors and the
handler's statuses and errors hold none, no reply of any run holds one (`Run.replies_one_line`).
-/

namespace AioSmtpd

/-! ## Text and bytes without a line feed -/

/-- A reply with no line feed, so one line once `push` adds CRLF. -/
def StrOrBytes.OneLine : StrOrBytes → Prop
  | .str t => '\n' ∉ t.data
  | .bytes b => (10 : UInt8) ∉ b

instance : DecidablePred StrOrBytes.OneLine
  | .str t => inferInstanceAs (Decidable ('\n' ∉ t.data))
  | .bytes b => inferInstanceAs (Decidable ((10 : UInt8) ∉ b))

/-- The message of an exception holds no line feed. -/
def Exc.OneLine (e : Exc) : Prop := '\n' ∉ e.message.data

instance : DecidablePred Exc.OneLine := fun e => inferInstanceAs (Decidable ('\n' ∉ e.message.data))

lemma lf_not_mem_append {s t : String} (hs : '\n' ∉ s.data) (ht : '\n' ∉ t.data) : '\n' ∉ (s ++ t).data := by
  rw [String.data_append, List.mem_append]
  exact fun h => h.elim hs ht

lemma digitChar_ne_lf (d : Nat) : Nat.digitChar d ≠ '\n' := by
  rcases Nat.lt_or_ge d 16 with h | h
  · interval_cases d <;> decide
  · unfold Nat.digitChar
    repeat rw [if_neg (by omega)]
    decide

lemma toDigitsCore_lf (base : Nat) :
    ∀ (fuel n : Nat) (ds : List Char), '\n' ∉ ds → '\n' ∉ Nat.toDigitsCore base fuel n ds
  | 0, _, _, h => h
  | fuel + 1, n, ds, h => by
    have hd : '\n' ∉ Nat.digitChar (n % base) :: ds :=
      List.not_mem_cons_of_ne_of_not_mem (digitChar_ne_lf _).symm h
    show '\n' ∉ (if n / base = 0 then Nat.digitChar (n % base) :: ds
      else Nat.toDigitsCore base fuel (n / base) (Nat.digitChar (n % base) :: ds))
    split
    · exact hd
    · exact toDigitsCore_lf base fuel _ _ hd

lemma toString_lf (n : Nat) : '\n' ∉ (toString n).data :=
  toDigitsCore_lf 10 (n + 1) n [] (List.not_mem_nil _)

lemma hexPad_lf (w n : Nat) : '\n' ∉ (hexPad w n).data := by
  simp only [hexPad, List.mem_append, List.mem_replicate, not_or]
  exact ⟨fun h => absurd h.2 (by decide), toDigitsCore_lf 16 (n + 1) n [] (List.not_mem_nil _)⟩

lemma charEscape_lf (c : Char) : '\n' ∉ (charEscape c).data := by
  unfold charEscape
  split_ifs <;> exact lf_not_mem_append (by decide) (hexPad_lf _ _)

/-- The bytes a codec reads a line feed from are a line feed. -/
def Codec.LfOnly (k : Codec) : Prop := ∀ b, k.decodeByte b = some '\n' → b = 10

lemma ascii_lfOnly : ascii.LfOnly := fun b h => by
  simp only [ascii, Option.ite_none_right_eq_some, Option.some.injEq] at h
  obtain ⟨hb, hc⟩ := h
  have h10 := congrArg Char.toNat hc
  simp only [UInt8.lt_iff_toNat, UInt8.reduceToNat] at hb
  rw [Char.toNat_ofNat_of_valid (Or.inl (by omega))] at h10
  exact UInt8.toNat.inj h10

/-- A codec that reads a line feed only from byte 10 decodes bytes without one to text without
one. -/
lemma Codec.decode_lf (k : Codec) (hk : k.LfOnly) {b : Bytes} (hb : (10 : UInt8) ∉ b) {s : String}
    (h : k.decode b = .ok s) : '\n' ∉ s.data := by
  suffices H : ∀ (i : Nat) (b : Bytes) (cs : List Char), (10 : UInt8) ∉ b → k.decodeFrom i b = .ok cs → '\n' ∉ cs by
    unfold Codec.decode at h
    rcases hd : k.decodeFrom 0 b with _ | cs <;> rw [hd] at h <;> cases h
    exact H 0 b cs hb hd
  intro i b
  induction b generalizing i with
  | nil => intro cs _ h; cases h; exact List.not_mem_nil _
  | cons x b ih =>
    intro cs hb h
    rw [List.mem_cons, not_or] at hb
    unfold Codec.decodeFrom at h
    split at h
    · next c hc =>
      rcases hr : k.decodeFrom (i + 1) b with _ | cs' <;> rw [hr] at h <;> cases h
      exact List.not_mem_cons_of_ne_of_not_mem (fun h => hb.1 (hk x (h ▸ hc)).symm) (ih (i + 1) cs' hb.2 hr)
    · cases h

/-- Strict UTF-8 decodes bytes without a line feed to text without one. -/
lemma utf8Decode_lf {b : Bytes} (hb : (10 : UInt8) ∉ b) {s : String} (h : utf8Decode b = some s) :
    '\n' ∉ s.data := fun hs => hb <| by
  rw [← utf8Encode_of_utf8Decode h, utf8Encode_eq]
  exact List.mem_flatMap.mpr ⟨'\n', hs, List.mem_singleton_self _⟩

/-- `_decode_arg` decodes an argument without a line feed to text without one, unless the
8-bit codec reads a line feed from another byte. -/
lemma decodeArg_lf (E : Env) (hk : E.cfg.default8bitEncoding.LfOnly) {b : Bytes} (hb : (10 : UInt8) ∉ b)
    {a : String} (h : decodeArg E b = .str a) : '\n' ∉ a.data := by
  unfold decodeArg at h
  split at h
  · cases h
    exact utf8Decode_lf hb ‹_›
  · split at h <;> cases h
    exact E.cfg.default8bitEncoding.decode_lf hk hb ‹_›

/-- A line the reader returns holds no line feed once `rstrip(b'\r\n')` has removed its end. -/
lemma streamReadline_lf {buf line rest : Bytes} (h : streamReadline buf = (.ok line, rest)) :
    (10 : UInt8) ∉ rstripCRLF line := by
  have hc : (10 : UInt8) ∉ buf.takeWhile (· != 10) := fun hm => by
    simpa using List.all_eq_true.mp (List.all_takeWhile (p := (· != 10)) (l := buf)) _ hm
  have hs : ∀ c : Bytes, List.Sublist (rstripCRLF c) c := fun c => by
    have := (List.dropWhile_sublist (l := c.reverse) isCRLF).reverse
    rwa [List.reverse_reverse] at this
  unfold streamReadline at h
  dsimp only at h
  split at h <;> split at h <;> cases h
  · exact fun hm => hc ((hs _).subset hm)
  · have he : rstripCRLF (buf.takeWhile (· != 10) ++ [10]) = rstripCRLF (buf.takeWhile (· != 10)) := by
      simp [rstripCRLF, isCRLF]
    rw [he]
    exact fun hm => hc ((hs _).subset hm)

/-- The verb and the argument of a line are pieces of it. -/
lemma splitCommand_sublist (line : Bytes) :
    List.Sublist (splitCommand line).1 line ∧ ∀ b, (splitCommand line).2 = some b → List.Sublist b line := by
  unfold splitCommand
  split
  · exact ⟨List.Sublist.refl _, fun _ h => by cases h⟩
  · next rest hd =>
    refine ⟨List.takeWhile_sublist _, fun b h => ?_⟩
    cases h
    have hr : List.Sublist rest line := (List.sublist_cons_self _ _).trans (hd ▸ List.dropWhile_sublist _)
    have hd := (List.dropWhile_sublist (l := (rest.dropWhile isAsciiSpace).reverse) isAsciiSpace).reverse
    rw [List.reverse_reverse] at hd
    exact hd.trans ((List.dropWhile_sublist _).trans hr)

lemma bytesUpper_lf {b : Bytes} (hb : (10 : UInt8) ∉ b) : (10 : UInt8) ∉ bytesUpper b := by
  simp only [bytesUpper, List.mem_map, not_exists, not_and]
  intro c hc
  split_ifs with h
  · intro h'
    simp only [UInt8.le_iff_toNat, UInt8.reduceToNat] at h
    have h2 := congrArg UInt8.toNat h'
    rw [UInt8.toNat_sub_of_le _ _ (by simp only [UInt8.le_iff_toNat, UInt8.reduceToNat]; omega)] at h2
    simp only [UInt8.reduceToNat] at h2
    omega
  · exact fun h => hb (h ▸ hc)

/-! ## Exceptions the session raises -/

lemma unicodeDecode_oneLine {codec reason : String} (hn : '\n' ∉ codec.data) (hr : '\n' ∉ reason.data)
    (b : UInt8) (pos : Nat) : (Exc.unicodeDecode codec b pos reason).OneLine := by
  unfold Exc.OneLine Exc.message
  refine lf_not_mem_append (lf_not_mem_append (lf_not_mem_append (lf_not_mem_append (lf_not_mem_append
    (lf_not_mem_append (lf_not_mem_append ?_ hn) ?_) (hexPad_lf _ _)) ?_) (toString_lf _)) ?_) hr
  all_goals decide

lemma unicodeEncode_oneLine {codec reason : String} (hn : '\n' ∉ codec.data) (hr : '\n' ∉ reason.data)
    (cs : List Char) (pos : Nat) : (Exc.unicodeEncode codec cs pos reason).OneLine := by
  unfold Exc.OneLine Exc.message
  split <;> cases ‹Exc.unicodeEncode _ _ _ _ = _›
  · refine lf_not_mem_append (lf_not_mem_append (lf_not_mem_append (lf_not_mem_append (lf_not_mem_append
      (lf_not_mem_append (lf_not_mem_append ?_ hn) ?_) (charEscape_lf _)) ?_) (toString_lf _)) ?_) hr
    all_goals decide
  · refine lf_not_mem_append (lf_not_mem_append (lf_not_mem_append (lf_not_mem_append (lf_not_mem_append
      (lf_not_mem_append (lf_not_mem_append ?_ hn) ?_) (toString_lf _)) ?_) (toString_lf _)) ?_) hr
    all_goals decide

/-- A codec whose name and error reason hold no line feed raises only one-line errors. -/
lemma Codec.decodeFrom_error (k : Codec) (hn : '\n' ∉ k.name.data) (hr : '\n' ∉ k.reason.data) :
    ∀ (i : Nat) (b : Bytes) (e : Exc), k.decodeFrom i b = .error e → e.OneLine
  | _, [], _, h => by cases h
  | i, x :: b, e, h => by
    unfold Codec.decodeFrom at h
    split at h
    · rcases hr' : k.decodeFrom (i + 1) b with e' | _ <;> rw [hr'] at h <;> cases h
      exact Codec.decodeFrom_error k hn hr (i + 1) b e hr'
    · cases h
      exact unicodeDecode_oneLine hn hr _ _

lemma Codec.encodeFrom_error (k : Codec) (hn : '\n' ∉ k.name.data) (hr : '\n' ∉ k.reason.data) :
    ∀ (i : Nat) (cs : List Char) (e : Exc), k.encodeFrom i cs = .error e → e.OneLine
  | _, [], _, h => by cases h
  | i, c :: cs, e, h => by
    unfold Codec.encodeFrom at h
    split at h
    · rcases hr' : k.encodeFrom (i + 1) cs with e' | _ <;> rw [hr'] at h <;> cases h
      exact Codec.encodeFrom_error k hn hr (i + 1) cs e hr'
    · cases h
      exact unicodeEncode_oneLine hn hr _ _

/-- What the environment must keep free of line feeds for every reply to be one line: the host
name; the name and error reason of the 8-bit codec, which must also read a line feed only from
byte 10, as every codec that extends ASCII does; the errors of the address parsers on input
without one; and the statuses and errors of the handler's `process_message`. -/
structure Env.OneLine (E : Env) : Prop where
  hostname : '\n' ∉ E.cfg.hostname.data
  codec_name : '\n' ∉ E.cfg.default8bitEncoding.name.data
  codec_reason : '\n' ∉ E.cfg.default8bitEncoding.reason.data
  codec_lf : E.cfg.default8bitEncoding.LfOnly
  angle_addr : ∀ s m, '\n' ∉ s.data → E.lib.getAngleAddr s = .error m → '\n' ∉ m.data
  addr_spec : ∀ s m, '\n' ∉ s.data → E.lib.getAddrSpec s = .error m → '\n' ∉ m.data
  status : ∀ prev c s, E.handler.processMessage prev c = .ok (some s) → '\n' ∉ s.data
  raised : ∀ prev c m, E.handler.processMessage prev c = .error m → '\n' ∉ m.data

/-! ## Coroutines that keep to one line -/

/-- `x` pushes only one-line replies and reads its client only forward, and an exception it
raises has a one-line message. -/
def Co.Clean {α : Type} (x : Co α) : Prop :=
  x.Keeps StrOrBytes.OneLine ∧ ∀ w e w', x w = .exc e w' → e.OneLine

namespace Co

variable {α β : Type} {x y : Co α}

lemma clean_pure (a : α) : (pure a : Co α).Clean := ⟨keeps_pure a, fun _ _ _ h => by cases h⟩

lemma clean_get : Co.get.Clean := ⟨keeps_get, fun _ _ _ h => by cases h⟩

lemma clean_modifySess (g : Session → Session) : (Co.modifySess g).Clean :=
  ⟨keeps_modifySess g, fun _ _ _ h => by cases h⟩

lemma clean_throw {e : Exc} (he : e.OneLine) : (Co.throw e : Co α).Clean :=
  ⟨(answers_throw e).1, fun _ _ _ h => by cases h; exact he⟩

/-- A bound coroutine is clean when its first half is, and its second half is on every value
the first can return. -/
lemma clean_bind_ret {f : α → Co β} {Q : α → Prop} (hx : x.Clean) (hq : ∀ w a w₁, x w = .ret a w₁ → Q a)
    (hf : ∀ a, Q a → (f a).Clean) : (x >>= f).Clean := by
  refine ⟨keeps_bind_ret hx.1 hq fun a ha => (hf a ha).1, fun w e w' h => ?_⟩
  simp only [bind_apply] at h
  split at h
  · exact (hf _ (hq _ _ _ ‹_›)).2 _ _ _ h
  · cases h
    exact hx.2 _ _ _ ‹_›
  · cases h

lemma clean_bind {f : α → Co β} (hx : x.Clean) (hf : ∀ a, (f a).Clean) : (x >>= f).Clean :=
  clean_bind_ret (Q := fun _ => True) hx (fun _ _ _ _ => trivial) fun a _ => hf a

/-- A `try` whose body is clean and whose handler keeps to one line on every one-line
exception keeps to one line. -/
lemma keeps_tryCatch {h : Exc → Co α} (hx : x.Clean) (hh : ∀ e, e.OneLine → (h e).Keeps StrOrBytes.OneLine) :
    (Co.tryCatch x h).Keeps StrOrBytes.OneLine := fun w w₁ hw => by
  unfold Co.tryCatch at hw
  rcases hxw : x w with ⟨b, w₂⟩ | ⟨e, w₂⟩ | _ <;> rw [hxw] at hw
  · exact hx.1 w w₁ (by rw [hxw]; exact hw)
  · exact (hx.1 w w₂ (by rw [hxw]; rfl)).trans (hh e (hx.2 w e w₂ hxw) w₂ w₁ hw)
  · cases hw

end Co

section

variable (E : Env) (hE : E.OneLine)
include hE

lemma push_clean {m : StrOrBytes} (hm : m.OneLine) : (push E m).Clean := by
  refine ⟨(push_answers E (P := StrOrBytes.OneLine) hm).1, fun w e w' h => ?_⟩
  unfold push at h
  split at h
  · -- the cancel of QUIT, raised at the drain, has an empty message
    split at h <;> cases h
    decide
  next he =>
  cases h
  unfold encodeReply at he
  split at he
  · cases he
  · split at he
    · cases he
    · exact E.cfg.default8bitEncoding.encodeFrom_error hE.codec_name hE.codec_reason 0 _ _ he

/-! ## The commands -/

omit hE in
lemma fixedReply_oneLine {t : String} (h : fixedReply t = true) : '\n' ∉ t.data := fun hm => by
  have := List.all_eq_true.mp (Bool.and_eq_true _ _ ▸ h).2 '\n' hm
  simp at this

omit hE in
lemma decodeArg_bytes {b raw : Bytes} (h : decodeArg E b = .bytes raw) : raw = b := by
  unfold decodeArg at h
  split at h
  · cases h
  · split at h <;> cases h
    rfl

/-! ## The arguments of MAIL and RCPT -/

omit hE in
lemma strStrip_sublist (s : String) : List.Sublist (strStrip s).data s.data := by
  have hd := (List.dropWhile_sublist (l := (s.data.dropWhile isSpaceChar).reverse) isSpaceChar).reverse
  rw [List.reverse_reverse] at hd
  exact hd.trans (List.dropWhile_sublist _)

omit hE in
lemma stripCommandKeyword_lf (keyword : String) {a : String} (ha : '\n' ∉ a.data) :
    '\n' ∉ (stripCommandKeyword E keyword a).data := by
  unfold stripCommandKeyword
  split
  · exact fun h => ha ((List.drop_sublist _ _).subset ((strStrip_sublist _).subset h))
  · exact List.not_mem_nil _

lemma getaddr_error {s : String} (hs : '\n' ∉ s.data) {e : Exc} (h : getaddr E s = .error e) : e.OneLine := by
  unfold getaddr at h
  split at h
  · cases h
  dsimp only at h
  split at h
  · cases h
  · next m hm =>
    cases h
    show '\n' ∉ m.data
    split at hm
    · exact hE.angle_addr s m hs hm
    · exact hE.addr_spec s m hs hm

omit hE in
/-- `str.split()` splits at every line feed, so its words hold none. -/
lemma splitWords_lf : ∀ (cs w : List Char), '\n' ∉ w → ∀ t ∈ splitWords cs w, '\n' ∉ t.data
  | [], [], _ => by simp [splitWords]
  | [], c :: w, hw => by
    simp only [splitWords, List.mem_singleton, forall_eq, List.mem_reverse]
    exact hw
  | c :: cs, w, hw => by
    unfold splitWords
    split
    · split
      · exact splitWords_lf cs [] (List.not_mem_nil _)
      · intro t ht
        rcases List.mem_cons.mp ht with rfl | ht
        · exact List.mem_reverse.not.mpr hw
        · exact splitWords_lf cs [] (List.not_mem_nil _) t ht
    · next hc =>
      exact splitWords_lf cs (c :: w) (List.not_mem_cons_of_ne_of_not_mem (fun h => hc (h ▸ rfl)) hw)

omit hE in
lemma strPartition_value_mem {t : String} {c : Char} (hc : c ∈ (strPartition t).2.2.data) : c ∈ t.data := by
  unfold strPartition at hc
  rw [List.span_eq_take_drop] at hc
  split at hc <;> rename_i h
  · cases hc
  · exact (List.dropWhile_sublist _).subset ((Prod.mk.inj h).2 ▸ List.mem_cons_of_mem _ hc)

omit hE in
/-- Every value of the dictionary `_getparams` builds is a piece of one of its tokens. -/
lemma getparams_lf {toks : List String} (ht : ∀ t ∈ toks, '\n' ∉ t.data) {d : Params}
    (h : getparams E toks = some d) {k v : String} (hv : d.lookup k = some (.str v)) : '\n' ∉ v.data := by
  rw [getparams_eq] at h
  split at h <;> cases h
  rw [paramsOf_lookup] at hv
  obtain ⟨t, ht', hpe⟩ := Option.map_eq_some'.mp (by simpa using hv)
  have htm : t ∈ toks := List.mem_reverse.mp (List.mem_of_find?_eq_some ht')
  unfold paramEntry at hpe
  split at hpe
  next key eq value hp =>
  split at hpe <;> cases hpe
  exact fun hm => ht t htm (strPartition_value_mem (hp ▸ hm))

omit hE in
lemma ite_ok_eq_error {c : Prop} [Decidable c] {r : Option String} {x : Except Exc (Option String)} {e : Exc} :
    (if c then .ok r else x) = .error e ↔ ¬c ∧ x = .error e := by
  split <;> simp_all

omit hE in
/-- The one exception the checks of `smtp_MAIL` raise is the `ValueError` of `int(size)` on the
SIZE value. -/
lemma mailParamsCheck_error {syn : String} {d : Params} {e : Exc} (h : mailParamsCheck E syn d = .error e) :
    ∃ size, d.lookup "SIZE" = some (.str size) ∧
      e = .valueError ("invalid literal for int() with base 10: \x27" ++ size ++ "\x27") := by
  unfold mailParamsCheck at h
  generalize h₁ : (if E.cfg.decodeData = true then (none, d) else d.pop "BODY") = p₁ at h
  obtain ⟨body, d₁⟩ := p₁
  dsimp only at h
  generalize h₂ : (if E.cfg.enableSMTPUTF8 = true then d₁.pop "SMTPUTF8" else (none, d₁)) = p₂ at h
  obtain ⟨smtputf8, d₂⟩ := p₂
  obtain ⟨-, -, hz, -⟩ := mailParams_pops E h₁ h₂
  rw [← hz]
  dsimp only at h
  rw [ite_ok_eq_error, ite_ok_eq_error] at h
  -- what the checks give once SIZE has passed: a reply or none, never a raise
  generalize hrest : (if List.filter (fun x => x.1 != "SIZE") d₂ = [] then .ok none
    else .ok (some "555 MAIL FROM parameters not recognized or not implemented") :
      Except Exc (Option String)) = rest at h
  have hr : ∀ e, rest ≠ .error e := by
    rw [← hrest]
    intro e
    split <;> nofun
  rcases hs : d₂.lookup "SIZE" with _ | ⟨size | _⟩ <;> rw [hs] at h <;> dsimp only at h
  · exact absurd h.2.2 (hr e)
  · refine ⟨size, rfl, ?_⟩
    obtain ⟨-, -, h⟩ := h
    split at h
    · exact absurd h (hr e)
    obtain ⟨-, h⟩ := ite_ok_eq_error.mp h
    split at h
    · exact absurd h (hr e)
    split at h
    · exact (Except.error.inj h).symm
    · split at h
      · cases h
      · exact absurd h (hr e)
  · cases h.2.2

/-! ## DATA -/

omit hE in
lemma readline_clean : readline.Clean := by
  refine ⟨readline_keeps, fun w e w' h => ?_⟩
  unfold readline at h
  split at h <;> cases h
  next hs =>
  unfold streamReadline at hs
  dsimp only at hs
  split at hs <;> split at hs <;> cases hs <;> decide

lemma processMessage_clean (c : Call) : (processMessage E c).Clean := by
  refine ⟨processMessage_keeps E c, fun w e w' h => ?_⟩
  rw [processMessage_eq] at h
  split at h <;> cases h
  exact hE.raised _ _ _ ‹_›

/-- Keeping to one line is closed under the ways the commands are composed. -/
lemma clean_closed : Co.Closed E StrOrBytes.OneLine Exc.OneLine Co.Clean Co.Clean where
  keeps h := h
  pure := Co.clean_pure
  hang := ⟨fun _ _ h => (by cases h), fun _ _ _ h => (by cases h)⟩
  bind_ret := Co.clean_bind_ret
  bind_left := Co.clean_bind
  get_bind _ := Co.clean_bind Co.clean_get
  get_then _ := Co.clean_bind Co.clean_get
  modifySess_then g := Co.clean_bind (Co.clean_modifySess g)
  push := push_clean E hE
  throw := Co.clean_throw
  modifySess := Co.clean_modifySess
  grow _ := ⟨Co.keeps_of_replies fun _ _ h => by cases h; exact ⟨rfl, rfl⟩, fun _ _ _ h => by cases h⟩
  readline := readline_clean
  processMessage := processMessage_clean E hE

/-- The replies and exceptions the commands compose without their argument keep to one line. -/
lemma admits_oneLine : E.Admits StrOrBytes.OneLine Exc.OneLine :=
  ⟨fun _ => fixedReply_oneLine, ⟨lf_not_mem_append (by decide) hE.hostname, lf_not_mem_append (by decide) hE.hostname⟩,
    lf_not_mem_append (by decide) (toString_lf _), fun prev c _ h _ => hE.status prev c _ h,
    ⟨by decide, by decide⟩⟩

/-- So do those they compose from an argument that holds no line feed. -/
lemma admitsArg_oneLine {arg : Arg} (harg : (10 : UInt8) ∉ arg.getD []) :
    E.AdmitsArg StrOrBytes.OneLine Exc.OneLine arg := by
  have hstr : ∀ a, arg.map (decodeArg E) = some (.str a) → '\n' ∉ a.data := fun a hb => by
    obtain ⟨b, rfl, hd⟩ := Option.map_eq_some'.mp hb
    exact decodeArg_lf E hE.codec_lf harg hd
  refine ⟨fun raw hb => ?_, fun a ha => lf_not_mem_append (by decide) (decodeArg_lf E hE.codec_lf harg ha),
    fun _ a _ ha he => getaddr_error E hE (stripCommandKeyword_lf E _ (hstr a ha)) he,
    fun a _ _ d _ e _ _ hd he => ?_⟩
  · rw [decodeArg_bytes E hb]
    exact List.mem_append.not.mpr (not_or.mpr ⟨by decide, harg⟩)
  · obtain ⟨size, hs, rfl⟩ := mailParamsCheck_error E he
    have hsize := getparams_lf E (fun t ht => splitWords_lf _ [] (List.not_mem_nil _) t ht) hd hs
    exact lf_not_mem_append (lf_not_mem_append (by decide) hsize) (by decide)

/-- The `try` body on a line that holds no line feed once stripped is clean. -/
lemma handleLine_clean (fuel : Nat) {raw : Bytes} (hraw : (10 : UInt8) ∉ rstripCRLF raw) :
    (handleLine E fuel raw).Clean := by
  have hsplit := splitCommand_sublist (rstripCRLF raw)
  unfold handleLine
  dsimp only
  split
  · exact push_clean E hE (by decide)
  split
  · next e he =>
    unfold Codec.decode at he
    rcases hd : ascii.decodeFrom 0 (bytesUpper (splitCommand (rstripCRLF raw)).1) with e' | _ <;>
      rw [hd] at he <;> cases he
    exact Co.clean_throw (ascii.decodeFrom_error (by decide) (by decide) 0 _ _ hd)
  next command hc =>
  have hcmd : '\n' ∉ command.data :=
    ascii.decode_lf ascii_lfOnly (bytesUpper_lf fun h => hraw (hsplit.1.subset h)) hc
  refine Co.clean_bind Co.clean_get fun w => ?_
  split
  · exact push_clean E hE (by decide)
  split
  · exact push_clean E hE (lf_not_mem_append (lf_not_mem_append (by decide) hcmd) (by decide))
  · refine (clean_closed E hE).dispatch (admits_oneLine E hE) ‹_›
      (fun _ => ⟨Co.keeps_of_replies fun _ _ h => by cases h; exact ⟨rfl, rfl⟩, fun _ _ _ h => by cases h⟩)
      (admitsArg_oneLine E hE fun h => hraw ?_)
    rcases hs : (splitCommand (rstripCRLF raw)).2 with _ | b
    · rw [hs] at h
      cases h
    · rw [hs] at h
      exact (hsplit.2 b hs).subset h

/-- The `except` clause pushes one line for an exception with a one-line message. -/
lemma catchAll_oneLine {e : Exc} (he : e.OneLine) : (catchAll E e).Keeps StrOrBytes.OneLine := by
  unfold catchAll
  exact Co.keeps_bind (push_clean E hE (m := .str ("500 Error: " ++ e.message)) (lf_not_mem_append (by decide) he)).1
    fun _ => handleException_keeps E e

lemma clientStep_oneLine (fuel : Nat) : (clientStep E fuel).Keeps StrOrBytes.OneLine := by
  unfold clientStep
  refine Co.keeps_bind_ret (Q := fun line => (10 : UInt8) ∉ rstripCRLF line) readline_keeps
    (fun w line w₁ h => ?_) fun line hl => ?_
  · unfold readline at h
    split at h <;> cases h
    exact streamReadline_lf ‹_›
  split
  · split <;> exact Co.keeps_bind (by first | exact handleException_keeps E _ | exact Co.keeps_pure _)
      fun _ => Co.keeps_pure _
  · exact Co.keeps_bind (Co.keeps_tryCatch (handleLine_clean E hE fuel hl) fun e he => catchAll_oneLine E hE he)
      fun _ => Co.keeps_pure _

/-- Every reply of every run is one line, the banner included, as long as the host name, the
8-bit codec, the address parsers and the handler keep line feeds out of what they give: no
line a client sends makes the server write a reply line of its choosing. -/
theorem Run.replies_one_line {xs : List Exchange} {w : World} (h : Run E xs w) :
    ∀ m ∈ w.replies, m.OneLine := by
  induction h with
  | start peer stream =>
    unfold World.start
    dsimp only
    split
    · next w hp =>
      rcases push_cases E _ _ with hq | ⟨_, hq⟩ <;> rw [hq] at hp <;> cases hp
      simp only [List.nil_append, List.mem_singleton, forall_eq]
      exact lf_not_mem_append (lf_not_mem_append (lf_not_mem_append (by decide) hE.hostname) (by decide))
        (by decide)
    · exact fun _ h => nomatch h
  | step fuel _ _ hs ih =>
    have hk : ∀ w₁, (clientStep E fuel _).world? = some w₁ → ∀ m ∈ w₁.replies, m.OneLine := fun w₁ h₁ => by
      obtain ⟨⟨r, hr, hp⟩, -⟩ := clientStep_oneLine E hE fuel _ _ h₁
      rw [hr]
      exact fun m hm => (List.mem_append.mp hm).elim (ih m) (hp m)
    unfold World.step at hs
    split at hs <;> cases hs <;> rename_i hw <;> exact fun m hm => hk _ (congrArg Outcome.world? hw) m hm

end

/-! ## The sample server -/

lemma latin1_lfOnly : latin1.LfOnly := fun b h => by
  simp only [latin1, Option.some.injEq] at h
  have h10 := congrArg Char.toNat h
  rw [Char.toNat_ofNat_of_valid (Or.inl (by have := b.toNat_lt_size; simp only [UInt8.size] at this; omega))] at h10
  exact UInt8.toNat.inj h10

/-- The plain parsers echo a piece of their input in their errors. -/
lemma plainAngleAddr_lf {s m : String} (hs : '\n' ∉ s.data) (h : Stdlib.plainAngleAddr s = .error m) :
    '\n' ∉ m.data := by
  have hd : List.Sublist (s.toList.dropWhile isSpaceChar) s.data := List.dropWhile_sublist _
  unfold Stdlib.plainAngleAddr at h
  split at h
  · next rest hr =>
    split at h <;> cases h
    refine lf_not_mem_append (lf_not_mem_append (by decide) fun hm => hs (hd.subset ?_)) (by decide)
    rw [hr]
    exact List.mem_cons_of_mem _ hm
  · cases h
    exact lf_not_mem_append (lf_not_mem_append (by decide) fun hm => hs (hd.subset hm)) (by decide)

lemma plainAddrSpec_lf {s m : String} (hs : '\n' ∉ s.data) (h : Stdlib.plainAddrSpec s = .error m) :
    '\n' ∉ m.data := by
  unfold Stdlib.plainAddrSpec at h
  rw [List.span_eq_take_drop] at h
  split at h
  · next rest hr =>
    cases h
    have hsub : List.Sublist rest s.data :=
      (Prod.mk.inj hr).2 ▸ (List.dropWhile_sublist _).trans (List.dropWhile_sublist _)
    exact lf_not_mem_append (lf_not_mem_append (by decide) fun hm => hs (hsub.subset hm)) (by decide)
  · cases h

/-- The sample server, with its plain parsers and a handler that accepts every message, keeps
line feeds out of what it gives. -/
lemma sampleEnv_oneLine : (sampleEnv dataSizeDefault Handler.accepting).OneLine where
  hostname := by decide
  codec_name := by decide
  codec_reason := by decide
  codec_lf := latin1_lfOnly
  angle_addr _ _ hs h := plainAngleAddr_lf hs h
  addr_spec _ _ hs h := plainAddrSpec_lf hs h
  status _ _ _ h := by cases h
  raised _ _ _ h := by cases h

/-- A client sends a bare CR inside a verb and inside a VRFY argument: the server echoes both,
each in one reply line. -/
theorem Run.replies_one_line_sample :
    (World.run (sampleEnv dataSizeDefault Handler.accepting) 3 "p"
        (asciiBytes "HELO c\r\nFO\rO\r\nVRFY <a\rb\r\n") 3).2.replies =
      [.str "220 mx Python SMTP 1.0a3+", .str "250 mx", .str "500 Error: command \"FO\rO\" not recognized",
        .str "502 Could not VRFY <a\rb"] ∧
    ∀ m ∈ (World.run (sampleEnv dataSizeDefault Handler.accepting) 3 "p"
        (asciiBytes "HELO c\r\nFO\rO\r\nVRFY <a\rb\r\n") 3).2.replies, m.OneLine :=
  ⟨by decide, Run.replies_one_line _ sampleEnv_oneLine (Run.run _ 3 "p" _ 3)⟩

end AioSmtpd
