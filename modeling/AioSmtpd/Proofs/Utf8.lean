import AioSmtpd.Commands
import Mathlib

/-!
# `str(arg, 'utf-8')` reads back exactly what `bytes(s, 'utf-8')` writes

`_decode_arg` first tries `str(arg, encoding='utf-8')`, whose strict decoder `utf8Decode` reads
a byte at a time. It accepts a byte string exactly when the string is the UTF-8 encoding of a
text, and then returns that text (`utf8Decode_eq_some_iff`), so an argument sent in UTF-8
reaches the command as the text it encodes whatever `default_8bit_encoding` is, and that codec
is used exactly on the bytes that encode no text (`decodeArg_eq_str_iff`). Both sides are read
as numbers: `utf8Bytes` gives the bytes of a code point (RFC 3629 §3), the decoder reads the
encoding of any character back (`foldlM_utf8EncodeChar`), and every byte string it reads to
the end starts with the encoding of a character (`utf8_chunk`).
-/

namespace AioSmtpd

/-! ## Bytes as numbers -/

lemma toNat_lor (a b : UInt8) : (a ||| b).toNat = a.toNat ||| b.toNat := BitVec.toNat_or _ _

lemma toNat_toUInt8 (v : UInt32) : v.toUInt8.toNat = v.toNat % 256 := by
  show (UInt8.ofNat v.toNat).toNat = _
  simp [UInt8.toNat, UInt8.ofNat, BitVec.toNat_ofNat]

lemma toNat_shiftRight (v k : UInt32) : (v >>> k).toNat = v.toNat / 2 ^ (k.toNat % 32) := by
  show (v.toBitVec >>> (k % 32).toBitVec).toNat = _
  rw [BitVec.ushiftRight_eq', BitVec.toNat_ushiftRight, Nat.shiftRight_eq_div_pow]
  rfl

lemma or_eq_add_of_mod {b t : Nat} (i : Nat) (hb : b < 2 ^ i) (ht : t % 2 ^ i = 0) :
    b ||| t = b + t := by
  obtain ⟨a, rfl⟩ := Nat.dvd_of_mod_eq_zero ht
  rw [Nat.or_comm, ← Nat.mul_add_lt_is_or hb, Nat.add_comm]

/-- `x &&& m ||| t` with `m` the low `k` bits and `t` above them: the low bits of `x`, then `t`. -/
lemma toNat_mask (x m t : UInt8) (k : Nat) (hm : m.toNat = 2 ^ k - 1) (ht : t.toNat % 2 ^ k = 0) :
    (x &&& m ||| t).toNat = x.toNat % 2 ^ k + t.toNat := by
  rw [toNat_lor, UInt8.and_toNat, hm, Nat.and_pow_two_sub_one_eq_mod]
  exact or_eq_add_of_mod k (Nat.mod_lt _ (Nat.two_pow_pos k)) ht

lemma UInt8.lt_iff_toNat (a b : UInt8) : a < b ↔ a.toNat < b.toNat := Iff.rfl

lemma UInt8.le_iff_toNat (a b : UInt8) : a ≤ b ↔ a.toNat ≤ b.toNat := Iff.rfl

lemma UInt8.eq_iff_toNat (a b : UInt8) : a = b ↔ a.toNat = b.toNat := ⟨congrArg _, UInt8.toNat.inj⟩

lemma Char.toNat_ofNat_of_valid {n : Nat} (h : n.isValidChar) : (Char.ofNat n).toNat = n := by
  rw [Char.ofNat, dif_pos h]
  rfl

/-! ## UTF-8 as arithmetic -/

/-- The bytes of code point `n` in UTF-8, as numbers: the code point itself below U+0080, else
a lead byte with its top bits and one continuation byte for each further six. -/
def utf8Bytes (n : Nat) : List Nat :=
  if n ≤ 0x7f then [n]
  else if n ≤ 0x7ff then [n / 64 + 0xc0, n % 64 + 0x80]
  else if n ≤ 0xffff then [n / 4096 + 0xe0, n / 64 % 64 + 0x80, n % 64 + 0x80]
  else [n / 262144 + 0xf0, n / 4096 % 64 + 0x80, n / 64 % 64 + 0x80, n % 64 + 0x80]

/-- Lean's encoder, which writes what CPython's does, writes `utf8Bytes`. -/
lemma utf8EncodeChar_toNat (c : Char) :
    (String.utf8EncodeChar c).map UInt8.toNat = utf8Bytes c.toNat := by
  have hv' : c.toNat.isValidChar := c.valid
  have hc : c.toNat < 0x110000 := by rcases hv' with h | ⟨-, h⟩ <;> omega
  have hle : ∀ k : UInt32, c.val ≤ k ↔ c.toNat ≤ k.toNat := fun _ => Iff.rfl
  have hv : c.val.toNat = c.toNat := rfl
  unfold String.utf8EncodeChar utf8Bytes
  simp only [hle, UInt32.reduceToNat]
  split_ifs <;> simp only [List.map, toNat_toUInt8, toNat_mask _ 0x3f 0x80 6 rfl rfl,
    toNat_mask _ 0x1f 0xc0 5 rfl rfl, toNat_mask _ 0x0f 0xe0 4 rfl rfl, toNat_mask _ 0x07 0xf0 3 rfl rfl,
    toNat_shiftRight, List.cons.injEq, and_true, UInt32.reduceToNat, UInt8.reduceToNat, Nat.reduceMod,
    Nat.reducePow, hv] <;> omega

lemma utf8EncodeChar_ofNat {n : Nat} {l : Bytes} (hv : n.isValidChar) (h : utf8Bytes n = l.map UInt8.toNat) :
    String.utf8EncodeChar (Char.ofNat n) = l :=
  List.map_injective_iff.2 (fun _ _ => UInt8.toNat.inj)
    (by rw [utf8EncodeChar_toNat, Char.toNat_ofNat_of_valid hv, h])

/-- The two bytes of a code point from U+0080 to U+07FF: a lead byte from `C2` to `DF`, a
continuation byte, and the code point they give back. -/
lemma utf8Bytes_two_read {n x y : Nat} (h : 0x7f < n ∧ n ≤ 0x7ff) (hx : x = n / 64 + 0xc0)
    (hy : y = n % 64 + 0x80) :
    (0xc2 ≤ x ∧ x ≤ 0xdf) ∧ (0x80 ≤ y ∧ y ≤ 0xbf) ∧ x % 32 * 64 + y % 64 = n := by
  subst hx hy
  omega

/-- The three bytes of a code point from U+0800 to U+FFFF, not a surrogate: after `E0` the first
continuation byte is at least `A0`, after `ED` at most `9F`. -/
lemma utf8Bytes_three_read {n x y z : Nat} (h : 0x7ff < n ∧ n ≤ 0xffff) (hv : n.isValidChar)
    (hx : x = n / 4096 + 0xe0) (hy : y = n / 64 % 64 + 0x80) (hz : z = n % 64 + 0x80) :
    (0xe0 ≤ x ∧ x ≤ 0xef) ∧
      (0x80 ≤ y ∧ y ≤ 0xbf ∧ (x % 16 = 0 → 0xa0 ≤ y) ∧ (x % 16 = 13 → y ≤ 0x9f)) ∧
      (0x80 ≤ z ∧ z ≤ 0xbf) ∧ (x % 16 * 64 + y % 64) * 64 + z % 64 = n := by
  subst hx hy hz
  unfold Nat.isValidChar at hv
  omega

/-- The four bytes of a code point from U+10000 to U+10FFFF: after `F0` the first continuation
byte is at least `90`, after `F4` at most `8F`. -/
lemma utf8Bytes_four_read {n w x y z : Nat} (h : 0xffff < n ∧ n < 0x110000)
    (hw : w = n / 262144 + 0xf0) (hx : x = n / 4096 % 64 + 0x80) (hy : y = n / 64 % 64 + 0x80)
    (hz : z = n % 64 + 0x80) :
    (0xf0 ≤ w ∧ w ≤ 0xf4) ∧
      (0x80 ≤ x ∧ x ≤ 0xbf ∧ (w % 8 = 0 → 0x90 ≤ x) ∧ (w % 8 = 4 → x ≤ 0x8f)) ∧
      (0x80 ≤ y ∧ y ≤ 0xbf) ∧ (0x80 ≤ z ∧ z ≤ 0xbf) ∧
      ((w % 8 * 64 + x % 64) * 64 + y % 64) * 64 + z % 64 = n := by
  subst hw hx hy hz
  omega

/-- Conversely, a lead byte from `C2` to `DF` and a continuation byte are the encoding of the
code point they give. -/
lemma utf8Bytes_two {x y : Nat} (hx : 0xc2 ≤ x ∧ x ≤ 0xdf) (hy : 0x80 ≤ y ∧ y ≤ 0xbf) :
    (x % 32 * 64 + y % 64).isValidChar ∧ utf8Bytes (x % 32 * 64 + y % 64) = [x, y] := by
  refine ⟨Or.inl (by omega), ?_⟩
  rw [utf8Bytes, if_neg (by omega), if_pos (by omega)]
  simp only [List.cons.injEq, and_true]
  omega

lemma utf8Bytes_three {x y z : Nat} (hx : 0xe0 ≤ x ∧ x ≤ 0xef)
    (hy : 0x80 ≤ y ∧ y ≤ 0xbf ∧ (x % 16 = 0 → 0xa0 ≤ y) ∧ (x % 16 = 13 → y ≤ 0x9f))
    (hz : 0x80 ≤ z ∧ z ≤ 0xbf) :
    ((x % 16 * 64 + y % 64) * 64 + z % 64).isValidChar ∧
      utf8Bytes ((x % 16 * 64 + y % 64) * 64 + z % 64) = [x, y, z] := by
  refine ⟨by unfold Nat.isValidChar; omega, ?_⟩
  rw [utf8Bytes, if_neg (by omega), if_neg (by omega), if_pos (by omega)]
  simp only [List.cons.injEq, and_true]
  omega

lemma utf8Bytes_four {w x y z : Nat} (hw : 0xf0 ≤ w ∧ w ≤ 0xf4)
    (hx : 0x80 ≤ x ∧ x ≤ 0xbf ∧ (w % 8 = 0 → 0x90 ≤ x) ∧ (w % 8 = 4 → x ≤ 0x8f))
    (hy : 0x80 ≤ y ∧ y ≤ 0xbf) (hz : 0x80 ≤ z ∧ z ≤ 0xbf) :
    (((w % 8 * 64 + x % 64) * 64 + y % 64) * 64 + z % 64).isValidChar ∧
      utf8Bytes (((w % 8 * 64 + x % 64) * 64 + y % 64) * 64 + z % 64) = [w, x, y, z] := by
  refine ⟨Or.inr (by omega), ?_⟩
  rw [utf8Bytes, if_neg (by omega), if_neg (by omega), if_neg (by omega)]
  simp only [List.cons.injEq, and_true]
  omega

/-! ## The encoder on a whole text -/

lemma toList_loop (l : List UInt8) (i : Nat) (r : List UInt8) :
    ByteArray.toList.loop ⟨⟨l⟩⟩ i r = r.reverse ++ l.drop i := by
  rw [ByteArray.toList.loop]
  split
  · next h =>
    have hi : i < l.length := h
    rw [toList_loop l (i + 1)]
    simp [ByteArray.get!, Array.get!, Array.getD, ByteArray.size, hi]
  · next h =>
    simp only [ByteArray.size, Array.size, Nat.not_lt] at h
    simp [List.drop_eq_nil_of_le h]
termination_by l.length - i

/-- `bytes(s, encoding='utf-8')` is the encodings of the characters one after another. -/
lemma utf8Encode_eq (s : String) : utf8Encode s = s.data.flatMap String.utf8EncodeChar := by
  rw [utf8Encode, ByteArray.toList, String.toUTF8, toList_loop]
  rfl

/-! ## The decoder, a byte at a time -/

/-- The decoder between two characters: no continuation byte owed, and the range of the next
one at its default `80..BF`. -/
structure Utf8State.Ready (s : Utf8State) : Prop where
  need : s.need = 0
  lo : s.lo = 0x80
  hi : s.hi = 0xbf

section

variable {s : Utf8State} {b : UInt8}

lemma utf8Step_ascii (hn : s.need = 0) (hb : b.toNat < 0x80) :
    utf8Step s b = some { s with out := Char.ofNat b.toNat :: s.out } := by
  simp only [utf8Step, hn, UInt8.lt_iff_toNat, UInt8.reduceToNat, hb, ↓reduceIte]

/-- The first byte of a two-byte character: the code point's top five bits, and one
continuation byte owed. -/
lemma utf8Step_two (hn : s.need = 0) (hb : 0xc2 ≤ b.toNat ∧ b.toNat ≤ 0xdf) :
    utf8Step s b = some { s with cp := b.toNat % 32, need := 1 } := by
  simp (disch := omega) only [utf8Step, hn, if_pos, if_neg, UInt8.lt_iff_toNat, UInt8.le_iff_toNat,
    UInt8.reduceToNat, ↓reduceIte]

/-- The first byte of a three-byte character: the code point's top four bits, two continuation
bytes owed, and the range of the first one narrowed after `E0` (no overlong form) and `ED` (no
surrogate). -/
lemma utf8Step_three (hs : s.Ready) (hb : 0xe0 ≤ b.toNat ∧ b.toNat ≤ 0xef) :
    ∃ t, utf8Step s b = some t ∧ t.need = 2 ∧ t.cp = b.toNat % 16 ∧ t.out = s.out ∧
      ∀ x : UInt8, t.lo.toNat ≤ x.toNat ∧ x.toNat ≤ t.hi.toNat ↔ 0x80 ≤ x.toNat ∧ x.toNat ≤ 0xbf ∧
        (b.toNat % 16 = 0 → 0xa0 ≤ x.toNat) ∧ (b.toNat % 16 = 13 → x.toNat ≤ 0x9f) := by
  obtain ⟨hn, hlo, hhi⟩ := hs
  rcases (by omega : b.toNat = 0xe0 ∨ b.toNat = 0xed ∨ b.toNat ≠ 0xe0 ∧ b.toNat ≠ 0xed) with h | h | h <;>
    simp (disch := omega) only [utf8Step, hn, hlo, hhi, if_pos, if_neg, UInt8.lt_iff_toNat, UInt8.le_iff_toNat,
      UInt8.eq_iff_toNat, UInt8.reduceToNat, ↓reduceIte, Option.some.injEq, exists_eq_left', true_and] <;>
    first | exact fun x => by omega | exact ⟨by omega, fun x => by omega⟩

/-- The first byte of a four-byte character: the code point's top three bits, three
continuation bytes owed, and the range of the first one narrowed after `F0` (no overlong form)
and `F4` (nothing past U+10FFFF). -/
lemma utf8Step_four (hs : s.Ready) (hb : 0xf0 ≤ b.toNat ∧ b.toNat ≤ 0xf4) :
    ∃ t, utf8Step s b = some t ∧ t.need = 3 ∧ t.cp = b.toNat % 8 ∧ t.out = s.out ∧
      ∀ x : UInt8, t.lo.toNat ≤ x.toNat ∧ x.toNat ≤ t.hi.toNat ↔ 0x80 ≤ x.toNat ∧ x.toNat ≤ 0xbf ∧
        (b.toNat % 8 = 0 → 0x90 ≤ x.toNat) ∧ (b.toNat % 8 = 4 → x.toNat ≤ 0x8f) := by
  obtain ⟨hn, hlo, hhi⟩ := hs
  rcases (by omega : b.toNat = 0xf0 ∨ b.toNat = 0xf4 ∨ b.toNat ≠ 0xf0 ∧ b.toNat ≠ 0xf4) with h | h | h <;>
    simp (disch := omega) only [utf8Step, hn, hlo, hhi, if_pos, if_neg, UInt8.lt_iff_toNat, UInt8.le_iff_toNat,
      UInt8.eq_iff_toNat, UInt8.reduceToNat, ↓reduceIte, Option.some.injEq, exists_eq_left', true_and] <;>
    first | exact fun x => by omega | exact ⟨by omega, fun x => by omega⟩

/-- A continuation byte, or one past `F4`, where a character should start is refused. -/
lemma utf8Step_lead_none (hn : s.need = 0) (hb : 0x80 ≤ b.toNat ∧ b.toNat < 0xc2 ∨ 0xf4 < b.toNat) :
    utf8Step s b = none := by
  have := b.toNat_lt_size
  simp (disch := omega) only [utf8Step, hn, if_pos, if_neg, UInt8.lt_iff_toNat, UInt8.le_iff_toNat,
    UInt8.eq_iff_toNat, UInt8.reduceToNat, ↓reduceIte]

/-- The last continuation byte of a character, in range, completes it. -/
lemma utf8Step_last (hn : s.need = 1) (hb : s.lo.toNat ≤ b.toNat ∧ b.toNat ≤ s.hi.toNat) :
    utf8Step s b = some { out := Char.ofNat (s.cp * 64 + b.toNat % 64) :: s.out } := by
  unfold utf8Step
  rw [if_neg (by omega), if_pos (show s.lo ≤ b ∧ b ≤ s.hi from hb), if_pos hn]

lemma utf8Step_more {k : Nat} (hn : s.need = k + 2) (hb : s.lo.toNat ≤ b.toNat ∧ b.toNat ≤ s.hi.toNat) :
    utf8Step s b = some { s with cp := s.cp * 64 + b.toNat % 64, need := k + 1, lo := 0x80, hi := 0xbf } := by
  unfold utf8Step
  rw [if_neg (by omega), if_pos (show s.lo ≤ b ∧ b ≤ s.hi from hb), if_neg (by omega), hn]
  rfl

lemma utf8Step_cont_none (hn : s.need ≠ 0) (hb : ¬(s.lo.toNat ≤ b.toNat ∧ b.toNat ≤ s.hi.toNat)) :
    utf8Step s b = none := by
  simp only [utf8Step, hn, UInt8.le_iff_toNat, hb, if_false]

lemma foldlM_step {t : Utf8State} (h : utf8Step s b = some t) (bs : Bytes) :
    (b :: bs).foldlM utf8Step s = bs.foldlM utf8Step t := by
  simp [h]

lemma foldlM_none (h : utf8Step s b = none) (bs : Bytes) : (b :: bs).foldlM utf8Step s = none := by
  simp [h]

/-- A decoder that owes a continuation byte and still ends between characters reads one, in the
range it expects. -/
lemma foldlM_owes {t : Utf8State} {bs : Bytes} (hn : s.need ≠ 0) (h : bs.foldlM utf8Step s = some t)
    (ht : t.need = 0) : ∃ b bs', bs = b :: bs' ∧ s.lo.toNat ≤ b.toNat ∧ b.toNat ≤ s.hi.toNat := by
  match bs, h with
  | [], h =>
    cases h
    exact absurd ht hn
  | b :: bs', h =>
    refine ⟨b, bs', rfl, ?_⟩
    by_contra hb
    rw [foldlM_none (utf8Step_cont_none hn hb)] at h
    cases h

end

/-! ## Decoding what was encoded -/

lemma ready_char {s : Utf8State} {m : Nat} {c : Char} (h : m = c.toNat) :
    ∃ t, some ({ out := Char.ofNat m :: s.out } : Utf8State) = some t ∧ t.Ready ∧ t.out = c :: s.out :=
  ⟨_, rfl, ⟨rfl, rfl, rfl⟩, by rw [h, Char.ofNat_toNat]⟩

/-- From between characters, the decoder reads the encoding of any character back to it and
ends between characters again. -/
lemma foldlM_utf8EncodeChar {s : Utf8State} (hs : s.Ready) (c : Char) :
    ∃ t, (String.utf8EncodeChar c).foldlM utf8Step s = some t ∧ t.Ready ∧ t.out = c :: s.out := by
  have hm := utf8EncodeChar_toNat c
  have hv : c.toNat.isValidChar := c.valid
  have hc : c.toNat < 0x110000 := by rcases hv with h | ⟨-, h⟩ <;> omega
  generalize String.utf8EncodeChar c = l at hm
  unfold utf8Bytes at hm
  split_ifs at hm with h1 h2 h3 <;> simp only [List.map_eq_cons_iff, List.map_eq_nil_iff] at hm
  · obtain ⟨b0, _, rfl, hb0, rfl⟩ := hm
    rw [foldlM_step (utf8Step_ascii hs.need (by omega)), hb0, Char.ofNat_toNat]
    exact ⟨_, rfl, ⟨hs.need, hs.lo, hs.hi⟩, rfl⟩
  · obtain ⟨b0, _, rfl, hb0, b1, _, rfl, hb1, rfl⟩ := hm
    obtain ⟨hx, hy, hd⟩ := utf8Bytes_two_read ⟨by omega, h2⟩ hb0 hb1
    rw [foldlM_step (utf8Step_two hs.need hx), foldlM_step (utf8Step_last rfl (by rw [hs.lo, hs.hi]; exact hy))]
    exact ready_char hd
  · obtain ⟨b0, _, rfl, hb0, b1, _, rfl, hb1, b2, _, rfl, hb2, rfl⟩ := hm
    obtain ⟨hx, hy, hz, hd⟩ := utf8Bytes_three_read ⟨by omega, h3⟩ hv hb0 hb1 hb2
    obtain ⟨s₁, h₁, hn₁, hcp₁, ho₁, hr₁⟩ := utf8Step_three hs hx
    rw [foldlM_step h₁, foldlM_step (utf8Step_more (k := 0) hn₁ ((hr₁ b1).2 hy)),
      foldlM_step (utf8Step_last rfl ?_), ho₁]
    · exact ready_char (by rw [hcp₁]; exact hd)
    · exact hz
  · obtain ⟨b0, _, rfl, hb0, b1, _, rfl, hb1, b2, _, rfl, hb2, b3, _, rfl, hb3, rfl⟩ := hm
    obtain ⟨hw, hx, hy, hz, hd⟩ := utf8Bytes_four_read ⟨by omega, hc⟩ hb0 hb1 hb2 hb3
    obtain ⟨s₁, h₁, hn₁, hcp₁, ho₁, hr₁⟩ := utf8Step_four hs hw
    rw [foldlM_step h₁, foldlM_step (utf8Step_more (k := 1) hn₁ ((hr₁ b1).2 hx)),
      foldlM_step (utf8Step_more (k := 0) rfl ?_), foldlM_step (utf8Step_last rfl ?_), ho₁]
    · exact ready_char (by rw [hcp₁]; exact hd)
    · exact hz
    · exact hy

/-- From between characters, the decoder reads the encoding of a text to its characters and ends
between characters. -/
lemma foldlM_encode {s : Utf8State} (hs : s.Ready) (cs : List Char) :
    ∃ t, (cs.flatMap String.utf8EncodeChar).foldlM utf8Step s = some t ∧ t.Ready ∧
      t.out = cs.reverse ++ s.out := by
  induction cs generalizing s with
  | nil => exact ⟨s, rfl, hs, rfl⟩
  | cons c cs ih =>
    obtain ⟨t₁, h₁, hr₁, ho₁⟩ := foldlM_utf8EncodeChar hs c
    obtain ⟨t, h, hr, ho⟩ := ih hr₁
    refine ⟨t, ?_, hr, by simp [ho, ho₁]⟩
    rw [List.flatMap_cons, List.foldlM_append, h₁]
    exact h

/-! ## Only encodings are accepted -/

/-- From between characters, a run that ends between characters starts with the encoding of a
character. -/
lemma utf8_chunk {s t : Utf8State} {b : UInt8} {bs : Bytes} (hs : s.Ready)
    (h : (b :: bs).foldlM utf8Step s = some t) (ht : t.need = 0) :
    ∃ c rest, b :: bs = String.utf8EncodeChar c ++ rest := by
  have hb := b.toNat_lt_size
  rcases (by omega : b.toNat < 0x80 ∨ (0x80 ≤ b.toNat ∧ b.toNat < 0xc2 ∨ 0xf4 < b.toNat) ∨
      (0xc2 ≤ b.toNat ∧ b.toNat ≤ 0xdf) ∨ (0xe0 ≤ b.toNat ∧ b.toNat ≤ 0xef) ∨
      (0xf0 ≤ b.toNat ∧ b.toNat ≤ 0xf4)) with h0 | h0 | h0 | h0 | h0
  · have he : utf8Bytes b.toNat = [b].map UInt8.toNat := by rw [utf8Bytes, if_pos (by omega)]; rfl
    exact ⟨_, bs, congrArg (· ++ bs) (utf8EncodeChar_ofNat (Or.inl (by omega)) he).symm⟩
  · rw [foldlM_none (utf8Step_lead_none hs.need h0)] at h
    cases h
  · rw [foldlM_step (utf8Step_two hs.need h0)] at h
    obtain ⟨b1, rest, rfl, hb1⟩ := foldlM_owes (by simp) h ht
    rw [hs.lo, hs.hi] at hb1
    obtain ⟨hv, he⟩ := utf8Bytes_two h0 hb1
    exact ⟨_, rest, congrArg (· ++ rest) (utf8EncodeChar_ofNat (l := [b, b1]) hv he).symm⟩
  · obtain ⟨s₁, h₁, hn₁, -, -, hr₁⟩ := utf8Step_three hs h0
    rw [foldlM_step h₁] at h
    obtain ⟨b1, bs₁, rfl, hb1⟩ := foldlM_owes (by omega) h ht
    rw [foldlM_step (utf8Step_more (k := 0) hn₁ hb1)] at h
    obtain ⟨b2, rest, rfl, hb2⟩ := foldlM_owes (by simp) h ht
    obtain ⟨hv, he⟩ := utf8Bytes_three h0 ((hr₁ b1).1 hb1) hb2
    exact ⟨_, rest, congrArg (· ++ rest) (utf8EncodeChar_ofNat (l := [b, b1, b2]) hv he).symm⟩
  · obtain ⟨s₁, h₁, hn₁, -, -, hr₁⟩ := utf8Step_four hs h0
    rw [foldlM_step h₁] at h
    obtain ⟨b1, bs₁, rfl, hb1⟩ := foldlM_owes (by omega) h ht
    rw [foldlM_step (utf8Step_more (k := 1) hn₁ hb1)] at h
    obtain ⟨b2, bs₂, rfl, hb2⟩ := foldlM_owes (by simp) h ht
    rw [foldlM_step (utf8Step_more (k := 0) rfl hb2)] at h
    obtain ⟨b3, rest, rfl, hb3⟩ := foldlM_owes (by simp) h ht
    obtain ⟨hv, he⟩ := utf8Bytes_four h0 ((hr₁ b1).1 hb1) hb2 hb3
    exact ⟨_, rest, congrArg (· ++ rest) (utf8EncodeChar_ofNat (l := [b, b1, b2, b3]) hv he).symm⟩

/-- From between characters, a run that ends between characters reads the encoding of the
characters it returns. -/
lemma foldlM_decode {bs : Bytes} {s t : Utf8State} (hs : s.Ready) (h : bs.foldlM utf8Step s = some t)
    (ht : t.need = 0) : ∃ cs : List Char, bs = cs.flatMap String.utf8EncodeChar ∧ t.out = cs.reverse ++ s.out :=
  match bs, h with
  | [], h => by
    cases h
    exact ⟨[], rfl, rfl⟩
  | b :: bs', h => by
    obtain ⟨c, rest, hsplit⟩ := utf8_chunk hs h ht
    obtain ⟨s₁, h₁, hr₁, ho₁⟩ := foldlM_utf8EncodeChar hs c
    rw [hsplit, List.foldlM_append, h₁, Option.bind_eq_bind, Option.some_bind] at h
    have : rest.length < bs'.length + 1 := by
      have := congrArg List.length hsplit
      simp only [List.length_cons, List.length_append, String.length_utf8EncodeChar] at this
      have := c.utf8Size_pos
      omega
    obtain ⟨cs, hcs, hout⟩ := foldlM_decode hr₁ h ht
    exact ⟨c :: cs, by rw [hsplit, hcs, List.flatMap_cons], by simp [hout, ho₁]⟩
termination_by bs.length

/-! ## The round trip -/

lemma utf8Decode_utf8Encode (s : String) : utf8Decode (utf8Encode s) = some s := by
  obtain ⟨t, h, hr, ho⟩ := foldlM_encode (s := {}) ⟨rfl, rfl, rfl⟩ s.data
  simp [utf8Decode, utf8Encode_eq, h, hr.need, ho]

lemma utf8Encode_of_utf8Decode {b : Bytes} {s : String} (h : utf8Decode b = some s) : utf8Encode s = b := by
  unfold utf8Decode at h
  split at h
  · next t ht =>
    split_ifs at h with hn
    cases h
    obtain ⟨cs, hcs, hout⟩ := foldlM_decode ⟨rfl, rfl, rfl⟩ ht hn
    simp [utf8Encode_eq, hcs, hout]
  · cases h

/-- CPython's strict UTF-8 decoder accepts a byte string exactly when it is the UTF-8 encoding
of a text, and then returns that text. -/
theorem utf8Decode_eq_some_iff (b : Bytes) (s : String) : utf8Decode b = some s ↔ utf8Encode s = b :=
  ⟨utf8Encode_of_utf8Decode, fun h => h ▸ utf8Decode_utf8Encode s⟩

/- The overlong `C0 80` and the surrogate `ED A0 80` encode no text, and are refused. -/
example : utf8Decode [0xc3, 0xa9] = some "é" ∧ utf8Decode [0xc0, 0x80] = none ∧
    utf8Decode [0xed, 0xa0, 0x80] = none := by
  decide

/-- `_decode_arg` returns the text `s` exactly when the argument is the UTF-8 encoding of `s`,
or when it is the UTF-8 encoding of no text and `default_8bit_encoding` decodes it to `s`. -/
theorem decodeArg_eq_str_iff (E : Env) (b : Bytes) (s : String) :
    decodeArg E b = .str s ↔
      utf8Encode s = b ∨ (∀ t, utf8Encode t ≠ b) ∧ E.cfg.default8bitEncoding.decode b = .ok s := by
  unfold decodeArg
  cases hd : utf8Decode b with
  | some t =>
    have ht := utf8Encode_of_utf8Decode hd
    subst ht
    have hinj : utf8Encode s = utf8Encode t ↔ t = s := by
      refine ⟨fun h => ?_, fun h => h ▸ rfl⟩
      have := utf8Decode_utf8Encode s
      rwa [h, utf8Decode_utf8Encode, Option.some.injEq] at this
    simp [hinj]
  | none =>
    have hn : ∀ t, utf8Encode t ≠ b := fun t h => by rw [← h, utf8Decode_utf8Encode] at hd; cases hd
    cases E.cfg.default8bitEncoding.decode b <;> simp [hn]

end AioSmtpd
