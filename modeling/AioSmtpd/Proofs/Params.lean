import AioSmtpd.Proofs.Steps

/-!
# MAIL and RCPT parameters

`_getparams` turns the uppercased parameter tokens of MAIL and RCPT into a dictionary, and
`smtp_MAIL` then pops the keywords it knows and checks their values. This file says which
token lists `_getparams` accepts and what dictionary it builds, compares that with the
`esmtp-param` grammar of RFC 1869, and says which dictionaries the checks of `smtp_MAIL` let
through.
-/

namespace AioSmtpd

/-- A parameter value to stand for `default`; it also spares `simp` a search for `Nonempty`
instances whenever it meets a quantifier over dictionary entries. -/
instance : Inhabited ParamValue := ⟨.flag⟩

lemma Params.lookup_map_replace (d : Params) (k j : String) (v : ParamValue) :
    (d.map fun p => if p.1 = k then (k, v) else p).lookup j =
      if j = k then (d.lookup k).map fun _ => v else d.lookup j := by
  induction d with
  | nil => simp
  | cons p d ih =>
    obtain ⟨k', v'⟩ := p
    by_cases hk : k' = k
    · subst hk
      by_cases hj : j = k' <;> simp [List.lookup_cons, hj, ih, beq_false_of_ne]
    · by_cases hj : j = k <;> by_cases hj' : j = k' <;> simp_all [List.lookup_cons, beq_false_of_ne]

/-- `d.set k v` reads `v` at `k` and leaves the other keys alone. -/
@[simp] lemma Params.lookup_set (d : Params) (k j : String) (v : ParamValue) :
    (d.set k v).lookup j = if j = k then some v else d.lookup j := by
  unfold Params.set
  split
  · rename_i hk
    rw [Params.lookup_map_replace]
    have : (d.lookup k).isSome := by
      obtain ⟨p, hp, h⟩ := List.any_eq_true.mp hk
      exact List.lookup_isSome_iff.mpr ⟨p, hp, by rw [beq_iff_eq] at h ⊢; exact h.symm⟩
    split
    · obtain ⟨x, hx⟩ := Option.isSome_iff_exists.mp this
      simp [hx]
    · rfl
  · rename_i hk
    have : d.lookup k = none := List.lookup_eq_none_iff.mpr fun p hp => by
      have := fun h => hk (List.any_eq_true.mpr ⟨p, hp, h⟩)
      simp only [bne_iff_ne, ne_eq, beq_iff_eq] at this ⊢
      exact fun h => this h.symm
    rw [List.lookup_append]
    split
    · subst_vars; simp [this]
    · rename_i hj; simp [List.lookup_cons, beq_false_of_ne hj]

lemma Params.keys_set (d : Params) (k : String) (v : ParamValue) :
    (d.set k v).map Prod.fst = if d.any (·.1 == k) then d.map Prod.fst else d.map Prod.fst ++ [k] := by
  unfold Params.set
  split
  · rw [List.map_map]
    exact List.map_congr_left fun p _ => by by_cases h : p.1 = k <;> simp [h]
  · simp

lemma Params.nodup_set {d : Params} (h : (d.map Prod.fst).Nodup) (k : String) (v : ParamValue) :
    ((d.set k v).map Prod.fst).Nodup := by
  rw [Params.keys_set]
  split
  · exact h
  · rename_i hk
    refine List.nodup_append.mpr ⟨h, List.nodup_singleton k, ?_⟩
    simp only [List.disjoint_singleton, List.mem_map]
    rintro ⟨p, hp, rfl⟩
    exact hk (List.any_eq_true.mpr ⟨p, hp, by simp⟩)

/-- `d.pop k` leaves a dictionary that has no `k` and reads the other keys as `d` does. -/
lemma Params.lookup_filter_ne (d : Params) (k j : String) :
    (d.filter (·.1 != k)).lookup j = if j = k then none else d.lookup j := by
  induction d with
  | nil => simp
  | cons p d ih =>
    obtain ⟨k', v'⟩ := p
    by_cases hk : k' = k
    · subst hk
      by_cases hj : j = k'
      · subst hj
        simpa using ih
      · simpa [List.lookup_cons, hj, beq_false_of_ne] using ih
    · by_cases hj : j = k' <;> simp_all [List.lookup_cons, beq_false_of_ne]

/-- The entry that one token writes into the dictionary `_getparams` builds. -/
def paramEntry (t : String) : String × ParamValue :=
  match strPartition t with
  | (key, eq, value) => (key, if eq then .str value else .flag)

/-- The dictionary that accepted tokens build, a later token overriding an earlier one. -/
def paramsOf (d : Params) (toks : List String) : Params :=
  toks.foldl (fun d t => d.set (paramEntry t).1 (paramEntry t).2) d

lemma paramsOf_lookup (toks : List String) (d : Params) (k : String) :
    (paramsOf d toks).lookup k =
      ((toks.reverse.find? fun t => (paramEntry t).1 == k).map fun t => (paramEntry t).2).or (d.lookup k) := by
  induction toks generalizing d with
  | nil => rfl
  | cons t ts ih =>
    rw [paramsOf, List.foldl_cons, ← paramsOf, ih, List.reverse_cons, List.find?_append,
      Option.map_or', Option.or_assoc, List.find?_singleton, Params.lookup_set]
    by_cases hk : k = (paramEntry t).1
    · simp [hk]
    · simp [hk, Ne.symm hk]

lemma paramsOf_nodup (toks : List String) {d : Params} (h : (d.map Prod.fst).Nodup) :
    ((paramsOf d toks).map Prod.fst).Nodup := by
  induction toks generalizing d with
  | nil => exact h
  | cons t ts ih => exact ih (Params.nodup_set h _ _)

section

variable (E : Env)

/-- Whether `_getparams` goes on past the token `t`. -/
def paramOk (t : String) : Bool :=
  match strPartition t with
  | (key, eq, value) => !(!E.lib.isAlnum key || (eq && value.isEmpty))

/-- `_getparams` returns a dictionary exactly when it accepts every token, and then the one
that the tokens build. -/
lemma getparams_eq (toks : List String) :
    getparams E toks = if toks.all (paramOk E) then some (paramsOf [] toks) else none := by
  unfold getparams
  generalize ([] : Params) = d
  induction toks generalizing d with
  | nil => rfl
  | cons t ts ih =>
    simp only [List.foldlM_cons, List.all_cons, paramOk]
    by_cases hc : (!E.lib.isAlnum (strPartition t).1 || ((strPartition t).2.1 && (strPartition t).2.2.isEmpty)) = true
    · simp [hc]
    · rw [Bool.not_eq_true] at hc
      simpa [hc] using ih _

/-- On ASCII the keyword test is: one or more letters and digits. -/
lemma isAlnum_iff_of_ascii {s : String} (hs : ∀ c ∈ s.toList, c.toNat < 128) :
    E.lib.isAlnum s = true ↔ s ≠ "" ∧ ∀ c ∈ s.toList, c.isAlphanum = true := by
  simp only [Stdlib.isAlnum, Bool.and_eq_true, Bool.not_eq_true', List.all_eq_true]
  refine and_congr ?_ (forall₂_congr fun c hc => by rw [E.lib.isAlnum_ascii c (hs c hc)])
  rw [← Bool.not_eq_true, String.isEmpty_iff]

lemma strPartition_fst_mem {t : String} {c : Char} (hc : c ∈ (strPartition t).1.toList) :
    c ∈ t.toList := by
  unfold strPartition at hc
  rw [List.span_eq_take_drop] at hc
  split at hc <;> rename_i h <;>
  · rw [← (Prod.mk.inj h).1] at hc
    exact (List.takeWhile_sublist _).subset hc

lemma paramOk_iff_of_ascii {t : String} (ht : ∀ c ∈ t.toList, c.toNat < 128) :
    paramOk E t = true ↔ (strPartition t).1 ≠ "" ∧ (∀ c ∈ (strPartition t).1.toList, c.isAlphanum = true) ∧
      ((strPartition t).2.1 = true → (strPartition t).2.2 ≠ "") := by
  rw [← and_assoc, ← isAlnum_iff_of_ascii E fun c hc => ht c (strPartition_fst_mem hc)]
  cases h : (strPartition t).2.1 <;> simp [paramOk, h, ← String.isEmpty_iff]

/-- On ASCII tokens, `_getparams` returns a dictionary exactly when every token's text before
its first `=` is one or more letters and digits and, when the token has an `=`, some text
follows it. The dictionary has each keyword once, and sends it to what the last token with
that keyword gives: the text after its `=`, or `True` when it has none. -/
theorem getparams_accepts (toks : List String) (hascii : ∀ t ∈ toks, ∀ c ∈ t.toList, c.toNat < 128) :
    ((getparams E toks).isSome = true ↔ ∀ t ∈ toks,
      (strPartition t).1 ≠ "" ∧ (∀ c ∈ (strPartition t).1.toList, c.isAlphanum = true) ∧
        ((strPartition t).2.1 = true → (strPartition t).2.2 ≠ "")) ∧
    ∀ d, getparams E toks = some d → (d.map Prod.fst).Nodup ∧
      ∀ k, d.lookup k = (toks.reverse.find? fun t => (paramEntry t).1 == k).map fun t => (paramEntry t).2 := by
  rw [getparams_eq]
  refine ⟨?_, fun d hd => ?_⟩
  · rw [← forall₂_congr fun t ht => paramOk_iff_of_ascii E (hascii t ht), ← List.all_eq_true]
    split <;> simp_all
  · split at hd
    · cases hd
      exact ⟨paramsOf_nodup toks List.nodup_nil, fun k => by simp [paramsOf_lookup]⟩
    · cases hd

end

theorem getparams_accepts_sample :
    (∀ t ∈ ["BODY=8BITMIME", "SMTPUTF8", "SIZE=10", "SIZE=7"], ∀ c ∈ t.toList, c.toNat < 128) ∧
    (((getparams (sampleEnv dataSizeDefault Handler.accepting)
        ["BODY=8BITMIME", "SMTPUTF8", "SIZE=10", "SIZE=7"]).isSome = true ↔
      ∀ t ∈ ["BODY=8BITMIME", "SMTPUTF8", "SIZE=10", "SIZE=7"],
        (strPartition t).1 ≠ "" ∧ (∀ c ∈ (strPartition t).1.toList, c.isAlphanum = true) ∧
          ((strPartition t).2.1 = true → (strPartition t).2.2 ≠ "")) ∧
    ∀ d, getparams (sampleEnv dataSizeDefault Handler.accepting)
        ["BODY=8BITMIME", "SMTPUTF8", "SIZE=10", "SIZE=7"] = some d → (d.map Prod.fst).Nodup ∧
      ∀ k, d.lookup k = (["BODY=8BITMIME", "SMTPUTF8", "SIZE=10", "SIZE=7"].reverse.find? fun t =>
        (paramEntry t).1 == k).map fun t => (paramEntry t).2) :=
  ⟨by decide, getparams_accepts _ _ (by decide)⟩

/-- The `esmtp-keyword` of RFC 1869 and RFC 5321 4.1.2: a letter or digit, then letters,
digits and hyphens. -/
def rfcEsmtpKeyword : List Char → Bool
  | c :: cs => c.isAlphanum && cs.all fun c => c.isAlphanum || c == '-'
  | [] => false

/-- The `esmtp-value`: one or more of the characters 33 to 60 and 62 to 126, so no `=`, space
or control character. -/
def rfcEsmtpValue (cs : List Char) : Bool :=
  !cs.isEmpty && cs.all fun c => (33 ≤ c.toNat && c.toNat ≤ 60) || (62 ≤ c.toNat && c.toNat ≤ 126)

/-- An `esmtp-param`: a keyword, then optionally `=` and a value. -/
def rfcEsmtpParam (t : String) : Bool :=
  match t.toList.span (· != '=') with
  | (kw, []) => rfcEsmtpKeyword kw
  | (kw, _ :: v) => rfcEsmtpKeyword kw && rfcEsmtpValue v

/-- The keyword `X-FOO` is an `esmtp-param` that `_getparams` refuses, and `A=B=C`, whose value
holds an `=`, is not one but is accepted. -/
theorem getparams_not_rfc1869 :
    rfcEsmtpParam "X-FOO" = true ∧
    getparams (sampleEnv dataSizeDefault Handler.accepting) ["X-FOO"] = none ∧
    rfcEsmtpParam "A=B=C" = false ∧
    getparams (sampleEnv dataSizeDefault Handler.accepting) ["A=B=C"] = some [("A", .str "B=C")] := by
  decide

section

variable (E : Env)

lemma ite_some_eq_none {c : Prop} [Decidable c] {r : String} {x : Except Exc (Option String)} :
    (if c then .ok (some r) else x) = .ok none ↔ ¬c ∧ x = .ok none := by
  split <;> simp_all

lemma ite_none_eq_none {c : Prop} [Decidable c] {r : String} :
    (if c then .ok none else .ok (some r) : Except Exc (Option String)) = .ok none ↔ c := by
  split <;> simp_all

/-- The dictionaries that the checks of `smtp_MAIL` let through: when `decode_data` is off,
BODY is absent, `7BIT` or `8BITMIME`; when SMTPUTF8 is enabled it carries no value; SIZE is
not a bare keyword, and a non-empty SIZE is digits that, when `data_size_limit` is set, convert
to at most it; and no keyword other than SIZE is left once BODY and SMTPUTF8 are popped. -/
def MailParamsOk (d : Params) : Prop :=
  (E.cfg.decodeData = false → (d.lookup "BODY").getD (.str "7BIT") = .str "7BIT" ∨
      (d.lookup "BODY").getD (.str "7BIT") = .str "8BITMIME") ∧
  (E.cfg.enableSMTPUTF8 = true → ∀ v, d.lookup "SMTPUTF8" ≠ some (.str v)) ∧
  d.lookup "SIZE" ≠ some .flag ∧
  (∀ s, d.lookup "SIZE" = some (.str s) → s ≠ "" → E.lib.isDigit s = true ∧
      (E.cfg.dataSizeLimit ≠ 0 → ∃ n, E.lib.toInt s = some n ∧ n ≤ E.cfg.dataSizeLimit)) ∧
  ∀ p ∈ d, p.1 ≠ "SIZE" →
    (E.cfg.decodeData = false ∧ p.1 = "BODY") ∨ (E.cfg.enableSMTPUTF8 = true ∧ p.1 = "SMTPUTF8")

/-- What `mailParamsCheck` pops before it reads SIZE: BODY unless `decode_data` is set, and
SMTPUTF8 when it is enabled. What is left reads SIZE as the dictionary does, and holds nothing
but SIZE exactly when every other keyword is one of those popped. -/
lemma mailParams_pops {d d₁ d₂ : Params} {body smtputf8 : Option ParamValue}
    (h₁ : (if E.cfg.decodeData = true then (none, d) else d.pop "BODY") = (body, d₁))
    (h₂ : (if E.cfg.enableSMTPUTF8 = true then d₁.pop "SMTPUTF8" else (none, d₁)) = (smtputf8, d₂)) :
    body = (if E.cfg.decodeData then none else d.lookup "BODY") ∧
    smtputf8 = (if E.cfg.enableSMTPUTF8 then d.lookup "SMTPUTF8" else none) ∧
    d₂.lookup "SIZE" = d.lookup "SIZE" ∧
    (d₂.filter (·.1 != "SIZE") = [] ↔ ∀ p ∈ d, p.1 ≠ "SIZE" →
      (E.cfg.decodeData = false ∧ p.1 = "BODY") ∨ (E.cfg.enableSMTPUTF8 = true ∧ p.1 = "SMTPUTF8")) := by
  have hc := E.cfg.not_decode_and_utf8
  cases hd : E.cfg.decodeData <;> cases hu : E.cfg.enableSMTPUTF8 <;>
    simp only [hd, hu, Params.pop, if_true, if_false, Bool.false_eq_true, Prod.mk.injEq] at h₁ h₂ hc <;>
    obtain ⟨rfl, rfl⟩ := h₁ <;> obtain ⟨rfl, rfl⟩ := h₂ <;>
    simp only [Params.lookup_filter_ne, List.filter_eq_nil_iff, List.mem_filter, bne_iff_ne, ne_eq,
      Decidable.not_not, and_imp, Prod.forall, String.reduceEq, ↓reduceIte, Bool.false_eq_true,
      Bool.true_eq_false, true_and, false_and, and_true, and_false, and_self, or_false, or_self, imp_false,
      not_false_eq_true, not_true_eq_false] at hc ⊢
  all_goals exact forall₂_congr fun _ _ => imp_congr_right fun _ => by tauto

/-- The checks of `smtp_MAIL` on a dictionary pass, with no reply, exactly on `MailParamsOk`. -/
lemma mailParamsCheck_ok_none_iff (syn : String) (d : Params) :
    mailParamsCheck E syn d = .ok none ↔ MailParamsOk E d := by
  unfold mailParamsCheck
  generalize h₁ : (if E.cfg.decodeData = true then (none, d) else d.pop "BODY") = p₁
  obtain ⟨body, d₁⟩ := p₁
  dsimp only
  generalize h₂ : (if E.cfg.enableSMTPUTF8 = true then d₁.pop "SMTPUTF8" else (none, d₁)) = p₂
  obtain ⟨smtputf8, d₂⟩ := p₂
  obtain ⟨rfl, rfl, hz, hk⟩ := mailParams_pops E h₁ h₂
  simp only [ite_some_eq_none]
  refine and_congr ?body (and_congr ?utf8 ?size)
  case body => cases E.cfg.decodeData <;> simp [or_iff_not_imp_left]
  case utf8 =>
    cases E.cfg.enableSMTPUTF8
    · simp
    · rcases d.lookup "SMTPUTF8" with _ | ⟨_ | _⟩ <;> simp
  case size =>
    rw [← hz, ← hk]
    generalize List.filter (fun x => x.1 != "SIZE") d₂ = L
    rcases d₂.lookup "SIZE" with _ | ⟨s | _⟩
    · simp [ite_none_eq_none]
    · simp only [Option.some.injEq, ParamValue.str.injEq, forall_eq', ne_eq, reduceCtorEq, not_false_eq_true, true_and]
      rw [← String.isEmpty_iff]
      by_cases he : s.isEmpty = true
      · simp [he, ite_none_eq_none]
      cases hdig : E.lib.isDigit s
      · simp [he, hdig]
      by_cases hl : E.cfg.dataSizeLimit = 0
      · simp [he, hdig, hl, ite_none_eq_none]
      rcases E.lib.toInt s with _ | n
      · simp [he, hdig, hl]
      · by_cases hn : n ≤ E.cfg.dataSizeLimit
        · simp [he, hdig, hl, hn, ite_none_eq_none, Nat.not_lt.mpr hn]
        · simp [he, hdig, hl, hn, Nat.lt_of_not_le hn]
    · simp

end

end AioSmtpd
