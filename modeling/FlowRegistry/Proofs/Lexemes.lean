import FlowRegistry.Json.Read
import FlowRegistry.Json.Write
import FlowRegistry.Proofs.Encodings

/-!
# Reading back the lexemes of compact JSON

The readers of strings, numbers and words take back what the writer wrote, followed by anything
that may follow a value in compact text (`Follows`: a comma, a closing bracket or brace, or the
end).

* `readString_escaped`: a string literal as `quoteString` writes it reads back as its string.
  Each character is read back from its escape (`stringBody_escapeChar`): quotes and backslashes
  and the five letter escapes by `simpleEscape?`, the other control characters from their
  `\u00xx` form, and every other character from its own bytes, which are plain
  (`plain_of_utf8EncodeChar`).
* `readNumber_toDigits`: the decimal digits of a word read back as the word, the running value
  staying within 64 bits (`integerDigits_digits`).
* `readWord_append`: a word is read exactly.
-/

namespace FlowRegistry.Json

open Text

/-! ### Strings -/

/-- A byte that stands for itself inside a string literal. -/
def Plain (b : UInt8) : Prop := 0x20 ≤ b.toNat ∧ b ≠ 0x22 ∧ b ≠ 0x5C

theorem stringBody_plain {b : UInt8} (h : Plain b) (acc rest : Bytes) :
    stringBody acc (b :: rest) = stringBody (b :: acc) rest := by
  obtain ⟨h1, h2, h3⟩ := h
  rw [stringBody.eq_def]
  simp only [h2, h3, if_false]
  rw [if_neg (by simp [UInt8.lt_iff_toNat_lt]; omega)]

theorem stringBody_plains {bs : Bytes} (h : ∀ b ∈ bs, Plain b) (acc rest : Bytes) :
    stringBody acc (bs ++ rest) = stringBody (bs.reverse ++ acc) rest := by
  induction bs generalizing acc with
  | nil => rfl
  | cons b bs ih =>
    rw [List.cons_append, stringBody_plain (h b List.mem_cons_self),
      ih (fun x hx => h x (List.mem_cons_of_mem _ hx))]
    simp

/-- The bytes of a character that is written as itself are plain. -/
theorem plain_of_utf8EncodeChar {c : Char} (h1 : 0x20 ≤ c.toNat) (h2 : c ≠ '"') (h3 : c ≠ '\\') :
    ∀ b ∈ String.utf8EncodeChar c, Plain b := by
  by_cases hc : c.toNat < 0x80
  · rw [utf8EncodeChar_ascii hc]
    have hb := toNat_ofNat_lt (show c.toNat < 256 by omega)
    have hne : ∀ n, c.toNat = n → c = Char.ofNat n := fun n e => by rw [← e, Char.ofNat_toNat]
    simp only [List.mem_singleton, forall_eq]
    refine ⟨by omega, fun e => h2 (hne 0x22 ?_), fun e => h3 (hne 0x5C ?_)⟩ <;>
      rw [← hb, e] <;> rfl
  · intro b hb
    have := utf8EncodeChar_high (by omega) b hb
    refine ⟨by omega, ?_, ?_⟩ <;> rintro rfl <;> simp at this

/-- Control characters written as `\u00xx`: the four hex digits give the code back. -/
theorem hex4?_control : ∀ n, n < 0x20 →
    hex4? 0x30 0x30 (UInt8.ofNat (hexDigit (n / 16)).toNat) (UInt8.ofNat (hexDigit (n % 16)).toNat) =
      some n := by decide

theorem stringBody_escapeChar (c : Char) (acc rest : Bytes) :
    stringBody acc (encodeChars (escapeChar c) ++ rest) =
      stringBody ((String.utf8EncodeChar c).reverse ++ acc) rest := by
  unfold escapeChar
  split_ifs with hq hb hctl h8 h12 h10 h13 h9
  · subst hq; rfl
  · subst hb; rfl
  · subst h8; rfl
  · subst h12; rfl
  · subst h10; rfl
  · subst h13; rfl
  · subst h9; rfl
  · have hn := hex4?_control c.toNat hctl
    have hbytes : encodeChars ['\\', 'u', '0', '0', hexDigit (c.toNat / 16), hexDigit (c.toNat % 16)] ++ rest =
        0x5C :: 0x75 :: 0x30 :: 0x30 :: UInt8.ofNat (hexDigit (c.toNat / 16)).toNat ::
          UInt8.ofNat (hexDigit (c.toNat % 16)).toNat :: rest := by
      simp [utf8EncodeChar_ascii (hexDigit_lt _ (show c.toNat / 16 < 16 by omega)),
        utf8EncodeChar_ascii (hexDigit_lt _ (show c.toNat % 16 < 16 by omega))]
      rfl
    have ht : isTrailSurrogate c.toNat = false := by simp [isTrailSurrogate]; omega
    have hl : isLeadSurrogate c.toNat = false := by simp [isLeadSurrogate]; omega
    rw [hbytes, stringBody.eq_def]
    simp only [hn, show ((92 : UInt8) = 34) = False by decide, show simpleEscape? 117 = none from rfl,
      if_false, if_true, ne_eq, not_true_eq_false, ht, hl, Bool.not_false, Bool.false_eq_true,
      codeBytesRev, Char.ofNat_toNat]
  · rw [encodeChars_cons, encodeChars_nil, List.append_nil,
      stringBody_plains (plain_of_utf8EncodeChar (by omega) hq hb)]

theorem stringBody_escaped (cs : List Char) (acc rest : Bytes) :
    stringBody acc (encodeChars (cs.flatMap escapeChar) ++ 0x22 :: rest) =
      .ok (acc.reverse ++ encodeChars cs, rest) := by
  induction cs generalizing acc with
  | nil =>
    simp only [List.flatMap_nil, encodeChars_nil, List.nil_append, List.append_nil]
    rw [stringBody.eq_def]
    rfl
  | cons c cs ih =>
    rw [List.flatMap_cons, encodeChars_append, List.append_assoc, stringBody_escapeChar, ih]
    simp

/-- The bytes of a string literal. -/
theorem encodeChars_quoteString (s : String) :
    encodeChars (quoteString s) = 0x22 :: (encodeChars (s.toList.flatMap escapeChar) ++ [0x22]) := by
  simp only [quoteString, encodeChars_cons, encodeChars_append, encodeChars_nil]
  rfl

/-- Reading a string literal after its opening quote gives the string and what follows it. -/
theorem readString_escaped (s : String) (rest : Bytes) :
    readString (encodeChars (s.toList.flatMap escapeChar) ++ 0x22 :: rest) = .ok (s, rest) := by
  simp only [readString, stringBody_escaped, List.reverse_nil, List.nil_append,
    ← encode_eq_encodeChars, bind, Except.bind, decode_encode]
  rfl

/-! ### Numbers -/

/-- What may follow a value in compact text: a comma, a closing bracket or brace, or the end. -/
def Follows (rest : Bytes) : Prop := ∀ b ∈ rest.head?, b = 0x2C ∨ b = 0x5D ∨ b = 0x7D

theorem Follows.nil : Follows [] := fun _ h => nomatch h

theorem Follows.cons {b : UInt8} {rest : Bytes} (h : b = 0x2C ∨ b = 0x5D ∨ b = 0x7D) :
    Follows (b :: rest) := fun _ hx => by cases hx; exact h

/-- The value of decimal digit bytes read after the digits of `a`. -/
def digitsValue (a : Nat) (bs : Bytes) : Nat := bs.foldl (fun acc b => acc * 10 + digitOf b) a

theorem le_digitsValue (a : Nat) (bs : Bytes) : a ≤ digitsValue a bs := by
  induction bs generalizing a with
  | nil => exact Nat.le_refl a
  | cons b bs ih => exact Nat.le_trans (by omega) (ih (a * 10 + digitOf b))

theorem integerDigits_digits {bs : Bytes} (hd : ∀ b ∈ bs, isDigitByte b = true) (positive : Bool)
    (a : Nat) (hv : digitsValue a bs ≤ maxWord64) (rest : Bytes) :
    integerDigits positive a (bs ++ rest) = integerDigits positive (digitsValue a bs) rest := by
  induction bs generalizing a with
  | nil => rfl
  | cons b bs ih =>
    have hb := hd b List.mem_cons_self
    have hle := le_digitsValue (a * 10 + digitOf b) bs
    have hv' : digitsValue (a * 10 + digitOf b) bs ≤ maxWord64 := hv
    rw [List.cons_append, integerDigits, if_pos hb, if_neg (by omega),
      ih (fun x hx => hd x (List.mem_cons_of_mem _ hx)) _ hv']
    rfl

theorem isDigitByte_of_follows {rest : Bytes} (hr : Follows rest) :
    ∀ b ∈ rest.head?, isDigitByte b = false := by
  intro b hb
  rcases hr b hb with rfl | rfl | rfl <;> rfl

theorem numberTail_follows {rest : Bytes} (hr : Follows rest) (v : Nat) :
    numberTail true v rest = .ok (.nat v, rest) := by
  unfold numberTail
  split
  · next r => exact absurd (hr 0x2E rfl) (by decide)
  · next r => exact absurd (hr 0x65 rfl) (by decide)
  · next r => exact absurd (hr 0x45 rfl) (by decide)
  · rfl

theorem integerDigits_follows {rest : Bytes} (hr : Follows rest) (v : Nat) :
    integerDigits true v rest = .ok (.nat v, rest) := by
  cases rest with
  | nil => exact numberTail_follows hr v
  | cons d rest =>
    rw [integerDigits, if_neg (by rw [isDigitByte_of_follows hr d rfl]; decide)]
    exact numberTail_follows hr v

theorem digitChar_bytes : ∀ d, d < 10 →
    String.utf8EncodeChar (Nat.digitChar d) = [UInt8.ofNat (48 + d)] ∧
      isDigitByte (UInt8.ofNat (48 + d)) = true ∧ digitOf (UInt8.ofNat (48 + d)) = d := by
  decide

/-- The bytes of a positive number's decimal digits: a leading digit other than `0`, then
digits, with the number as their value. -/
theorem toDigits_bytes (n : Nat) (hn : 0 < n) :
    ∃ b bs, encodeChars (Nat.toDigits 10 n) = b :: bs ∧ b ≠ 0x30 ∧ isDigitByte b = true ∧
      (∀ x ∈ bs, isDigitByte x = true) ∧ digitsValue (digitOf b) bs = n := by
  induction n using Nat.strong_induction_on with
  | _ n ih =>
    by_cases h10 : n < 10
    · obtain ⟨he, hd, hv⟩ := digitChar_bytes n h10
      refine ⟨UInt8.ofNat (48 + n), [], ?_, ?_, hd, by simp, hv⟩
      · simp [Nat.toDigits_of_lt_base h10, he]
      · intro e
        have := congrArg UInt8.toNat e
        rw [toNat_ofNat_lt (by omega)] at this
        simp at this
        omega
    · obtain ⟨b, bs, he, hb0, hb, hbs, hv⟩ := ih (n / 10) (by omega) (by omega)
      obtain ⟨he', hd', hv'⟩ := digitChar_bytes (n % 10) (Nat.mod_lt _ (by omega))
      have hsplit : Nat.toDigits 10 n = Nat.toDigits 10 (n / 10) ++ Nat.toDigits 10 (n % 10) := by
        rw [Nat.toDigits_append_toDigits (by omega) (by omega) (Nat.mod_lt _ (by omega)),
          Nat.div_add_mod]
      refine ⟨b, bs ++ [UInt8.ofNat (48 + n % 10)], ?_, hb0, hb, ?_, ?_⟩
      · rw [hsplit, encodeChars_append, he, Nat.toDigits_of_lt_base (Nat.mod_lt _ (by omega))]
        simp [he']
      · intro x hx
        rcases List.mem_append.1 hx with hx | hx
        · exact hbs x hx
        · rw [List.mem_singleton.1 hx]; exact hd'
      · simp only [digitsValue, List.foldl_append, List.foldl_cons, List.foldl_nil] at hv ⊢
        rw [hv, hv']
        omega

/-- Reading the decimal digits of a word gives the word. -/
theorem readNumber_toDigits {n : Nat} (hn : n ≤ maxWord64) {rest : Bytes} (hr : Follows rest) :
    readNumber true (encodeChars (Nat.toDigits 10 n) ++ rest) = .ok (.nat n, rest) := by
  rcases Nat.eq_zero_or_pos n with rfl | hpos
  · show readNumber true (0x30 :: rest) = _
    cases rest with
    | nil => rfl
    | cons d rest =>
      rw [readNumber.eq_def]
      simp only [if_pos, isDigitByte_of_follows hr d rfl, Bool.false_eq_true, if_false]
      exact numberTail_follows hr 0
  · obtain ⟨b, bs, he, hb0, hb, hbs, hv⟩ := toDigits_bytes n hpos
    rw [he, List.cons_append, readNumber.eq_def]
    dsimp only
    rw [if_neg hb0, if_pos hb, integerDigits_digits hbs true _ (by omega) rest, hv]
    exact integerDigits_follows hr n

/-! ### Words and blanks -/

theorem readWord_append (w rest : Bytes) : readWord w (w ++ rest) = .ok rest := by
  induction w with
  | nil => rfl
  | cons b w ih => rw [List.cons_append, readWord, if_pos rfl, ih]

theorem skipBlank_cons {b : UInt8} (h : isBlankByte b = false) (rest : Bytes) :
    skipBlank (b :: rest) = b :: rest := by
  simp [skipBlank, List.dropWhile, h]

theorem bytes_eq (j : Json) : bytes j = encodeChars (chars j) := by
  simp [bytes, render, encode_eq_encodeChars]

end FlowRegistry.Json
