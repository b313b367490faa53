import Mathlib.Data.List.Basic

/-!
# Percent encoding

A byte is either kept as the ASCII character it is or written as `%XY`. Which
bytes are kept is a parameter: the only thing the round trip asks of it is
that it keeps no `%` and nothing outside ASCII (`Escaping`).

Texts are encoded through their UTF-8 bytes, and a decoded byte string that is
not UTF-8 is no text.
-/

namespace IosChrome.Lib.PercentEncoding

/-- The digits of `%XY`, upper case. -/
def hexDigit (n : Nat) : Char := Char.ofNat (if n < 10 then 48 + n else 55 + n)

/-- The value of a digit, in either case. -/
def hexValue (c : Char) : Option Nat :=
  let n := c.toNat
  if 48 ≤ n ∧ n ≤ 57 then some (n - 48)
  else if 65 ≤ n ∧ n ≤ 70 then some (n - 55)
  else if 97 ≤ n ∧ n ≤ 102 then some (n - 87)
  else none

def escapeByte (keep : UInt8 → Bool) (b : UInt8) : List Char :=
  if keep b then [Char.ofNat b.toNat]
  else ['%', hexDigit (b.toNat / 16), hexDigit (b.toNat % 16)]

def escapeBytes (keep : UInt8 → Bool) (bytes : List UInt8) : List Char :=
  bytes.flatMap (escapeByte keep)

/-- `%XY` is a byte; anything else stands for its own UTF-8 bytes. -/
def unescapeChars : List Char → List UInt8
  | [] => []
  | [c] => String.utf8EncodeChar c
  | [c, d] => String.utf8EncodeChar c ++ String.utf8EncodeChar d
  | c :: h :: l :: rest =>
    if c = '%' then
      match hexValue h, hexValue l with
      | some x, some y => UInt8.ofNat (16 * x + y) :: unescapeChars rest
      | _, _ => String.utf8EncodeChar c ++ unescapeChars (h :: l :: rest)
    else String.utf8EncodeChar c ++ unescapeChars (h :: l :: rest)

def escape (keep : UInt8 → Bool) (text : String) : String :=
  String.ofList (escapeBytes keep text.toUTF8.data.toList)

def unescape (text : String) : String :=
  (String.fromUTF8? ⟨(unescapeChars text.toList).toArray⟩).getD ""

/-- What the kept bytes must be for the encoding to be read back. -/
structure Escaping (keep : UInt8 → Bool) : Prop where
  ascii : ∀ b, keep b = true → b.toNat < 128
  not_percent : ∀ b, keep b = true → b.toNat ≠ 37

theorem hexValue_hexDigit : ∀ n : Nat, n < 16 → hexValue (hexDigit n) = some n := by
  decide

theorem unescapeChars_cons {c : Char} (hc : c ≠ '%') (rest : List Char) :
    unescapeChars (c :: rest) = String.utf8EncodeChar c ++ unescapeChars rest := by
  match rest with
  | [] => simp [unescapeChars]
  | [_] => simp [unescapeChars]
  | _ :: _ :: _ => rw [unescapeChars, if_neg hc]

theorem utf8EncodeChar_ofByte : ∀ b : Fin 128,
    String.utf8EncodeChar (Char.ofNat b) = [UInt8.ofNat b] := by
  decide

theorem ofByte_ne_percent : ∀ b : Fin 128, b.val ≠ 37 → Char.ofNat b ≠ '%' := by
  decide

variable {keep : UInt8 → Bool}

/-- **A written byte is read back.** -/
theorem unescapeChars_escapeByte (hk : Escaping keep) (b : UInt8) (rest : List Char) :
    unescapeChars (escapeByte keep b ++ rest) = b :: unescapeChars rest := by
  unfold escapeByte
  by_cases hb : keep b = true
  · have hlt := hk.ascii b hb
    have hne := ofByte_ne_percent ⟨b.toNat, hlt⟩ (hk.not_percent b hb)
    rw [if_pos hb, List.singleton_append, unescapeChars_cons hne,
      utf8EncodeChar_ofByte ⟨b.toNat, hlt⟩]
    simp
  · have hlt : b.toNat < 256 := b.toNat_lt
    rw [if_neg hb]
    simp only [List.cons_append, List.nil_append]
    rw [unescapeChars, if_pos rfl, hexValue_hexDigit _ (by omega), hexValue_hexDigit _ (by omega)]
    show UInt8.ofNat (16 * (b.toNat / 16) + b.toNat % 16) :: _ = _
    rw [Nat.div_add_mod, UInt8.ofNat_toNat]

theorem unescapeChars_escapeBytes (hk : Escaping keep) (bytes : List UInt8) :
    unescapeChars (escapeBytes keep bytes) = bytes := by
  induction bytes with
  | nil => rfl
  | cons b bytes ih =>
    show unescapeChars (escapeByte keep b ++ escapeBytes keep bytes) = b :: bytes
    rw [unescapeChars_escapeByte hk, ih]

/-- **An escaped text is read back.** -/
theorem unescape_escape (hk : Escaping keep) (text : String) :
    unescape (escape keep text) = text := by
  unfold unescape escape
  rw [String.toList_ofList, unescapeChars_escapeBytes hk]
  have hbytes : (⟨text.toUTF8.data.toList.toArray⟩ : ByteArray) = text.toByteArray := by simp
  rw [hbytes]
  unfold String.fromUTF8?
  rw [dif_pos text.isValidUTF8]
  rfl

theorem length_le_utf8ByteSize (chars : List Char) :
    chars.length ≤ (String.ofList chars).utf8ByteSize := by
  induction chars with
  | nil => exact Nat.zero_le _
  | cons c chars ih =>
    have hsplit : String.ofList (c :: chars) = String.singleton c ++ String.ofList chars := by
      rw [← String.toList_inj]
      simp
    rw [hsplit, String.utf8ByteSize_append, String.utf8ByteSize_singleton, List.length_cons]
    have := c.utf8Size_pos
    omega

theorem length_le_escapeBytes (keep : UInt8 → Bool) (bytes : List UInt8) :
    bytes.length ≤ (escapeBytes keep bytes).length := by
  induction bytes with
  | nil => exact Nat.le_refl 0
  | cons b bytes ih =>
    have hbyte : 1 ≤ (escapeByte keep b).length := by
      unfold escapeByte
      split <;> simp
    show bytes.length + 1 ≤ (escapeByte keep b ++ escapeBytes keep bytes).length
    rw [List.length_append]
    omega

/-- Escaping shortens nothing. -/
theorem size_le_escape (keep : UInt8 → Bool) (text : String) :
    text.utf8ByteSize ≤ (escape keep text).utf8ByteSize := by
  have hsize : text.utf8ByteSize = text.toUTF8.data.toList.length := by simp
  rw [hsize]
  exact Nat.le_trans (length_le_escapeBytes keep _) (length_le_utf8ByteSize _)

end IosChrome.Lib.PercentEncoding
