import CodeAtlas.Document.Uri
import CodeAtlas.Proofs.Text.Utf8

namespace CodeAtlas.Document

open Text

def isPlainChar (c : Char) : Bool := isUnreserved c || c == '/'

def isAddressChar (c : Char) : Bool := isPlainChar c || c == '%'

theorem escapeByte_plain {b : UInt8} (h : isPlainChar (Char.ofNat b.toNat) = true) :
    escapeByte b = [Char.ofNat b.toNat] := if_pos h

theorem escapeByte_hex {b : UInt8} (h : ¬ isPlainChar (Char.ofNat b.toNat) = true) :
    escapeByte b = ['%', upperHex (b.toNat / 16), upperHex (b.toNat % 16)] := if_neg h

theorem isPlainChar_upperHex : ∀ n < 16, isPlainChar (upperHex n) = true := by decide

theorem isAddressChar_of_mem_escapeByte {b : UInt8} {c : Char} (h : c ∈ escapeByte b) :
    isAddressChar c = true := by
  have hb : b.toNat < 256 := b.toNat_lt
  have hhex {n : Nat} (hn : n < 16) : isAddressChar (upperHex n) = true := by
    simp only [isAddressChar, isPlainChar_upperHex n hn, Bool.true_or]
  by_cases hplain : isPlainChar (Char.ofNat b.toNat) = true
  · rw [escapeByte_plain hplain, List.mem_singleton] at h
    simp only [h, isAddressChar, hplain, Bool.true_or]
  · rw [escapeByte_hex hplain] at h
    simp only [List.mem_cons, List.not_mem_nil, or_false] at h
    obtain rfl | rfl | rfl := h
    · rfl
    · exact hhex (by omega)
    · exact hhex (by omega)

theorem isAddressChar_of_mem {text : List Char} {c : Char} (h : c ∈ percentEncode text) :
    isAddressChar c = true := by
  obtain ⟨b, -, hc⟩ := List.mem_flatMap.mp h
  exact isAddressChar_of_mem_escapeByte hc

theorem isPlainChar_ascii {c : Char} (h : isPlainChar c = true) : c.toNat < 128 := by
  have hv : c.toNat = c.val.toNat := rfl
  simp only [isPlainChar, isUnreserved, isAsciiLetter, isAsciiDigit, Bool.or_eq_true,
    Bool.and_eq_true, decide_eq_true_eq, beq_iff_eq, Char.le_def, UInt32.le_iff_toNat_le] at h
  rcases h with (((((h | h) | rfl) | rfl) | rfl) | rfl) | rfl
  · have hletter : c.val.toNat ≤ 122 ∨ c.val.toNat ≤ 90 := h.imp And.right And.right
    omega
  · have hdigit : c.val.toNat ≤ 57 := h.2
    omega
  all_goals decide

theorem hexByte?_upperHex (b : UInt8) :
    hexByte? (upperHex (b.toNat / 16)) (upperHex (b.toNat % 16)) = some b := by
  have hdigit : ∀ n < 16, Json.Reader.hexValue? (upperHex n) = some n := by decide
  have hb : b.toNat < 256 := b.toNat_lt
  have hback : b.toNat / 16 * 16 + b.toNat % 16 = b.toNat := by omega
  rw [hexByte?, hdigit _ (by omega), hdigit _ (by omega)]
  simp only [bind, Option.bind, pure, hback, UInt8.ofNat_toNat]

theorem percentDecodeFrom_plain {c : Char} (h : isPlainChar c = true) (pending : List UInt8)
    (rest : List Char) :
    percentDecodeFrom pending (c :: rest) =
      percentDecodeFrom (pending ++ [UInt8.ofNat c.toNat]) rest := by
  rw [percentDecodeFrom, if_pos (isPlainChar_ascii h)]
  rintro a b more rfl
  exact absurd h (by decide)

theorem percentDecodeFrom_escapeByte (pending : List UInt8) (b : UInt8) (rest : List Char) :
    percentDecodeFrom pending (escapeByte b ++ rest) = percentDecodeFrom (pending ++ [b]) rest := by
  by_cases hplain : isPlainChar (Char.ofNat b.toNat) = true
  · have hb : b.toNat < 256 := b.toNat_lt
    have hcode : (Char.ofNat b.toNat).toNat = b.toNat := by
      rw [Char.ofNat, dif_pos (Or.inl (by omega))]
      rfl
    rw [escapeByte_plain hplain, List.singleton_append, percentDecodeFrom_plain hplain, hcode,
      UInt8.ofNat_toNat]
  · rw [escapeByte_hex hplain]
    simp only [List.cons_append, List.nil_append, percentDecodeFrom, hexByte?_upperHex]

theorem percentDecodeFrom_escaped (pending bytes : List UInt8) :
    percentDecodeFrom pending (bytes.flatMap escapeByte) = Utf8.decodeLossy (pending ++ bytes) := by
  induction bytes generalizing pending with
  | nil => rw [List.flatMap_nil, percentDecodeFrom, List.append_nil]
  | cons b bytes ih =>
      rw [List.flatMap_cons, percentDecodeFrom_escapeByte, ih, List.append_assoc,
        List.singleton_append]

theorem percentDecode_percentEncode (text : List Char) :
    percentDecode (percentEncode text) = text := by
  rw [percentDecode, percentEncode, percentDecodeFrom_escaped, List.nil_append,
    Utf8.decodeLossy_encode]

end CodeAtlas.Document
