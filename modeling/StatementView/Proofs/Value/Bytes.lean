import Mathlib.Data.List.Basic
import StatementView.Proofs.Text.Utf8
import StatementView.Value.Literal

namespace StatementView

namespace Text

def upperDigits : Text := "0123456789ABCDEF".toList

theorem upperHexDigit_eq_getD : ∀ n < 16, upperHexDigit n = upperDigits.getD n '0' := by decide

theorem hexValue?_upperHexDigit : ∀ n < 16, hexValue? (upperHexDigit n) = some n := by decide

theorem upperHex_eq_flatMap (bytes : List UInt8) :
    upperHex bytes = bytes.flatMap fun b ↦
      [upperDigits.getD (b.toNat / 16) '0', upperDigits.getD (b.toNat % 16) '0'] := by
  refine List.flatMap_congr fun b _ ↦ ?_
  have hb := b.toNat_lt
  rw [upperHexDigit_eq_getD _ (by omega), upperHexDigit_eq_getD _ (by omega)]

theorem ofHex?_upperHex (bytes : List UInt8) : ofHex? (upperHex bytes) = some bytes := by
  induction bytes with
  | nil => rfl
  | cons b bytes ih =>
    have hb := b.toNat_lt
    have hcons : upperHex (b :: bytes) = upperHexDigit (b.toNat / 16) ::
        upperHexDigit (b.toNat % 16) :: upperHex bytes := rfl
    have hdiv : 16 * (b.toNat / 16) + b.toNat % 16 = b.toNat := Nat.div_add_mod b.toNat 16
    rw [hcons, ofHex?, hexValue?_upperHexDigit _ (by omega), hexValue?_upperHexDigit _ (by omega),
      ih]
    change some (UInt8.ofNat (16 * (b.toNat / 16) + b.toNat % 16) :: bytes) = some (b :: bytes)
    rw [hdiv, UInt8.ofNat_toNat]

end Text

namespace Literal

/-- The bytes that a literal of bytes stands for: those of the text between the quotes, or those
that are written in hexadecimal. -/
def bytes? : Text → Option (List UInt8)
  | '\'' :: t => some (Text.encode (unescape t.dropLast))
  | '0' :: 'x' :: digits => Text.ofHex? digits
  | _ => none

theorem bytes?_quoted (t : Text) : bytes? (quoted t) = some (Text.encode t) := by
  rw [quoted, List.cons_append, bytes?, List.dropLast_concat, unescape_escape]

theorem bytes?_hex (bytes : List UInt8) : bytes? (hex bytes) = some bytes := by
  rw [hex, bytes?, Text.ofHex?_upperHex]

end Literal

namespace Value

theorem literal_bytes_of_encode (t : Text) :
    (bytes (Text.encode t)).literal = (text t).literal := by
  rw [literal, literal]
  unfold bytesLiteral
  rw [Text.decode?_encode]

theorem literal_bytes_of_ne {raw : List UInt8} (h : ∀ t, raw ≠ Text.encode t) :
    (bytes raw).literal = Literal.hex raw := by
  have hnone : Text.decode? raw = none :=
    Option.eq_none_iff_forall_ne_some.mpr fun t ht ↦ h t (Text.decode?_eq_some_iff.mp ht)
  rw [literal]
  unfold bytesLiteral
  rw [hnone]

theorem bytes?_literal (raw : List UInt8) : Literal.bytes? (bytes raw).literal = some raw := by
  by_cases h : ∃ t, raw = Text.encode t
  · obtain ⟨t, rfl⟩ := h
    rw [literal_bytes_of_encode, literal, Literal.bytes?_quoted]
  · rw [literal_bytes_of_ne fun t ht ↦ h ⟨t, ht⟩, Literal.bytes?_hex]

/-- Bytes that are a text have the literal of that text, and all others two upper-case digits for
each byte. The bytes can be read back from their literal, so different bytes have different ones. -/
theorem literal_bytes_lossless (raw : List UInt8) :
    (∀ t, raw = Text.encode t → (bytes raw).literal = (text t).literal) ∧
      ((∀ t, raw ≠ Text.encode t) → (bytes raw).literal =
        '0' :: 'x' :: raw.flatMap fun b ↦
          [Text.upperDigits.getD (b.toNat / 16) '0', Text.upperDigits.getD (b.toNat % 16) '0']) ∧
      Literal.bytes? (bytes raw).literal = some raw ∧
      ∀ raw', raw ≠ raw' → (bytes raw).literal ≠ (bytes raw').literal := by
  refine ⟨?_, ?_, bytes?_literal raw, ?_⟩
  · intro t ht
    rw [ht, literal_bytes_of_encode]
  · intro h
    rw [literal_bytes_of_ne h, Literal.hex, Text.upperHex_eq_flatMap]
  · intro raw' hne h
    have hread := bytes?_literal raw
    rw [h, bytes?_literal] at hread
    exact hne (Option.some.inj hread).symm

theorem literal_bytes_lossless_surrogate :
    [0xC3, 0xA9] = Text.encode ['é'] ∧ (bytes [0xC3, 0xA9]).literal = (text ['é']).literal ∧
      (∀ t, [0xED, 0xA0, 0x80] ≠ Text.encode t) ∧
      (bytes [0xED, 0xA0, 0x80]).literal = "0xEDA080".toList ∧
      (bytes [0xC3, 0xA9]).literal ≠ (bytes [0xED, 0xA0, 0x80]).literal := by
  have hletter : [0xC3, 0xA9] = Text.encode ['é'] := by decide
  have hnone : Text.decode? [0xED, 0xA0, 0x80] = none := by
    rw [Text.decode?, Text.scan, List.mapM_cons]
    rfl
  have hsurrogate : ∀ t, [0xED, 0xA0, 0x80] ≠ Text.encode t := by
    intro t ht
    cases hnone.symm.trans (Text.decode?_eq_some_iff.mpr ht)
  obtain ⟨htext, -, -, hne⟩ := literal_bytes_lossless [0xC3, 0xA9]
  obtain ⟨-, hhex, -, -⟩ := literal_bytes_lossless [0xED, 0xA0, 0x80]
  exact ⟨hletter, htext _ hletter, hsurrogate, hhex hsurrogate, hne _ (by decide)⟩

end Value

end StatementView
