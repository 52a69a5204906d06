import Mathlib.Tactic.IntervalCases
import Mathlib.Data.List.Basic

/-!
# Percent encoding

A byte is written as a percent sign and two hexadecimal digits. A text is encoded character by
character: the plain characters stand for themselves, the others are written byte by byte.
-/

namespace TaskOrchestrator.Library.Percent

set_option autoImplicit false

def hexDigit (n : Nat) : Char :=
  if n < 10 then Char.ofNat ('0'.toNat + n) else Char.ofNat ('A'.toNat + (n - 10))

def escape (b : UInt8) : List Char := ['%', hexDigit (b.toNat / 16), hexDigit (b.toNat % 16)]

theorem isAlphanum_hexDigit {n : Nat} (h : n < 16) : (hexDigit n).isAlphanum = true := by
  interval_cases n <;> rfl

theorem mem_escape {b : UInt8} {c : Char} (h : c ∈ escape b) : c = '%' ∨ c.isAlphanum = true := by
  have hb : b.toNat < 256 := b.toNat_lt
  rcases List.mem_cons.mp h with rfl | h
  · exact Or.inl rfl
  · refine Or.inr ?_
    rcases List.mem_cons.mp h with rfl | h
    · exact isAlphanum_hexDigit (by omega)
    · rw [List.mem_singleton] at h
      exact h ▸ isAlphanum_hexDigit (Nat.mod_lt _ (by decide))

section Encode

variable (plain : Char → Bool)

def encodeChar (c : Char) : List Char :=
  if plain c then [c] else (String.utf8EncodeChar c).flatMap escape

def encode (text : List Char) : List Char := text.flatMap (encodeChar plain)

variable {plain}

/-- A character that is not plain takes a percent sign and two digits at least. -/
theorem three_le_length_encodeChar {c : Char} (h : plain c = false) :
    3 ≤ (encodeChar plain c).length := by
  rw [encodeChar, h]
  cases hbytes : String.utf8EncodeChar c with
  | nil => exact absurd hbytes String.utf8EncodeChar_ne_nil
  | cons b rest =>
    have hlength : (escape b).length = 3 := rfl
    simp only [Bool.false_eq_true, if_false, List.flatMap_cons, List.length_append, hlength]
    omega

theorem one_le_length_encodeChar (c : Char) : 1 ≤ (encodeChar plain c).length := by
  cases h : plain c with
  | true => simp [encodeChar, h]
  | false => exact le_trans (by decide) (three_le_length_encodeChar h)

theorem length_le_length_encode (text : List Char) : text.length ≤ (encode plain text).length := by
  induction text with
  | nil => exact le_rfl
  | cons c rest ih =>
    have hc := @one_le_length_encodeChar plain c
    rw [encode, List.flatMap_cons, List.length_append, List.length_cons]
    exact (Nat.add_le_add hc ih).trans_eq' (Nat.add_comm _ _)

theorem encode_ne_nil {text : List Char} (h : text ≠ []) : encode plain text ≠ [] := by
  have hlength := @length_le_length_encode plain text
  intro hnil
  rw [hnil] at hlength
  exact h (List.eq_nil_of_length_eq_zero (Nat.le_zero.mp hlength))

theorem encode_eq_self_iff {text : List Char} :
    encode plain text = text ↔ ∀ c ∈ text, plain c = true := by
  induction text with
  | nil => simp [encode]
  | cons c rest ih =>
    cases h : plain c with
    | true =>
      have hencode : encode plain (c :: rest) = c :: encode plain rest := by
        simp [encode, encodeChar, h]
      simp [hencode, ih, h]
    | false =>
      refine iff_of_false (fun hself => ?_) fun hall => by simpa [h] using hall c List.mem_cons_self
      have hlength := congrArg List.length hself
      rw [encode, List.flatMap_cons, List.length_append, List.length_cons] at hlength
      have hc := three_le_length_encodeChar h
      have hrest := @length_le_length_encode plain rest
      rw [encode] at hrest
      omega

/-- An encoded text has no characters but plain ones, digits, letters and percent signs. -/
theorem mem_encode {text : List Char} {c : Char} (h : c ∈ encode plain text) :
    plain c = true ∨ c = '%' ∨ c.isAlphanum = true := by
  obtain ⟨d, -, hd⟩ := List.mem_flatMap.mp h
  rw [encodeChar] at hd
  split at hd
  · rename_i hplain
    rw [List.mem_singleton] at hd
    exact Or.inl (hd ▸ hplain)
  · obtain ⟨b, -, hb⟩ := List.mem_flatMap.mp hd
    exact Or.inr (mem_escape hb)

end Encode

end TaskOrchestrator.Library.Percent
