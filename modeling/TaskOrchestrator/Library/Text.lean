import Mathlib.Data.List.DropRight
import Mathlib.Data.Int.Basic

/-!
# Text as lists of characters

Reading a text by separators, without surrounding blanks and as decimal numbers, and writing it
so that it is read back. The separators and blanks are given by a test on the characters.
-/

namespace TaskOrchestrator.Library.Text

set_option autoImplicit false

section Pieces

variable {α : Type} (separates : α → Bool)

/-- The pieces of a text between separators. There is no piece after a separator at the end, as
when a stream is read up to a delimiter again and again. -/
def pieces : List α → List (List α)
  | [] => []
  | c :: rest =>
    if separates c then [] :: pieces rest
    else match pieces rest with
      | [] => [[c]]
      | first :: others => (c :: first) :: others

def words (text : List α) : List (List α) :=
  (pieces separates text).filter fun piece => !piece.isEmpty

variable {separates}

theorem pieces_append_separator {piece : List α} (hpiece : ∀ c ∈ piece, separates c = false) {d : α}
    (hd : separates d = true) (rest : List α) :
    pieces separates (piece ++ d :: rest) = piece :: pieces separates rest := by
  induction piece with
  | nil => simp [pieces, hd]
  | cons c piece ih =>
    have hc : separates c = false := hpiece c List.mem_cons_self
    have htail := ih fun x hx => hpiece x (List.mem_cons_of_mem _ hx)
    simp [pieces, hc, htail]

theorem pieces_of_no_separator {piece : List α} (hpiece : ∀ c ∈ piece, separates c = false)
    (hne : piece ≠ []) :
    pieces separates piece = [piece] := by
  induction piece with
  | nil => exact absurd rfl hne
  | cons c piece ih =>
    have hc : separates c = false := hpiece c List.mem_cons_self
    cases piece with
    | nil => simp [pieces, hc]
    | cons d piece =>
      have htail := ih (fun x hx => hpiece x (List.mem_cons_of_mem _ hx)) (by simp)
      rw [pieces, htail]
      simp [hc]

/-- The pieces are joined by one separator and read back. -/
theorem pieces_intercalate {d : α} (hd : separates d = true) {parts : List (List α)}
    (hparts : ∀ part ∈ parts, part ≠ [] ∧ ∀ c ∈ part, separates c = false) :
    pieces separates ([d].intercalate parts) = parts := by
  induction parts with
  | nil => simp [pieces, List.intercalate]
  | cons part rest ih =>
    obtain ⟨hne, hpart⟩ := hparts part List.mem_cons_self
    cases rest with
    | nil =>
      rw [List.intercalate_singleton, pieces_of_no_separator hpart hne]
    | cons next rest =>
      have hjoin : [d].intercalate (part :: next :: rest) = part ++
          d :: [d].intercalate (next :: rest) := by
        simp [List.intercalate_cons_cons]
      rw [hjoin, pieces_append_separator hpart hd, ih fun other hother =>
        hparts other (List.mem_cons_of_mem _ hother)]

theorem mem_intercalate {d c : α} {parts : List (List α)} (hc : c ∈ [d].intercalate parts) :
    c = d ∨ ∃ part ∈ parts, c ∈ part := by
  induction parts with
  | nil => exact absurd hc (by simp)
  | cons part rest ih =>
    cases rest with
    | nil =>
      rw [List.intercalate_singleton] at hc
      exact Or.inr ⟨part, List.mem_cons_self, hc⟩
    | cons next rest =>
      rw [List.intercalate_cons_cons, List.append_assoc, List.mem_append, List.mem_append] at hc
      rcases hc with hc | hc | hc
      · exact Or.inr ⟨part, List.mem_cons_self, hc⟩
      · exact Or.inl (List.mem_singleton.mp hc)
      · rcases ih hc with heq | ⟨other, hother, hmem⟩
        · exact Or.inl heq
        · exact Or.inr ⟨other, List.mem_cons_of_mem _ hother, hmem⟩

theorem intercalate_ne_nil {d : α} {part : List α} {rest : List (List α)} (hne : part ≠ []) :
    [d].intercalate (part :: rest) ≠ [] := by
  cases rest with
  | nil => rwa [List.intercalate_singleton]
  | cons next rest => simp

theorem getLast?_intercalate {d c : α} {parts : List (List α)} (hparts : ∀ part ∈ parts, part ≠ [])
    (hc : c ∈ ([d].intercalate parts).getLast?) : ∃ part ∈ parts, c ∈ part := by
  induction parts with
  | nil => exact absurd hc (by simp)
  | cons part rest ih =>
    cases rest with
    | nil =>
      rw [List.intercalate_singleton] at hc
      exact ⟨part, List.mem_cons_self, List.mem_of_mem_getLast? hc⟩
    | cons next rest =>
      have hnext : next ≠ [] := hparts next (by simp)
      rw [List.intercalate_cons_cons, List.getLast?_append_of_ne_nil _ (intercalate_ne_nil hnext)]
        at hc
      obtain ⟨other, hother, hmem⟩ := ih (fun x hx => hparts x (List.mem_cons_of_mem _ hx)) hc
      exact ⟨other, List.mem_cons_of_mem _ hother, hmem⟩

theorem words_intercalate {d : α} (hd : separates d = true) {parts : List (List α)}
    (hparts : ∀ part ∈ parts, part ≠ [] ∧ ∀ c ∈ part, separates c = false) :
    words separates ([d].intercalate parts) = parts := by
  rw [words, pieces_intercalate hd hparts, List.filter_eq_self]
  intro part hpart
  simp [(hparts part hpart).1]

theorem pieces_ne_nil {text : List α} (hne : text ≠ []) : pieces separates text ≠ [] := by
  cases text with
  | nil => exact absurd rfl hne
  | cons c rest =>
    rw [pieces]
    split_ifs
    · exact List.cons_ne_nil _ _
    · split <;> exact List.cons_ne_nil _ _

theorem pieces_append_cons {d : α} (hd : separates d = true) (text rest : List α) :
    pieces separates (text ++ d :: rest) = pieces separates (text ++ [d]) ++
      pieces separates rest := by
  induction text with
  | nil => simp [pieces, hd]
  | cons c text ih =>
    rw [List.cons_append, List.cons_append, pieces, pieces, ih]
    split_ifs
    · rfl
    · cases hpieces : pieces separates (text ++ [d]) with
      | nil => exact absurd hpieces (pieces_ne_nil (by simp))
      | cons first others => rfl

theorem words_double_separator {d : α} (hd : separates d = true) (text rest : List α) :
    words separates (text ++ d :: d :: rest) = words separates (text ++ d :: rest) := by
  have hempty : pieces separates (d :: rest) = [] :: pieces separates rest := by simp [pieces, hd]
  unfold words
  rw [pieces_append_cons hd text (d :: rest), pieces_append_cons hd text rest, hempty,
    List.filter_append, List.filter_append]
  rfl

end Pieces

section Trim

variable {α : Type} (blank : α → Bool)

def trim (text : List α) : List α := (text.dropWhile blank).rdropWhile blank

variable {blank}

theorem trim_eq_self {text : List α} (hfirst : ∀ c ∈ text.head?, blank c = false)
    (hlast : ∀ c ∈ text.getLast?, blank c = false) : trim blank text = text := by
  have hdrop : text.dropWhile blank = text := by
    cases text with
    | nil => rfl
    | cons c rest => simp [hfirst c rfl]
  rw [trim, hdrop, List.rdropWhile_eq_self_iff]
  intro hne hblank
  have hc := hlast _ (List.getLast?_eq_getLast_of_ne_nil hne)
  rw [hc] at hblank
  exact absurd hblank Bool.false_ne_true

theorem dropWhile_append_blank {left : List α} (hleft : ∀ c ∈ left, blank c = true)
    (text : List α) :
    (left ++ text).dropWhile blank = text.dropWhile blank := by
  induction left with
  | nil => rfl
  | cons c left ih =>
    rw [List.cons_append, List.dropWhile_cons_of_pos (hleft c List.mem_cons_self)]
    exact ih fun x hx => hleft x (List.mem_cons_of_mem _ hx)

theorem rdropWhile_append_blank {right : List α} (hright : ∀ c ∈ right, blank c = true)
    (text : List α) :
    (text ++ right).rdropWhile blank = text.rdropWhile blank := by
  have hreverse : ∀ c ∈ right.reverse, blank c = true :=
    fun c hc => hright c (List.mem_reverse.mp hc)
  rw [List.rdropWhile, List.reverse_append, dropWhile_append_blank hreverse, List.rdropWhile]

theorem dropWhile_append_of_not_blank {text : List α} (h : ∃ c ∈ text, blank c = false)
    (rest : List α) :
    (text ++ rest).dropWhile blank = text.dropWhile blank ++ rest := by
  obtain ⟨c, hc, hblank⟩ := h
  have hne : text.dropWhile blank ≠ [] := by
    intro hnil
    rw [List.dropWhile_eq_nil_iff.mp hnil c hc] at hblank
    exact absurd hblank (by decide)
  rw [List.dropWhile_append, if_neg (by simpa using hne)]

theorem rdropWhile_append_of_not_blank {text : List α} (h : ∃ c ∈ text, blank c = false)
    (front : List α) :
    (front ++ text).rdropWhile blank = front ++ text.rdropWhile blank := by
  have hreverse : ∃ c ∈ text.reverse, blank c = false := by simpa using h
  rw [List.rdropWhile, List.reverse_append, dropWhile_append_of_not_blank hreverse,
    List.reverse_append, List.reverse_reverse, List.rdropWhile]

theorem trim_pad {left right : List α} (hleft : ∀ c ∈ left, blank c = true)
    (hright : ∀ c ∈ right, blank c = true) (text : List α) :
    trim blank (left ++ text ++ right) = trim blank text := by
  rw [trim, trim, List.append_assoc, dropWhile_append_blank hleft]
  by_cases hblank : ∃ c ∈ text, blank c = false
  · rw [dropWhile_append_of_not_blank hblank, rdropWhile_append_blank hright]
  · have hall : ∀ c ∈ text, blank c = true := by simpa using hblank
    rw [dropWhile_append_blank hall, List.dropWhile_eq_nil_iff.mpr hright,
      List.dropWhile_eq_nil_iff.mpr hall]

/-- What stands between two parts that are not blank stays. -/
theorem trim_append {left right : List α} (hleft : ∃ c ∈ left, blank c = false)
    (hright : ∃ c ∈ right, blank c = false) (middle : List α) :
    trim blank (left ++ middle ++ right) = left.dropWhile blank ++ middle ++
      right.rdropWhile blank := by
  rw [trim, List.append_assoc, dropWhile_append_of_not_blank hleft, ← List.append_assoc,
    rdropWhile_append_of_not_blank hright]

theorem trim_of_no_blank {text : List α} (h : ∀ c ∈ text, blank c = false) :
    trim blank text = text :=
  trim_eq_self (fun c hc => h c (List.mem_of_mem_head? hc)) fun c hc =>
    h c (List.mem_of_mem_getLast? hc)

end Trim

/-- An optional sign and the digits after it; what follows them is not looked at. -/
def readInt (text : List Char) : Option Int :=
  let (negative, unsigned) := match text with
    | '-' :: rest => (true, rest)
    | '+' :: rest => (false, rest)
    | _ => (false, text)
  let digits := unsigned.takeWhile Char.isDigit
  if digits = [] then none
  else
    let magnitude : Int := Nat.ofDigitChars 10 digits 0
    some (if negative then -magnitude else magnitude)

def unsigned : List Char → List Char
  | '-' :: rest => rest
  | '+' :: rest => rest
  | text => text

def IsNumeral (text : List Char) (n : Int) : Prop :=
  readInt text = some n ∧ ∀ c ∈ unsigned text, c.isDigit = true

theorem head_of_unsigned {text : List Char} (h : ∀ c ∈ unsigned text, c.isDigit = true) :
    ∀ c ∈ text.head?, c = '-' ∨ c = '+' ∨ c.isDigit = true := by
  intro c hc
  cases text with
  | nil => exact absurd hc (by simp)
  | cons d rest =>
    obtain rfl : d = c := by simpa using hc
    by_cases hminus : d = '-'
    · exact Or.inl hminus
    · by_cases hplus : d = '+'
      · exact Or.inr (Or.inl hplus)
      · have hunsigned : unsigned (d :: rest) = d :: rest := by simp [unsigned, hminus, hplus]
        rw [hunsigned] at h
        exact Or.inr (Or.inr (h d List.mem_cons_self))

def writeInt : Int → List Char
  | .ofNat n => Nat.toDigits 10 n
  | .negSucc n => '-' :: Nat.toDigits 10 (n + 1)

theorem takeWhile_digits {digits rest : List Char} (hdigits : ∀ c ∈ digits, c.isDigit = true)
    (hrest : ∀ c ∈ rest.head?, c.isDigit = false) :
    (digits ++ rest).takeWhile Char.isDigit = digits := by
  rw [List.takeWhile_append_of_pos hdigits]
  cases rest with
  | nil => simp
  | cons c rest => simp [hrest c rfl]

theorem toDigits_isDigit (n : Nat) : ∀ c ∈ Nat.toDigits 10 n, c.isDigit = true :=
  fun _ hc => Nat.isDigit_of_mem_toDigits (by omega) (by omega) hc

theorem readInt_writeInt (n : Int) {rest : List Char}
    (hrest : ∀ c ∈ rest.head?, c.isDigit = false) :
    readInt (writeInt n ++ rest) = some n := by
  cases n with
  | ofNat n =>
    have hsign : ∀ c tail, Nat.toDigits 10 n = c :: tail → c ≠ '-' ∧ c ≠ '+' := by
      intro c tail heq
      have hc := toDigits_isDigit n c (heq ▸ List.mem_cons_self)
      constructor
      · rintro rfl
        exact absurd hc (by decide)
      · rintro rfl
        exact absurd hc (by decide)
    have hdigits := takeWhile_digits (toDigits_isDigit n) hrest
    have hvalue : Nat.ofDigitChars 10 (Nat.toDigits 10 n) 0 = n := Nat.ofDigitChars_ten_toDigits
    have hne : Nat.toDigits 10 n ≠ [] := Nat.toDigits_ne_nil
    rw [writeInt]
    cases hn : Nat.toDigits 10 n with
    | nil => exact absurd hn hne
    | cons c tail =>
      obtain ⟨hminus, hplus⟩ := hsign c tail hn
      rw [hn] at hdigits hvalue
      unfold readInt
      split
      rename_i negative unsigned heq
      rw [List.cons_append] at heq hdigits
      split at heq
      · rename_i htext
        exact absurd (List.cons.inj htext).1 hminus
      · rename_i htext
        exact absurd (List.cons.inj htext).1 hplus
      · obtain ⟨rfl, rfl⟩ := Prod.mk.inj heq
        simp [hdigits, hvalue]
  | negSucc n =>
    have hdigits := takeWhile_digits (toDigits_isDigit (n + 1)) hrest
    have hvalue : Nat.ofDigitChars 10 (Nat.toDigits 10 (n + 1)) 0 = n + 1 :=
      Nat.ofDigitChars_ten_toDigits
    have hne : Nat.toDigits 10 (n + 1) ≠ [] := Nat.toDigits_ne_nil
    rw [writeInt, List.cons_append, readInt]
    simp only [hdigits, hne, hvalue, if_true, if_false]
    rfl

end TaskOrchestrator.Library.Text
