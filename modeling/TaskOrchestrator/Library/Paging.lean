import Mathlib.Data.List.Infix

/-!
# Answers in pages

An answer is fetched page by page: each page comes with the token of the next one, and one token
stands for the end. A server that reads one row more than a page has knows whether there is a next
page.
-/

namespace TaskOrchestrator.Library.Paging

set_option autoImplicit false

variable {τ α : Type}

section Follow

variable (rows : τ → List α) (next : τ → τ) (last : τ)

/-- The pages from a token on, until the token of the end comes back. -/
inductive Follows : τ → List (List α) → Prop
  | finished {token : τ} (h : next token = last) : Follows token [rows token]
  | more {token : τ} {rest : List (List α)} (h : next token ≠ last)
    (hrest : Follows (next token) rest) :
      Follows token (rows token :: rest)

variable {rows next last}

theorem Follows.unique {token : τ} {pages others : List (List α)}
    (h : Follows rows next last token pages) (hother : Follows rows next last token others) :
    pages = others := by
  induction h generalizing others with
  | finished hlast =>
    cases hother with
    | finished _ => rfl
    | more hnot _ => exact absurd hlast hnot
  | more hnot _ ih =>
    cases hother with
    | finished hlast => exact absurd hlast hnot
    | more _ hrest => rw [ih hrest]

end Follow

/-- A server of pages of a list: a token stands for an offset into it, and the offset behind a page
is encoded when there is a row at it. -/
structure Serves (list : List α) (size : Nat) (offset : τ → Nat) (encode : Nat → τ) (last : τ)
    (rows : τ → List α) (next : τ → τ) : Prop where
  rows_eq : ∀ token, offset token ≤ list.length → rows token = (list.drop (offset token)).take size
  next_eq : ∀ token, offset token ≤ list.length →
    next token = if offset token + size < list.length then encode (offset token + size) else last
  offset_encode : ∀ k, k < list.length → offset (encode k) = k
  encode_ne : ∀ k, encode k ≠ last

theorem Serves.follows {list : List α} {size : Nat} {offset : τ → Nat} {encode : Nat → τ} {last : τ}
    {rows : τ → List α} {next : τ → τ} (h : Serves list size offset encode last rows next)
    (hsize : 0 < size) (token : τ) (htoken : offset token ≤ list.length) :
    ∃ pages, Follows rows next last token pages ∧ pages.flatten = list.drop (offset token) := by
  -- Each page moves the offset forward.
  induction hleft : list.length - offset token using Nat.strong_induction_on generalizing token with
  | _ left ih =>
    have hrows := h.rows_eq token htoken
    have hnext := h.next_eq token htoken
    by_cases hmore : offset token + size < list.length
    · rw [if_pos hmore] at hnext
      have hoffset : offset (next token) = offset token + size := by
        rw [hnext, h.offset_encode _ hmore]
      obtain ⟨pages, hpages, hflatten⟩ :=
        ih (list.length - offset (next token)) (by omega) (next token) (by omega) rfl
      have hnot : next token ≠ last := by
        rw [hnext]
        exact h.encode_ne _
      refine ⟨rows token :: pages, .more hnot hpages, ?_⟩
      rw [List.flatten_cons, hflatten, hrows, hoffset, ← List.drop_drop, List.take_append_drop]
    · rw [if_neg hmore] at hnext
      refine ⟨[rows token], .finished hnext, ?_⟩
      rw [List.flatten_cons, List.flatten_nil, List.append_nil, hrows, List.take_of_length_le]
      rw [List.length_drop]
      omega

end TaskOrchestrator.Library.Paging
