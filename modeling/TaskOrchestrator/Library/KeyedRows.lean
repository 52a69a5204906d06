import Mathlib.Data.List.Induction
import Mathlib.Data.List.Nodup

/-!
# Tables with a primary key

A table is a list of rows in which no two rows have the same key. Uniqueness is a
field, so a table with two rows under one key cannot be built. `put` is an
insert-or-replace; `deleteWhere` is a filtered delete.
-/

namespace TaskOrchestrator.Library

set_option autoImplicit false

structure KeyedRows {ρ κ : Type} (key : ρ → κ) where
  rows : List ρ
  nodup : (rows.map key).Nodup

namespace KeyedRows

variable {ρ κ : Type} {key : ρ → κ}

def empty : KeyedRows key := ⟨[], List.nodup_nil⟩

theorem ext {t u : KeyedRows key} (h : t.rows = u.rows) : t = u := by
  cases t
  cases u
  simpa using h

def deleteWhere (t : KeyedRows key) (p : ρ → Bool) : KeyedRows key :=
  ⟨t.rows.filter fun r => !p r, t.nodup.sublist ((List.filter_sublist).map key)⟩

@[simp] theorem mem_deleteWhere (t : KeyedRows key) (p : ρ → Bool) (x : ρ) :
    x ∈ (t.deleteWhere p).rows ↔ x ∈ t.rows ∧ p x = false := by
  simp [deleteWhere]

variable [DecidableEq κ]

def get? (t : KeyedRows key) (k : κ) : Option ρ := t.rows.find? fun r => key r = k

/-- The rows after an insert-or-replace of `r`. -/
def putRows (key : ρ → κ) (r : ρ) (rows : List ρ) : List ρ :=
  if key r ∈ rows.map key then rows.map fun old => if key old = key r then r else old
  else rows ++ [r]

theorem map_key_replace (r : ρ) (rows : List ρ) :
    (rows.map fun old => if key old = key r then r else old).map key = rows.map key := by
  rw [List.map_map]
  apply List.map_congr_left
  intro old _
  simp only [Function.comp]
  split
  · rename_i h
    exact h.symm
  · rfl

theorem putRows_nodup (r : ρ) {rows : List ρ} (h : (rows.map key).Nodup) :
    ((putRows key r rows).map key).Nodup := by
  unfold putRows
  split
  · rwa [map_key_replace]
  · rename_i hnew
    rw [List.map_append, List.nodup_append]
    refine ⟨h, by simp, ?_⟩
    intro a ha b hb
    have hb' : b = key r := by simpa using hb
    rintro rfl
    exact hnew (hb' ▸ ha)

def put (t : KeyedRows key) (r : ρ) : KeyedRows key :=
  ⟨putRows key r t.rows, putRows_nodup r t.nodup⟩

theorem rows_put_new {t : KeyedRows key} {r : ρ} (hnew : key r ∉ t.rows.map key) :
    (t.put r).rows = t.rows ++ [r] :=
  if_neg hnew

theorem length_put_old {t : KeyedRows key} {r : ρ} (hold : key r ∈ t.rows.map key) :
    (t.put r).rows.length = t.rows.length := by
  change (putRows key r t.rows).length = _
  rw [putRows, if_pos hold, List.length_map]

@[simp] theorem get?_empty (k : κ) : (empty : KeyedRows key).get? k = none := rfl

theorem get?_eq_some_iff (t : KeyedRows key) (k : κ) (r : ρ) :
    t.get? k = some r ↔ r ∈ t.rows ∧ key r = k := by
  constructor
  · intro h
    exact ⟨List.mem_of_find?_eq_some h, by simpa using List.find?_some h⟩
  · rintro ⟨hmem, rfl⟩
    have hsome : (t.get? (key r)).isSome := by
      rw [get?, List.find?_isSome]
      exact ⟨r, hmem, by simp⟩
    obtain ⟨r', hr'⟩ := Option.isSome_iff_exists.mp hsome
    have hmem' : r' ∈ t.rows := List.mem_of_find?_eq_some hr'
    have hkey : key r' = key r := by simpa using List.find?_some hr'
    rw [hr', List.inj_on_of_nodup_map t.nodup hmem' hmem hkey]

theorem key_of_get? {t : KeyedRows key} {k : κ} {r : ρ} (h : t.get? k = some r) : key r = k :=
  ((get?_eq_some_iff t k r).mp h).2

theorem mem_putRows (r x : ρ) (rows : List ρ) :
    x ∈ putRows key r rows ↔ x = r ∨ (x ∈ rows ∧ key x ≠ key r) := by
  unfold putRows
  split
  · rename_i hmem
    obtain ⟨old, hold, hkey⟩ := List.mem_map.mp hmem
    rw [List.mem_map]
    constructor
    · rintro ⟨y, hy, rfl⟩
      split
      · exact Or.inl rfl
      · rename_i hne
        exact Or.inr ⟨hy, hne⟩
    · rintro (rfl | ⟨hx, hne⟩)
      · exact ⟨old, hold, by simp [hkey]⟩
      · exact ⟨x, hx, by simp [hne]⟩
  · rename_i hnew
    rw [List.mem_append, List.mem_singleton]
    constructor
    · rintro (hx | rfl)
      · refine Or.inr ⟨hx, fun he => hnew ?_⟩
        exact List.mem_map.mpr ⟨x, hx, he⟩
      · exact Or.inl rfl
    · rintro (rfl | ⟨hx, _⟩)
      · exact Or.inr rfl
      · exact Or.inl hx

theorem filter_putRows (p : κ → Bool) (r : ρ) (rows : List ρ) :
    (putRows key r rows).filter (fun x => p (key x)) =
      if p (key r) then putRows key r (rows.filter fun x => p (key x)) else rows.filter fun x =>
        p (key x) := by
  have hmem : p (key r) = true →
      (key r ∈ (rows.filter fun x => p (key x)).map key ↔ key r ∈ rows.map key) := by
    intro hp
    simp only [List.mem_map, List.mem_filter]
    constructor
    · rintro ⟨x, ⟨hx, -⟩, hkey⟩
      exact ⟨x, hx, hkey⟩
    · rintro ⟨x, hx, hkey⟩
      exact ⟨x, ⟨hx, by rw [hkey, hp]⟩, hkey⟩
  unfold putRows
  by_cases hold : key r ∈ rows.map key
  · have hkept : ((fun x => p (key x)) ∘ fun old => if key old = key r then r else old) = fun x =>
        p (key x) := by
      funext x
      dsimp only [Function.comp]
      split_ifs with h
      · rw [h]
      · rfl
    rw [if_pos hold, List.filter_map, hkept]
    by_cases hp : p (key r) = true
    · rw [if_pos hp, if_pos ((hmem hp).mpr hold)]
    · -- no selected row has the key
      rw [if_neg hp]
      have hsame : ∀ x ∈ rows.filter (fun x => p (key x)), (if key x = key r then r else x) =
          id x := by
        intro x hx
        apply if_neg
        intro hkey
        exact hp (hkey ▸ (List.mem_filter.mp hx).2)
      rw [List.map_congr_left hsame, List.map_id]
  · rw [if_neg hold, List.filter_append, List.filter_cons, List.filter_nil]
    by_cases hp : p (key r) = true
    · rw [if_pos hp, if_pos hp, if_neg fun hnew => hold ((hmem hp).mp hnew)]
    · rw [if_neg hp, if_neg hp, List.append_nil]

theorem mem_put (t : KeyedRows key) (r x : ρ) :
    x ∈ (t.put r).rows ↔ x = r ∨ (x ∈ t.rows ∧ key x ≠ key r) := mem_putRows r x t.rows

theorem get?_put_self {t : KeyedRows key} {r : ρ} {k : κ} (h : key r = k) :
    (t.put r).get? k = some r :=
  (get?_eq_some_iff _ _ _).mpr ⟨(mem_put t r r).mpr (Or.inl rfl), h⟩

theorem get?_put_of_ne (t : KeyedRows key) {r : ρ} {k : κ} (h : key r ≠ k) :
    (t.put r).get? k = t.get? k := by
  apply Option.ext
  intro x
  simp only [get?_eq_some_iff, mem_put]
  constructor
  · rintro ⟨rfl | ⟨hx, _⟩, hk⟩
    · exact absurd hk h
    · exact ⟨hx, hk⟩
  · rintro ⟨hx, rfl⟩
    exact ⟨Or.inr ⟨hx, fun he => h he.symm⟩, rfl⟩

theorem get?_put (t : KeyedRows key) (r : ρ) (k : κ) :
    (t.put r).get? k = if key r = k then some r else t.get? k := by
  split
  · rename_i h
    exact get?_put_self h
  · rename_i h
    exact get?_put_of_ne t h

end KeyedRows

/-- A finite map kept as key-value pairs. -/
abbrev Dictionary (κ ν : Type) := KeyedRows (Prod.fst : κ × ν → κ)

namespace Dictionary

variable {κ ν : Type} [DecidableEq κ]

def lookup (d : Dictionary κ ν) (k : κ) : Option ν := (d.get? k).map Prod.snd

def assign (d : Dictionary κ ν) (k : κ) (v : ν) : Dictionary κ ν := d.put (k, v)

@[simp] theorem lookup_empty (k : κ) : lookup (KeyedRows.empty : Dictionary κ ν) k = none := rfl

theorem mem_rows_iff (d : Dictionary κ ν) (k : κ) (v : ν) :
    (k, v) ∈ d.rows ↔ d.lookup k = some v := by
  unfold lookup
  rw [Option.map_eq_some_iff]
  constructor
  · intro hmem
    exact ⟨(k, v), (KeyedRows.get?_eq_some_iff d k (k, v)).mpr ⟨hmem, rfl⟩, rfl⟩
  · rintro ⟨⟨l, w⟩, hget, rfl⟩
    obtain ⟨hmem, rfl⟩ := (KeyedRows.get?_eq_some_iff d k (l, w)).mp hget
    exact hmem

theorem lookup_assign (d : Dictionary κ ν) (k l : κ) (v : ν) :
    (d.assign k v).lookup l = if k = l then some v else d.lookup l := by
  unfold lookup assign
  rw [KeyedRows.get?_put]
  split <;> rfl

theorem lookup_foldl_assign (d : Dictionary κ ν) (keys : List κ) (value : κ → ν) (l : κ) :
    (keys.foldl (fun d k => d.assign k (value k)) d).lookup l =
      if l ∈ keys then some (value l) else d.lookup l := by
  induction keys generalizing d with
  | nil => simp
  | cons k rest ih =>
    rw [List.foldl_cons, ih, lookup_assign]
    by_cases hrest : l ∈ rest
    · simp [hrest]
    · by_cases hk : k = l
      · simp [hk]
      · simp [hrest, hk, Ne.symm hk]

def erase (d : Dictionary κ ν) (k : κ) : Dictionary κ ν := d.deleteWhere fun entry => entry.1 = k

theorem lookup_erase (d : Dictionary κ ν) (k l : κ) :
    (d.erase k).lookup l = if k = l then none else d.lookup l := by
  unfold lookup
  split_ifs with hk
  · subst hk
    rw [Option.map_eq_none_iff, KeyedRows.get?, List.find?_eq_none]
    intro entry hentry
    simpa [erase] using ((KeyedRows.mem_deleteWhere _ _ _).mp hentry).2
  · congr 1
    apply Option.ext
    intro entry
    simp only [KeyedRows.get?_eq_some_iff, erase, KeyedRows.mem_deleteWhere,
      decide_eq_false_iff_not]
    constructor
    · rintro ⟨⟨hmem, -⟩, hkey⟩
      exact ⟨hmem, hkey⟩
    · rintro ⟨hmem, hkey⟩
      exact ⟨⟨hmem, fun heq => hk (heq.symm.trans hkey)⟩, hkey⟩

section Tabulate

variable {α : Type} (key : α → κ) (value : α → ν)

theorem lookup_foldl_assign_items (d : Dictionary κ ν) (items : List α) (k : κ) :
    (items.foldl (fun d a => d.assign (key a) (value a)) d).lookup k =
      ((items.reverse.find? fun a => key a = k).map value).or (d.lookup k) := by
  induction items generalizing d with
  | nil => simp
  | cons a rest ih =>
    rw [List.foldl_cons, ih, lookup_assign, List.reverse_cons, List.find?_append]
    cases rest.reverse.find? fun a => key a = k with
    | some b => simp
    | none =>
      by_cases hk : key a = k
      · simp [hk]
      · simp [hk]

/-- `emplace` leaves an entry that is there. -/
def emplace (d : Dictionary κ ν) (k : κ) (v : ν) : Dictionary κ ν :=
  if (d.lookup k).isSome then d else d.assign k v

theorem lookup_emplace (d : Dictionary κ ν) (k l : κ) (v : ν) :
    (d.emplace k v).lookup l = (d.lookup l).or (if k = l then some v else none) := by
  unfold emplace
  cases hd : d.lookup k with
  | none =>
    rw [Option.isSome_none, if_neg (by simp), lookup_assign]
    split_ifs with hk
    · subst hk
      simp [hd]
    · simp
  | some w =>
    rw [Option.isSome_some, if_pos rfl]
    split_ifs with hk
    · subst hk
      simp [hd]
    · simp

theorem lookup_foldl_emplace (d : Dictionary κ ν) (items : List α) (k : κ) :
    (items.foldl (fun d a => d.emplace (key a) (value a)) d).lookup k =
      (d.lookup k).or ((items.find? fun a => key a = k).map value) := by
  induction items generalizing d with
  | nil => simp
  | cons a rest ih =>
    rw [List.foldl_cons, ih, lookup_emplace]
    cases d.lookup k with
    | some w => simp
    | none =>
      by_cases hk : key a = k
      · simp [hk]
      · simp [hk]

theorem emplace_new (d : Dictionary κ ν) {k : κ} (v : ν) (hnew : k ∉ d.rows.map Prod.fst) :
    d.emplace k v = d.assign k v := by
  have hnone : d.lookup k = none := by
    rw [Option.eq_none_iff_forall_ne_some]
    intro w hw
    exact hnew (List.mem_map.mpr ⟨(k, w), (mem_rows_iff d k w).mpr hw, rfl⟩)
  rw [emplace, hnone]
  rfl

theorem rows_emplace_new (d : Dictionary κ ν) {k : κ} (v : ν) (hnew : k ∉ d.rows.map Prod.fst) :
    (d.emplace k v).rows = d.rows ++ [(k, v)] := by
  rw [emplace_new d v hnew]
  exact KeyedRows.rows_put_new hnew

theorem rows_foldl_emplace {rows : List (κ × ν)} (hnodup : (rows.map Prod.fst).Nodup) :
    (rows.foldl (fun d entry => emplace d entry.1 entry.2) KeyedRows.empty).rows = rows := by
  induction rows using List.reverseRecOn with
  | nil => rfl
  | append_singleton rest entry ih =>
    rw [List.map_append, List.nodup_append] at hnodup
    have hnew : entry.1 ∉ rest.map Prod.fst :=
      fun hmem => hnodup.2.2 entry.1 hmem entry.1 (by simp) rfl
    rw [List.foldl_append, List.foldl_cons, List.foldl_nil,
      rows_emplace_new _ _ (by rwa [ih hnodup.1]), ih hnodup.1]

def pushBack (d : Dictionary κ (List ν)) (k : κ) (v : ν) : Dictionary κ (List ν) :=
  d.assign k ((d.lookup k).getD [] ++ [v])

theorem lookup_foldl_pushBack (d : Dictionary κ (List ν)) (items : List α) (k : κ) :
    (items.foldl (fun d a => d.pushBack (key a) (value a)) d).lookup k =
      if (items.filter fun a => key a = k) = [] then d.lookup k
      else some ((d.lookup k).getD [] ++ (items.filter fun a => key a = k).map value) := by
  induction items generalizing d with
  | nil => simp
  | cons a rest ih =>
    rw [List.foldl_cons, ih, pushBack, lookup_assign, List.filter_cons]
    by_cases hk : key a = k
    · by_cases hrest : (rest.filter fun a => key a = k) = []
      · simp [hk, hrest]
      · simp [hk, hrest]
    · simp [hk]

theorem getD_lookup_foldl_pushBack (items : List α) (k : κ) :
    ((items.foldl (fun d a => pushBack d (key a) (value a)) KeyedRows.empty).lookup k).getD [] =
      (items.filter fun a => key a = k).map value := by
  rw [lookup_foldl_pushBack, lookup_empty]
  split_ifs with hnone
  · rw [hnone]
    rfl
  · rfl

end Tabulate

end Dictionary

end TaskOrchestrator.Library
