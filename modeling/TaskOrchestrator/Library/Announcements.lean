import TaskOrchestrator.Library.Pools

/-!
# Watching a pool

An observer looks at the state while the programs of a pool run. The programs write under keys and
announce afterwards what they wrote. What the observer has read under a key is what is there now,
once no program has an announcement to make about the key and the observer has seen all that were
made.
-/

namespace TaskOrchestrator.Library.Program

set_option autoImplicit false

variable {S T : Signature} {α β σ ω κ ι K : Type}

section Watched

variable [DecidableEq ι]

/-- A run of a pool with an observer, who looks at the state at any time and does not change it. -/
inductive Watched (H : Handler S σ) (observe : σ → ω → ω) :
    (ι → Program S α) → σ → ω → List (S.Op × σ) → (ι → Program S α) → σ → ω → Prop where
  | idle (ps : ι → Program S α) (s : σ) (o : ω) : Watched H observe ps s o [] ps s o
  | call {ps qs : ι → Program S α} {s t : σ} {o o' : ω} {log : List (S.Op × σ)} (i : ι) {op : S.Op}
      {k : S.Reply op → Program S α} : ps i = call op k →
      Watched H observe (Function.update ps i (k (H op s).1)) (H op s).2 o log qs t o' →
      Watched H observe ps s o ((op, (H op s).2) :: log) qs t o'
  | look {ps qs : ι → Program S α} {s t : σ} {o o' : ω} {log : List (S.Op × σ)} :
      Watched H observe ps s (observe s o) log qs t o' → Watched H observe ps s o log qs t o'

/-- Follow a schedule, in which `none` is the observer's turn. -/
def runWatched (H : Handler S σ) (observe : σ → ω → ω) :
    List (Option ι) → (ι → Program S α) → σ → ω →
      Option (List (S.Op × σ) × (ι → Program S α) × σ × ω)
  | [], ps, s, o => some ([], ps, s, o)
  | none :: rest, ps, s, o => runWatched H observe rest ps s (observe s o)
  | some i :: rest, ps, s, o =>
    match ps i with
    | ret _ => none
    | call op k =>
      (runWatched H observe rest (Function.update ps i (k (H op s).1)) (H op s).2 o).map fun r =>
        ((op, (H op s).2) :: r.1, r.2)

variable {H : Handler S σ} {observe : σ → ω → ω} {ps qs : ι → Program S α} {s t : σ} {o o' : ω}
  {log : List (S.Op × σ)}

theorem watched_of_runWatched {sched : List (Option ι)}
    (h : runWatched H observe sched ps s o = some (log, qs, t, o')) :
    Watched H observe ps s o log qs t o' := by
  induction sched generalizing ps s o log with
  | nil =>
    obtain ⟨rfl, rfl, rfl, rfl⟩ : [] = log ∧ ps = qs ∧ s = t ∧ o = o' := by
      simpa [runWatched] using h
    exact .idle ps s o
  | cons turn rest ih =>
    cases turn with
    | none => exact .look (ih h)
    | some i =>
      unfold runWatched at h
      split at h
      · exact absurd h (by simp)
      · rename_i op k hcall
        obtain ⟨⟨log', r⟩, hr, he⟩ := Option.map_eq_some_iff.mp h
        cases he
        exact .call i hcall (ih hr)

/-- A schedule that fits, and whose result passes a test, gives a run. -/
theorem exists_watched {sched : List (Option ι)}
    {P : List (S.Op × σ) × (ι → Program S α) × σ × ω → Prop} [DecidablePred P]
    (h : (runWatched H observe sched ps s o).any (fun r => P r) = true) :
    ∃ log qs t o', Watched H observe ps s o log qs t o' ∧ P (log, qs, t, o') := by
  cases hresult : runWatched H observe sched ps s o with
  | none => simp [hresult] at h
  | some r =>
    obtain ⟨log, qs, t, o'⟩ := r
    rw [hresult] at h
    exact ⟨log, qs, t, o', watched_of_runWatched hresult, by simpa using h⟩

theorem Watched.preserves (run : Watched H observe ps s o log qs t o') {M : ι → Monitor S κ}
    {Q : ι → α → κ → Prop} (Rel : List (S.Op × σ) → σ → (ι → κ) → ω → Prop)
    (step : ∀ log s k o i op, Rel log s k o → (M i).allows (k i) op → (M i).replies op (H op s).1 ∧
      Rel (log ++ [(op, (H op s).2)]) (H op s).2
      (Function.update k i ((M i).next (k i) op (H op s).1)) o)
    (look : ∀ log s k o, Rel log s k o → Rel log s k (observe s o))
    {k : ι → κ} (hobeys : ∀ j, Obeys (M j) (Q j) (k j) (ps j)) (before : List (S.Op × σ))
    (hrel : Rel before s k o) :
    ∃ k', Rel (before ++ log) t k' o' ∧ ∀ j, Obeys (M j) (Q j) (k' j) (qs j) := by
  induction run generalizing k before with
  | idle ps s o => exact ⟨k, by simpa using hrel, hobeys⟩
  | @call ps qs s t o o' log i op f hcall _ ih =>
    obtain ⟨hreply, hnext⟩ := step before s k o i op hrel (allows_of_obeys hcall hobeys)
    obtain ⟨k', hend, hobeys'⟩ := ih (obeys_update hcall hobeys hreply) _ hnext
    exact ⟨k', by simpa using hend, hobeys'⟩
  | look _ ih => exact ih hobeys before (look _ _ _ _ hrel)

end Watched

/-- The result of a program whose calls read one state. -/
def valueAt (look : (q : T.Op) → σ → T.Reply q) : Program T β → σ → β
  | ret b, _ => b
  | call q k, s => (k (look q s)).valueAt look s

@[simp] theorem valueAt_pure (look : (q : T.Op) → σ → T.Reply q) (b : β) (s : σ) :
    (pure b : Program T β).valueAt look s = b := rfl

@[simp] theorem valueAt_bind (look : (q : T.Op) → σ → T.Reply q) (p : Program T α)
    (f : α → Program T β) (s : σ) :
    (p >>= f).valueAt look s = (f (p.valueAt look s)).valueAt look s := by
  change (p.bind f).valueAt look s = _
  induction p with
  | ret a => rfl
  | call q k ih => exact ih (look q s)

@[simp] theorem valueAt_perform (look : (q : T.Op) → σ → T.Reply q) (q : T.Op) (s : σ) :
    (perform q).valueAt look s = look q s := rfl

/-- A party that makes only calls of one kind. -/
def reading (about : T.Op → Prop) : Monitor T Unit where
  allows _ q := about q
  replies _ _ := True
  next _ _ _ := ()

variable {look : (q : T.Op) → σ → T.Reply q}

theorem valueAt_congr {about : T.Op → Prop} {Q : β → Unit → Prop} {p : Program T β}
    (hp : Obeys (reading about) Q () p) {s t : σ} (h : ∀ q, about q → look q t = look q s) :
    p.valueAt look t = p.valueAt look s := by
  induction p with
  | ret b => rfl
  | call q k ih =>
    rw [valueAt, valueAt, h q hp.1]
    exact ih _ (hp.2 _ trivial)

/-- Which keys a call writes under and announces, and which key a read is about; `none` is about
all. -/
structure Announcing (H : Handler S σ) (look : (q : T.Op) → σ → T.Reply q) (covered : S.Op → Prop)
    (K : Type) where
  writes : S.Op → Option K
  announces : S.Op → Option K
  about : T.Op → Option K
  apart : ∀ op k, announces op = some k → writes op = none
  /-- A read does not see what is written under keys that it is not about. -/
  unseen : ∀ q op s, covered op → (∀ k, writes op = some k → about q ≠ none ∧ about q ≠ some k) →
    look q (H op s).2 = look q s

namespace Announcing

variable {H : Handler S σ} {covered : S.Op → Prop} (A : Announcing H look covered K)

def news (log : List (S.Op × σ)) : List K := log.filterMap fun entry => A.announces entry.1

theorem news_append (log log' : List (S.Op × σ)) :
    A.news (log ++ log') = A.news log ++ A.news log' :=
  List.filterMap_append

/-- No announcement about the key is still to be made or to be seen. -/
def Settled (about : Option K) (unannounced : ι → List K) (unseen : List K) : Prop :=
  ∀ k, about = none ∨ about = some k → (∀ i, k ∉ unannounced i) ∧ k ∉ unseen

theorem valueAt_step {Q : β → Unit → Prop} {p : Program T β} {about : Option K} {op : S.Op} {s : σ}
    (hp : Obeys (reading fun q => A.about q = about) Q () p) (hcovered : covered op)
    (hwrites : ∀ k, A.writes op = some k → about ≠ none ∧ about ≠ some k) :
    p.valueAt look (H op s).2 = p.valueAt look s := by
  apply valueAt_congr hp
  intro q hq
  apply A.unseen q op s hcovered
  rw [hq]
  exact hwrites

variable [DecidableEq K]

/-- What a program has written and not announced, after one of its calls. -/
def next (unannounced : List K) (op : S.Op) : List K :=
  match A.announces op with
  | some k => unannounced.filter fun other => other ≠ k
  | none => (A.writes op).toList ++ unannounced

variable [DecidableEq ι] {unannounced : ι → List K} {log : List (S.Op × σ)} {i : ι} {op : S.Op}
variable {s : σ} {seen : Nat}
  {about : Option K}

theorem settled_before (hseen : seen ≤ (A.news log).length)
    (h : Settled about (Function.update unannounced i (A.next (unannounced i) op))
      ((A.news (log ++ [(op, s)])).drop seen)) :
    Settled about unannounced ((A.news log).drop seen) ∧
      ∀ k, A.writes op = some k → about ≠ none ∧ about ≠ some k := by
  have hcases : ∀ k, about = none ∨ about = some k →
      ((∀ j, k ∉ unannounced j) ∧ k ∉ (A.news log).drop seen) ∧ A.writes op ≠ some k := by
    intro k hk
    obtain ⟨hdue, hunseen⟩ := h k hk
    have hown := hdue i
    rw [Function.update_self] at hown
    rw [A.news_append, List.drop_append_of_le_length hseen] at hunseen
    have hold : k ∉ (A.news log).drop seen := fun hmem => hunseen (List.mem_append_left _ hmem)
    have hothers : ∀ j, j ≠ i → k ∉ unannounced j := by
      intro j hj
      have hother := hdue j
      rwa [Function.update_of_ne hj] at hother
    unfold next at hown
    cases hannounce : A.announces op with
    | some k' =>
      have hne : k ≠ k' := by
        intro heq
        apply hunseen
        apply List.mem_append_right
        simp [news, hannounce, heq]
      refine ⟨⟨fun j => ?_, hold⟩, ?_⟩
      · by_cases hj : j = i
        · subst hj
          intro hmem
          rw [hannounce] at hown
          exact hown (List.mem_filter.mpr ⟨hmem, by simpa using hne⟩)
        · exact hothers j hj
      · rw [A.apart op k' hannounce]
        simp
    | none =>
      rw [hannounce] at hown
      refine ⟨⟨fun j => ?_, hold⟩, ?_⟩
      · by_cases hj : j = i
        · subst hj
          exact fun hmem => hown (List.mem_append_right _ hmem)
        · exact hothers j hj
      · intro hwrites
        apply hown
        rw [hwrites]
        exact List.mem_append_left _ List.mem_cons_self
  refine ⟨fun k hk => (hcases k hk).1, fun k hwrites => ⟨?_, ?_⟩⟩
  · exact fun hnone => (hcases k (Or.inl hnone)).2 hwrites
  · exact fun hsome => (hcases k (Or.inr hsome)).2 hwrites

end Announcing

end TaskOrchestrator.Library.Program
