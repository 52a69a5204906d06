import TaskOrchestrator.Core.Planning
import Mathlib.Algebra.Order.Ring.Rat
import Mathlib.Data.String.Basic

/-!
# The choice of an actor

A ranking profile compares two candidates criterion by criterion and then by the actor id. Each
criterion compares by a key, so the whole is a strict total order on candidates of different
actors, and the scan that keeps the best selection so far ends with the minimum of the order.
-/

namespace TaskOrchestrator.Core

open Library

set_option autoImplicit false

def ActorRankingProfile.compare (profile : ActorRankingProfile)
    (lhs rhs : RankedActorCandidate) : Ordering :=
  (compareCandidates lhs rhs profile).1

theorem transCmp_criterion (criterion : ActorRankingCriterion) :
    Std.TransCmp fun lhs rhs => criterion.compare lhs rhs := by
  cases criterion with
  | earliestFeasibleStart => exact transCmp_byKey RankedActorCandidate.startTime
  | earliestFeasibleCompletion => exact transCmp_byKey RankedActorCandidate.finishTime
  | distanceToWork => exact transCmp_byKey RankedActorCandidate.distanceToWork
  | executionCost => exact transCmp_byKey RankedActorCandidate.executionCost
  | uptimeUtilisation =>
    have hascending := transCmp_byKey RankedActorCandidate.uptimeUtilization
    exact @Std.TransCmp.opposite _ _ hascending
  | leastLoaded => exact transCmp_byKey RankedActorCandidate.actorLoad
  | preferredActor =>
    have hkey := transCmp_byKey fun candidate : RankedActorCandidate => !candidate.preferredActor
    have hsame : (fun lhs rhs : RankedActorCandidate =>
        ActorRankingCriterion.preferredActor.compare lhs rhs) =
        fun lhs rhs => compareOfLessAndEq (!lhs.preferredActor) (!rhs.preferredActor) := by
      funext lhs rhs
      unfold ActorRankingCriterion.compare
      cases lhs.preferredActor <;> cases rhs.preferredActor <;> rfl
    rw [hsame]
    exact hkey

theorem compareByCriteria_cons (lhs rhs : RankedActorCandidate) (idx : Nat)
    (criterion : ActorRankingCriterion) (rest : List ActorRankingCriterion) :
    (compareByCriteria lhs rhs idx (criterion :: rest)).1 =
      (criterion.compare lhs rhs).then (compareByCriteria lhs rhs (idx + 1) rest).1 := by
  rw [compareByCriteria]
  cases criterion.compare lhs rhs <;> rfl

theorem transCmp_criteria (idx : Nat) (criteria : List ActorRankingCriterion) :
    Std.TransCmp fun lhs rhs => (compareByCriteria lhs rhs idx criteria).1 := by
  induction criteria generalizing idx with
  | nil => exact transCmp_byKey RankedActorCandidate.actorId
  | cons criterion rest ih =>
    have hfirst := transCmp_criterion criterion
    have hrest := ih (idx + 1)
    have hlex : (fun lhs rhs => (compareByCriteria lhs rhs idx (criterion :: rest)).1) =
        compareLex (fun lhs rhs => criterion.compare lhs rhs)
          (fun lhs rhs => (compareByCriteria lhs rhs (idx + 1) rest).1) := by
      funext lhs rhs
      exact compareByCriteria_cons lhs rhs idx criterion rest
    rw [hlex]
    infer_instance

instance transCmp_profile (profile : ActorRankingProfile) : Std.TransCmp profile.compare :=
  transCmp_criteria 0 profile.criteria

theorem actorId_of_compareByCriteria {lhs rhs : RankedActorCandidate} {idx : Nat}
    {criteria : List ActorRankingCriterion} (h : (compareByCriteria lhs rhs idx criteria).1 = .eq) :
    lhs.actorId = rhs.actorId := by
  induction criteria generalizing idx with
  | nil =>
    simp only [compareByCriteria, compareOfLessAndEq] at h
    split_ifs at h with hlt heq
    exact heq
  | cons criterion rest ih =>
    rw [compareByCriteria_cons] at h
    exact ih (Ordering.then_eq_eq.mp h).2

section Scan

variable (registry : ActorRegistry) (state : WorkflowState) (now : Time) (task : PendingTask)
variable (reservations : ReservationTable) (completionTimes : CompletionTable)

/-- The selection when the actors are scanned in the given order. -/
def selectBestAmong (profile : ActorRankingProfile) (actorIds : List ActorId) :
    Option CandidateSelection :=
  match dependencyReadyTime task completionTimes with
  | none => none
  | some dependencyReady =>
    let earliestRelease := max (max now (effectiveReleaseTime task state)) dependencyReady
    actorIds.foldl (considerActor registry state profile task reservations earliestRelease) none

theorem selectBestCandidate_eq_among (profile : ActorRankingProfile) :
    selectBestCandidate registry state now profile task reservations completionTimes =
      selectBestAmong registry state now task reservations completionTimes profile
        registry.actorIds := rfl

/-- What the candidate is compared by, from the data of the task, of the actor and of its
reservations. -/
structure Measures (reservations : List ScheduledInterval) (actor : Actor)
    (candidate : RankedActorCandidate) :
    Prop where
  actorId : candidate.actorId = actor.id
  finishTime : candidate.finishTime = candidate.startTime + task.info.duration
  distanceToWork : candidate.distanceToWork = effectiveDistanceToWork task actor.id state
  executionCost : candidate.executionCost = actor.executionCostPerUnit * task.info.duration
  actorLoad : candidate.actorLoad = concurrentDemandAt reservations candidate.startTime
  uptimeUtilization : candidate.uptimeUtilization =
    (candidate.actorLoad : Rat) / (max actor.capacity 1 : Int)
  preferredActor : candidate.preferredActor = preferredActorForTask task actor.id state

structure Offers (dependencyReady : Time) (actor : Actor)
    (candidate : RankedActorCandidate) : Prop where
  registered : registry.get actor.id = some actor
  available : actor.id ∉ state.unavailableActors
  allowed : actorIsAllowed task actor state = true
  earliest : earliestStart actor (reservationsOf reservations actor.id)
    (max (max now (effectiveReleaseTime task state)) dependencyReady) task.info.duration
      task.info.demand =
      some candidate.startTime
  latestStart : ∀ latest ∈ task.info.latestStartTime, candidate.startTime ≤ latest
  deadline : ∀ deadline ∈ task.info.deadline, candidate.startTime + task.info.duration ≤ deadline
  measures : Measures state task (reservationsOf reservations actor.id) actor candidate

/-- The candidate of some feasible actor, once the dependencies are done. -/
def FeasibleCandidate (candidate : RankedActorCandidate) : Prop :=
  ∃ dependencyReady, dependencyReadyTime task completionTimes = some dependencyReady ∧
    ∃ actor, Offers registry state now task reservations dependencyReady actor candidate

variable {registry state now task reservations completionTimes}

theorem measures_iff {intervals : List ScheduledInterval} {actor : Actor}
    {candidate : RankedActorCandidate} :
    Measures state task intervals actor candidate ↔
      candidate = buildCandidate task actor candidate.startTime state intervals := by
  constructor
  · rintro ⟨hactor, hfinish, hdistance, hcost, hload, hutilization, hpreferred⟩
    cases candidate
    simp_all [buildCandidate]
  · intro h
    rw [h]
    exact ⟨rfl, rfl, rfl, rfl, rfl, rfl, rfl⟩

theorem Offers.built {dependencyReady : Time} {actor : Actor} {candidate : RankedActorCandidate}
    (h : Offers registry state now task reservations dependencyReady actor candidate) :
    candidate = buildCandidate task actor candidate.startTime state
      (reservationsOf reservations actor.id) :=
  measures_iff.mp h.measures

theorem actorCandidate_iff {dependencyReady : Time} {actorId : ActorId}
    {candidate : RankedActorCandidate} :
    actorCandidate registry state task reservations
        (max (max now (effectiveReleaseTime task state)) dependencyReady) actorId = some candidate ↔
      ∃ actor, actor.id = actorId ∧
      Offers registry state now task reservations dependencyReady actor candidate := by
  simp only [actorCandidate, Option.bind_eq_bind, Option.bind_eq_some_iff, Option.guard_eq_some',
    exists_const, Option.all_eq_true, decide_eq_true_eq, effectiveLatestStartTime]
  constructor
  · rintro ⟨havailable, actor, hactor, hallowed, start, hstart, hlatest, hdeadline, hcandidate⟩
    obtain rfl := Option.some.inj hcandidate
    have hid : actor.id = actorId := ActorRegistry.id_of_get hactor
    subst hid
    exact ⟨actor, rfl, hactor, havailable, hallowed, hstart, hlatest, hdeadline,
      measures_iff.mpr rfl⟩
  · rintro ⟨actor, rfl, h⟩
    exact ⟨h.available, actor, h.registered, h.allowed, candidate.startTime, h.earliest,
      h.latestStart, h.deadline, congrArg some h.built.symm⟩

theorem Offers.actorId {dependencyReady : Time} {actor : Actor} {candidate : RankedActorCandidate}
    (h : Offers registry state now task reservations dependencyReady actor candidate) :
    candidate.actorId = actor.id :=
  h.measures.actorId

/-- But for the index of the criterion, the scan is one that keeps the least candidate. -/
theorem foldl_considerActor (profile : ActorRankingProfile) (earliestRelease : Time)
    (actorIds : List ActorId) (best : Option CandidateSelection) :
    (actorIds.foldl
      (considerActor registry state profile task reservations earliestRelease) best).map
        CandidateSelection.candidate =
      (actorIds.filterMap (actorCandidate registry state task reservations earliestRelease)).foldl
        (keepLeast profile.compare) (best.map CandidateSelection.candidate) := by
  induction actorIds generalizing best with
  | nil => rfl
  | cons actorId rest ih =>
    rw [List.foldl_cons, ih]
    cases hcandidate : actorCandidate registry state task reservations earliestRelease actorId with
    | none =>
      rw [List.filterMap_cons_none hcandidate]
      simp only [considerActor, hcandidate]
    | some candidate =>
      rw [List.filterMap_cons_some hcandidate, List.foldl_cons]
      congr 1
      simp only [considerActor, hcandidate]
      cases best with
      | none => rfl
      | some previous =>
        dsimp only [Option.map_some]
        by_cases hless : profile.compare candidate previous.candidate = .lt
        · have hwinner : (compareCandidates candidate previous.candidate profile).1 = .lt := hless
          rw [if_pos hwinner, keepLeast, if_pos hless]
          rfl
        · have hloser : ¬ (compareCandidates candidate previous.candidate profile).1 = .lt := hless
          rw [if_neg hloser, keepLeast, if_neg hless]
          rfl

theorem mem_candidates_iff {actorIds : List ActorId} (hscan : actorIds.Perm registry.actorIds)
    {dependencyReady : Time} {candidate : RankedActorCandidate} :
    candidate ∈ actorIds.filterMap (actorCandidate registry state task reservations
        (max (max now (effectiveReleaseTime task state)) dependencyReady)) ↔
      ∃ actor, Offers registry state now task reservations dependencyReady actor candidate := by
  simp only [List.mem_filterMap, actorCandidate_iff]
  constructor
  · rintro ⟨actorId, -, actor, -, hoffers⟩
    exact ⟨actor, hoffers⟩
  · rintro ⟨actor, hoffers⟩
    exact ⟨actor.id, hscan.mem_iff.mpr (mem_actorIds hoffers.registered), actor, rfl, hoffers⟩

theorem Offers.eq_of_compare {profile : ActorRankingProfile} {dependencyReady : Time}
    {actor other : Actor} {lhs rhs : RankedActorCandidate}
    (hlhs : Offers registry state now task reservations dependencyReady actor lhs)
    (hrhs : Offers registry state now task reservations dependencyReady other rhs)
    (h : profile.compare lhs rhs = .eq) : lhs = rhs := by
  have hid : actor.id = other.id :=
    hlhs.actorId.symm.trans ((actorId_of_compareByCriteria h).trans hrhs.actorId)
  have hactor : some actor = some other := hlhs.registered.symm.trans (hid ▸ hrhs.registered)
  obtain rfl := Option.some.inj hactor
  have hstart : lhs.startTime = rhs.startTime :=
    Option.some.inj (hlhs.earliest.symm.trans hrhs.earliest)
  rw [hlhs.built, hrhs.built, hstart]

theorem FeasibleCandidate.offers {dependencyReady : Time}
    (hready : dependencyReadyTime task completionTimes = some dependencyReady)
    {candidate : RankedActorCandidate} :
    FeasibleCandidate registry state now task reservations completionTimes candidate ↔
      ∃ actor, Offers registry state now task reservations dependencyReady actor candidate := by
  constructor
  · rintro ⟨ready, hsome, hoffers⟩
    obtain rfl := Option.some.inj (hready.symm.trans hsome)
    exact hoffers
  · exact fun hoffers => ⟨dependencyReady, hready, hoffers⟩

theorem selectBestAmong_eq_some {profile : ActorRankingProfile} {actorIds : List ActorId}
    (hscan : actorIds.Perm registry.actorIds) {candidate : RankedActorCandidate} :
    (selectBestAmong registry state now task reservations completionTimes profile actorIds).map
        CandidateSelection.candidate = some candidate ↔
      IsFirst profile.compare
      (FeasibleCandidate registry state now task reservations completionTimes) candidate := by
  cases hready : dependencyReadyTime task completionTimes with
  | none =>
    simp only [selectBestAmong, hready, Option.map_none, reduceCtorEq, false_iff]
    rintro ⟨⟨dependencyReady, hsome, -⟩, -⟩
    exact absurd (hready.symm.trans hsome) (by simp)
  | some dependencyReady =>
    simp only [selectBestAmong, hready]
    rw [foldl_considerActor, Option.map_none, foldl_keepLeast_eq_some]
    · have hmem : (fun c => c ∈ actorIds.filterMap (actorCandidate registry state task reservations
          (max (max now (effectiveReleaseTime task state)) dependencyReady))) =
          FeasibleCandidate registry state now task reservations completionTimes := by
        funext c
        exact propext ((mem_candidates_iff hscan).trans (FeasibleCandidate.offers hready).symm)
      rw [hmem]
    · intro lhs hlhs rhs hrhs hcompare
      obtain ⟨actor, hactor⟩ := (mem_candidates_iff hscan).mp hlhs
      obtain ⟨other, hother⟩ := (mem_candidates_iff hscan).mp hrhs
      exact hactor.eq_of_compare hother hcompare

theorem selectBestAmong_eq_none {profile : ActorRankingProfile} {actorIds : List ActorId}
    (hscan : actorIds.Perm registry.actorIds) :
    selectBestAmong registry state now task reservations completionTimes profile actorIds = none ↔
      ∀ candidate, ¬ FeasibleCandidate registry state now task reservations completionTimes
        candidate := by
  cases hready : dependencyReadyTime task completionTimes with
  | none =>
    simp only [selectBestAmong, hready, true_iff]
    rintro candidate ⟨dependencyReady, hsome, -⟩
    exact absurd (hready.symm.trans hsome) (by simp)
  | some dependencyReady =>
    simp only [selectBestAmong, hready, FeasibleCandidate.offers hready, ← mem_candidates_iff hscan]
    rw [← Option.map_eq_none_iff (f := CandidateSelection.candidate), foldl_considerActor,
      Option.map_none, foldl_keepLeast_eq_none, List.eq_nil_iff_forall_not_mem]

end Scan

/-- The comparison of a profile is a strict total order on candidates of different actors, and what
is selected is its minimum among the feasible ones, in whatever order the actors are scanned. -/
theorem actor_choice_optimal (profile : ActorRankingProfile) :
    (∀ lhs rhs, (compareCandidates rhs lhs profile).1 =
      (compareCandidates lhs rhs profile).1.swap) ∧
    (∀ a b c, (compareCandidates a b profile).1 = .lt → (compareCandidates b c profile).1 = .lt →
      (compareCandidates a c profile).1 = .lt) ∧
    (∀ lhs rhs, lhs.actorId ≠ rhs.actorId →
      (compareCandidates lhs rhs profile).1 = .lt ∨ (compareCandidates rhs lhs profile).1 = .lt) ∧
    ∀ (registry : ActorRegistry) (state : WorkflowState) (now : Time) (task : PendingTask)
      (reservations : ReservationTable) (completionTimes : CompletionTable),
      (∀ candidate,
        (selectBestCandidate registry state now profile task reservations completionTimes).map
          CandidateSelection.candidate = some candidate ↔
        IsFirst profile.compare
        (FeasibleCandidate registry state now task reservations completionTimes) candidate) ∧
      (selectBestCandidate registry state now profile task reservations completionTimes = none ↔
        ∀ candidate, ¬ FeasibleCandidate registry state now task reservations completionTimes
        candidate) ∧
      ∀ actorIds : List ActorId, actorIds.Perm registry.actorIds →
        (selectBestAmong registry state now task reservations completionTimes profile actorIds).map
            CandidateSelection.candidate =
          (selectBestCandidate registry state now profile task reservations completionTimes).map
            CandidateSelection.candidate := by
  refine ⟨?_, ?_, ?_, ?_⟩
  · intro lhs rhs
    have hswap : profile.compare rhs lhs = (profile.compare lhs rhs).swap := Std.OrientedCmp.eq_swap
    exact hswap
  · intro a b c hab hbc
    have hlt : profile.compare a c = .lt := Std.TransCmp.lt_trans hab hbc
    exact hlt
  · intro lhs rhs hne
    cases hcompare : profile.compare lhs rhs with
    | lt => exact Or.inl hcompare
    | eq => exact absurd (actorId_of_compareByCriteria hcompare) hne
    | gt => exact Or.inr (Std.OrientedCmp.lt_of_gt hcompare)
  · intro registry state now task reservations completionTimes
    have hregistered : registry.actorIds.Perm registry.actorIds := List.Perm.refl _
    refine ⟨fun candidate => selectBestAmong_eq_some hregistered,
      selectBestAmong_eq_none hregistered, ?_⟩
    intro actorIds hscan
    apply Option.ext
    intro candidate
    rw [selectBestCandidate_eq_among, selectBestAmong_eq_some hscan,
      selectBestAmong_eq_some hregistered]

/-- Two actors, of which the second is free earlier. -/
def earlyAndLate : ActorRegistry :=
  (({} : ActorRegistry).add { id := "x", availabilityWindows := [{ start := 5, stop := 20 }] }).add
    { id := "y", availabilityWindows := [{ start := 0, stop := 20 }] }

def shortTask :
    PendingTask :=
  { info := { id := "a", phaseId := "phase", duration := 3, priority := 0 }, process := none }

def offerOf (actorId : ActorId) (start : Time) : RankedActorCandidate :=
  buildCandidate shortTask { id := actorId } start {} []

theorem actor_choice_optimal_reversed :
    (compareCandidates (offerOf "x" 1) (offerOf "z" 3) {}).1 = .lt ∧
    ((compareCandidates (offerOf "x" 1) (offerOf "y" 1) {}).1 = .lt ∨
      (compareCandidates (offerOf "y" 1) (offerOf "x" 1) {}).1 = .lt) ∧
    (selectBestAmong earlyAndLate {} 0 shortTask .empty .empty {} ["y", "x"]).map
      CandidateSelection.candidate =
      (selectBestCandidate earlyAndLate {} 0 {} shortTask .empty .empty).map
        CandidateSelection.candidate ∧
    (selectBestCandidate earlyAndLate {} 0 {} shortTask .empty .empty).map
      (fun s => s.candidate.actorId) = some "y" := by
  obtain ⟨-, htrans, htotal, hchoice⟩ := actor_choice_optimal {}
  have hfirst : (compareCandidates (offerOf "x" 1) (offerOf "y" 2) {}).1 = .lt := by decide
  have hsecond : (compareCandidates (offerOf "y" 2) (offerOf "z" 3) {}).1 = .lt := by decide
  refine ⟨htrans _ _ _ hfirst hsecond, htotal _ _ (by decide), ?_, by decide⟩
  exact (hchoice earlyAndLate {} 0 shortTask .empty .empty).2.2 ["y", "x"] (by decide)

end TaskOrchestrator.Core
