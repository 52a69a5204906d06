import Mathlib.Data.List.Basic
import Mathlib.Tactic.Common

/-!
# Dot segments of a URL path

A URL parser takes the path apart at its slashes. A segment of one dot is left out, and one of two
dots takes the segment before it away. A dot may be written as a percent code.
-/

namespace TaskOrchestrator.Library.UrlPath

set_option autoImplicit false

def dots : List (List Char) := [".".toList, "%2e".toList, "%2E".toList]

def doubleDots : List (List Char) :=
  dots.flatMap fun first => dots.map fun second => first ++ second

def isSingleDot (segment : List Char) : Bool := segment ∈ dots

def isDoubleDot (segment : List Char) : Bool := segment ∈ doubleDots

def isDot (segment : List Char) : Bool := segment ∈ dots ++ doubleDots

/-- The segments before these are given last first. A dot segment at the end leaves an empty one. -/
def resolveSegments : List (List Char) → List (List Char) → List (List Char)
  | done, [] => done.reverse
  | done, [last] =>
    if isDoubleDot last then done.tail.reverse ++ [[]]
    else if isSingleDot last then done.reverse ++ [[]]
    else done.reverse ++ [last]
  | done, segment :: rest =>
    if isDoubleDot segment then resolveSegments done.tail rest
    else if isSingleDot segment then resolveSegments done rest
    else resolveSegments (segment :: done) rest

def join (segments : List (List Char)) : List Char := segments.flatMap fun segment => '/' :: segment

/-- The path that is sent for one that starts with a slash. -/
def resolve (path : List Char) : List Char := join (resolveSegments [] (path.splitOn '/').tail)

theorem join_eq_intercalate (segments : List (List Char)) :
    join segments = ['/'].intercalate ([] :: segments) := by
  have hafter : ∀ first : List Char,
      first ++ join segments = ['/'].intercalate (first :: segments) := by
    induction segments with
    | nil => simp [join, List.intercalate]
    | cons segment rest ih =>
      intro first
      have hrest := ih segment
      rw [join, List.flatMap_cons, List.cons_append, ← join, hrest, List.intercalate_cons_cons]
      simp
  exact hafter []

theorem resolve_join {segments : List (List Char)} (h : ∀ segment ∈ segments, '/' ∉ segment) :
    resolve (join segments) = join (resolveSegments [] segments) := by
  have hslash : ∀ segment ∈ [] :: segments, '/' ∉ segment := by
    intro segment hsegment
    rcases List.mem_cons.mp hsegment with rfl | hsegment
    · exact List.not_mem_nil
    · exact h segment hsegment
  have hsplit : (join segments).splitOn '/' = [] :: segments := by
    rw [join_eq_intercalate]
    exact List.splitOn_intercalate _ hslash (List.cons_ne_nil _ _)
  rw [resolve, hsplit, List.tail_cons]

theorem isDot_eq (segment : List Char) :
    isDot segment = (isSingleDot segment || isDoubleDot segment) := by
  simp [isDot, isSingleDot, isDoubleDot]

theorem resolveSegments_cons {segment : List Char} (h : isDot segment = false)
    (done rest : List (List Char)) :
    resolveSegments done (segment :: rest) = resolveSegments (segment :: done) rest := by
  rw [isDot_eq, Bool.or_eq_false_iff] at h
  obtain ⟨hsingle, hdouble⟩ := h
  cases rest with
  | nil => simp [resolveSegments, hsingle, hdouble]
  | cons next rest => simp [resolveSegments, hsingle, hdouble]

theorem resolveSegments_single {segment : List Char} (h : isSingleDot segment = true)
    (done : List (List Char)) (next : List Char) (rest : List (List Char)) :
    resolveSegments done (segment :: next :: rest) = resolveSegments done (next :: rest) := by
  have hsingle : ∀ dot ∈ dots, isDoubleDot dot = false := by decide
  simp [resolveSegments, h, hsingle segment (of_decide_eq_true h)]

theorem resolveSegments_double {segment : List Char} (h : isDoubleDot segment = true)
    (done : List (List Char)) (next : List Char) (rest : List (List Char)) :
    resolveSegments done (segment :: next :: rest) = resolveSegments done.tail (next :: rest) := by
  simp [resolveSegments, h]

theorem resolveSegments_eq_self {segments : List (List Char)}
    (h : ∀ segment ∈ segments, isDot segment = false) (done : List (List Char)) :
    resolveSegments done segments = done.reverse ++ segments := by
  induction segments generalizing done with
  | nil => simp [resolveSegments]
  | cons segment rest ih =>
    rw [resolveSegments_cons (h segment List.mem_cons_self),
      ih (fun other hother => h other (List.mem_cons_of_mem _ hother)), List.reverse_cons,
        List.append_assoc]
    rfl

theorem mem_of_isDot {segment : List Char} (h : isDot segment = true) :
    segment ⊆ "%2eE.".toList := by
  have hall : ∀ dot ∈ dots ++ doubleDots, dot ⊆ "%2eE.".toList := by decide
  exact hall segment (of_decide_eq_true h)

end TaskOrchestrator.Library.UrlPath
