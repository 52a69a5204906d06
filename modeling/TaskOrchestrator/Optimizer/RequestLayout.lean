import TaskOrchestrator.Optimizer.RequestLines
import Mathlib.Logic.Relation

/-!
# The layout of a request

Blank lines, comments, headers, indentation, bullets, repeated spaces and the place of a line among
lines of other kinds do not change what a request says. The exception is the second bullet: only
one is taken off a line.
-/

namespace TaskOrchestrator.Optimizer

open Library TaskOrchestrator.Core

set_option autoImplicit false

/-- Blank lines, comments and section headers. -/
def IsLayoutLine (line : List Char) : Prop :=
  trim line = [] ∨ "#".toList.isPrefixOf (trim line) ∨ isSectionLine (trim line) kActorsSection ∨
    isSectionLine (trim line) kTasksSection

def isTitleLine (line : List Char) : Bool := (readLine line).title?.isSome

def isActorLine (line : List Char) : Bool := (readLine line).actor?.isSome

def isTaskLine (line : List Char) : Bool := (readLine line).task?.isSome

def IsDeclaration (line : List Char) : Prop := isActorLine line = true ∨ isTaskLine line = true

def NoBullet (line : List Char) : Prop := kLineItemPrefix.isPrefixOf (trim line) = false

/-- One change of layout, on the lines of a text; it is also undone. The lines that a bullet is put
on are declarations of which `MayHaveBullet` holds. -/
inductive LayoutStep (MayHaveBullet : List Char → Prop) : List (List Char) → List (List Char) → Prop
  | insert (above below : List (List Char)) (line : List Char) (h : IsLayoutLine line) :
      LayoutStep MayHaveBullet (above ++ below) (above ++ line :: below)
  | pad (above below : List (List Char)) (left line right : List Char)
    (hleft : ∀ c ∈ left, isSpace c = true)
      (hright : ∀ c ∈ right, isSpace c = true) :
      LayoutStep MayHaveBullet (above ++ line :: below) (above ++ (left ++ line ++ right) :: below)
  | bullet (above below : List (List Char)) (indent text : List Char)
    (hindent : ∀ c ∈ indent, isSpace c = true)
      (hdeclaration : IsDeclaration (indent ++ text)) (hbullet : MayHaveBullet (indent ++ text)) :
      LayoutStep MayHaveBullet (above ++ (indent ++ text) :: below)
        (above ++ (indent ++ kLineItemPrefix ++ text) :: below)
  | space (above below : List (List Char)) (front back : List Char)
    (hdeclaration : IsDeclaration (front ++ ' ' :: back)) :
      LayoutStep MayHaveBullet (above ++ (front ++ ' ' :: back) :: below)
        (above ++ (front ++ ' ' :: ' ' :: back) :: below)
  | reorder (lines lines' : List (List Char)) (hperm : lines.Perm lines')
      (htitles : lines.filter isTitleLine = lines'.filter isTitleLine)
      (hactors : lines.filter isActorLine = lines'.filter isActorLine)
      (htasks : lines.filter isTaskLine = lines'.filter isTaskLine) :
      LayoutStep MayHaveBullet lines lines'

/-- The second text comes from the first by changes of layout, done or undone. -/
def LaidOutAs (MayHaveBullet : List Char → Prop) (text text' : String) : Prop :=
  Relation.EqvGen (LayoutStep MayHaveBullet) (rawLines text) (rawLines text')

structure SayTheSame (lines lines' : List RequestLine) : Prop where
  recognized : RequestLine.unrecognized ∈ lines ↔ RequestLine.unrecognized ∈ lines'
  titles : lines.filterMap RequestLine.title? = lines'.filterMap RequestLine.title?
  actors : lines.filterMap RequestLine.actor? = lines'.filterMap RequestLine.actor?
  tasks : lines.filterMap RequestLine.task? = lines'.filterMap RequestLine.task?

namespace SayTheSame

theorem refl (lines : List RequestLine) : SayTheSame lines lines := ⟨Iff.rfl, rfl, rfl, rfl⟩

theorem symm {lines lines' : List RequestLine} (h : SayTheSame lines lines') :
    SayTheSame lines' lines :=
  ⟨h.recognized.symm, h.titles.symm, h.actors.symm, h.tasks.symm⟩

theorem trans {lines lines' lines'' : List RequestLine} (h : SayTheSame lines lines')
    (h' : SayTheSame lines' lines'') : SayTheSame lines lines'' :=
  ⟨h.recognized.trans h'.recognized, h.titles.trans h'.titles, h.actors.trans h'.actors,
    h.tasks.trans h'.tasks⟩

theorem insert_skipped (above below : List RequestLine) :
    SayTheSame (above ++ below) (above ++ RequestLine.skipped :: below) := by
  refine ⟨?_, ?_, ?_, ?_⟩
  · simp
  · rw [List.filterMap_append, List.filterMap_append, List.filterMap_cons_none rfl]
  · rw [List.filterMap_append, List.filterMap_append, List.filterMap_cons_none rfl]
  · rw [List.filterMap_append, List.filterMap_append, List.filterMap_cons_none rfl]

theorem describes {stod : List Char → Option Rat} {lines lines' : List RequestLine}
    (h : SayTheSame lines lines') {model : OptimizationModel}
    (hdescribes : Describes stod lines model) : Describes stod lines' model where
  recognized := fun hmem => hdescribes.recognized (h.recognized.mpr hmem)
  id := h.titles ▸ hdescribes.id
  actors := h.actors ▸ hdescribes.actors
  tasks := h.tasks ▸ hdescribes.tasks

end SayTheSame

theorem filterMap_readLine {β : Type} (part : RequestLine → Option β) (lines : List (List Char)) :
    (lines.map readLine).filterMap part =
      (lines.filter fun line => (part (readLine line)).isSome).filterMap fun line =>
        part (readLine line) := by
  induction lines with
  | nil => rfl
  | cons line rest ih =>
    rw [List.map_cons, List.filterMap_cons, List.filter_cons]
    cases hpart : part (readLine line) with
    | none => simpa using ih
    | some x => simp [hpart, ih]

def SpacedAs (line line' : List Char) : Prop :=
  line' = line ∨ ∃ front back, line = front ++ ' ' :: back ∧ line' = front ++ ' ' :: ' ' :: back

theorem isSpace_space : isSpace ' ' = true := by decide

/-- Whether a part of a line has something besides spaces. -/
theorem allSpace_or (text : List Char) :
    (∀ c ∈ text, isSpace c = true) ∨ ∃ c ∈ text, isSpace c = false := by
  by_cases h : ∀ c ∈ text, isSpace c = true
  · exact Or.inl h
  · exact Or.inr (by simpa using h)

theorem allSpace_nil : ∀ c ∈ ([] : List Char), isSpace c = true := by simp

theorem trim_pad_left {left : List Char} (hleft : ∀ c ∈ left, isSpace c = true) (text : List Char) :
    trim (left ++ text) = trim text := by
  have h := Text.trim_pad hleft allSpace_nil text
  rwa [List.append_nil] at h

theorem trim_pad_right {right : List Char} (hright : ∀ c ∈ right, isSpace c = true)
    (text : List Char) :
    trim (text ++ right) = trim text := Text.trim_pad allSpace_nil hright text

theorem trim_cons_space (text : List Char) : trim (' ' :: text) = trim text := by
  have hspace : ∀ c ∈ [' '], isSpace c = true := by simp [isSpace_space]
  exact trim_pad_left hspace text

theorem spacedAs_trim {line line' : List Char} (h : SpacedAs line line') :
    SpacedAs (trim line) (trim line') := by
  rcases h with rfl | ⟨front, back, rfl, rfl⟩
  · exact Or.inl rfl
  · rcases allSpace_or front with hfront | hfront
    · -- the space is part of the indentation
      left
      rw [trim_pad_left hfront, trim_pad_left hfront]
      exact trim_cons_space (' ' :: back)
    · rcases allSpace_or back with hback | hback
      · left
        rw [trim_pad_right (by simpa [isSpace_space] using hback),
          trim_pad_right (by simpa [isSpace_space] using hback)]
      · right
        refine ⟨front.dropWhile isSpace, back.rdropWhile isSpace, ?_, ?_⟩
        · have htrim := Text.trim_append hfront hback [' ']
          simpa [trim] using htrim
        · have htrim := Text.trim_append hfront hback [' ', ' ']
          simpa [trim] using htrim

/-- A prefix with no space, but perhaps at its end, does not tell the two apart. -/
theorem isPrefixOf_of_spacedAs {name : List Char} (hname : ' ' ∉ name.dropLast)
    {line line' : List Char} (h : SpacedAs line line') :
    name.isPrefixOf line' = name.isPrefixOf line := by
  have hcut : ∀ front back : List Char, name <+: front ++ ' ' :: back ↔
      name <+: front ++ [' '] := by
    intro front back
    have happend : front ++ ' ' :: back = front ++ [' '] ++ back := by simp
    rw [happend]
    refine ⟨fun hleading => ?_, fun hleading => hleading.trans (List.prefix_append _ _)⟩
    rcases Nat.lt_or_ge (front ++ [' ']).length name.length with hlt | hle
    · -- the prefix would run over the space
      have hspace :=
        List.prefix_of_prefix_length_le (List.prefix_append _ _) hleading (Nat.le_of_lt hlt)
      obtain ⟨tail, htail⟩ := hspace
      have hne : tail ≠ [] := by
        rintro rfl
        rw [List.append_nil] at htail
        rw [htail] at hlt
        omega
      rw [← htail, List.dropLast_append_of_ne_nil hne] at hname
      exact absurd (by simp) hname
    · exact List.prefix_of_prefix_length_le hleading (List.prefix_append _ _) hle
  rcases h with rfl | ⟨front, back, rfl, rfl⟩
  · rfl
  · rw [Bool.eq_iff_iff, List.isPrefixOf_iff_prefix, List.isPrefixOf_iff_prefix,
      hcut front (' ' :: back), hcut front back]

theorem spacedAs_drop (name : List Char) (hname : ' ' ∉ name) {line line' : List Char}
    (h : SpacedAs line line') (hleading : name ++ [' '] <+: line) :
    SpacedAs (trim (line.drop (name.length + 1))) (trim (line'.drop (name.length + 1))) := by
  rcases h with rfl | ⟨front, back, rfl, rfl⟩
  · exact Or.inl rfl
  · obtain ⟨rest, hrest⟩ := hleading
    have hdrop : ∀ text : List Char, (name ++ ' ' :: text).drop (name.length + 1) = text := by
      intro text
      rw [List.drop_append, List.drop_of_length_le (by omega)]
      simp
    rw [List.append_assoc, List.singleton_append] at hrest
    rcases List.append_eq_append_iff.mp hrest with ⟨between, rfl, hback⟩ | ⟨between, rfl, hback⟩
    · cases between with
      | nil =>
        -- the doubled space is the one that ends the prefix
        rw [List.append_nil, hdrop, hdrop]
        exact Or.inl (trim_cons_space back)
      | cons c between =>
        obtain ⟨rfl, -⟩ := List.cons.inj hback
        refine spacedAs_trim (Or.inr ⟨between, back, ?_, ?_⟩)
        · rw [List.append_assoc, List.cons_append, hdrop]
        · rw [List.append_assoc, List.cons_append, hdrop]
    · cases between with
      | nil =>
        rw [List.append_nil] at hdrop ⊢
        rw [hdrop, hdrop]
        exact Or.inl (trim_cons_space back)
      | cons c between =>
        obtain ⟨rfl, -⟩ := List.cons.inj hback
        exact absurd (by simp) hname

def isReadAsDeclaration : RequestLine → Bool
  | .actor _ => true
  | .task _ => true
  | _ => false

theorem isDeclaration_iff {line : List Char} :
    IsDeclaration line ↔ isReadAsDeclaration (readTrimmed (trim line)) = true := by
  unfold IsDeclaration isActorLine isTaskLine
  change (_ ∨ _) ↔ isReadAsDeclaration (readLine line) = true
  cases readLine line <;> simp [RequestLine.actor?, RequestLine.task?, isReadAsDeclaration]

/-- The tests before the one for a bullet all fail. -/
structure IsItem (line : List Char) : Prop where
  nonempty : line ≠ []
  comment : "#".toList.isPrefixOf line = false
  workflow : kWorkflowPrefix.isPrefixOf line = false
  id : kIdPrefix.isPrefixOf line = false
  actors : isSectionLine line kActorsSection = false
  tasks : isSectionLine line kTasksSection = false

def withoutBullet (line : List Char) : List Char :=
  if kLineItemPrefix.isPrefixOf line then trim (line.drop kLineItemPrefix.length) else line

theorem readTrimmed_of_isItem {line : List Char} (h : IsItem line) :
    readTrimmed line = readDeclaration (withoutBullet line) := by
  rw [readTrimmed, if_neg (not_or.mpr ⟨h.nonempty, Bool.eq_false_iff.mp h.comment⟩),
    if_neg (by simp [h.workflow]), if_neg (by simp [h.id]), if_neg (by simp [h.actors, h.tasks]),
    withoutBullet]
  split_ifs <;> rfl

theorem isItem_of_declaration {line : List Char}
    (h : isReadAsDeclaration (readTrimmed line) = true) : IsItem line := by
  unfold readTrimmed at h
  split_ifs at h with hskipped hworkflow hid hsection
  · exact absurd h (by decide)
  · exact absurd h (by simp [isReadAsDeclaration])
  · exact absurd h (by simp [isReadAsDeclaration])
  · exact absurd h (by decide)
  all_goals
    obtain ⟨hnonempty, hcomment⟩ := not_or.mp hskipped
    obtain ⟨hactors, htasks⟩ := not_or.mp hsection
    exact ⟨hnonempty, Bool.eq_false_iff.mpr hcomment, Bool.eq_false_iff.mpr hworkflow,
      Bool.eq_false_iff.mpr hid, Bool.eq_false_iff.mpr hactors, Bool.eq_false_iff.mpr htasks⟩

theorem not_isSectionLine_of_space {line name : List Char} (hspace : ' ' ∈ line)
    (hname : ' ' ∉ name ++ [':']) :
    isSectionLine line name = false := by
  have hplain : line ≠ name := by
    rintro rfl
    exact hname (List.mem_append_left _ hspace)
  have hcolon : line ≠ name ++ [':'] := by
    rintro rfl
    exact hname hspace
  simp [isSectionLine, hplain, hcolon]

theorem isItem_of_spacedAs {line line' : List Char} (h : SpacedAs line line')
    (hitem : IsItem line) : IsItem line' := by
  have hleading : ∀ name : List Char, ' ' ∉ name.dropLast → name.isPrefixOf line = false →
      name.isPrefixOf line' = false :=
    fun name hname hline => (isPrefixOf_of_spacedAs hname h).trans hline
  rcases h with rfl | ⟨front, back, rfl, rfl⟩
  · exact hitem
  · exact {
      nonempty := by simp
      comment := hleading _ (by decide) hitem.comment
      workflow := hleading _ (by decide) hitem.workflow
      id := hleading _ (by decide) hitem.id
      actors := not_isSectionLine_of_space (by simp) (by decide)
      tasks := not_isSectionLine_of_space (by simp) (by decide) }

theorem tokenize_of_spacedAs {line line' : List Char} (h : SpacedAs line line') :
    tokenize line' = tokenize line := by
  rcases h with rfl | ⟨front, back, rfl, rfl⟩
  · rfl
  · exact Text.words_double_separator isSpace_space front back

theorem readDeclaration_of_spacedAs {line line' : List Char} (h : SpacedAs line line') :
    readDeclaration line' = readDeclaration line := by
  rw [readDeclaration, readDeclaration, isPrefixOf_of_spacedAs (by decide) h, isPrefixOf_of_spacedAs
    (by decide) h, tokenize_of_spacedAs h]

theorem withoutBullet_of_spacedAs {line line' : List Char} (h : SpacedAs line line') :
    SpacedAs (withoutBullet line) (withoutBullet line') := by
  have hbullet : kLineItemPrefix.isPrefixOf line' = kLineItemPrefix.isPrefixOf line :=
    isPrefixOf_of_spacedAs (by decide) h
  rw [withoutBullet, withoutBullet, hbullet]
  split_ifs with hleading
  · exact spacedAs_drop ['-'] (by decide) h (List.isPrefixOf_iff_prefix.mp hleading)
  · exact h

theorem readLine_pad {left right : List Char} (hleft : ∀ c ∈ left, isSpace c = true)
    (hright : ∀ c ∈ right, isSpace c = true) (line : List Char) :
    readLine (left ++ line ++ right) = readLine line := by
  rw [readLine, readLine, trim, Text.trim_pad hleft hright, trim]

theorem readLine_space {front back : List Char} (h : IsDeclaration (front ++ ' ' :: back)) :
    readLine (front ++ ' ' :: ' ' :: back) = readLine (front ++ ' ' :: back) := by
  have hspaced : SpacedAs (trim (front ++ ' ' :: back)) (trim (front ++ ' ' :: ' ' :: back)) :=
    spacedAs_trim (Or.inr ⟨front, back, rfl, rfl⟩)
  have hitem := isItem_of_declaration (isDeclaration_iff.mp h)
  rw [readLine, readLine, readTrimmed_of_isItem hitem,
    readTrimmed_of_isItem (isItem_of_spacedAs hspaced hitem), readDeclaration_of_spacedAs
    (withoutBullet_of_spacedAs hspaced)]

theorem readLine_bullet {indent text : List Char} (hindent : ∀ c ∈ indent, isSpace c = true)
    (h : IsDeclaration (indent ++ text)) (hbullet : NoBullet (indent ++ text)) :
    readLine (indent ++ kLineItemPrefix ++ text) = readLine (indent ++ text) := by
  have hitem := isItem_of_declaration (isDeclaration_iff.mp h)
  rw [NoBullet] at hbullet
  rw [trim_pad_left hindent] at hbullet hitem
  have hvisible : ∃ c ∈ text, isSpace c = false := by
    rcases allSpace_or text with hblank | hvisible
    · have hnil := trim_pad_left hblank []
      rw [List.append_nil] at hnil
      exact absurd hnil hitem.nonempty
    · exact hvisible
  have htrim : trim (kLineItemPrefix ++ text) = kLineItemPrefix ++ text.rdropWhile isSpace := by
    have hdash : ∃ c ∈ ['-'], isSpace c = false := ⟨'-', by decide, by decide⟩
    exact Text.trim_append hdash hvisible [' ']
  have hback : trim (text.rdropWhile isSpace) = trim text := by
    have hblank : ∀ c ∈ text.rtakeWhile isSpace, isSpace c = true :=
      fun c hc => List.mem_rtakeWhile_imp hc
    have hpad := trim_pad_right hblank (text.rdropWhile isSpace)
    rw [List.rdropWhile_append_rtakeWhile] at hpad
    exact hpad.symm
  have hspace : ' ' ∈ kLineItemPrefix ++ text.rdropWhile isSpace :=
    List.mem_append_left _ (by decide)
  have hitem' : IsItem (kLineItemPrefix ++ text.rdropWhile isSpace) := {
    nonempty := List.ne_nil_of_mem hspace
    comment := rfl
    workflow := rfl
    id := rfl
    actors := not_isSectionLine_of_space hspace (by decide)
    tasks := not_isSectionLine_of_space hspace (by decide) }
  have hdrop : withoutBullet (kLineItemPrefix ++ text.rdropWhile isSpace) = trim text := by
    rw [withoutBullet, if_pos (List.isPrefixOf_iff_prefix.mpr (List.prefix_append _ _)),
      List.drop_left, hback]
  have hplain : withoutBullet (trim text) = trim text := by
    rw [withoutBullet, if_neg (by simp [hbullet])]
  rw [readLine, readLine, List.append_assoc, trim_pad_left hindent, trim_pad_left hindent, htrim,
    readTrimmed_of_isItem hitem', readTrimmed_of_isItem hitem, hdrop, hplain]

theorem skipped_of_isLayoutLine {line : List Char} (h : IsLayoutLine line) :
    readLine line = .skipped := by
  rw [readLine, readTrimmed]
  by_cases hskipped : trim line = [] ∨ "#".toList.isPrefixOf (trim line) = true
  · rw [if_pos hskipped]
  · rw [if_neg hskipped]
    have hsection : isSectionLine (trim line) kActorsSection = true ∨
        isSectionLine (trim line) kTasksSection = true := by
      rcases h with hempty | hcomment | hsection
      · exact absurd (Or.inl hempty) hskipped
      · exact absurd (Or.inr hcomment) hskipped
      · exact hsection
    have hheaders : ∀ header : List Char, header = kActorsSection ∨
        header = kActorsSection ++ [':'] ∨
        header = kTasksSection ∨ header = kTasksSection ++ [':'] →
        kWorkflowPrefix.isPrefixOf header = false ∧ kIdPrefix.isPrefixOf header = false := by
      rintro header (rfl | rfl | rfl | rfl) <;> exact ⟨rfl, rfl⟩
    have hheader := hheaders (trim line) (by simpa [isSectionLine, or_assoc] using hsection)
    rw [if_neg (by simp [hheader.1]), if_neg (by simp [hheader.2]), if_pos hsection]

variable {MayHaveBullet : List Char → Prop}

theorem sayTheSame_of_step (hbullet : ∀ line, MayHaveBullet line → NoBullet line)
    {lines lines' : List (List Char)} (h : LayoutStep MayHaveBullet lines lines') :
    SayTheSame (lines.map readLine) (lines'.map readLine) := by
  cases h with
  | insert above below line hline =>
    rw [List.map_append, List.map_append, List.map_cons, skipped_of_isLayoutLine hline]
    exact SayTheSame.insert_skipped _ _
  | pad above below left line right hleft hright =>
    rw [List.map_append, List.map_append, List.map_cons, List.map_cons, readLine_pad hleft hright]
    exact SayTheSame.refl _
  | bullet above below indent text hindent hdeclaration hmay =>
    rw [List.map_append, List.map_append, List.map_cons, List.map_cons,
      readLine_bullet hindent hdeclaration (hbullet _ hmay)]
    exact SayTheSame.refl _
  | space above below front back hdeclaration =>
    rw [List.map_append, List.map_append, List.map_cons, List.map_cons, readLine_space hdeclaration]
    exact SayTheSame.refl _
  | reorder _ _ hperm htitles hactors htasks =>
    exact {
      recognized := (hperm.map readLine).mem_iff
      titles := by rw [filterMap_readLine, filterMap_readLine]; exact congrArg _ htitles
      actors := by rw [filterMap_readLine, filterMap_readLine]; exact congrArg _ hactors
      tasks := by rw [filterMap_readLine, filterMap_readLine]; exact congrArg _ htasks }

theorem sayTheSame_of_steps (hbullet : ∀ line, MayHaveBullet line → NoBullet line)
    {lines lines' : List (List Char)}
    (h : Relation.EqvGen (LayoutStep MayHaveBullet) lines lines') :
    SayTheSame (lines.map readLine) (lines'.map readLine) := by
  induction h with
  | rel lines lines' hstep => exact sayTheSame_of_step hbullet hstep
  | refl lines => exact SayTheSame.refl _
  | symm lines lines' _ ih => exact ih.symm
  | trans lines lines' lines'' _ _ ih ih' => exact ih.trans ih'

/-- A text in another layout is accepted with the same model. -/
theorem layout_irrelevant {stod : List Char → Option Rat} {text text' : String}
    {model : OptimizationModel} (h : LaidOutAs NoBullet text text')
    (haccepts : Accepts stod text model) : Accepts stod text' model := by
  obtain ⟨hdescribes, hchecks⟩ := accepts_iff_describes.mp haccepts
  have hsame : SayTheSame (requestLines text) (requestLines text') :=
    sayTheSame_of_steps (fun _ hbullet => hbullet) h
  exact accepts_iff_describes.mpr ⟨hsame.describes hdescribes, hchecks⟩

/-- The example in another order, with a header, a bullet, an indentation and a second space. -/
theorem layout_irrelevant_relaid :
    Accepts (fun _ => none) "task  a duration 5\nactors:\n  - actor x type robot" plainModel := by
  have hheader : LayoutStep NoBullet [actorLine, taskLine]
      ["actors:".toList, actorLine, taskLine] :=
    .insert [] _ _ (Or.inr (Or.inr (Or.inl (by decide))))
  have hbullet : LayoutStep NoBullet ["actors:".toList, actorLine, taskLine]
      ["actors:".toList, kLineItemPrefix ++ actorLine, taskLine] :=
    .bullet ["actors:".toList] [taskLine] [] actorLine (by simp) (Or.inl (by decide))
      (by rw [NoBullet]; decide)
  have hindent : LayoutStep NoBullet ["actors:".toList, kLineItemPrefix ++ actorLine, taskLine]
      ["actors:".toList, "  - actor x type robot".toList, taskLine] :=
    .pad ["actors:".toList] [taskLine] "  ".toList (kLineItemPrefix ++ actorLine) []
      (by simp [isSpace_space]) (by simp)
  have hspace : LayoutStep NoBullet ["actors:".toList, "  - actor x type robot".toList, taskLine]
      ["actors:".toList, "  - actor x type robot".toList, "task  a duration 5".toList] :=
    .space ["actors:".toList, "  - actor x type robot".toList]
      [] "task".toList "a duration 5".toList (Or.inr (by decide))
  have horder : LayoutStep NoBullet
      ["actors:".toList, "  - actor x type robot".toList, "task  a duration 5".toList]
      ["task  a duration 5".toList, "actors:".toList, "  - actor x type robot".toList] :=
    .reorder _ _ (by decide) (by decide) (by decide) (by decide)
  have hlaid : LaidOutAs NoBullet plainRequest
      "task  a duration 5\nactors:\n  - actor x type robot" :=
    .trans _ _ _ (.rel _ _ hheader) <| .trans _ _ _ (.rel _ _ hbullet) <|
      .trans _ _ _ (.rel _ _ hindent) <|
      .trans _ _ _ (.rel _ _ hspace) (.rel _ _ horder)
  exact layout_irrelevant hlaid (accepts_plainModel _ (by decide))

theorem second_bullet_rejected :
    ¬ ∀ (stod : List Char → Option Rat) (text text' : String) (model : OptimizationModel), LaidOutAs
    (fun _ => True) text text' → Accepts stod text model → Accepts stod text' model := by
  intro hall
  have hstep : LaidOutAs (fun _ => True) "- actor x type robot\ntask a duration 5"
      "- - actor x type robot\ntask a duration 5" :=
    .rel _ _ (.bullet [] [taskLine] [] "- actor x type robot".toList (by simp)
      (Or.inl (by decide)) trivial)
  have haccepts := hall (fun _ => none) _ _ plainModel hstep (accepts_plainModel _ (by decide))
  exact absurd (accepts_iff_describes.mp haccepts).1.recognized (by decide)

end TaskOrchestrator.Optimizer
