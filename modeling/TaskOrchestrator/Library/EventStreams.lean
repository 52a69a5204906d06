import TaskOrchestrator.Library.Readers
import Mathlib.Tactic.IntervalCases

/-!
# Chunked texts and event streams

A text is sent in chunks with their sizes in front, and a chunk of size zero at its end. Inside it
an event stream consists of lines: fields with a name and a value, comments, and empty lines that
end an event. Chunk extensions and trailers are not read. A character stands for a byte.
-/

namespace TaskOrchestrator.Library

set_option autoImplicit false

def crlf : List Char := ['\r', '\n']

def chunk (payload : List Char) : List Char :=
  Nat.toDigits 16 payload.length ++ crlf ++ payload ++ crlf

def lastChunk : List Char := '0' :: crlf ++ crlf

def hexValue (c : Char) : Option Nat :=
  if '0' ≤ c ∧ c ≤ '9' then some (c.toNat - '0'.toNat)
  else if 'a' ≤ c ∧ c ≤ 'f' then some (10 + (c.toNat - 'a'.toNat))
  else if 'A' ≤ c ∧ c ≤ 'F' then some (10 + (c.toNat - 'A'.toNat))
  else none

/-- Where the reader of a chunked text is: in a size, with the digits so far, between the two
characters of a line end, in a chunk, with one character fewer left than there are, or after the
last chunk. -/
inductive ChunkState where
  | size (read : Option Nat)
  | sizeEnd (size : Nat)
  | data (left : Nat)
  | dataEnd
  | dataEndLine
  | lastEnd
  | lastEndLine
  | ended
  | failed
deriving DecidableEq

def chunkStep : ChunkState → Char → ChunkState × List Char
  | .size read, c =>
    match hexValue c, read with
    | some digit, _ => (.size (some (16 * read.getD 0 + digit)), [])
    | none, some size => if c = '\r' then (.sizeEnd size, []) else (.failed, [])
    | none, none => (.failed, [])
  | .sizeEnd 0, c => if c = '\n' then (.lastEnd, []) else (.failed, [])
  | .sizeEnd (left + 1), c => if c = '\n' then (.data left, []) else (.failed, [])
  | .data 0, c => (.dataEnd, [c])
  | .data (left + 1), c => (.data left, [c])
  | .dataEnd, c => if c = '\r' then (.dataEndLine, []) else (.failed, [])
  | .dataEndLine, c => if c = '\n' then (.size none, []) else (.failed, [])
  | .lastEnd, c => if c = '\r' then (.lastEndLine, []) else (.failed, [])
  | .lastEndLine, c => if c = '\n' then (.ended, []) else (.failed, [])
  | .ended, _ => (.failed, [])
  | .failed, _ => (.failed, [])

def chunkReader : Reader ChunkState Char Char where
  step := chunkStep

theorem hexValue_digitChar {digit : Nat} (h : digit < 16) :
    hexValue digit.digitChar = some digit := by
  interval_cases digit <;> rfl

theorem chunkReader_digit (read : Option Nat) {digit : Nat} (h : digit < 16) :
    chunkReader.run (.size read) [digit.digitChar] =
      (.size (some (16 * read.getD 0 + digit)), []) := by
  have hstep : chunkReader.step (.size read) digit.digitChar =
      (.size (some (16 * read.getD 0 + digit)), []) := by
    simp [chunkReader, chunkStep, hexValue_digitChar h]
  rw [Reader.run_cons_of_step hstep]
  rfl

theorem chunkReader_size (n : Nat) :
    chunkReader.run (.size none) (Nat.toDigits 16 n) = (.size (some n), []) := by
  induction n using Nat.strongRecOn with
  | ind n ih =>
    by_cases hsmall : n < 16
    · rw [Nat.toDigits_of_lt_base hsmall, chunkReader_digit none hsmall]
      simp
    · have hless : n / 16 < n := by omega
      have hdigit : n % 16 < 16 := Nat.mod_lt n (by omega)
      rw [Nat.toDigits_of_base_le (by omega) (by omega), Reader.run_append_of_run
        (ih (n / 16) hless), chunkReader_digit _ hdigit]
      simp only [Option.getD_some, List.nil_append, Nat.div_add_mod]

theorem chunkReader_data {payload : List Char} {left : Nat} (h : payload.length = left + 1) :
    chunkReader.run (.data left) payload = (.dataEnd, payload) := by
  induction payload generalizing left with
  | nil => exact absurd h (by simp)
  | cons c rest ih =>
    cases left with
    | zero =>
      obtain rfl : rest = [] := List.length_eq_zero_iff.mp (by simpa using h)
      rfl
    | succ left =>
      have hstep : chunkReader.step (.data (left + 1)) c = (.data left, [c]) := rfl
      rw [Reader.run_cons_of_step hstep, ih (by simpa using h)]
      rfl

theorem chunkReader_chunk {payload : List Char} (hne : payload ≠ []) :
    chunkReader.run (.size none) (chunk payload) = (.size none, payload) := by
  obtain ⟨left, hleft⟩ : ∃ left, payload.length = left + 1 :=
    Nat.exists_eq_succ_of_ne_zero (by simpa using hne)
  have hsize : chunkReader.run (.size (some payload.length)) crlf = (.data left, []) := by
    rw [hleft]
    rfl
  have hend : chunkReader.run .dataEnd crlf = (.size none, []) := rfl
  unfold chunk
  rw [List.append_assoc, List.append_assoc, Reader.run_append_of_run (chunkReader_size _),
    Reader.run_append_of_run hsize, Reader.run_append_of_run (chunkReader_data hleft), hend]
  simp

theorem chunkReader_chunks {payloads : List (List Char)}
    (hne : ∀ payload ∈ payloads, payload ≠ []) :
    chunkReader.run (.size none) (payloads.flatMap chunk) = (.size none, payloads.flatten) := by
  induction payloads with
  | nil => rfl
  | cons payload rest ih =>
    have hfirst := chunkReader_chunk (hne payload List.mem_cons_self)
    have hrest := ih fun other hother => hne other (List.mem_cons_of_mem _ hother)
    rw [List.flatMap_cons, Reader.run_append_of_run hfirst, hrest, List.flatten_cons]

theorem chunkReader_text {payloads : List (List Char)} (hne : ∀ payload ∈ payloads, payload ≠ []) :
    chunkReader.run (.size none) (payloads.flatMap chunk ++ lastChunk) =
      (.ended, payloads.flatten) := by
  have hlast : chunkReader.run (.size none) lastChunk = (.ended, []) := rfl
  rw [Reader.run_append_of_run (chunkReader_chunks hne), hlast, List.append_nil]

structure StreamEvent where
  type : List Char
  data : List Char
  lastEventId : List Char
deriving DecidableEq

/-- The line that is being read, and what the lines before it have said about the next event. -/
structure EventStreamState where
  line : List Char := []
  afterReturn : Bool := false
  type : List Char := []
  data : List Char := []
  lastEventId : List Char := []
  reconnectionTime : Option Nat := none
deriving DecidableEq

namespace EventStreamState

def readField (s : EventStreamState) (name value : List Char) : EventStreamState :=
  if name = "event".toList then { s with type := value }
  else if name = "data".toList then { s with data := s.data ++ value ++ ['\n'] }
  else if name = "id".toList then if '\x00' ∈ value then s else { s with lastEventId := value }
  else if name = "retry".toList then
    if value ≠ [] ∧ value.all Char.isDigit
      then { s with reconnectionTime := some (Nat.ofDigitChars 10 value 0) } else s
  else s

structure Between (s : EventStreamState) : Prop where
  line : s.line = []
  afterReturn : s.afterReturn = false
  type : s.type = []
  data : s.data = []

/-- The event that an empty line ends, unless there is no data. -/
def pending (s : EventStreamState) : List StreamEvent :=
  if s.data = [] then []
  else [{ type := if s.type = [] then "message".toList else s.type
          data := s.data.dropLast
          lastEventId := s.lastEventId }]

def cleared (s : EventStreamState) : EventStreamState := { s with type := [], data := [] }

def withoutSpace : List Char → List Char
  | ' ' :: rest => rest
  | value => value

def readLine (s : EventStreamState) (line : List Char) : EventStreamState × List StreamEvent :=
  if line = [] then (s.cleared, s.pending)
  else if line.head? = some ':' then (s, [])
  else (s.readField (line.takeWhile (· ≠ ':'))
    (withoutSpace ((line.dropWhile (· ≠ ':')).drop 1)), [])

def endLine (s : EventStreamState) (afterReturn : Bool) : EventStreamState × List StreamEvent :=
  readLine { s with line := [], afterReturn } s.line

def step (s : EventStreamState) (c : Char) : EventStreamState × List StreamEvent :=
  if c = '\n' then if s.afterReturn then ({ s with afterReturn := false }, []) else s.endLine false
  else if c = '\r' then s.endLine true
  else ({ s with line := s.line ++ [c], afterReturn := false }, [])

end EventStreamState

def eventReader : Reader EventStreamState Char StreamEvent where
  step := EventStreamState.step

def OneLine (text : List Char) : Prop := '\n' ∉ text ∧ '\r' ∉ text

instance (text : List Char) : Decidable (OneLine text) := inferInstanceAs (Decidable (_ ∧ _))

theorem OneLine.append {first second : List Char} (hfirst : OneLine first)
    (hsecond : OneLine second) :
    OneLine (first ++ second) :=
  ⟨fun h => (List.mem_append.mp h).elim hfirst.1 hsecond.1, fun h =>
    (List.mem_append.mp h).elim hfirst.2 hsecond.2⟩

variable {s : EventStreamState}

theorem eventReader_characters (hs : s.afterReturn = false) {text : List Char}
    (htext : OneLine text) :
    eventReader.run s text = ({ s with line := s.line ++ text }, []) := by
  induction text generalizing s with
  | nil => simp
  | cons c rest ih =>
    have hnewline : c ≠ '\n' := fun h => htext.1 (h ▸ List.mem_cons_self)
    have hreturn : c ≠ '\r' := fun h => htext.2 (h ▸ List.mem_cons_self)
    have hrest : OneLine rest :=
      ⟨fun h => htext.1 (List.mem_cons_of_mem _ h), fun h => htext.2 (List.mem_cons_of_mem _ h)⟩
    have hstep : eventReader.step s c = ({ s with line := s.line ++ [c] }, []) := by
      simp only [eventReader, EventStreamState.step, if_neg hnewline, if_neg hreturn, ← hs]
    have hafter := ih (s := { s with line := s.line ++ [c] }) hs hrest
    rw [Reader.run_cons_of_step hstep, hafter]
    simp

theorem eventReader_line (hline : s.line = []) (hs : s.afterReturn = false) (line : List Char)
    (hone : OneLine line) :
    eventReader.run s (line ++ ['\n']) = s.readLine line := by
  have hend : eventReader.run { s with line := s.line ++ line } ['\n'] = s.readLine line := by
    rw [Reader.run_cons, Reader.run_nil]
    simp only [eventReader, EventStreamState.step, EventStreamState.endLine, hs, hline,
      List.append_nil]
    obtain ⟨line', afterReturn, type, data, lastEventId, reconnectionTime⟩ := s
    change line' = [] at hline
    change afterReturn = false at hs
    subst hline hs
    rfl
  rw [Reader.run_append_of_run (eventReader_characters hs hone), hend]
  rfl

def fieldText (field : List Char × List Char) : List Char :=
  field.1 ++ [':', ' '] ++ field.2 ++ ['\n']

def eventText (fields : List (List Char × List Char)) : List Char :=
  fields.flatMap fieldText ++ ['\n']

def commentText (comment : List Char) : List Char := [':', ' '] ++ comment ++ ['\n', '\n']

theorem commentText_ne_nil (comment : List Char) : commentText comment ≠ [] := List.cons_ne_nil _ _

structure FieldPlain (field : List Char × List Char) : Prop where
  named : field.1 ≠ []
  colon : ':' ∉ field.1
  name : OneLine field.1
  value : OneLine field.2

theorem readLine_field {field : List Char × List Char} (h : FieldPlain field) :
    s.readLine (field.1 ++ [':', ' '] ++ field.2) = (s.readField field.1 field.2, []) := by
  obtain ⟨name, value⟩ := field
  obtain ⟨first, others, rfl⟩ : ∃ first others, name = first :: others :=
    List.exists_cons_of_ne_nil h.named
  have hfirst : first ≠ ':' := fun he => h.colon (he ▸ List.mem_cons_self)
  have hother : ∀ c ∈ first :: others, decide (c ≠ ':') = true := by
    intro c hc
    exact decide_eq_true fun he => h.colon (he ▸ hc)
  have htake : ((first :: others) ++ ':' :: ' ' :: value).takeWhile (· ≠ ':') =
      first :: others := by
    rw [List.takeWhile_append_of_pos hother, List.takeWhile_cons_of_neg (by simp), List.append_nil]
  have hdrop : ((first :: others) ++ ':' :: ' ' :: value).dropWhile (· ≠ ':') =
      ':' :: ' ' :: value := by
    rw [List.dropWhile_append_of_pos hother, List.dropWhile_cons_of_neg (by simp)]
  have htext : (first :: others) ++ [':', ' '] ++ value =
      (first :: others) ++ ':' :: ' ' :: value := by simp
  unfold EventStreamState.readLine
  rw [htext, htake, hdrop, if_neg (by simp), if_neg (by simpa using hfirst)]
  rfl

theorem readField_line (name value : List Char) : (s.readField name value).line = s.line ∧
    (s.readField name value).afterReturn = s.afterReturn := by
  unfold EventStreamState.readField
  split_ifs <;> exact ⟨rfl, rfl⟩

theorem eventReader_fields (hline : s.line = []) (hs : s.afterReturn = false)
    {fields : List (List Char × List Char)} (hplain : ∀ field ∈ fields, FieldPlain field) :
    eventReader.run s (fields.flatMap fieldText) =
      (fields.foldl (fun state field => state.readField field.1 field.2) s, []) := by
  induction fields generalizing s with
  | nil => rfl
  | cons field rest ih =>
    have hfield : FieldPlain field := hplain field List.mem_cons_self
    have hone : OneLine (field.1 ++ [':', ' '] ++ field.2) :=
      (hfield.name.append (by decide)).append hfield.value
    have hfirst : eventReader.run s (fieldText field) = (s.readField field.1 field.2, []) := by
      rw [fieldText, eventReader_line hline hs _ hone, readLine_field hfield]
    obtain ⟨hline', hs'⟩ := readField_line (s := s) field.1 field.2
    rw [List.flatMap_cons, Reader.run_append_of_run hfirst,
      ih (hline'.trans hline) (hs'.trans hs) fun other hother =>
      hplain other (List.mem_cons_of_mem _ hother)]
    rfl

theorem foldl_readField_line (fields : List (List Char × List Char)) (s : EventStreamState) :
    (fields.foldl (fun state field => state.readField field.1 field.2) s).line = s.line ∧
      (fields.foldl (fun state field => state.readField field.1 field.2) s).afterReturn =
        s.afterReturn := by
  induction fields generalizing s with
  | nil => exact ⟨rfl, rfl⟩
  | cons field rest ih =>
    obtain ⟨hline, hs⟩ := readField_line (s := s) field.1 field.2
    obtain ⟨hline', hs'⟩ := ih (s.readField field.1 field.2)
    exact ⟨hline'.trans hline, hs'.trans hs⟩

theorem eventReader_event (hline : s.line = []) (hs : s.afterReturn = false)
    {fields : List (List Char × List Char)} (hplain : ∀ field ∈ fields, FieldPlain field) :
    eventReader.run s (eventText fields) =
      ((fields.foldl (fun state field => state.readField field.1 field.2) s).cleared,
        (fields.foldl (fun state field => state.readField field.1 field.2) s).pending) := by
  obtain ⟨hline', hs'⟩ := foldl_readField_line fields s
  have hend := eventReader_line (hline'.trans hline) (hs'.trans hs) [] (by decide)
  rw [eventText, Reader.run_append_of_run (eventReader_fields hline hs hplain)]
  change ((eventReader.run _ ([] ++ ['\n'])).1, [] ++ (eventReader.run _ ([] ++ ['\n'])).2) = _
  rw [hend]
  rfl

theorem eventReader_comment (hs : s.Between) {comment : List Char} (hone : OneLine comment) :
    eventReader.run s (commentText comment) = (s, []) := by
  obtain ⟨hline, hafter, htype, hdata⟩ := hs
  have hfirst :=
    eventReader_line hline hafter ([':', ' '] ++ comment) (OneLine.append (by decide) hone)
  have hcomment : s.readLine ([':', ' '] ++ comment) = (s, []) := by
    unfold EventStreamState.readLine
    rw [if_neg (by simp), if_pos (by simp)]
  have hsecond : eventReader.run s ['\n'] = (s, []) := by
    have hempty := eventReader_line hline hafter [] (by decide)
    rw [List.nil_append] at hempty
    rw [hempty]
    obtain ⟨line, afterReturn, type, data, lastEventId, reconnectionTime⟩ := s
    change type = [] at htype
    change data = [] at hdata
    subst htype hdata
    rfl
  have htext : commentText comment = ([':', ' '] ++ comment ++ ['\n']) ++ ['\n'] := by
    simp [commentText]
  rw [htext, Reader.run_append_of_run (hfirst.trans hcomment), hsecond]
  rfl

end TaskOrchestrator.Library
