import OpenLangGraph.Foundation.PyString

/-!
# Reading an event stream

How a client reads server-sent events: the text is cut into lines, a line is a field with a value,
and an empty line ends an event. An event without data is not one, and the id of an event stays that
of the following ones until another comes.

The fields that say how long to wait before a new connection, and those no one knows, change no
event; neither do comments, which are lines of a field without a name.

## Main definitions

* `linesFrom` — the lines of a text, however they end
* `process`, `parse`

## Main results

* `linesFrom_flatMap` — what is written line by line is read line by line
* `run_frame` — three fields and an empty line are one event
-/

open PyString

namespace EventStream

/-- The lines of a text that end, with the first part of the line that is being read. A line feed
behind a carriage return belongs to it. -/
def linesFrom (line : Str) (afterReturn : Bool) : Str → List Str
  | [] => []
  | c :: s =>
    if c = '\n' ∧ afterReturn = true then linesFrom line false s
    else if c = '\n' ∨ c = '\r' then line :: linesFrom [] (decide (c = '\r')) s
    else linesFrom (line ++ [c]) false s

/-- A text that is one line. -/
def IsLine (s : Str) : Prop := '\n' ∉ s ∧ '\r' ∉ s

instance (s : Str) : Decidable (IsLine s) := inferInstanceAs (Decidable (_ ∧ _))

theorem isLine_nil : IsLine [] := ⟨List.not_mem_nil, List.not_mem_nil⟩

theorem linesFrom_append {s : Str} (hs : IsLine s) (line r : Str) :
    linesFrom line false (s ++ '\n' :: r) = (line ++ s) :: linesFrom [] false r := by
  induction s generalizing line with
  | nil => simp [linesFrom]
  | cons c s ih =>
    obtain ⟨hfeed, hreturn⟩ := hs
    rw [List.mem_cons, not_or] at hfeed hreturn
    rw [List.cons_append, linesFrom, if_neg fun h => hfeed.1 h.1.symm,
      if_neg fun h => h.elim (fun h => hfeed.1 h.symm) fun h => hreturn.1 h.symm,
      ih ⟨hfeed.2, hreturn.2⟩]
    simp

/-- **Lines** that are written one after the other are read as these lines. -/
theorem linesFrom_flatMap {ss : List Str} (h : ∀ s ∈ ss, IsLine s) (r : Str) :
    linesFrom [] false (ss.flatMap (fun s => s ++ ['\n']) ++ r) = ss ++ linesFrom [] false r := by
  induction ss with
  | nil => rfl
  | cons s ss ih =>
    obtain ⟨hs, hss⟩ := List.forall_mem_cons.mp h
    rw [List.flatMap_cons, List.append_assoc, List.append_assoc, List.singleton_append,
      linesFrom_append hs, ih hss]
    rfl

/-! ### Fields and events -/

structure Event where
  type : Str
  data : Str
  lastEventId : Str
deriving DecidableEq

/-- What is known of the event that is being read, and the id of the last one. -/
structure Buffers where
  eventType : Str
  data : Str
  lastEventId : Str

/-- The name and the value of a field: what is before and behind the first colon, less one
blank. -/
def field (line : Str) : Str × Str :=
  match partition ':' line with
  | (name, _, ' ' :: value) => (name, value)
  | (name, _, value) => (name, value)

/-- The empty line. The data ends with a line feed, which is not a part of it. -/
def dispatch (b : Buffers) : Buffers × Option Event :=
  if b.data = [] then ({ b with eventType := [] }, none)
  else
    ({ b with eventType := [], data := [] },
      some {
        type := if b.eventType = [] then "message".toList else b.eventType
        data := b.data.dropLast
        lastEventId := b.lastEventId })

def processField (b : Buffers) (name value : Str) : Buffers :=
  if name = "event".toList then { b with eventType := value }
  else if name = "data".toList then { b with data := b.data ++ (value ++ ['\n']) }
  else if name = "id".toList then
    if '\x00' ∈ value then b else { b with lastEventId := value }
  else b

def process (b : Buffers) (line : Str) : Buffers × Option Event :=
  if line = [] then dispatch b else (processField b (field line).1 (field line).2, none)

/-- The events of these lines. -/
def run (b : Buffers) : List Str → List Event
  | [] => []
  | line :: lines => (process b line).2.toList ++ run (process b line).1 lines

/-- The events of a text. A byte order mark in front does not belong to it. -/
def parse : Str → List Event
  | [] => []
  | c :: s =>
    run ⟨[], [], []⟩ (linesFrom [] false (if c = Char.ofNat 0xfeff then s else c :: s))

theorem parse_of_head {s : Str} (h : ∀ c ∈ s.head?, c ≠ Char.ofNat 0xfeff) :
    parse s = run ⟨[], [], []⟩ (linesFrom [] false s) := by
  cases s with
  | nil => rfl
  | cons c s => rw [parse, if_neg (h c rfl)]

/-- A field that is written with a colon and a blank. -/
def fieldLine (name : String) (value : Str) : Str := name.toList ++ ':' :: ' ' :: value

theorem isLine_fieldLine {name : String} (hname : IsLine name.toList) {value : Str}
    (hvalue : IsLine value) : IsLine (fieldLine name value) := by
  obtain ⟨hfeed, hreturn⟩ := hname
  exact ⟨by simp [fieldLine, hfeed, hvalue.1], by simp [fieldLine, hreturn, hvalue.2]⟩

theorem field_fieldLine {name : String} (hname : ':' ∉ name.toList) (value : Str) :
    field (fieldLine name value) = (name.toList, value) := by
  rw [field, fieldLine, partition_append hname]
  rfl

theorem process_fieldLine (name : String) (hname : ':' ∉ name.toList) (b : Buffers) (value : Str) :
    process b (fieldLine name value) = (processField b name.toList value, none) := by
  have hne : fieldLine name value ≠ [] := by
    rw [fieldLine]
    exact List.append_ne_nil_of_right_ne_nil _ (List.cons_ne_nil _ _)
  rw [process, if_neg hne, field_fieldLine hname]

/-- **A frame**: an event name, data of one line, an id and an empty line. -/
theorem run_frame {event data id : Str} (hevent : event ≠ []) (hid : '\x00' ∉ id) (last : Str)
    (lines : List Str) :
    run ⟨[], [], last⟩
        ([fieldLine "event" event, fieldLine "data" data, fieldLine "id" id, []] ++ lines) =
      ⟨event, data, id⟩ :: run ⟨[], [], id⟩ lines := by
  have heventLine := process_fieldLine "event" (by decide)
  have hdataLine := process_fieldLine "data" (by decide)
  have hidLine := process_fieldLine "id" (by decide)
  simp only [List.cons_append, List.nil_append, run, heventLine, hdataLine, hidLine]
  simp [processField, process, dispatch, hevent, hid]

end EventStream
