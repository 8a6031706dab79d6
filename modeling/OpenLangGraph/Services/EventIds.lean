import OpenLangGraph.Foundation.SplitText
import OpenLangGraph.Services.EventStore

/-!
# Event ids

The id of an event is written twice, by `generate_event_id` of `utils/sse_utils.py` and by
`execute_run_async` of `api/runs.py`, and read three times: by `extract_event_sequence`, and by
`_extract_event_seq` and `stream_events_since` of `services/event_store.py`.

In `Services.EventStore` a run id has no underscore. Here it is any text, an exception is what the
code makes of it, and the limit of CPython on the digits of a number counts: beyond it neither can
a number be written, nor is it read.

## The separator overlaps itself

`_event_` begins as it ends. After a run id that ends with `_event` the scan of `split` takes the
last underscore of the run id's `_event_` for the first of the separator, and what is left is no
number.

## Main definitions

* `EventIds.generateEventId`, `EventIds.executorEventId`
* `EventIds.extractEventSequence`, `EventIds.extractEventSeq`, `EventIds.lastSeq`
* `EventIds.AllRead` — an id that all three read as the same number

## Main results

* `EventIds.lastPiece_eventId`, `EventIds.lastPiece_overlap` — what `split` leaves of an id
* `EventIds.allRead_iff` — the ids that are read as they were written; nothing raises
* `EventIds.allRead_runId` — those of a run id without underscores
-/

namespace OpenLangGraph

open PyString SplitText

namespace EventIds

/-- The exceptions that reading or writing a number, or taking the last of a list, may raise. -/
inductive PyException
  | valueError
  | indexError
  deriving DecidableEq

/-- `sys.get_int_max_str_digits()` -/
def maxStrDigits : ℕ := 4300

/-- `f"{n}"` -/
def formatInt (n : ℕ) : Except PyException Str :=
  if (decimalRepr n).length ≤ maxStrDigits then .ok (decimalRepr n) else .error .valueError

/-- `int(s)` -/
def readInt (U : UnicodeDb) (s : Str) : Except PyException ℤ :=
  if maxStrDigits < s.countP (fun c => (U.decimal c).isSome) then .error .valueError
  else
    match U.int s with
    | some n => .ok n
    | none => .error .valueError

def separator : Str := "_event_".toList

/-! ### Writing -/

/-- `generate_event_id` -/
def generateEventId (runId : Str) (sequence : ℕ) : Except PyException Str :=
  (formatInt sequence).map fun digits => runId ++ separator ++ digits

/-- `f"{run_id}_event_{event_counter}"` in `execute_run_async`. -/
def executorEventId (runId : Str) (eventCounter : ℕ) : Except PyException Str :=
  (formatInt eventCounter).map fun digits => runId ++ separator ++ digits

/-! ### Reading -/

/-- `event_id.split("_event_")[-1]` -/
def lastPart (eventId : Str) : Except PyException Str :=
  match (splitSub separator eventId).getLast? with
  | some part => .ok part
  | none => .error .indexError

/-- `int(event_id.split("_event_")[-1])` -/
def readSequence (U : UnicodeDb) (eventId : Str) : Except PyException ℤ :=
  lastPart eventId >>= readInt U

/-- `extract_event_sequence`, which catches `ValueError` and `IndexError`. -/
def extractEventSequence (U : UnicodeDb) (eventId : Str) : Except PyException ℤ :=
  match readSequence U eventId with
  | .ok n => .ok n
  | .error .valueError | .error .indexError => .ok 0

/-- `EventStore._extract_event_seq`, which catches every `Exception`. -/
def extractEventSeq (U : UnicodeDb) (eventId : Str) : Except PyException ℤ :=
  match readSequence U eventId with
  | .ok n => .ok n
  | .error _ => .ok 0

/-- `last_seq` in `stream_events_since`, which catches every `Exception`. -/
def lastSeq (U : UnicodeDb) (lastEventId : Str) : Except PyException ℤ :=
  match readSequence U lastEventId with
  | .ok n => .ok n
  | .error _ => .ok (-1)

/-- An id that has been written, and that all three read as the number. -/
def AllRead (U : UnicodeDb) (n : ℕ) (written : Except PyException Str) : Prop :=
  ∃ eventId, written = .ok eventId ∧ extractEventSequence U eventId = .ok n ∧
    extractEventSeq U eventId = .ok n ∧ lastSeq U eventId = .ok n

/-- All three return a number. -/
def NeverRaises (U : UnicodeDb) (eventId : Str) : Prop :=
  (∃ n, extractEventSequence U eventId = .ok n) ∧ (∃ n, extractEventSeq U eventId = .ok n) ∧
    ∃ n, lastSeq U eventId = .ok n

/-- The last piece of the run id ends with `_event`. -/
def overlaps (runId : Str) : Bool := endsWith (lastPiece separator runId) "_event".toList

/-! ### What `split` leaves -/

variable {U : UnicodeDb} {runId eventId digits p q : Str} {n : ℕ}

theorem separator_ne_nil : separator ≠ [] := by decide

theorem overlaps_iff : overlaps runId = true ↔ "_event".toList <:+ lastPiece separator runId :=
  endsWith_iff

/-- The separator overlaps itself in its underscore only. -/
theorem isFirst_separator (hnot : ¬ separator <:+: p) (hp : ¬ "_event".toList <:+ p) :
    IsFirst separator p := by
  rintro u v rfl hv hfound
  have hshort : v.length < 7 := by
    by_contra hlong
    have hv : separator <+: v :=
      List.prefix_of_prefix_length_le hfound ⟨_, rfl⟩ (Nat.not_lt.mp hlong)
    exact hnot (hv.isInfix.trans ⟨u, [], by simp⟩)
  have htake : v = separator.take v.length :=
    List.prefix_iff_eq_take.mp (List.prefix_of_prefix_length_le ⟨_, rfl⟩ hfound hshort.le)
  have hborder : ∀ k < 7, separator.isPrefixOf (separator.take k ++ separator) = true →
      k = 0 ∨ k = 6 := by decide
  rw [htake] at hfound
  rcases hborder v.length hshort ( List.isPrefixOf_iff_prefix.mpr hfound) with hzero | hsix
  · exact hv (List.length_eq_zero_iff.mp hzero)
  · refine hp ⟨u, ?_⟩
    rw [htake, hsix]
    rfl

/-- In an overlap the occurrence before comes first. -/
theorem isFirst_overlap (hnot : ¬ separator <:+: q ++ "_event".toList) : IsFirst separator q := by
  rintro u v rfl hv hfound
  have hlong : separator.length ≤ (v ++ "_event".toList).length := by
    rw [List.length_append]
    exact Nat.add_le_add_right (List.length_pos_iff.mpr hv) 6
  have hsplit : v ++ separator = v ++ "_event".toList ++ ['_'] := by
    rw [List.append_assoc]
    rfl
  rw [hsplit] at hfound
  have hinside : separator <+: v ++ "_event".toList :=
    List.prefix_of_prefix_length_le hfound ⟨_, rfl⟩ hlong
  exact hnot (hinside.isInfix.trans ⟨u, [], by simp⟩)

theorem lastPiece_of_one_underscore (h : eventId.count '_' ≤ 1) :
    lastPiece separator eventId = eventId := by
  refine lastPiece_of_not_contains fun hcontains => ?_
  have hcount := hcontains.sublist.count_le '_'
  have htwo : separator.count '_' = 2 := by decide
  omega

/-- **Without an overlap** the number is left. -/
theorem lastPiece_eventId (hoverlaps : overlaps runId = false) (hdigits : digits.count '_' = 0) :
    lastPiece separator (runId ++ separator ++ digits) = digits := by
  have hfirst : IsFirst separator (lastPiece separator runId) := by
    refine isFirst_separator (not_contains_lastPiece separator_ne_nil runId) fun hends => ?_
    rw [overlaps_iff.mpr hends] at hoverlaps
    cases hoverlaps
  rw [List.append_assoc, lastPiece_append separator_ne_nil, ← List.append_assoc,
    lastPiece_of_isFirst separator_ne_nil hfirst, lastPiece_of_one_underscore (by omega)]

/-- **With an overlap** a part of the separator is left before it. -/
theorem lastPiece_overlap (hoverlaps : overlaps runId = true) (hdigits : digits.count '_' = 0) :
    lastPiece separator (runId ++ separator ++ digits) = "event_".toList ++ digits := by
  obtain ⟨q, hq⟩ := overlaps_iff.mp hoverlaps
  have hnot := not_contains_lastPiece separator_ne_nil runId
  rw [← hq] at hnot
  have hshift : q ++ "_event".toList ++ (separator ++ digits) =
      q ++ separator ++ ("event_".toList ++ digits) := by
    rw [List.append_assoc, List.append_assoc]
    rfl
  rw [List.append_assoc, lastPiece_append separator_ne_nil, ← hq, hshift,
    lastPiece_of_isFirst separator_ne_nil (isFirst_overlap hnot), lastPiece_of_one_underscore]
  rw [List.count_append, hdigits]
  decide

theorem lastPart_eq (eventId : Str) : lastPart eventId = .ok (lastPiece separator eventId) := by
  rw [lastPart, getLast?_splitSub]

theorem readSequence_eq (U : UnicodeDb) (eventId : Str) :
    readSequence U eventId = readInt U (lastPiece separator eventId) := by
  rw [readSequence, lastPart_eq]
  rfl

/-! ### What is read -/

theorem underscore_count (n : ℕ) : (decimalRepr n).count '_' = 0 :=
  List.count_eq_zero.mpr (underscore_notMem_decimalRepr n)

theorem readInt_decimalRepr (U : UnicodeDb) (h : (decimalRepr n).length ≤ maxStrDigits) :
    readInt U (decimalRepr n) = .ok n := by
  have hcount : (decimalRepr n).countP (fun c => (U.decimal c).isSome) ≤ maxStrDigits :=
    List.countP_le_length.trans h
  rw [readInt, if_neg (by omega), U.int_decimalRepr]

/-- A part of the separator is no number. -/
theorem readInt_overlap (U : UnicodeDigits) (digits : Str) :
    readInt U.toUnicodeDb ("event_".toList ++ digits) = .error .valueError := by
  have hletter : U.isSpace 'e' = false ∧ U.decimal 'e' = none :=
    ⟨U.isSpace_ascii 'e' (by decide), U.decimal_ascii 'e' (by decide) (by decide)⟩
  have hnone : U.int ("event_".toList ++ digits) = none := by
    rw [Option.eq_none_iff_forall_ne_some]
    intro k hk
    have hmem : 'e' ∈ "event_".toList ++ digits := List.mem_append_left _ (by decide)
    simpa [hletter.1, hletter.2] using U.mem_of_int hk 'e' hmem
  rw [readInt, hnone]
  split
  · rfl
  · rfl

theorem neverRaises (U : UnicodeDb) (eventId : Str) : NeverRaises U eventId := by
  rw [NeverRaises, extractEventSequence, extractEventSeq, lastSeq]
  rcases readSequence U eventId with (_ | _) | n
  · exact ⟨⟨0, rfl⟩, ⟨0, rfl⟩, ⟨-1, rfl⟩⟩
  · exact ⟨⟨0, rfl⟩, ⟨0, rfl⟩, ⟨-1, rfl⟩⟩
  · exact ⟨⟨n, rfl⟩, ⟨n, rfl⟩, ⟨n, rfl⟩⟩

/-- The executor writes the ids of `generate_event_id`. -/
theorem executorEventId_eq (runId : Str) (n : ℕ) :
    executorEventId runId n = generateEventId runId n := rfl

theorem generateEventId_ok (runId : Str) (h : (decimalRepr n).length ≤ maxStrDigits) :
    generateEventId runId n = .ok (runId ++ separator ++ decimalRepr n) := by
  rw [generateEventId, formatInt, if_pos h]
  rfl

/-- **Without an overlap** all three read the number that was written. -/
theorem allRead_of_not_overlaps (U : UnicodeDb) (hlimit : (decimalRepr n).length ≤ maxStrDigits)
    (hoverlaps : overlaps runId = false) : AllRead U n (generateEventId runId n) := by
  have hread : readSequence U (runId ++ separator ++ decimalRepr n) = .ok n := by
    rw [readSequence_eq, lastPiece_eventId hoverlaps (underscore_count n),
      readInt_decimalRepr U hlimit]
  refine ⟨_, generateEventId_ok runId hlimit, ?_, ?_, ?_⟩
  · rw [extractEventSequence, hread]
  · rw [extractEventSeq, hread]
  · rw [lastSeq, hread]

/-- **With an overlap** the replay query reads -1. -/
theorem lastSeq_of_overlaps (U : UnicodeDigits) (hlimit : (decimalRepr n).length ≤ maxStrDigits)
    (hoverlaps : overlaps runId = true) (h : generateEventId runId n = .ok eventId) :
    lastSeq U.toUnicodeDb eventId = .ok (-1) := by
  rw [generateEventId_ok runId hlimit] at h
  obtain rfl := Except.ok.inj h
  rw [lastSeq, readSequence_eq, lastPiece_overlap hoverlaps (underscore_count n),
    readInt_overlap]

/-- **The ids that are read as they were written.** The number has at most as many digits as CPython
converts, and the last piece of the run id does not end with `_event`. No decoder raises. -/
theorem allRead_iff (U : UnicodeDigits) (runId : Str) (n : ℕ) :
    (AllRead U.toUnicodeDb n (generateEventId runId n) ∧
        AllRead U.toUnicodeDb n (executorEventId runId n) ↔
      (decimalRepr n).length ≤ maxStrDigits ∧ overlaps runId = false) ∧
    ∀ eventId, NeverRaises U.toUnicodeDb eventId := by
  refine ⟨?_, neverRaises U.toUnicodeDb⟩
  rw [executorEventId_eq, and_self]
  constructor
  · rintro ⟨eventId, hwritten, -, -, hlast⟩
    have hlimit : (decimalRepr n).length ≤ maxStrDigits := by
      by_contra hlong
      rw [generateEventId, formatInt, if_neg hlong] at hwritten
      cases hwritten
    refine ⟨hlimit, ?_⟩
    by_contra hoverlaps
    rw [lastSeq_of_overlaps U hlimit (by simpa using hoverlaps) hwritten] at hlast
    have hneg := Except.ok.inj hlast
    omega
  · rintro ⟨hlimit, hoverlaps⟩
    exact allRead_of_not_overlaps U.toUnicodeDb hlimit hoverlaps

/-- The id of the fifth event of a run `run_event`. -/
theorem run_event_read :
    generateEventId "run_event".toList 5 = .ok "run_event_event_5".toList ∧
      extractEventSequence .ascii "run_event_event_5".toList = .ok 0 ∧
      extractEventSeq .ascii "run_event_event_5".toList = .ok 0 ∧
      lastSeq .ascii "run_event_event_5".toList = .ok (-1) ∧
      ¬ AllRead .ascii 5 (generateEventId "run_event".toList 5) := by
  have hwritten : generateEventId "run_event".toList 5 = .ok "run_event_event_5".toList := rfl
  have hlast : lastSeq .ascii "run_event_event_5".toList = .ok (-1) := rfl
  refine ⟨hwritten, rfl, rfl, hlast, ?_⟩
  rintro ⟨eventId, heventId, -, -, hread⟩
  obtain rfl := Except.ok.inj (hwritten.symm.trans heventId)
  cases hlast.symm.trans hread

/-! ### The ids of the store -/

/-- A run id without underscores. -/
theorem overlaps_runId (runId : RunId) : overlaps runId.text = false := by
  have hcount : runId.text.count '_' = 0 := List.count_eq_zero.mpr runId.noUnderscore
  rw [← Bool.not_eq_true, overlaps_iff, lastPiece_of_one_underscore (by omega)]
  intro hends
  have hle := hends.sublist.count_le '_'
  have hone : "_event".toList.count '_' = 1 := by decide
  omega

theorem allRead_runId (U : UnicodeDb) (runId : RunId) (h : (decimalRepr n).length ≤ maxStrDigits) :
    AllRead U n (.ok (OpenLangGraph.generateEventId runId n)) := by
  rw [show Except.ok (OpenLangGraph.generateEventId runId n) = generateEventId runId.text n from
    (generateEventId_ok runId.text h).symm]
  exact allRead_of_not_overlaps U h (overlaps_runId runId)

/-- The decoder of the store, up to the limit on digits. -/
theorem extractEventSequence_eq (U : UnicodeDb) (eventId : Str)
    (h : (lastPiece separator eventId).countP (fun c => (U.decimal c).isSome) ≤ maxStrDigits) :
    extractEventSequence U eventId = .ok (OpenLangGraph.extractEventSequence U eventId) := by
  have hparse : parseEventSequence U eventId = U.int (lastPiece separator eventId) := by
    rw [parseEventSequence]
    exact congrArg (·.bind U.int) (getLast?_splitSub separator eventId)
  rw [extractEventSequence, readSequence_eq, readInt, if_neg (by omega),
    OpenLangGraph.extractEventSequence, hparse]
  cases U.int (lastPiece separator eventId) with
  | none => rfl
  | some n => rfl

end EventIds

end OpenLangGraph
