import OpenLangGraph.Services.RunStreamReplay
import Mathlib.Data.Int.Interval

/-!
# The statistics of a run

`get_run_info` does not count rows. It reads the lowest and the highest sequence number of the run
and takes their distance, and then asks for the id of the row with the highest one.

## Gaps

The number of an event is the producer's counter, which goes up for every event that the graph
emits. An event that is skipped, or whose stream mode has no record, uses up its number and leaves
no row. So the distance is the number of rows only as long as no such event lies between two that
are stored. A failed insert makes no gap: nothing is stored after it. Neither does the cleanup,
which deletes from the old end.

## Two queries

The queries are two statements of one transaction, and each sees what is committed when it runs. A
cleanup between the two can delete the row that the second one asks for.

## Main definitions

* `getRunInfo`, `ExactInfo`
* `Setup.keeps` — the event leaves a row
* `LeavesNoGap` — no event between two stored ones is left out when a batch is inserted
* `State.Counted` — the emitted events are numbered in order, and what is stored is what was kept

## Main results

* `distance_eq_length_iff` — when the distance of the ends of a sorted list is its length
* `counted_step` — the steps preserve the invariant
* `exactInfo_iff_along` — the runs whose statistics are exact
* `gap_is_counted` — a run with a gap
-/

open PyString

namespace OpenLangGraph

namespace RunStream

open EventStore StreamingService Transition

variable {S : Setup}

/-! ### The query -/

/-- What `get_run_info` returns, less the times. -/
structure RunInfo where
  eventCount : ℤ
  lastEventId : Option Str

/-- `get_run_info`, with the rows that its two queries see. -/
def getRunInfo (rows rowsAfter : List Row) : Option RunInfo :=
  match (rows.map Row.seq).min?, (rows.map Row.seq).max? with
  | some firstSeq, some lastSeq =>
    some
      { eventCount := lastSeq - firstSeq + 1
        lastEventId := (rowsAfter.find? fun row => row.seq = lastSeq).map Row.id }
  | _, _ => none

/-- The number of rows, and the id of the row with the highest number. There is nothing to tell of
a run without rows. -/
def ExactInfo (rows : List Row) : Option RunInfo → Prop
  | none => rows = []
  | some info => info.eventCount = rows.length ∧
      ∃ row ∈ rows, (∀ r ∈ rows, r.seq ≤ row.seq) ∧ info.lastEventId = some row.id

/-- The cleanup leaves the row with the highest number. -/
def KeepsNewest (rows rowsAfter : List Row) : Prop :=
  ∀ row ∈ rows, (∀ r ∈ rows, r.seq ≤ row.seq) → row ∈ rowsAfter

/-! ### Distance and length -/

/-- The distance of the ends of a list of different numbers is its length exactly if no number
between them is left out. -/
theorem distance_eq_length_iff {l : List ℤ} {first last : ℤ} (hnodup : l.Nodup)
    (hfirst : first ∈ l) (hmin : ∀ x ∈ l, first ≤ x) (hmax : ∀ x ∈ l, x ≤ last) :
    last - first + 1 = l.length ↔ ∀ k, first ≤ k → k ≤ last → k ∈ l := by
  have hle : first ≤ last := hmax first hfirst
  have hsub : l.toFinset ⊆ Finset.Icc first last := by
    intro x hx
    rw [List.mem_toFinset] at hx
    exact Finset.mem_Icc.mpr ⟨hmin x hx, hmax x hx⟩
  have hcard : (l.toFinset.card : ℤ) = l.length := by
    rw [List.toFinset_card_of_nodup hnodup]
  have hIcc : ((Finset.Icc first last).card : ℤ) = last - first + 1 := by
    rw [Int.card_Icc_of_le first last (by omega)]
    omega
  constructor
  · intro h k hk hk'
    have heq : l.toFinset = Finset.Icc first last := by
      refine Finset.eq_of_subset_of_card_le hsub ?_
      omega
    rw [← List.mem_toFinset, heq]
    exact Finset.mem_Icc.mpr ⟨hk, hk'⟩
  · intro h
    have heq : l.toFinset = Finset.Icc first last := by
      refine Finset.Subset.antisymm hsub fun k hk => ?_
      obtain ⟨hk, hk'⟩ := Finset.mem_Icc.mp hk
      exact List.mem_toFinset.mpr (h k hk hk')
    rw [← hIcc, ← hcard, heq]

/-- The numbers have no gap. -/
def Gapless (l : List ℤ) : Prop :=
  ∀ x ∈ l, ∀ y ∈ l, ∀ k, x ≤ k → k ≤ y → k ∈ l

theorem find_seq {rows : List Row} (hnodup : (rows.map Row.seq).Nodup) {row : Row}
    (hrow : row ∈ rows) : (rows.find? fun r => r.seq = row.seq) = some row := by
  have hsome : (rows.find? fun r => r.seq = row.seq).isSome = true :=
    List.find?_isSome.mpr ⟨row, hrow, decide_eq_true rfl⟩
  obtain ⟨r, hr⟩ := Option.isSome_iff_exists.mp hsome
  have hseq : r.seq = row.seq := by simpa using List.find?_some hr
  have hsame := List.inj_on_of_nodup_map hnodup (List.mem_of_find?_eq_some hr) hrow hseq
  rw [hr, hsame]

/-- **When the statistics are exact**, for rows with different numbers of which the newest stays. -/
theorem exactInfo_iff {rows rowsAfter : List Row} (hnodup : (rows.map Row.seq).Nodup)
    (hafter : (rowsAfter.map Row.seq).Nodup) (hkeeps : KeepsNewest rows rowsAfter) :
    ExactInfo rows (getRunInfo rows rowsAfter) ↔ Gapless (rows.map Row.seq) := by
  by_cases hne : rows = []
  · subst hne
    exact iff_of_true rfl fun x hx => absurd hx List.not_mem_nil
  have hne : rows.map Row.seq ≠ [] := by simpa using hne
  obtain ⟨first, hfirst⟩ := Option.isSome_iff_exists.mp (List.isSome_min?_of_ne_nil hne)
  obtain ⟨last, hlast⟩ := Option.isSome_iff_exists.mp (List.isSome_max?_of_ne_nil hne)
  rw [getRunInfo, hfirst, hlast]
  obtain ⟨hfirst, hmin⟩ := List.min?_eq_some_iff.mp hfirst
  obtain ⟨hlast, hmax⟩ := List.max?_eq_some_iff.mp hlast
  obtain ⟨newest, hnewest, rfl⟩ := List.mem_map.mp hlast
  have hhighest : ∀ r ∈ rows, r.seq ≤ newest.seq := fun r hr => hmax _ (List.mem_map_of_mem hr)
  have hfound := find_seq hafter (hkeeps newest hnewest hhighest)
  have hid : ∃ row ∈ rows, (∀ r ∈ rows, r.seq ≤ row.seq) ∧
      (rowsAfter.find? fun row => row.seq = newest.seq).map Row.id = some row.id :=
    ⟨newest, hnewest, hhighest, by rw [hfound]; rfl⟩
  have hcount := distance_eq_length_iff hnodup hfirst (fun x hx => hmin x hx)
    (fun x hx => hmax x hx)
  rw [List.length_map] at hcount
  rw [ExactInfo, and_iff_left hid, hcount]
  constructor
  · exact fun h x hx y hy k hxk hky => h k ((hmin x hx).trans hxk) (hky.trans (hmax y hy))
  · exact fun h k hk hk' => h first hfirst newest.seq hlast k hk hk'

/-- A call that asks for the newest row when it is gone has no id to tell. -/
theorem not_exactInfo_of_gone {rows rowsAfter : List Row} {newest : Row} (hnewest : newest ∈ rows)
    (hhighest : ∀ r ∈ rows, r.seq ≤ newest.seq) (hgone : ∀ r ∈ rowsAfter, r.seq ≠ newest.seq) :
    ¬ ExactInfo rows (getRunInfo rows rowsAfter) := by
  have hmem : newest.seq ∈ rows.map Row.seq := List.mem_map_of_mem hnewest
  have hne : rows.map Row.seq ≠ [] := List.ne_nil_of_mem hmem
  obtain ⟨first, hfirst⟩ := Option.isSome_iff_exists.mp (List.isSome_min?_of_ne_nil hne)
  have hlast : (rows.map Row.seq).max? = some newest.seq :=
    List.max?_eq_some_iff.mpr ⟨hmem, List.forall_mem_map.mpr hhighest⟩
  have hnone : (rowsAfter.find? fun row => row.seq = newest.seq) = none := by
    rw [List.find?_eq_none]
    exact fun r hr => by simpa using hgone r hr
  rw [getRunInfo, hfirst, hlast]
  rintro ⟨-, row, -, -, hid⟩
  rw [hnone] at hid
  cases hid

/-! ### What is stored -/

/-- Storing the event leaves a record in the batch. -/
def Setup.keeps (S : Setup) (e : ℕ × PyVal) : Bool :=
  (storageEvent (S.eventId e.1) e.2 S.onlyInterruptUpdates).join.isSome

/-- The insert of the batch succeeds. -/
def insertSucceeds (S : Setup) (s : State) (ok : Bool) : Bool :=
  (insertBatch S s s.producer.inFlight ok).isSome

/-- When a batch is inserted, every event that the graph has emitted between two of those that are
stored is one of them. -/
def LeavesNoGap (S : Setup) (s : State) : Label → Prop
  | .commit ok => insertSucceeds S s ok = true → ∀ e ∈ s.emitted,
      (∃ x ∈ s.storeSeqs S, x < e.1) → (∃ y ∈ s.storeSeqs S, e.1 < y) → S.keeps e = true
  | _ => True

instance (S : Setup) (s : State) : (a : Label) → Decidable (LeavesNoGap S s a)
  | .commit ok => inferInstanceAs (Decidable (insertSucceeds S s ok = true → ∀ e ∈ s.emitted,
      (∃ x ∈ s.storeSeqs S, x < e.1) → (∃ y ∈ s.storeSeqs S, e.1 < y) → S.keeps e = true))
  | .start | .emit _ | .put | .store | .consume | .finish _ | .fail | .recordFailure _ | .signal
  | .cleanup | .expire _ | .streamRun _ | .attach _ _ | .disconnect => isTrue trivial

/-- More may be stored. -/
def Producer.stores : Producer → Bool
  | .starting | .running _ | .putting _ _ | .storing _ _ | .flushing _ _ => true
  | .failing _ | .signalling _ _ | .finishing _ | .cleaning _ _ | .done _ => false

/-- The insert of a batch is awaited. -/
def Producer.inserts : Producer → Bool
  | .flushing _ _ | .cleaning _ _ => true
  | .starting | .running _ | .putting _ _ | .storing _ _ | .failing _ | .signalling _ _
  | .finishing _ | .done _ => false

/-- The event is stored or about to be, or it comes after all that are: the producer still works
on it, or it will not be stored any more. -/
def State.Accounted (S : Setup) (s : State) (e : ℕ × PyVal) : Prop :=
  (e.1 : ℤ) ∈ s.storeSeqs S ∨
    (∀ y ∈ s.storeSeqs S, y < e.1) ∧
      (s.producer.stores = true → s.producer.working = some e)

/-- The emitted events are numbered in order, and from the first that is stored on all that are
kept are accounted for. -/
structure State.Counted (S : Setup) (s : State) : Prop where
  ordered : s.Ordered S
  numbered : s.emitted.map Prod.fst = List.range' 1 s.emitted.length
  counter : s.producer.stores = true → s.emitted.length = s.producer.counter
  bound : ∀ e ∈ s.emitted, e.1 ≤ s.producer.counter
  working : ∀ e, s.producer.working = some e → e ∈ s.emitted
  batch : s.producer.inserts = true → s.batch = []
  kept : ∀ x ∈ s.storeSeqs S, ∃ e ∈ s.emitted, (e.1 : ℤ) = x ∧ S.keeps e = true
  accounted : ∀ e ∈ s.emitted, S.keeps e = true → ∀ x ∈ s.storeSeqs S, x < e.1 →
    s.Accounted S e

theorem counted_init : State.Counted S init where
  ordered := ordered_init
  numbered := rfl
  counter _ := rfl
  bound e he := absurd he List.not_mem_nil
  working e he := by cases he
  batch h := absurd h Bool.false_ne_true
  kept x hx := absurd hx List.not_mem_nil
  accounted e he := absurd he List.not_mem_nil

variable {s s' : State}

/-- A step that neither emits nor stores, and that gives up no event that is kept. -/
theorem counted_of_frame (hc : s.Counted S) (ho : s'.Ordered S) (hem : s'.emitted = s.emitted)
    (hseqs : s'.storeSeqs S = s.storeSeqs S)
    (hstores : s'.producer.stores = true →
      s.producer.stores = true ∧ s'.producer.counter = s.producer.counter)
    (hcounter : s.producer.counter ≤ s'.producer.counter)
    (hworking : ∀ e, s'.producer.working = some e → s.producer.working = some e)
    (hbatch : s'.producer.inserts = true → s'.batch = [])
    (hgives : s'.producer.stores = true → ∀ e, s.producer.working = some e → S.keeps e = true →
      s'.producer.working = some e) : s'.Counted S where
  ordered := ho
  numbered := hem ▸ hc.numbered
  counter h := by
    rw [hem, hc.counter (hstores h).1, (hstores h).2]
  bound e he := (hc.bound e (hem ▸ he)).trans hcounter
  working e he := hem ▸ hc.working e (hworking e he)
  batch := hbatch
  kept := by
    rw [hseqs, hem]
    exact hc.kept
  accounted e he hkeeps x hx hlt := by
    rw [hseqs] at hx
    rw [State.Accounted, hseqs]
    refine (hc.accounted e (hem ▸ he) hkeeps x hx hlt).imp_right fun ⟨hlast, hwork⟩ => ?_
    exact ⟨hlast, fun h => hgives h e (hwork (hstores h).1) hkeeps⟩

/-- While more may be stored, an event that no one works on is stored if it is to be. -/
theorem mem_storeSeqs_of_idle (hc : s.Counted S) (hstores : s.producer.stores = true)
    {e : ℕ × PyVal} (he : e ∈ s.emitted) (hidle : s.producer.working ≠ some e)
    (hkeeps : S.keeps e = true) {x : ℤ} (hx : x ∈ s.storeSeqs S) (hlt : x < e.1) :
    (e.1 : ℤ) ∈ s.storeSeqs S :=
  (hc.accounted e he hkeeps x hx hlt).resolve_right fun h => hidle (h.2 hstores)

/-- A new event is worked on, and comes after all that are stored. -/
theorem counted_emit (hc : s.Counted S) {n : ℕ} {rawEvent : PyVal}
    (hp : s.producer = .running n)
    (ho : State.Ordered S { s with producer := .putting (n + 1) rawEvent
                                   emitted := s.emitted ++ [(n + 1, rawEvent)] }) :
    State.Counted S { s with producer := .putting (n + 1) rawEvent
                             emitted := s.emitted ++ [(n + 1, rawEvent)] } := by
  have hlength : s.emitted.length = n := by
    have hcounter := hc.counter
    rw [hp] at hcounter
    exact hcounter rfl
  have hseqs : State.storeSeqs S { s with producer := .putting (n + 1) rawEvent
                                          emitted := s.emitted ++ [(n + 1, rawEvent)] } =
      s.storeSeqs S := by
    simp [State.storeSeqs, hp, Producer.inFlight]
  have hwithin : ∀ x ∈ s.storeSeqs S, x ≤ n := by
    intro x hx
    have hle := (hc.ordered.store.2 x hx).2
    rwa [hp] at hle
  refine ⟨ho, ?_, ?_, ?_, ?_, fun h => absurd h Bool.false_ne_true, ?_, ?_⟩
  · simp only [List.map_append, List.map_cons, List.map_nil, List.length_append,
      List.length_singleton, hc.numbered, hlength, List.range'_1_concat]
    rw [Nat.add_comm 1 n]
  · intro _
    simp [hlength, Producer.counter]
  · intro e he
    rcases List.mem_append.mp he with he | he
    · have hle := hc.bound e he
      rw [hp] at hle
      exact Nat.le_succ_of_le hle
    · rw [List.mem_singleton.mp he]
      exact le_refl _
  · intro e he
    obtain rfl := Option.some.inj he
    exact List.mem_append_right _ (List.mem_singleton_self _)
  · intro x hx
    rw [hseqs] at hx
    obtain ⟨e, he, hkept⟩ := hc.kept x hx
    exact ⟨e, List.mem_append_left _ he, hkept⟩
  · intro e he hkeeps x hx hlt
    rw [hseqs] at hx
    rw [State.Accounted, hseqs]
    rcases List.mem_append.mp he with he | he
    · refine .inl (mem_storeSeqs_of_idle hc ?_ he ?_ hkeeps hx hlt)
      · rw [hp]
        rfl
      · rw [hp]
        exact (Option.some_ne_none e).symm
    · obtain rfl := List.mem_singleton.mp he
      refine .inr ⟨fun y hy => ?_, fun _ => rfl⟩
      have hle := hwithin y hy
      push_cast
      omega

/-- The event that is worked on is stored. -/
theorem counted_stored (hc : s.Counted S) {n : ℕ} {rawEvent : PyVal} {event : SSEEvent}
    {force : Bool} (hp : s.producer = .storing n rawEvent)
    (he : storageEvent (S.eventId n) rawEvent S.onlyInterruptUpdates = some (some (event, force)))
    (ho : s'.Ordered S) (hem : s'.emitted = s.emitted)
    (hseqs : s'.storeSeqs S = s.storeSeqs S ++ [(n : ℤ)]) (hcounter : s'.producer.counter = n)
    (hworking : s'.producer.working = none) (hbatch : s'.producer.inserts = true → s'.batch = []) :
    s'.Counted S := by
  have hstores : s.producer.stores = true := by rw [hp]; rfl
  have hworks : (n, rawEvent) ∈ s.emitted := hc.working _ (by rw [hp]; rfl)
  have hkeeps : S.keeps (n, rawEvent) = true := by
    rw [Setup.keeps, he]
    rfl
  have hbound : ∀ e ∈ s.emitted, e.1 ≤ n := by
    intro e he
    have hle := hc.bound e he
    rwa [hp] at hle
  refine ⟨ho, hem ▸ hc.numbered, fun _ => ?_, ?_, ?_, hbatch, ?_, ?_⟩
  · rw [hem, hc.counter hstores, hp, hcounter]
    rfl
  · rw [hem, hcounter]
    exact hbound
  · intro e he
    rw [hworking] at he
    cases he
  · intro x hx
    rw [hseqs] at hx
    rw [hem]
    rcases List.mem_append.mp hx with hx | hx
    · exact hc.kept x hx
    · rw [List.mem_singleton.mp hx]
      exact ⟨_, hworks, rfl, hkeeps⟩
  · intro e hmem hkept x hx hlt
    rw [hem] at hmem
    rw [hseqs] at hx
    rw [State.Accounted, hseqs]
    have hle := hbound e hmem
    by_cases hsame : s.producer.working = some e
    · rw [hp] at hsame
      obtain rfl := Option.some.inj hsame
      exact .inl (List.mem_append_right _ (List.mem_singleton_self _))
    · have hx : x ∈ s.storeSeqs S := by
        refine (List.mem_append.mp hx).resolve_right fun hn => ?_
        rw [List.mem_singleton.mp hn] at hlt
        omega
      exact .inl (List.mem_append_left _ (mem_storeSeqs_of_idle hc hstores hmem hsame hkept hx hlt))

/-- The last numbers are lost with a batch, and no more are stored. -/
theorem counted_lost (lost : List ℤ) (hc : s.Counted S) (ho : s'.Ordered S)
    (hem : s'.emitted = s.emitted) (hseqs : s.storeSeqs S = s'.storeSeqs S ++ lost)
    (hstores : s'.producer.stores = false) (hcounter : s.producer.counter ≤ s'.producer.counter)
    (hworking : s'.producer.working = none) (hbatch : s'.producer.inserts = true → s'.batch = []) :
    s'.Counted S where
  ordered := ho
  numbered := hem ▸ hc.numbered
  counter h := absurd (hstores.symm.trans h) Bool.false_ne_true
  bound e he := (hc.bound e (hem ▸ he)).trans hcounter
  working e he := absurd (hworking.symm.trans he) (Option.some_ne_none e).symm
  batch := hbatch
  kept x hx := by
    rw [hem]
    exact hc.kept x (hseqs ▸ List.mem_append_left _ hx)
  accounted e he hkeeps x hx hlt := by
    have hsorted := hc.ordered.store.1
    rw [hseqs] at hsorted
    have hnone : s'.producer.stores = true → s'.producer.working = some e :=
      fun h => absurd (hstores.symm.trans h) Bool.false_ne_true
    have hold := hc.accounted e (hem ▸ he) hkeeps x (hseqs ▸ List.mem_append_left _ hx) hlt
    rw [State.Accounted, hseqs] at hold
    rcases hold with hmem | ⟨hlast, -⟩
    · rcases List.mem_append.mp hmem with hmem | hmem
      · exact .inl hmem
      · exact .inr ⟨fun y hy => (List.pairwise_append.mp hsorted).2.2 y hy _ hmem, hnone⟩
    · exact .inr ⟨fun y hy => hlast y (List.mem_append_left _ hy), hnone⟩

/-- The first numbers are deleted with their rows. -/
theorem counted_expire (hc : s.Counted S) (n : ℕ) :
    State.Counted S { s with table := s.table.drop n } := by
  have hseqs : s.storeSeqs S = (s.table.take n).map Row.seq ++
      State.storeSeqs S { s with table := s.table.drop n } := by
    rw [State.storeSeqs, State.storeSeqs, ← List.append_assoc, ← List.map_append,
      List.take_append_drop]
  have hsorted := hc.ordered.store.1
  rw [hseqs] at hsorted
  have hmem : ∀ x ∈ State.storeSeqs S { s with table := s.table.drop n }, x ∈ s.storeSeqs S :=
    fun x hx => hseqs ▸ List.mem_append_right _ hx
  refine ⟨?_, hc.numbered, hc.counter, hc.bound, hc.working, hc.batch,
    fun x hx => hc.kept x (hmem x hx), fun e he hkeeps x hx hlt => ?_⟩
  · refine ⟨hc.ordered.positive, hc.ordered.queue, hc.ordered.store.sublist ?_, fun r hr => ?_⟩
    · rw [hseqs]
      exact List.sublist_append_right _ _
    · exact hc.ordered.row_seq r (List.mem_of_mem_drop hr)
  · rcases hc.accounted e he hkeeps x (hmem x hx) hlt with hin | ⟨hlast, hwork⟩
    · rw [hseqs] at hin
      rcases List.mem_append.mp hin with hgone | hin
      · exact absurd ((List.pairwise_append.mp hsorted).2.2 _ hgone x hx) (lt_asymm hlt)
      · exact .inl hin
    · exact .inr ⟨fun y hy => hlast y (hmem y hy), hwork⟩

/-- The numbers before and after an insert that fails. -/
theorem storeSeqs_of_inserts (hc : s.Counted S) (h : s.producer.inserts = true) :
    s.storeSeqs S = s.table.map Row.seq ++ s.producer.inFlight.map fun e => S.seq e.id := by
  rw [State.storeSeqs, hc.batch h, List.append_nil]

/-- The steps of the producer keep the count. -/
theorem counted_produces {a : Label} (hc : s.Counted S) (h : Produces S s a s') :
    s'.Counted S := by
  have ho := ordered_produces hc.ordered h
  cases h with
  | start hp | finish interrupted hp | fail hp | recordFailure cancelled hp | putRaises hp he
  | putSkips hp he | put hp he hb | signal hp hb | cleanup hp hb | cleanupFlushes hp =>
    refine counted_of_frame hc ho rfl ?_ ?_ ?_ ?_ ?_ ?_ <;>
      simp [State.storeSeqs, hp, Producer.inFlight, Producer.stores, Producer.counter,
        Producer.working, Producer.inserts]
  | emit rawEvent hp => exact counted_emit hc hp ho
  | storeRaises hp he | storeSkips hp he =>
    refine counted_of_frame hc ho rfl ?_ ?_ ?_ ?_ ?_ ?_ <;>
      simp [State.storeSeqs, hp, Producer.inFlight, Producer.stores, Producer.counter,
        Producer.working, Producer.inserts, Setup.keeps, he]
  | store hp he | storeFlushes hp he =>
    refine counted_stored hc hp he ho rfl ?_ rfl rfl ?_
    · simp [State.storeSeqs, hp, Producer.inFlight, storageEvent_id he]
    · simp [Producer.inserts]
  | @commit n batch table hp ht | @clean n batch table hp ht =>
    have ht' : storeEvents S.unicode S.jsonb s.table s.producer.inFlight = some table := by
      rw [hp]
      exact ht
    obtain ⟨hrows, -⟩ := storeSeqs_insert hc.ordered ht'
    refine counted_of_frame hc ho rfl ?_ ?_ ?_ ?_ ?_ ?_
    · simp [State.storeSeqs, hrows, Producer.inFlight]
    all_goals simp [hp, Producer.stores, Producer.counter, Producer.working, Producer.inserts]
  | @commitFails n batch ok hp | @cleanFails n batch ok hp =>
    have hinserts : s.producer.inserts = true := by
      rw [hp]
      rfl
    have hbatch := hc.batch hinserts
    refine counted_lost (batch.map fun e => S.seq e.id) hc ho rfl ?_ rfl ?_ rfl ?_
    · rw [storeSeqs_of_inserts hc hinserts]
      simp [State.storeSeqs, hp, hbatch, Producer.inFlight]
    all_goals simp [hp, Producer.counter, Producer.inserts]

theorem counted_of_consumer (hc : s.Counted S) (hp : s'.producer = s.producer)
    (hb : s'.batch = s.batch) (ht : s'.table = s.table) (hem : s'.emitted = s.emitted)
    (hq : s'.broker.queue <:+ s.broker.queue) : s'.Counted S := by
  have hseqs : s'.storeSeqs S = s.storeSeqs S := by
    rw [State.storeSeqs, State.storeSeqs, hp, hb, ht]
  refine counted_of_frame hc (ordered_of_frame hc.ordered hp hb ht hq) hem hseqs ?_ ?_ ?_ ?_ ?_
  · exact fun h => ⟨hp ▸ h, by rw [hp]⟩
  · rw [hp]
  · exact fun e he => hp ▸ he
  · intro h
    rw [hb]
    exact hc.batch (hp ▸ h)
  · exact fun _ e he _ => hp ▸ he

/-- **The count is kept.** Every step of the system preserves `Counted`. -/
theorem counted_step {a : Label} (hc : s.Counted S) (h : step S s a = some s') :
    s'.Counted S := by
  rcases step_cases h with hprod | ⟨rows, -, rfl⟩ | ⟨lastEventId, -, rfl⟩ | ⟨_, _, -, rfl⟩ |
    ⟨-, rfl⟩ | ⟨-, hcons⟩
  · exact counted_produces hc hprod
  · exact counted_expire hc rows
  · obtain ⟨hp, hb, ht, hem, -, hbr⟩ := streamRun_frame S s lastEventId
    exact counted_of_consumer hc hp hb ht hem (hbr ▸ List.suffix_refl _)
  · exact counted_of_consumer hc rfl rfl rfl rfl (List.suffix_refl _)
  · exact counted_of_consumer hc rfl rfl rfl rfl (List.suffix_refl _)
  · obtain ⟨hp, hb, ht, hem, -, -, hq⟩ := consumes_frame hcons
    exact counted_of_consumer hc hp hb ht hem hq

/-! ### Gaps -/

theorem emitted_eq_of_number (hc : s.Counted S) {e e' : ℕ × PyVal} (he : e ∈ s.emitted)
    (he' : e' ∈ s.emitted) (h : e.1 = e'.1) : e = e' := by
  refine List.inj_on_of_nodup_map ?_ he he' h
  rw [hc.numbered]
  exact List.nodup_range'

/-- The numbers have a gap exactly if an event between two of them is left out. -/
theorem gapless_storeSeqs_iff (hc : s.Counted S) :
    Gapless (s.storeSeqs S) ↔ ∀ e ∈ s.emitted,
      (∃ x ∈ s.storeSeqs S, x < e.1) → (∃ y ∈ s.storeSeqs S, e.1 < y) → S.keeps e = true := by
  constructor
  · rintro h e he ⟨x, hx, hxe⟩ ⟨y, hy, hey⟩
    obtain ⟨e', he', hnumber, hkeeps⟩ := hc.kept _ (h x hx y hy e.1 hxe.le hey.le)
    have hsame := emitted_eq_of_number hc he he' (by exact_mod_cast hnumber.symm)
    rwa [hsame]
  · intro h x hx y hy k hxk hky
    rcases hxk.eq_or_lt with rfl | hxk
    · exact hx
    rcases hky.eq_or_lt with rfl | hky
    · exact hy
    -- the number belongs to an emitted event, since that of `y` does and is higher
    obtain ⟨last, hlast, rfl, -⟩ := hc.kept y hy
    have hx1 := (hc.ordered.store.2 x hx).1
    have hrange : ∀ n, n ∈ s.emitted.map Prod.fst ↔ 1 ≤ n ∧ n < 1 + s.emitted.length := by
      intro n
      rw [hc.numbered, List.mem_range'_1]
    have hbound := (hrange last.1).mp (List.mem_map_of_mem hlast)
    have hk : k.toNat ∈ s.emitted.map Prod.fst := (hrange _).mpr (by omega)
    obtain ⟨e, he, hek⟩ := List.mem_map.mp hk
    have hnumber : (e.1 : ℤ) = k := by omega
    rw [← hnumber] at hxk hky ⊢
    rcases hc.accounted e he (h e he ⟨x, hx, hxk⟩ ⟨_, hy, hky⟩) x hx hxk with hin | ⟨hall, -⟩
    · exact hin
    · exact absurd (hall _ hy) (lt_asymm hky)

theorem gapless_drop {l : List ℤ} (hsorted : l.Pairwise (· < ·)) (h : Gapless l) (n : ℕ) :
    Gapless (l.drop n) := by
  intro x hx y hy k hxk hky
  have hk := h x (List.mem_of_mem_drop hx) y (List.mem_of_mem_drop hy) k hxk hky
  rw [← List.take_append_drop n l] at hk hsorted
  refine (List.mem_append.mp hk).resolve_left fun htake => ?_
  exact absurd ((List.pairwise_append.mp hsorted).2.2 k htake x hx) (not_lt.mpr hxk)

theorem storeEvents_of_insertBatch {batch : List SSEEvent} {ok : Bool} {table : List Row}
    (h : insertBatch S s batch ok = some table) :
    storeEvents S.unicode S.jsonb s.table batch = some table := by
  cases ok with
  | false => cases h
  | true => exact h

/-- What the end of an insert does to the table. -/
theorem commit_cases {ok : Bool} (h : commitBatch S s ok = some s') :
    s.producer.inserts = true ∧
      ((insertSucceeds S s ok = false ∧ s'.table = s.table) ∨
        (insertSucceeds S s ok = true ∧
          storeEvents S.unicode S.jsonb s.table s.producer.inFlight = some s'.table)) := by
  rw [commitBatch] at h
  cases hp : s.producer with
  | flushing n batch | cleaning n batch =>
    rw [hp] at h
    simp only [insertSucceeds, hp, Producer.inFlight]
    cases ht : insertBatch S s batch ok with
    | some table =>
      simp only [ht] at h
      obtain rfl := Option.some.inj h
      exact ⟨rfl, .inr ⟨rfl, storeEvents_of_insertBatch ht⟩⟩
    | none =>
      simp only [ht] at h
      obtain rfl := Option.some.inj h
      exact ⟨rfl, .inl ⟨rfl, rfl⟩⟩
  | _ =>
    rw [hp] at h
    cases h

/-- Only inserts and the cleanup change the table. -/
theorem table_step {a : Label} (hcommit : ∀ ok, a ≠ .commit ok) (hexpire : ∀ n, a ≠ .expire n)
    (h : step S s a = some s') : s'.table = s.table := by
  rcases step_cases h with hprod | ⟨rows, rfl, -⟩ | ⟨lastEventId, -, rfl⟩ | ⟨_, _, -, rfl⟩ |
    ⟨-, rfl⟩ | ⟨-, hcons⟩
  · cases hprod with
    | commit | clean => exact absurd rfl (hcommit true)
    | commitFails ok | cleanFails ok => exact absurd rfl (hcommit ok)
    | _ => rfl
  · exact absurd rfl (hexpire rows)
  · exact (streamRun_frame S s lastEventId).2.2.1
  · rfl
  · rfl
  · exact (consumes_frame hcons).2.2.1

/-- **One step.** A table without a gap gets one exactly from an insert that leaves one. -/
theorem gapless_step {a : Label} (hc : s.Counted S) (hgapless : Gapless (s.table.map Row.seq))
    (h : step S s a = some s') : Gapless (s'.table.map Row.seq) ↔ LeavesNoGap S s a := by
  cases a with
  | commit ok =>
    obtain ⟨hinserts, ⟨hfails, ht⟩ | ⟨hsucceeds, hstore⟩⟩ := commit_cases h
    · refine iff_of_true (ht ▸ hgapless) fun hsucceeds => ?_
      rw [hfails] at hsucceeds
      exact absurd hsucceeds Bool.false_ne_true
    · have hrows := (storeSeqs_insert hc.ordered hstore).1
      rw [hrows, ← storeSeqs_of_inserts hc hinserts, gapless_storeSeqs_iff hc]
      exact ⟨fun h _ => h, fun h => h hsucceeds⟩
  | expire n =>
    obtain rfl := Option.some.inj h
    have hsorted : (s.table.map Row.seq).Pairwise (· < ·) :=
      hc.ordered.store.1.sublist (List.sublist_append_left _ _)
    refine iff_of_true ?_ trivial
    rw [List.map_drop]
    exact gapless_drop hsorted hgapless n
  | _ =>
    have htable : s'.table = s.table := table_step (by simp) (by simp) h
    rw [htable]
    exact iff_of_true hgapless trivial

/-! ### Runs -/

theorem nodup_seqs (ho : s.Ordered S) : (s.table.map Row.seq).Nodup := by
  have hsorted : (s.table.map Row.seq).Pairwise (· < ·) :=
    ho.store.1.sublist (List.sublist_append_left _ _)
  exact hsorted.imp ne_of_lt

/-- **The statistics of a run.** They are exact at every time, for every call between whose queries
the newest row is not deleted, exactly if every insert of the run leaves no gap. -/
theorem exactInfo_iff_along {labels : List Label} {t : State}
    (h : exec (step S) init labels = some t) :
    (∀ pre mid s s', pre ++ mid <+: labels → exec (step S) init pre = some s →
      exec (step S) s mid = some s' → KeepsNewest s.table s'.table →
        ExactInfo s.table (getRunInfo s.table s'.table)) ↔
      Along (step S) (LeavesNoGap S) init labels := by
  have hcounted {pre : List Label} {s : State} (hpre : exec (step S) init pre = some s) :
      s.Counted S :=
    exec_invariant (P := fun _ _ => True) (fun _ _ _ hc _ hstep => counted_step hc hstep)
      counted_init (along_true _ _) hpre
  rw [← forall_prefix_iff_along (S := State.Counted S)
    (I := fun s => Gapless (s.table.map Row.seq)) (fun _ _ _ hc hstep => counted_step hc hstep)
    (fun _ _ _ hc hgapless hstep => gapless_step hc hgapless hstep) counted_init
    (fun x hx => absurd hx List.not_mem_nil) h]
  constructor
  · intro hall pre s hpre hs
    have hnodup := nodup_seqs (hcounted hs).ordered
    have hkeeps : KeepsNewest s.table s.table := fun _ hrow _ => hrow
    exact (exactInfo_iff hnodup hnodup hkeeps).mp
      (hall pre [] s s (by rwa [List.append_nil]) hs rfl hkeeps)
  · intro hall pre mid s s' hpre hs hs' hkeeps
    have hexec : exec (step S) init (pre ++ mid) = some s' := by
      rw [exec_append, hs]
      exact hs'
    exact (exactInfo_iff (nodup_seqs (hcounted hs).ordered) (nodup_seqs (hcounted hexec).ordered)
      hkeeps).mpr (hall pre s ((List.prefix_append pre mid).trans hpre) hs)

/-- The setup with room for three events in the queue. -/
def roomySetup : Setup := { exampleSetup with broker := ⟨3, .block, by decide⟩ }

/-- Two values events, and one between them of a stream mode that is not stored. -/
def gapRun : List Label :=
  [.start] ++ exampleEvent ++ [.emit (.tuple [.str "debug", .int 1]), .put, .store] ++ exampleEvent

theorem exactInfo_iff_along_values :
    (exec (step exampleSetup) init ([.start] ++ exampleEvent ++ exampleEvent)).isSome = true ∧
      ∀ pre mid s s', pre ++ mid <+: [.start] ++ exampleEvent ++ exampleEvent →
        exec (step exampleSetup) init pre = some s → exec (step exampleSetup) s mid = some s' →
          KeepsNewest s.table s'.table → ExactInfo s.table (getRunInfo s.table s'.table) := by
  have hsome : (exec (step exampleSetup) init
      ([.start] ++ exampleEvent ++ exampleEvent)).isSome = true := by decide
  exact ⟨hsome, (exactInfo_iff_along (Option.some_get hsome).symm).mpr (by decide)⟩

/-- An event of a mode that is not stored is counted. -/
theorem gap_is_counted :
    ¬ ∀ (S : Setup) (labels : List Label) (s : State), exec (step S) init labels = some s →
      ExactInfo s.table (getRunInfo s.table s.table) := by
  intro h
  have hrun : (exec (step roomySetup) init gapRun).map (fun s =>
      (s.table.length, (getRunInfo s.table s.table).map RunInfo.eventCount)) =
        some (2, some 3) := by decide
  obtain ⟨s, hs, hcount⟩ := Option.map_eq_some_iff.mp hrun
  obtain ⟨hlength, hinfo⟩ := Prod.mk.inj hcount
  obtain ⟨info, hinfo, heq⟩ := Option.map_eq_some_iff.mp hinfo
  have hexact := h roomySetup gapRun s hs
  rw [hinfo] at hexact
  have hclaimed := hexact.1
  rw [heq, hlength] at hclaimed
  exact absurd hclaimed (by decide)

end RunStream

end OpenLangGraph
