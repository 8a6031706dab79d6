import OpenLangGraph.Api.RunServer

/-!
# Resuming a thread

A resume command is accepted on a thread that is interrupted. The check reads the status in one
query, and the request writes `busy` in a later one, with two lookups in between. As long as no
resume request on the thread passes its check while another is between its check and its write, at
most one of them gets to write anything before the thread is interrupted again, and the others are
turned down without effect. Two requests that overlap there both start a run.

## Main definitions

* `Creation.resumes`, `Creation.isChecked`, `Creation.hasWritten`
* `Server.overlaps` — a resume request passes its check while another is about to write
* `Server.OneResumes` — which requests have gone further than their check

## Main results

* `Server.single_resume` — without an overlap at most one request gets past the checks
* `Server.two_resume` — with an overlap two do
-/

namespace OpenLangGraph

open Runs Transition Processes

/-- The thread exists and is interrupted. -/
def Database.isInterrupted (db : Database) (threadId : String) : Bool :=
  (db.thread? threadId).any (·.status = .interrupted)

namespace Creation

/-- A request of `create_run` or `create_and_stream_run` that resumes the thread. -/
def resumes (c : Creation) (threadId : String) : Bool :=
  c.kind ≠ .batch && c.threadId = threadId && c.request.hasResume

/-- The request is between its check and its first write. -/
def isChecked (c : Creation) : Bool :=
  match c.stage with
  | .resolving _ | .settingBusy _ _ => true
  | _ => false

/-- The request has written to the thread. -/
def hasWritten (c : Creation) : Bool :=
  match c.stage with
  | .readingThread _ _ | .writingMetadata _ _ | .inserting _ _ | .spawning | .succeeded
  | .failed _ => true
  | .checking | .resolving _ | .settingBusy _ _ | .rejected _ => false

/-- The request has not passed the check, or was turned down after it. -/
def isUntouched (c : Creation) : Bool := !c.isChecked && !c.hasWritten

/-- The request has passed the check and is not done. -/
def isUnderWay (c : Creation) : Bool :=
  match c.stage with
  | .checking | .succeeded | .rejected _ | .failed _ => false
  | _ => true

variable {db db' : Database} {c : Creation} {stage : CreationStage} {threadId : String}

theorem resumes_eq_true : c.resumes threadId = true ↔
    c.kind ≠ .batch ∧ c.threadId = threadId ∧ c.request.hasResume = true := by
  simp [resumes, and_assoc]

/-- A resume request passes its check only if the thread is interrupted. -/
theorem isInterrupted_of_check {loaded : Option Thread} (hresumes : c.resumes threadId = true)
    (h : c.check db = .ok loaded) : db.isInterrupted threadId = true := by
  obtain ⟨hkind, rfl, hresume⟩ := resumes_eq_true.mp hresumes
  have hcheck := (check_eq hkind c.stage).symm.trans h
  cases hthread : db.thread? c.threadId with
  | none => simp [hresume, hthread, checkResume, Except.map] at hcheck
  | some thread =>
    by_cases hstatus : thread.status = .interrupted
    · simp [Database.isInterrupted, hthread, hstatus]
    · simp [hresume, hthread, checkResume, hstatus, Except.map] at hcheck

/-- A step of a resume request is the passing of the check, a step after which nothing has been
written yet and which writes nothing, or a write or a step after it, which leaves the thread busy
if the status is what was written. -/
theorem Moves.resume_cases (hresumes : c.resumes threadId = true) (h : c.Moves db db' stage) :
    (c.stage = .checking ∧ db.isInterrupted threadId = true ∧
      { c with stage }.hasWritten = false) ∨
    (c.isUnderWay = true ∧ { c with stage }.hasWritten = false) ∨
    (c.stage = .checking ∧ { c with stage }.isUntouched = true) ∨
    (c.isChecked = true ∧ { c with stage }.hasWritten = true ∧
      db'.isInterrupted threadId = false) ∨
    (c.isUnderWay = true ∧ c.hasWritten = true ∧ { c with stage }.hasWritten = true) := by
  obtain ⟨hkind, rfl, hresume⟩ := resumes_eq_true.mp hresumes
  cases h with
  | checked hstage hcheck => exact .inl ⟨hstage, isInterrupted_of_check hresumes hcheck, rfl⟩
  | rejected hstage =>
    rcases hstage with hstage | ⟨loaded, hstage⟩
    · exact .inr (.inr (.inl ⟨hstage, rfl⟩))
    · exact .inr (.inl ⟨by simp [isUnderWay, hstage], rfl⟩)
  | resolved hstage => exact .inr (.inl ⟨by simp [isUnderWay, hstage], rfl⟩)
  | setBusy hstage =>
    refine .inr (.inr (.inr (.inl ⟨by simp [isChecked, hstage], rfl, ?_⟩)))
    rw [Database.isInterrupted, thread?_setThreadStatus, if_pos rfl]
    cases db.thread? c.threadId <;> rfl
  | read hstage | wrote hstage | inserted hstage | spawned hstage =>
    exact .inr (.inr (.inr (.inr
      ⟨by simp [isUnderWay, hstage], by simp [hasWritten, hstage], rfl⟩)))
  | failed hstage =>
    rcases hstage with hstage | hstage <;>
      exact .inr (.inr (.inr (.inr
        ⟨by simp [isUnderWay, hstage], by simp [hasWritten, hstage], rfl⟩)))
  | resolvedBatch _ hbatch | wroteBatch _ hbatch | insertedBatch _ hbatch =>
    exact absurd hbatch hkind

/-- What has written nothing after a step has changed nothing in it. -/
theorem Moves.unwritten (hkind : c.kind ≠ .batch) (h : c.Moves db db' stage)
    (hwritten : { c with stage }.hasWritten = false) :
    db' = db ∧ c.spawned = [] ∧ c.hasWritten = false := by
  cases h with
  | checked hstage | resolved hstage =>
    exact ⟨rfl, by simp [Creation.spawned, hstage], by simp [hasWritten, hstage]⟩
  | rejected hstage =>
    rcases hstage with hstage | ⟨loaded, hstage⟩ <;>
      exact ⟨rfl, by simp [Creation.spawned, hstage], by simp [hasWritten, hstage]⟩
  | setBusy | read | wrote | wroteBatch | inserted | failed | spawned => cases hwritten
  | resolvedBatch _ hbatch | insertedBatch _ hbatch => exact absurd hbatch hkind

end Creation

namespace Server

variable {setting : Setting} {s s' t : Server} {threadId : String} {a : Label}

/-- The step sets the thread to interrupted. -/
def interrupts (setting : Setting) (threadId : String) (s : Server) (a : Label) : Bool :=
  (s.step setting a).any fun s' =>
    s'.db.isInterrupted threadId && !s.db.isInterrupted threadId

/-- A resume request on the thread passes its check while another is between its check and its
write. -/
def overlaps (threadId : String) (s : Server) : Label → Bool
  | .create i => s.creations[i]?.any fun c =>
      c.resumes threadId && (match c.stage with | .checking => true | _ => false) &&
        s.db.isInterrupted threadId && s.creations.any fun c => c.resumes threadId && c.isChecked
  | _ => false

/-- Since `start` one resume request on the thread, at position `j`, has gone further than its
check: every other one has not moved, or has not passed the check, or was turned down. -/
def OneResumes (threadId : String) (start : Server) (j : ℕ) (s : Server) : Prop :=
  ∀ i c, s.creations[i]? = some c → c.resumes threadId = true →
    start.creations[i]? = some c ∨ i = j ∨ c.isUntouched = true

/-- A step of a resume request after which it has written nothing changes no table and starts no
task. -/
def WritesNothingYet (setting : Setting) (threadId : String) (s : Server) (a : Label) : Prop :=
  ∀ i c s' c', a = .create i → s.creations[i]? = some c → c.resumes threadId = true →
    s.step setting a = some s' → s'.creations[i]? = some c' → c'.hasWritten = false →
      s'.db = s.db ∧ s'.tasks = s.tasks ∧ c.hasWritten = false

/-- What every run without overlaps keeps, until the thread is interrupted again: one request has
gone further than its check, and once it has written, the thread is not interrupted. -/
structure Sole (threadId : String) (start : Server) (j : ℕ) (s : Server) : Prop where
  one : OneResumes threadId start j s
  notInterrupted : ∀ c, s.creations[j]? = some c → c.resumes threadId = true →
    c.hasWritten = true → start.creations[j]? ≠ some c → s.db.isInterrupted threadId = false

/-- A step after which every resume request on the thread has not moved or is untouched. -/
theorem Sole.of_others {j : ℕ} {start : Server} (hs : Sole threadId start j s)
    (hinterrupts : interrupts setting threadId s a = false) (h : s.step setting a = some s')
    (hmoves : ∀ (i : ℕ) (c : Creation), s'.creations[i]? = some c → c.resumes threadId = true →
      s.creations[i]? = some c ∨ c.isUntouched = true) :
    Sole threadId start j s' := by
  constructor
  · intro i c hc hresumes
    rcases hmoves i c hc hresumes with hsame | huntouched
    · exact hs.one i c hsame hresumes
    · exact .inr (.inr huntouched)
  · intro c hc hresumes hwritten hstart
    rcases hmoves j c hc hresumes with hsame | huntouched
    · have hbefore := hs.notInterrupted c hsame hresumes hwritten hstart
      simpa [interrupts, h, hbefore] using hinterrupts
    · simp [Creation.isUntouched, hwritten] at huntouched

/-- The request that has gone further than its check is the one that is under way. -/
theorem Sole.eq_of_isUnderWay {i j : ℕ} {start : Server} {c : Creation}
    (hs : Sole threadId start j s)
    (hstart : ∀ c ∈ start.creations, c.resumes threadId = true → c.isUnderWay = false)
    (hc : s.creations[i]? = some c) (hresumes : c.resumes threadId = true)
    (hway : c.isUnderWay = true) : i = j ∧ start.creations[j]? ≠ some c := by
  have hnew : ∀ k : ℕ, start.creations[k]? ≠ some c := by
    intro k hk
    have := hstart c (List.mem_of_getElem? hk) hresumes
    rw [hway] at this
    cases this
  rcases hs.one i c hc hresumes with hsame | hij | huntouched
  · exact absurd hsame (hnew i)
  · exact ⟨hij, hnew j⟩
  · exfalso
    rw [Creation.isUntouched, Creation.isChecked, Creation.hasWritten] at huntouched
    rw [Creation.isUnderWay] at hway
    cases hstage : c.stage <;> simp [hstage] at huntouched hway

/-- A step of the request that has gone further than its check. -/
theorem Sole.of_mover {i : ℕ} {start : Server} {c' : Creation}
    (hone : OneResumes threadId start i s) (hcreations : s'.creations = s.creations.set i c')
    (hafter : c'.hasWritten = true → s'.db.isInterrupted threadId = false) :
    Sole threadId start i s' := by
  constructor
  · intro k c hk hresumes
    rw [hcreations] at hk
    rcases getElem?_set_cases hk with ⟨rfl, -⟩ | ⟨-, hk⟩
    · exact .inr (.inl rfl)
    · exact hone k c hk hresumes
  · intro c hc _ hwritten _
    rw [hcreations] at hc
    rcases getElem?_set_cases hc with ⟨-, rfl⟩ | ⟨hne, -⟩
    · exact hafter hwritten
    · exact absurd rfl hne

/-- While the thread is interrupted and nobody is between its check and its write, no request has
gone further than its check but those that have not moved since the start. -/
theorem Sole.nobody_ahead {i j : ℕ} {start : Server} (hs : Sole threadId start j s)
    (hinterrupted : s.db.isInterrupted threadId = true)
    (hall : ∀ c ∈ s.creations, c.resumes threadId = true → c.isChecked = false) :
    OneResumes threadId start i s := by
  intro k c hk hresumes
  rcases hs.one k c hk hresumes with hsame | rfl | huntouched
  · exact .inl hsame
  · by_cases hsame : start.creations[k]? = some c
    · exact .inl hsame
    · have hnot : c.hasWritten = false := by
        rw [← Bool.not_eq_true]
        intro hwritten
        rw [hs.notInterrupted c hk hresumes hwritten hsame] at hinterrupted
        cases hinterrupted
      have hnotChecked := hall c (List.mem_of_getElem? hk) hresumes
      exact .inr (.inr (by simp [Creation.isUntouched, hnot, hnotChecked]))
  · exact .inr (.inr huntouched)

/-- **One step** of a resume request. -/
theorem sole_create {i j : ℕ} {start : Server} {c : Creation} {db : Database}
    {stage : CreationStage} (hs : Sole threadId start j s)
    (hstart : ∀ c ∈ start.creations, c.resumes threadId = true → c.isUnderWay = false)
    (hinterrupts : interrupts setting threadId s (.create i) = false)
    (hoverlaps : overlaps threadId s (.create i) = false)
    (h : s.step setting (.create i) = some s') (hc : s.creations[i]? = some c)
    (hresumes : c.resumes threadId = true) (hmoves : c.Moves s.db db stage)
    (hcreations : s'.creations = s.creations.set i { c with stage }) (hdb : s'.db = db) :
    ∃ j, Sole threadId start j s' := by
  have hunwrittenAfter : { c with stage }.hasWritten = false →
      { c with stage }.hasWritten = true → s'.db.isInterrupted threadId = false := by
    intro hunwritten hwritten
    rw [hunwritten] at hwritten
    cases hwritten
  rcases Creation.Moves.resume_cases hresumes hmoves with
    ⟨hchecking, hinterrupted, hunwritten⟩ | ⟨hway, hunwritten⟩ | ⟨-, huntouched⟩ |
      ⟨hchecked, -, hbusy⟩ | ⟨hway, hwritten, -⟩
  · -- the check is passed, so no other request on the thread is about to write, or has written
    have hall : ∀ c ∈ s.creations, c.resumes threadId = true → c.isChecked = false := by
      simpa [overlaps, hc, hresumes, hchecking, hinterrupted] using hoverlaps
    exact ⟨i, .of_mover (hs.nobody_ahead hinterrupted hall) hcreations
      (hunwrittenAfter hunwritten)⟩
  · obtain ⟨rfl, -⟩ := hs.eq_of_isUnderWay hstart hc hresumes hway
    exact ⟨i, .of_mover hs.one hcreations (hunwrittenAfter hunwritten)⟩
  · refine ⟨j, hs.of_others hinterrupts h fun k c' hk _ => ?_⟩
    rw [hcreations] at hk
    rcases getElem?_set_cases hk with ⟨-, rfl⟩ | ⟨-, hk⟩
    · exact .inr huntouched
    · exact .inl hk
  · have hway : c.isUnderWay = true := by
      rw [Creation.isChecked] at hchecked
      rw [Creation.isUnderWay]
      cases hstage : c.stage <;> simp [hstage] at hchecked ⊢
    obtain ⟨rfl, -⟩ := hs.eq_of_isUnderWay hstart hc hresumes hway
    exact ⟨i, .of_mover hs.one hcreations fun _ => hdb ▸ hbusy⟩
  · obtain ⟨rfl, hnew⟩ := hs.eq_of_isUnderWay hstart hc hresumes hway
    refine ⟨i, .of_mover hs.one hcreations fun _ => ?_⟩
    have hbefore := hs.notInterrupted c hc hresumes hwritten hnew
    simpa [interrupts, h, hbefore] using hinterrupts

theorem sole_step {start : Server}
    (hstart : ∀ c ∈ start.creations, c.resumes threadId = true → c.isUnderWay = false)
    (hs : ∃ j, Sole threadId start j s)
    (hinterrupts : interrupts setting threadId s a = false)
    (hoverlaps : overlaps threadId s a = false) (h : s.step setting a = some s') :
    ∃ j, Sole threadId start j s' := by
  obtain ⟨j, hs⟩ := hs
  have hsame : s'.creations = s.creations → ∃ j, Sole threadId start j s' := fun heq =>
    ⟨j, hs.of_others hinterrupts h fun i c hc _ => .inl (heq ▸ hc)⟩
  cases a with
  | requestRun kind user threadId' request runId =>
    refine ⟨j, hs.of_others hinterrupts h fun i c hc _ => ?_⟩
    cases h
    rcases getElem?_append_cases hc with hc | ⟨-, rfl⟩
    · exact .inl hc
    · exact .inr rfl
  | create i =>
    obtain ⟨c, db, stage, hc, hmoves, rfl⟩ := step_create h
    by_cases hresumes : c.resumes threadId = true
    · exact sole_create hs hstart hinterrupts hoverlaps h hc hresumes hmoves rfl rfl
    · refine ⟨j, hs.of_others hinterrupts h fun k c' hk hresumes' => ?_⟩
      rcases getElem?_set_cases hk with ⟨-, rfl⟩ | ⟨-, hk⟩
      · exact absurd hresumes' hresumes
      · exact .inl hk
  | execute i outcome =>
    obtain ⟨task, db, task', -, -, rfl⟩ := step_execute h
    exact hsame rfl
  | disconnect runId => rcases step_disconnect h with rfl | rfl <;> exact hsame rfl
  | requestControl | requestObserver =>
    cases h
    exact hsame rfl
  | control i ok =>
    obtain ⟨c, db, stage, -, -, rfl⟩ := step_control h
    exact hsame rfl
  | observe i timeout =>
    obtain ⟨o, stage, cancels, -, -, rfl⟩ := step_observe h
    exact hsame rfl

theorem writesNothingYet (setting : Setting) (threadId : String) (s : Server) (a : Label) :
    WritesNothingYet setting threadId s a := by
  rintro i c s' c' rfl hc hresumes h hc' hwritten
  obtain ⟨c₁, db, stage, hc₁, hmoves, rfl⟩ := step_create h
  obtain rfl : c₁ = c := Option.some.inj (hc₁.symm.trans hc)
  obtain ⟨-, rfl⟩ | ⟨hne, -⟩ := getElem?_set_cases hc'
  · have hkind := (Creation.resumes_eq_true.mp hresumes).1
    obtain ⟨hdb, hspawned, hbefore⟩ := Creation.Moves.unwritten hkind hmoves hwritten
    exact ⟨hdb, by rw [hspawned, List.append_nil], hbefore⟩
  · exact absurd rfl hne

/-- **Single resume.** Take any run of the server from a state in which no resume request on the
thread is under way, until the thread is interrupted again. If no resume request on the thread
passes its check while another is between its check and its write, then at most one of them goes
further than its check; each of the others has been turned down or still waits for its check, and
nothing of what it did wrote to a table or started a task. -/
theorem single_resume (setting : Setting) (threadId : String) (start t : Server) (as : List Label)
    (hstart : ∀ c ∈ start.creations, c.resumes threadId = true → c.isUnderWay = false)
    (hinterrupts : Along (step setting)
      (fun s a => interrupts setting threadId s a = false) start as)
    (hoverlaps : Along (step setting) (fun s a => overlaps threadId s a = false) start as)
    (hrun : exec (step setting) start as = some t) :
    (∃ j, OneResumes threadId start j t) ∧
      Along (step setting) (WritesNothingYet setting threadId) start as := by
  have hsole : ∃ j, Sole threadId start j start :=
    ⟨0, fun _ _ hc _ => .inl hc, fun _ hc _ _ hnew => absurd hc hnew⟩
  obtain ⟨j, hs⟩ := exec_invariant
    (fun _ _ _ hs hP h => sole_step hstart hs hP.1 hP.2 h) hsole (hinterrupts.and hoverlaps) hrun
  exact ⟨⟨j, hs.one⟩, (along_true start as).mono fun s a _ => writesNothingYet setting threadId s a⟩

/-- Alice's thread, interrupted. -/
def interruptedServer : Server := idle (setThreadStatus exampleDatabase "t" .interrupted)

/-- Two requests resume the thread, with these steps. -/
def resumeLabels (steps : List ℕ) : List Label :=
  [.requestRun .run ⟨"alice", none⟩ "t" (exampleRequest true) "r",
    .requestRun .stream ⟨"alice", none⟩ "t" (exampleRequest true) "q"] ++ steps.map .create

/-- The first request starts its run, the second comes after it. -/
def oneAfterTheOther : List Label := resumeLabels [0, 0, 0, 0, 0, 0, 0, 1]

def resumedServer : Server :=
  (exec (step exampleSetting) interruptedServer oneAfterTheOther).get (by decide)

theorem single_resume_one_after_the_other :
    (∃ j, OneResumes "t" interruptedServer j resumedServer) ∧
      Along (step exampleSetting) (WritesNothingYet exampleSetting "t") interruptedServer
        oneAfterTheOther :=
  single_resume exampleSetting "t" interruptedServer resumedServer oneAfterTheOther (by decide)
    (by decide) (by decide) (Option.some_get _).symm

/-- Both requests pass the check before one of them writes, and both start a run. -/
theorem two_resume :
    ¬ ∀ (setting : Setting) (threadId : String) (start t : Server) (as : List Label),
      (∀ c ∈ start.creations, c.resumes threadId = true → c.isUnderWay = false) →
      Along (step setting) (fun s a => interrupts setting threadId s a = false) start as →
      exec (step setting) start as = some t → ∃ j, OneResumes threadId start j t := by
  intro h
  have hrun : (exec (step exampleSetting) interruptedServer
      (resumeLabels [0, 1, 0, 0, 0, 0, 0, 0, 1, 1, 1, 1, 1, 1])).any (fun t =>
        t.creations[0]?.any (fun c => c.resumes "t" && !c.isUntouched) &&
          t.creations[1]?.any fun c => c.resumes "t" && !c.isUntouched) = true := by
    decide
  obtain ⟨t, ht, hboth⟩ := (Option.any_eq_true _ _).mp hrun
  obtain ⟨j, hone⟩ := h exampleSetting "t" interruptedServer t _ (by decide) (by decide) ht
  have hj : ∀ i : ℕ, t.creations[i]?.any (fun c => c.resumes "t" && !c.isUntouched) = true →
      i = j := by
    intro i hi
    obtain ⟨c, hc, hi⟩ := (Option.any_eq_true _ _).mp hi
    obtain ⟨hresumes, htouched⟩ := Bool.and_eq_true_iff.mp hi
    rcases hone i c hc hresumes with hold | hij | huntouched
    · cases hold
    · exact hij
    · simp [huntouched] at htouched
  obtain ⟨hfirst, hsecond⟩ := Bool.and_eq_true_iff.mp hboth
  have := hj 0 hfirst
  have := hj 1 hsecond
  omega

end Server

end OpenLangGraph
