import OpenLangGraph.Services.RunSignals

/-!
# A run that nobody reads

Whether the executor of a run has to wait for room in the broker while no consumer takes an event.
A broker that blocks when it is full keeps every event; one that drops the oldest keeps the
terminal events. Once the broker is finished a `put` returns at once.

## Main definitions

* `Producer.isBlocked` — the executor awaits room in the broker
* `findsRoom` — a step that puts an event finds room for it

## Main results

* `isBlocked_step_iff` — when a step of a run without a reader blocks the executor
* `never_blocked_iff` — when the executor of such a run is never blocked
-/

namespace OpenLangGraph

namespace RunSignals

open StreamingService Transition BoundedQueue
open RunStream (Setup exampleSetup)

variable {S : Setup} {s s' : State} {a : Label}

instance : (a : Label) → Decidable (a = .take)
  | .take => isTrue rfl
  | .emit _ | .store | .flush _ | .finish | .fail | .signal _ | .cleanup | .request _ | .close
  | .resume _ | .abandon _ => isFalse nofun

/-- The executor awaits room in the broker. -/
def Producer.isBlocked : Producer → Bool
  | .waiting _ | .signalling _ => true
  | .running | .storing _ | .flushing _ | .failing | .finishing | .cleaning _ | .done => false

/-- The broker is finished, or fewer events than the queue can hold were put that stay in it. -/
def State.hasRoom (S : Setup) (s : State) : Bool :=
  s.broker.closed ||
    s.broker.accepted.countP (stays (eventConfig S.broker)) < S.broker.queueMaxsize

/-- The executor finds room for the event it puts. -/
def findsRoom (S : Setup) (s : State) : Label → Bool
  | .emit rawEvent =>
    match processInterruptUpdates rawEvent S.onlyInterruptUpdates with
    | some (_, false) => s.hasRoom S
    | _ => true
  | .signal _ => s.hasRoom S
  | _ => true

/-! ### The broker of a run -/

/-- What every step of the broker keeps but `take`, a step of a run without a reader keeps. -/
theorem broker_of_step {I : Traffic → Prop}
    (hkeep : ∀ b l b', l ≠ .take → BoundedQueue.step (eventConfig S.broker) b l = some b' →
      I b → I b') (hs : I s.broker) (ha : a ≠ .take) (h : step S s a = some s') : I s'.broker := by
  have htraffic {t t' : State} {l : BoundedQueue.Label Event} (ht : I t.broker)
      (h : t.traffic S l = some t') (hl : l ≠ .take) : I t'.broker := by
    obtain ⟨broker, hbroker, rfl⟩ := traffic_eq_some h
    exact hkeep _ _ _ hl hbroker ht
  have hclose {t : State} (ht : I t.broker) : I t.closeBroker.broker :=
    hkeep _ .close _ (by simp) rfl ht
  cases step_cases h with
  | emit _ h =>
    rw [emit] at h
    split at h
    · exact Option.some.inj h ▸ hs
    · exact Option.some.inj h ▸ hs
    · refine htraffic ?_ h (by simp)
      exact hs
  | store =>
    rw [store]
    split
    · exact hs
    · dsimp only
      split <;> exact hs
  | flush h =>
    rw [flush] at h
    split at h
    · split at h <;> exact Option.some.inj h ▸ hs
    · split at h
      · exact Option.some.inj h ▸ hclose hs
      · exact Option.some.inj h ▸ hs
    · cases h
  | finish | fail => exact hs
  | signal _ h =>
    rw [signal] at h
    split at h
    · refine htraffic ?_ h (by simp)
      exact hs
    · obtain ⟨t, ht, rfl⟩ := Option.map_eq_some_iff.mp h
      refine hclose (htraffic ?_ ht (by simp))
      exact hs
  | cleanup =>
    rw [cleanup]
    split
    · exact hclose hs
    · exact hs
  | request h =>
    refine htraffic ?_ h (by simp)
    exact hs
  | close => exact hclose hs
  | resume e ht =>
    have hbroker := htraffic hs ht (by simp)
    rw [resumed]
    split
    · split <;> exact hbroker
    · split
      · exact hclose hbroker
      · exact hbroker
    · exact hbroker
  | abandon e ht =>
    have hbroker := htraffic hs ht (by simp)
    rw [abandoned]
    split
    · split <;> exact hbroker
    · split <;> exact hbroker
    · exact hbroker
  | take => exact absurd rfl ha

/-- The broker of a run without a reader. -/
structure State.Unread (S : Setup) (s : State) : Prop where
  sound : Sound (eventConfig S.broker) s.broker
  delivered : s.broker.delivered = []

theorem unread_init (S : Setup) : State.Unread S init := ⟨sound_init _, rfl⟩

theorem unread_step (hs : s.Unread S) (ha : a ≠ .take) (h : step S s a = some s') :
    s'.Unread S := by
  have hbroker : Sound (eventConfig S.broker) s'.broker ∧ s'.broker.delivered = [] := by
    refine broker_of_step (I := fun b => Sound (eventConfig S.broker) b ∧ b.delivered = [])
      (fun b l b' hl hstep hb => ?_) ⟨hs.sound, hs.delivered⟩ ha h
    exact ⟨sound_step hb.1 hstep, (delivered_of_step hl hstep).trans hb.2⟩
  exact ⟨hbroker.1, hbroker.2⟩

/-- A put has to wait exactly if there is no room. -/
theorem mustWait_eq (hs : s.Unread S) : s.mustWait S = !s.hasRoom S := by
  rw [State.mustWait, State.hasRoom, Bool.not_or]
  congr 1
  rw [Bool.eq_iff_iff, Option.isNone_iff_eq_none, room_eq_none_iff hs.sound hs.delivered,
    Bool.not_eq_true', decide_eq_false_iff_not, Nat.not_lt]
  rfl

/-! ### Steps that block the executor -/

theorem producer_of_traffic {l : BoundedQueue.Label Event} (h : s.traffic S l = some s') :
    s'.producer = s.producer := by
  obtain ⟨broker, -, rfl⟩ := traffic_eq_some h
  rfl

theorem isBlocked_emit (hs : s.Unread S) {rawEvent : PyVal} (hp : s.producer = .running)
    (h : emit S s rawEvent = some s') :
    s'.producer.isBlocked = !findsRoom S s (.emit rawEvent) := by
  rw [emit] at h
  rw [findsRoom]
  split at h
  · rename_i he
    rw [← Option.some.inj h, he]
    rfl
  · rename_i he
    rw [← Option.some.inj h, he]
    show s.producer.isBlocked = _
    rw [hp]
    rfl
  · rename_i he
    rw [producer_of_traffic h, he]
    show (if s.mustWait S then _ else _ : Producer).isBlocked = !s.hasRoom S
    rw [← mustWait_eq hs]
    cases s.mustWait S <;> rfl

theorem isBlocked_signal (hs : s.Unread S) {sig : Signal} (h : signal S s sig = some s') :
    s'.producer.isBlocked = !s.hasRoom S := by
  rw [← mustWait_eq hs]
  rw [signal] at h
  split at h
  · rename_i hwait
    rw [producer_of_traffic h, hwait]
    rfl
  · rename_i hwait
    obtain ⟨t, ht, rfl⟩ := Option.map_eq_some_iff.mp h
    show t.producer.isBlocked = _
    rw [producer_of_traffic ht, Bool.eq_false_iff.mpr hwait]
    rfl

/-- An executor that is not blocked is none of the tasks that wait. -/
theorem resumed_of_free (hfree : s.producer.isBlocked = false) (e : Event) : resumed s e = s := by
  rw [resumed]
  split
  · rename_i hp
    rw [hp] at hfree
    cases hfree
  · rename_i hp
    rw [hp] at hfree
    cases hfree
  · rfl

theorem abandoned_of_free (hfree : s.producer.isBlocked = false) (e : Event) :
    abandoned s e = s := by
  rw [abandoned]
  split
  · rename_i hp
    rw [hp] at hfree
    cases hfree
  · rename_i hp
    rw [hp] at hfree
    cases hfree
  · rfl

/-- **A step blocks the executor** exactly if it puts an event and finds no room. -/
theorem isBlocked_step_iff (hs : s.Unread S) (hfree : s.producer.isBlocked = false)
    (h : step S s a = some s') : s'.producer.isBlocked = false ↔ findsRoom S s a = true := by
  cases step_cases h with
  | emit hp h => rw [isBlocked_emit hs hp h, Bool.not_eq_false']
  | signal _ h => rw [isBlocked_signal hs h, Bool.not_eq_false', findsRoom]
  | store =>
    refine iff_of_true ?_ rfl
    rw [store]
    split
    · rfl
    · dsimp only
      split <;> rfl
  | flush h =>
    refine iff_of_true ?_ rfl
    rw [flush] at h
    split at h
    · split at h <;> rw [← Option.some.inj h] <;> rfl
    · split at h <;> rw [← Option.some.inj h] <;> rfl
    · cases h
  | finish | fail => exact iff_of_true rfl rfl
  | cleanup =>
    refine iff_of_true ?_ rfl
    rw [cleanup]
    split <;> rfl
  | close => exact iff_of_true hfree rfl
  | request ht | take ht =>
    refine iff_of_true ?_ rfl
    rw [producer_of_traffic ht]
    exact hfree
  | resume e ht =>
    refine iff_of_true ?_ rfl
    rw [← producer_of_traffic ht] at hfree
    rw [resumed_of_free hfree]
    exact hfree
  | abandon e ht =>
    refine iff_of_true ?_ rfl
    rw [← producer_of_traffic ht] at hfree
    rw [abandoned_of_free hfree]
    exact hfree

/-- **When the executor of a run without a reader is never blocked**: exactly if it finds room for
every event it puts. -/
theorem never_blocked_iff (S : Setup) {labels : List Label} {s : State}
    (hunread : ∀ a ∈ labels, a ≠ .take) (h : exec (step S) init labels = some s) :
    (∀ pre t, pre <+: labels → exec (step S) init pre = some t → t.producer.isBlocked = false) ↔
      Along (step S) (fun t a => findsRoom S t a = true) init labels := by
  rw [forall_prefix_iff]
  suffices hgeneral : ∀ t : State, t.Unread S → t.producer.isBlocked = false →
      exec (step S) t labels = some s →
      (Along (step S) (fun t a => ∀ t', step S t a = some t' → t'.producer.isBlocked = false) t
        labels ↔ Along (step S) (fun t a => findsRoom S t a = true) t labels) by
    exact (and_iff_right rfl).trans (hgeneral init (unread_init S) rfl h)
  clear h
  induction labels with
  | nil => exact fun _ _ _ _ => Iff.rfl
  | cons a labels ih =>
    intro t ht hfree h
    obtain ⟨t', ht', h⟩ := exec_cons_eq_some.mp h
    have hstep := isBlocked_step_iff ht hfree ht'
    have hrest (hfree' : t'.producer.isBlocked = false) :=
      ih (fun b hb => hunread b (List.mem_cons_of_mem _ hb)) t'
        (unread_step ht (hunread a List.mem_cons_self) ht') hfree' h
    constructor
    · rintro ⟨hfree', halong⟩
      refine ⟨hstep.mp (hfree' t' ht'), fun t'' ht'' => ?_⟩
      obtain rfl := Option.some.inj (ht'.symm.trans ht'')
      exact (hrest (hfree' t' ht')).mp (halong t' ht')
    · rintro ⟨hfits, halong⟩
      refine ⟨fun t'' ht'' => ?_, fun t'' ht'' => ?_⟩
      · obtain rfl := Option.some.inj (ht'.symm.trans ht'')
        exact hstep.mpr hfits
      · obtain rfl := Option.some.inj (ht'.symm.trans ht'')
        exact (hrest (hstep.mpr hfits)).mpr (halong t' ht')

/-! ### A queue of two events -/

/-- A graph that emits three values, in a queue of two. -/
def threeValues : List Label := valuesEvent ++ valuesEvent ++ valuesEvent.take 1

theorem never_blocked_two :
    ∃ s, exec (step exampleSetup) init (valuesEvent ++ valuesEvent ++ [.finish, .cleanup]) =
        some s ∧
      ∀ pre t, pre <+: valuesEvent ++ valuesEvent ++ [.finish, .cleanup] →
        exec (step exampleSetup) init pre = some t → t.producer.isBlocked = false := by
  obtain ⟨s, hs⟩ : ∃ s, exec (step exampleSetup) init
      (valuesEvent ++ valuesEvent ++ [.finish, .cleanup]) = some s :=
    Option.isSome_iff_exists.mp (by decide)
  exact ⟨s, hs, (never_blocked_iff exampleSetup (by decide) hs).mpr (by decide)⟩

/-- **A run that waits for a reader**: the queue holds two events, and the third waits. -/
theorem blocked_without_reader :
    ¬ ∀ (S : Setup) (labels : List Label) (s : State),
      (∀ a ∈ labels, a ≠ .take) → exec (step S) init labels = some s →
      ∀ pre t, pre <+: labels → exec (step S) init pre = some t →
        t.producer.isBlocked = false := by
  intro h
  have hrun : (exec (step exampleSetup) init threeValues).any (·.producer.isBlocked) = true := by
    decide
  obtain ⟨s, hs, hblocked⟩ := (Option.any_eq_true _ _).mp hrun
  have hfree := h exampleSetup threeValues s (by decide) hs threeValues s List.prefix_rfl hs
  rw [hblocked] at hfree
  cases hfree

end RunSignals

end OpenLangGraph
