import CycleMiner.Proofs.Scheduler.Jobs

/-!
# Halting

A scheduler is halted by a fatal event or from outside, and by nothing else.  It begins no job after
that, tells the job that runs to stop, and comes to its end once the workers of that job have ended.

* `Machine.active_step`, `Machine.active_run`   what halts a scheduler;
* `Machine.begun_of_halted`   a halted scheduler begins no job;
* `Machine.ended_run`         only a halted scheduler comes to its end;
* `Machine.Rested`            a worker has ended, if a job runs;
* `Machine.rested_of_turn`    a turn that finds the flag raised ends its worker;
* `Machine.remaining`         how many more moves of its own a halted scheduler makes at most;
* `Machine.ended_of_advances` so many moves bring it to its end;
* `fatal_event_halts`         what therefore follows a fatal event, and what its absence means.

Events that arrive are handled to the last, so each of them puts the end off by one move.
-/

namespace CycleMiner

theorem Scheduler.notes_active (s : Scheduler) (notices : List ScheduleNotice) :
    (notices.foldl note s).active = s.active := by
  induction notices generalizing s with
  | nil => rfl
  | cons n notices ih => exact ih (s.note n)

def Move.isAdvance : Move → Bool
  | .advance => true
  | .deliver _ | .halt | .work _ _ | .oversee => false

/-- how many of some moves are those of the scheduler itself -/
def advances (moves : List Move) : Nat := moves.countP Move.isAdvance

/-- a worker that finds the flag raised has ended after its turn -/
theorem Worker.isSome_step_of_stopped {job : Job} {w : Worker} {b : Board}
    (h : b.stopped = true) : (w.step job b).1.exit.isSome = true := by
  unfold step act
  by_cases hexit : w.exit.isSome = true
  · rwa [if_pos hexit]
  · rw [if_neg hexit, if_pos h]
    rfl

namespace Machine

section
variable {m : Machine} {x : Move}

/-! ## What halts it -/

theorem work_active (m : Machine) (timing : Timing) (index : Nat) :
    (m.work timing index).scheduler.active = m.scheduler.active := by
  by_cases h : ∃ r, m.phase = .mining r
  · obtain ⟨r, hphase⟩ := h
    cases hw : r.workers[index]? with
    | none => rw [work_of_no_worker hphase hw]
    | some w => rw [work_of_worker hphase hw]
  · rw [work_of_not_mining fun r hr => h ⟨r, hr⟩]

/-- a scheduler stays active unless it handles a fatal event or is halted from outside -/
theorem active_step (m : Machine) (x : Move) : (m.step x).scheduler.active = true ↔
    m.scheduler.active = true ∧ x ≠ .halt ∧ ∀ e, m.takes? x = some e → e.isFatal = false := by
  by_cases hx : x = .halt
  · subst hx
    exact iff_of_false Bool.false_ne_true fun h => h.2.1 rfl
  have heffect := effect_step m x
  generalize m.step x = m', m.takes? x = taken at heffect ⊢
  rw [and_iff_right hx]
  have hnone : ∀ e : Event, none = some e → e.isFatal = false := fun e h => by cases h
  cases heffect with
  | @takes x e rest phase _ hmail hphase =>
    rw [m.scheduler.active_handle, Bool.and_eq_true, Bool.not_eq_true']
    refine and_congr_right fun _ => ⟨fun he e' he' => ?_, fun h => h e rfl⟩
    obtain rfl := Option.some.inj he'
    exact he
  | shifts notices hfrom hto =>
    rw [m.scheduler.notes_active]
    exact (and_iff_left hnone).symm
  | works hphase =>
    rw [work_active]
    exact (and_iff_left hnone).symm
  | halts => exact absurd rfl hx
  | _ => exact (and_iff_left hnone).symm

theorem active_run (m : Machine) (moves : List Move) : (m.run moves).scheduler.active = true ↔
    m.scheduler.active = true ∧ .halt ∉ moves ∧ ∀ e ∈ m.handled moves, e.isFatal = false := by
  induction moves generalizing m with
  | nil => simp [handled]
  | cons x moves ih =>
    rw [run_cons, ih, active_step, handled, List.mem_cons, not_or, List.forall_mem_append]
    have htaken : (∀ e ∈ (m.takes? x).toList, e.isFatal = false) ↔
        ∀ e, m.takes? x = some e → e.isFatal = false :=
      forall_congr' fun e => imp_congr_left Option.mem_toList
    rw [htaken, ne_comm]
    tauto

theorem halted_step (h : m.scheduler.active = false) (x : Move) :
    (m.step x).scheduler.active = false := by
  rw [← Bool.not_eq_true, active_step, h]
  exact fun hactive => Bool.false_ne_true hactive.1

theorem halted_run (h : m.scheduler.active = false) (moves : List Move) :
    (m.run moves).scheduler.active = false := by
  rw [← Bool.not_eq_true, active_run, h]
  exact fun hactive => Bool.false_ne_true hactive.1

theorem begins?_of_halted (h : m.scheduler.active = false) (x : Move) : m.begins? x = none := by
  refine Option.eq_none_iff_forall_ne_some.2 fun r hr => ?_
  obtain ⟨-, -, hactive, -⟩ := begins?_eq_some hr
  rw [h] at hactive
  cases hactive

/-- a halted scheduler begins no job -/
theorem begun_of_halted (h : m.scheduler.active = false) (moves : List Move) :
    m.begun moves = [] := by
  induction moves generalizing m with
  | nil => rfl
  | cons x moves ih =>
    rw [begun, begins?_of_halted h, ih (halted_step h x)]
    rfl

/-! ## The end -/

theorem choose_phase (m : Machine) : m.choose.phase ≠ .ended := by
  unfold choose
  split
  · split <;> nofun
  · nofun

theorem work_phase (m : Machine) (timing : Timing) (index : Nat) :
    (m.work timing index).phase.isMining = m.phase.isMining := by
  by_cases h : ∃ r, m.phase = .mining r
  · obtain ⟨r, hphase⟩ := h
    cases hw : r.workers[index]? with
    | none => rw [work_of_no_worker hphase hw]
    | some w =>
      rw [work_of_worker hphase hw, hphase]
      rfl
  · rw [work_of_not_mining fun r hr => h ⟨r, hr⟩]

theorem oversee_phase (m : Machine) : m.oversee.phase.isMining = m.phase.isMining := by
  unfold oversee
  split
  · rename_i r e rest hphase hmail
    rw [hphase]
    rfl
  · rfl

/-- only a halted scheduler comes to its end -/
theorem ended_step (h : (m.step x).phase = .ended) :
    m.phase = .ended ∨ m.scheduler.active = false := by
  cases x with
  | deliver e => exact .inl h
  | halt => exact .inl h
  | work timing index =>
    change (m.work timing index).phase = .ended at h
    by_cases hmining : ∃ r, m.phase = .mining r
    · have hsame := m.work_phase timing index
      rw [h, Phase.isMining_iff.2 hmining] at hsame
      cases hsame
    · rw [work_of_not_mining fun r hr => hmining ⟨r, hr⟩] at h
      exact .inl h
  | oversee =>
    change m.oversee.phase = .ended at h
    by_cases hmining : ∃ r, m.phase = .mining r
    · have hsame := m.oversee_phase
      rw [h, Phase.isMining_iff.2 hmining] at hsame
      cases hsame
    · rw [oversee_of_not_mining fun r hr => hmining ⟨r, hr⟩] at h
      exact .inl h
  | advance =>
    obtain ⟨s, mailbox, phase, solved⟩ := m
    dsimp only
    change (advance ⟨s, mailbox, phase, solved⟩).phase = .ended at h
    unfold advance at h
    cases hactive : s.active with
    | false => exact .inr rfl
    | true =>
      -- an active scheduler goes from each phase to another one that is not the end
      cases phase with
      | head =>
        rw [hactive] at h
        cases h
      | draining =>
        cases mailbox with
        | nil =>
          rw [hactive] at h
          exact absurd h (choose_phase _)
        | cons e rest => cases h
      | idle => cases mailbox <;> cases h
      | mining r =>
        dsimp only at h
        split at h
        · cases h
        · cases mailbox <;> cases h
      | closing item result =>
        cases mailbox with
        | nil => cases result <;> cases h
        | cons e rest => cases h
      | ended => exact .inl rfl

theorem ended_run {moves : List Move} (h : (m.run moves).phase = .ended) :
    m.phase = .ended ∨ (m.run moves).scheduler.active = false := by
  induction moves generalizing m with
  | nil => exact .inl h
  | cons x moves ih =>
    rcases ih h with hend | hhalted
    · refine (ended_step hend).imp_right fun hhalted => ?_
      exact halted_run (halted_step hhalted x) moves
    · exact .inr hhalted

/-! ## The last workers -/

def Rested (m : Machine) (index : Nat) : Prop :=
  ∀ r, m.phase = .mining r → ∀ w, r.workers[index]? = some w → w.exit.isSome = true

theorem isOver_iff {r : Running} : r.isOver = true ↔
    ∀ (index : Nat) (w : Worker), r.workers[index]? = some w → w.exit.isSome = true := by
  rw [Running.isOver, List.all_eq_true]
  constructor
  · exact fun h index w hw => h w (List.mem_of_getElem? hw)
  · intro h w hw
    obtain ⟨index, hindex⟩ := List.mem_iff_getElem?.1 hw
    exact h index w hindex

/-- a worker that has ended stays so -/
theorem Rested.step {index : Nat} (h : m.Rested index) (hno : m.begins? x = none) :
    (m.step x).Rested index := by
  intro r' hr' w' hw'
  obtain ⟨r, hr, -, -, hsame | ⟨timing, i, w, -, hw, hset⟩⟩ := running_step hno hr'
  · rw [hsame] at hw'
    exact h r hr w' hw'
  · rw [hset] at hw'
    by_cases hi : i = index
    · subst hi
      have hexit := h r hr w hw
      rw [turn, (Worker.stepAt_of_exit hexit timing _).1,
        List.getElem?_set_self (List.getElem?_eq_some_iff.1 hw).1] at hw'
      obtain rfl := Option.some.inj hw'
      exact hexit
    · rw [List.getElem?_set_ne hi] at hw'
      exact h r hr w' hw'

theorem Rested.run {index : Nat} {moves : List Move} (h : m.Rested index)
    (hno : m.begun moves = []) : (m.run moves).Rested index := by
  induction moves generalizing m with
  | nil => exact h
  | cons x moves ih =>
    rw [begun, List.append_eq_nil_iff, Option.toList_eq_nil_iff] at hno
    exact ih (h.step hno.1) hno.2

/-- a turn that looks at the flag as it stands ends a worker of a job that has been told to stop -/
theorem rested_of_turn {job : Job} (h : m.Stopping job) (index : Nat) :
    (m.step (.work .prompt index)).Rested index := by
  intro r' hr' w' hw'
  change (m.work .prompt index).phase = .mining r' at hr'
  have hmining : m.phase.isMining = true := by
    rw [← m.work_phase .prompt index, hr']
    rfl
  obtain ⟨r, hr⟩ := Phase.isMining_iff.1 hmining
  cases hw : r.workers[index]? with
  | none =>
    rw [work_of_no_worker hr hw, hr] at hr'
    obtain rfl := Phase.mining.inj hr'
    rw [hw] at hw'
    cases hw'
  | some w =>
    rw [work_of_worker hr hw] at hr'
    obtain rfl := Phase.mining.inj hr'
    rw [List.getElem?_set_self (List.getElem?_eq_some_iff.1 hw).1] at hw'
    obtain rfl := Option.some.inj hw'
    exact Worker.isSome_step_of_stopped (h r hr).1

theorem rested_of_mem {job : Job} {index : Nat} {moves : List Move}
    (hhalted : m.scheduler.active = false) (h : m.Stopping job)
    (hmem : .work .prompt index ∈ moves) : (m.run moves).Rested index := by
  induction moves generalizing m with
  | nil => cases hmem
  | cons x moves ih =>
    rcases List.mem_cons.1 hmem with rfl | hmem
    · exact (rested_of_turn h index).run (begun_of_halted (halted_step hhalted _) moves)
    · exact ih (halted_step hhalted x) (h.step (begins?_of_halted hhalted x)) hmem

/-! ## The last moves -/

/-- how many more moves of its own a halted scheduler makes at most, if all workers have ended and
nothing more arrives -/
def remaining (m : Machine) : Nat :=
  match m.phase with
  | .ended => 0
  | .head => 1
  | .idle => 2
  | .draining => m.mailbox.length + 1
  | .closing _ _ => m.mailbox.length + 2
  | .mining _ => m.mailbox.length + 3

theorem remaining_le (m : Machine) : m.remaining ≤ m.mailbox.length + 3 := by
  unfold remaining
  split <;> omega

/-- a turn of a worker that has ended changes nothing -/
theorem remaining_work (h : ∀ index, m.Rested index) (timing : Timing) (index : Nat) :
    (m.work timing index).remaining = m.remaining := by
  by_cases hmining : ∃ r, m.phase = .mining r
  · obtain ⟨r, hr⟩ := hmining
    cases hw : r.workers[index]? with
    | none => rw [work_of_no_worker hr hw]
    | some w =>
      have hquiet : (m.turn r timing w).2.found = [] :=
        (Worker.stepAt_of_exit (h index r hr w hw) timing _).2
      rw [work_of_worker hr hw, hquiet, remaining, remaining, hr]
      dsimp only
      rw [List.map_nil, List.append_nil]
  · rw [work_of_not_mining fun r hr => hmining ⟨r, hr⟩]

/-- a move of the scheduler brings it nearer to its end, and an event that arrives puts it off -/
theorem remaining_step (hhalted : m.scheduler.active = false) (h : ∀ index, m.Rested index)
    (hgoing : m.phase ≠ .ended) (x : Move) :
    (m.step x).remaining + advances [x] ≤ m.remaining + x.delivered.length := by
  cases x with
  | deliver e =>
    show remaining { m with mailbox := m.mailbox ++ [e] } + 0 ≤ m.remaining + 1
    unfold remaining
    dsimp only
    rw [List.length_append, List.length_singleton]
    split <;> omega
  | halt => exact Nat.le_refl _
  | work timing index => exact Nat.le_of_eq (remaining_work h timing index)
  | oversee =>
    show m.oversee.remaining ≤ m.remaining
    obtain ⟨s, mailbox, phase, solved⟩ := m
    cases phase with
    | mining r =>
      cases mailbox with
      | nil => exact Nat.le_refl _
      | cons e rest => exact Nat.le_succ _
    | _ => exact Nat.le_refl _
  | advance =>
    -- it goes on to the next phase or takes an event, and either counts for one
    show m.advance.remaining + 1 ≤ m.remaining
    obtain ⟨s, mailbox, phase, solved⟩ := m
    change s.active = false at hhalted
    unfold advance
    cases phase with
    | head =>
      rw [hhalted]
      exact Nat.le_refl _
    | draining =>
      cases mailbox with
      | nil =>
        rw [hhalted]
        exact Nat.le_refl _
      | cons e rest => exact Nat.le_refl _
    | idle => cases mailbox <;> exact Nat.le_refl _
    | mining r =>
      have hover : r.isOver = true := isOver_iff.2 fun index w hw => h index r rfl w hw
      dsimp only
      rw [if_pos hover]
      exact Nat.le_refl _
    | closing item result =>
      cases mailbox with
      | nil => cases result <;> exact Nat.le_refl _
      | cons e rest => exact Nat.le_refl _
    | ended => exact absurd rfl hgoing

theorem step_ended (h : m.phase = .ended) (x : Move) : (m.step x).phase = .ended := by
  cases x with
  | work timing index =>
    show (m.work timing index).phase = .ended
    rw [work_of_not_mining fun r hr => by cases h.symm.trans hr]
    exact h
  | oversee =>
    show m.oversee.phase = .ended
    rw [oversee_of_not_mining fun r hr => by cases h.symm.trans hr]
    exact h
  | advance =>
    obtain ⟨s, mailbox, phase, solved⟩ := m
    obtain rfl : phase = .ended := h
    rfl
  | _ => exact h

theorem run_ended (h : m.phase = .ended) (moves : List Move) : (m.run moves).phase = .ended := by
  induction moves generalizing m with
  | nil => exact h
  | cons x moves ih => exact ih (step_ended h x)

theorem ended_of_remaining (h : m.remaining = 0) : m.phase = .ended := by
  unfold remaining at h
  split at h
  case h_1 hphase => exact hphase
  all_goals omega

/-- so many moves bring a halted scheduler to its end -/
theorem ended_of_advances {moves : List Move} (hhalted : m.scheduler.active = false)
    (h : ∀ index, m.Rested index)
    (hlong : m.remaining + (delivered moves).length ≤ advances moves) :
    (m.run moves).phase = .ended := by
  induction moves generalizing m with
  | nil => exact ended_of_remaining (Nat.le_zero.1 hlong)
  | cons x moves ih =>
    by_cases hgoing : m.phase = .ended
    · exact run_ended hgoing (x :: moves)
    have hstep := remaining_step hhalted h hgoing x
    have hadvances : advances ([x] ++ moves) = advances [x] + advances moves :=
      List.countP_append
    rw [List.singleton_append] at hadvances
    rw [delivered, List.flatMap_cons, List.length_append, ← delivered, hadvances] at hlong
    refine ih (halted_step hhalted x) (fun index => ?_) (by omega)
    exact (h index).step (begins?_of_halted hhalted x)

end

end Machine

/-- whatever a scheduler has done: once it handles a fatal event it is halted for good, and begins no
job, not even if it is run again; a job that runs is told to stop, and all its workers have ended
when each has taken one more turn that looks at the flag as it stands; and when they have, the
scheduler comes to its end in three moves more than there are events to handle.  As long as it
handles no fatal event and is not halted from outside it is active and does not come to its end -/
theorem fatal_event_halts (m : Machine) (before : List Move) :
    (∀ x e, (m.run before).takes? x = some e → e.isFatal = true → ∀ after,
      let m₁ := m.run (before ++ [x])
      let m₂ := m₁.run after
      m₂.scheduler.active = false ∧ m₁.begun after = [] ∧
      (∀ later, (m₂.begin.run later).scheduler.active = false ∧ m₂.begin.begun later = []) ∧
      (∀ r, (m.run before).phase = .mining r →
        m₁.phase = .mining { r with stopped := true } ∧
        ∀ r', m₂.phase = .mining r' → r'.stopped = true ∧ r'.job = r.job ∧
          ((∀ i < r.workers.length, .work .prompt i ∈ after) → r'.isOver = true)) ∧
      ((∀ r', m₂.phase = .mining r' → r'.isOver = true) → ∀ later,
        m₂.mailbox.length + (delivered later).length + 3 ≤ advances later →
        (m₂.run later).phase = .ended)) ∧
    (m.scheduler.active = true → m.phase ≠ .ended → .halt ∉ before →
      (∀ e ∈ m.handled before, e.isFatal = false) →
      (m.run before).scheduler.active = true ∧ (m.run before).phase ≠ .ended) := by
  refine ⟨?_, fun hactive hgoing hnot hquiet => ?_⟩
  · intro x e hx he after m₁ m₂
    have hstep : m₁ = (m.run before).step x := m.run_append before [x]
    have hhalted₁ : m₁.scheduler.active = false := by
      rw [hstep, ← Bool.not_eq_true, Machine.active_step]
      rintro ⟨-, -, hnone⟩
      rw [hnone e hx] at he
      cases he
    have hhalted₂ : m₂.scheduler.active = false := Machine.halted_run hhalted₁ after
    have hno : m₁.begun after = [] := Machine.begun_of_halted hhalted₁ after
    refine ⟨hhalted₂, hno, fun later => ?_, fun r hr => ?_, fun hover later hlong => ?_⟩
    · have hagain : m₂.begin.scheduler.active = false := hhalted₂
      exact ⟨Machine.halted_run hagain later, Machine.begun_of_halted hagain later⟩
    · have hends : e.endsJob = true := by
        cases e with
        | newWork item => rfl
        | _ => exact he
      have hphase : m₁.phase = .mining { r with stopped := true } := by
        rw [hstep]
        exact Machine.phase_of_endsJob hx hends hr
      have hstopping : m₁.Stopping r.job := by
        intro r' hr'
        obtain rfl := Phase.mining.inj (hphase.symm.trans hr')
        exact ⟨rfl, rfl⟩
      refine ⟨hphase, fun r' hr' => ?_⟩
      obtain ⟨hstop, hjob⟩ := hstopping.run hno r' hr'
      refine ⟨hstop, hjob, fun hturns => Machine.isOver_iff.2 fun index w hw => ?_⟩
      have hrested : m₂.Rested index := by
        by_cases hindex : index < r.workers.length
        · exact Machine.rested_of_mem hhalted₁ hstopping (hturns index hindex)
        · refine Machine.Rested.run (fun r₁ hr₁ w₁ hw₁ => ?_) hno
          obtain rfl := Phase.mining.inj (hphase.symm.trans hr₁)
          rw [List.getElem?_eq_none (Nat.not_lt.1 hindex)] at hw₁
          cases hw₁
      exact hrested r' hr' w hw
    · refine Machine.ended_of_advances hhalted₂ (fun index r hr w hw => ?_) ?_
      · exact Machine.isOver_iff.1 (hover r hr) index w hw
      · have := m₂.remaining_le
        omega
  · have hstill := (m.active_run before).2 ⟨hactive, hnot, hquiet⟩
    refine ⟨hstill, fun hend => ?_⟩
    rcases Machine.ended_run hend with hend | hhalted
    · exact hgoing hend
    · rw [hstill] at hhalted
      cases hhalted

end CycleMiner
