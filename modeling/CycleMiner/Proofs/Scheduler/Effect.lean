import CycleMiner.Proofs.Job.Progression
import CycleMiner.Scheduler.Machine

/-!
# What a move of the scheduler does

Once for all, what each move can do to the machine.

* `Phase.Waits`         no job is running or ending;
* `Phase.isMining`, `Phase.solved?`   a job is running, or ends and has solved its work;
* `Phase.Takes`         how an event is taken out of the mailbox in each phase;
* `Machine.takes?`, `Machine.handled`   the events that moves take out of the mailbox and handle;
* `Machine.Effect`      what a move can do; `Machine.effect_step` says that it does nothing else;
* `Machine.work_of_worker`   what a turn of a worker does to the machine;
* `Machine.Worked`      what a turn of a lone worker does.
-/

namespace CycleMiner

namespace Phase

inductive Waits : Phase → Prop
  | head : Waits .head
  | draining : Waits .draining
  | idle : Waits .idle
  | ended : Waits .ended

def isMining : Phase → Bool
  | .mining _ => true
  | .head | .draining | .idle | .closing _ _ | .ended => false

def solved? : Phase → Option WorkItem
  | .closing item (some _) => some item
  | .head | .draining | .idle | .mining _ | .closing _ none | .ended => none

theorem isMining_iff {p : Phase} : p.isMining = true ↔ ∃ r, p = .mining r := by
  cases p with
  | mining r => exact iff_of_true rfl ⟨r, rfl⟩
  | _ =>
    refine iff_of_false Bool.false_ne_true ?_
    rintro ⟨r, h⟩
    cases h

theorem solved?_eq_some {p : Phase} {item : WorkItem} :
    p.solved? = some item ↔ ∃ s, p = .closing item (some s) := by
  cases p with
  | closing old result =>
    cases result with
    | none =>
      refine iff_of_false (Option.some_ne_none item).symm ?_
      rintro ⟨s, h⟩
      cases h
    | some s =>
      constructor
      · intro h
        obtain rfl := Option.some.inj h
        exact ⟨s, rfl⟩
      · rintro ⟨s', h⟩
        exact congrArg _ (Phase.closing.inj h).1
  | _ =>
    refine iff_of_false (Option.some_ne_none item).symm ?_
    rintro ⟨s, h⟩
    cases h

/-- an event is taken out of the mailbox in the first of these phases, which leads to the second -/
inductive Takes (e : Event) : Phase → Phase → Prop
  | draining : Takes e .draining .draining
  | idle : Takes e .idle .head
  | mining {r : Running} : Takes e (.mining r) (.mining { r with stopped := r.stopped || e.endsJob })
  | closing {item : WorkItem} {result : Option Solution} :
      Takes e (.closing item result) (.closing item result)

theorem Takes.waits {e : Event} {p p' : Phase} (h : p.Takes e p') (hw : p.Waits) : p'.Waits := by
  cases h with
  | draining => exact .draining
  | idle => exact .head
  | mining => cases hw
  | closing => cases hw

/-- a job that runs after an event has been handled ran before, and may have been told to stop -/
theorem Takes.of_mining {e : Event} {p p' : Phase} {r' : Running} (h : p.Takes e p')
    (hr' : p' = .mining r') : ∃ r, p = .mining r ∧
      r' = { r with stopped := r.stopped || e.endsJob } := by
  cases h with
  | @mining r => exact ⟨r, rfl, (Phase.mining.inj hr').symm⟩
  | _ => cases hr'

theorem Waits.not_mining {p : Phase} (h : p.Waits) : p.isMining = false := by
  cases h <;> rfl

theorem waits_or (p : Phase) :
    p.Waits ∨ (∃ r, p = .mining r) ∨ ∃ item result, p = .closing item result := by
  cases p with
  | mining r => exact .inr (.inl ⟨r, rfl⟩)
  | closing item result => exact .inr (.inr ⟨item, result, rfl⟩)
  | head => exact .inl .head
  | draining => exact .inl .draining
  | idle => exact .inl .idle
  | ended => exact .inl .ended

end Phase

namespace Running

theorem solution?_lone {r : Running} {w : Worker} (hw : r.workers = [w]) {s : Solution} :
    r.solution? = some s ↔ w.exit = some (.solved s) := by
  unfold solution?
  rw [hw, List.foldl_cons, List.foldl_nil]
  split
  · rename_i found hexit
    rw [hexit, Option.some.injEq, Option.some.injEq, Exit.solved.injEq]
  · rename_i hnone
    exact iff_of_false nofun fun hexit => hnone s hexit

end Running

/-- the events that a move puts into the mailbox from outside -/
def Move.delivered : Move → List Event
  | .deliver e => [e]
  | _ => []

namespace Machine

def takes? (m : Machine) : Move → Option Event
  | .advance =>
    match m.phase with
    | .draining | .idle | .closing _ _ => m.mailbox.head?
    | .mining r => if r.isOver then none else m.mailbox.head?
    | _ => none
  | .oversee => if m.phase.isMining then m.mailbox.head? else none
  | _ => none

def handled : Machine → List Move → List Event
  | _, [] => []
  | m, x :: xs => (m.takes? x).toList ++ handled (m.step x) xs

/-- what a move can do to a machine, and the event that it takes out of the mailbox and handles -/
inductive Effect (m : Machine) : Move → Option Event → Machine → Prop
  | nothing {x : Move} (hx : x.delivered = []) : Effect m x none m
  | arrives {e : Event} : Effect m (.deliver e) none { m with mailbox := m.mailbox ++ [e] }
  | halts : Effect m .halt none { m with scheduler := m.scheduler.stop }
  | takes {x : Move} {e : Event} {rest : List Event} {phase : Phase} (hx : x.delivered = [])
      (hmail : m.mailbox = e :: rest) (hphase : m.phase.Takes e phase) :
      Effect m x (some e) { m with
        scheduler := m.scheduler.handle e
        mailbox := rest
        phase := phase }
  /-- the scheduler goes on between two jobs; it reports no more than that it ends -/
  | shifts {phase : Phase} (notices : List ScheduleNotice)
      (hfrom : m.phase.Waits ∨ ∃ item, m.phase = .closing item none) (hto : phase.Waits) :
      Effect m .advance none { m with
        scheduler := notices.foldl Scheduler.note m.scheduler
        phase := phase }
  | begins {item : WorkItem} (hphase : m.phase = .draining)
      (hcurrent : m.scheduler.current = some item) (hsolved : m.solved ≠ some item.serial) :
      Effect m .advance none (m.beginJob item)
  | closes {r : Running} (hphase : m.phase = .mining r) (hover : r.isOver = true) :
      Effect m .advance none { m with phase := .closing r.item r.solution? }
  | solves {item : WorkItem} {s : Solution} (hphase : m.phase = .closing item (some s))
      (hmail : m.mailbox = []) : Effect m .advance none (m.conclude item (some s))
  | works {r : Running} {timing : Timing} {index : Nat} (hphase : m.phase = .mining r) :
      Effect m (.work timing index) none (m.work timing index)

section
variable {m : Machine}

theorem work_of_not_mining (h : ∀ r, m.phase ≠ .mining r) (timing : Timing) (index : Nat) :
    m.work timing index = m := by
  obtain ⟨s, mailbox, phase, solved⟩ := m
  cases phase with
  | mining r => exact absurd rfl (h r)
  | _ => rfl

theorem oversee_of_not_mining (h : ∀ r, m.phase ≠ .mining r) : m.oversee = m := by
  obtain ⟨s, mailbox, phase, solved⟩ := m
  cases phase with
  | mining r => exact absurd rfl (h r)
  | _ => rfl

theorem work_current (m : Machine) (timing : Timing) (index : Nat) :
    (m.work timing index).scheduler.current = m.scheduler.current := by
  obtain ⟨s, mailbox, phase, solved⟩ := m
  cases phase with
  | mining r =>
    unfold work
    dsimp only
    split <;> rfl
  | _ => rfl

theorem effect_choose (hphase : m.phase = .draining) : Effect m .advance none m.choose := by
  unfold choose
  split
  · rename_i item hcurrent
    split
    · exact .shifts [] (.inl (hphase ▸ .draining)) .idle
    · rename_i hsolved
      exact .begins hphase hcurrent hsolved
  · exact .shifts [] (.inl (hphase ▸ .draining)) .idle

theorem effect_finish (hphase : m.phase.Waits) : Effect m .advance none m.finish :=
  .shifts [.ends] (.inl hphase) .ended

theorem effect_oversee (m : Machine) {x : Move} (hx : x.delivered = []) :
    Effect m x (if m.phase.isMining then m.mailbox.head? else none) m.oversee := by
  obtain ⟨s, mailbox, phase, solved⟩ := m
  cases phase with
  | mining r =>
    cases mailbox with
    | nil => exact .nothing hx
    | cons e rest => exact .takes hx rfl .mining
  | _ => exact .nothing hx

theorem effect_advance (m : Machine) : Effect m .advance (m.takes? .advance) m.advance := by
  obtain ⟨s, mailbox, phase, solved⟩ := m
  cases phase with
  | head =>
    unfold advance
    dsimp only
    split
    · exact .shifts [] (.inl .head) .draining
    · exact effect_finish .head
  | draining =>
    cases mailbox with
    | nil =>
      unfold advance
      dsimp only
      split
      · exact effect_choose rfl
      · exact effect_finish .draining
    | cons e rest => exact .takes rfl rfl .draining
  | idle =>
    cases mailbox with
    | nil => exact .shifts [] (.inl .idle) .head
    | cons e rest => exact .takes rfl rfl .idle
  | mining r =>
    unfold advance takes?
    dsimp only
    split
    · rename_i hover
      exact .closes rfl hover
    · exact effect_oversee ⟨s, mailbox, .mining r, solved⟩ rfl
  | closing item result =>
    cases mailbox with
    | cons e rest => exact .takes rfl rfl .closing
    | nil =>
      cases result with
      | none => exact .shifts [] (.inr ⟨item, rfl⟩) .head
      | some s => exact .solves rfl rfl
  | ended => exact .nothing rfl

/-- a move does one of these things -/
theorem effect_step (m : Machine) (x : Move) : Effect m x (m.takes? x) (m.step x) := by
  cases x with
  | deliver e => exact .arrives
  | halt => exact .halts
  | advance => exact effect_advance m
  | oversee => exact effect_oversee m rfl
  | work timing index =>
    show Effect m (.work timing index) none (m.work timing index)
    by_cases h : ∃ r, m.phase = .mining r
    · obtain ⟨r, h⟩ := h
      exact .works h
    · rw [work_of_not_mining fun r hr => h ⟨r, hr⟩]
      exact .nothing rfl

/-- a turn of a worker of the running job -/
def turn (m : Machine) (r : Running) (timing : Timing) (w : Worker) : Worker × Board :=
  w.stepAt r.job timing ⟨r.table, r.stopped, m.scheduler.counters, []⟩

theorem work_of_worker {r : Running} {w : Worker} {index : Nat} (hphase : m.phase = .mining r)
    (hw : r.workers[index]? = some w) (timing : Timing) :
    m.work timing index = { m with
      scheduler := { m.scheduler with counters := (m.turn r timing w).2.counters }
      mailbox := m.mailbox ++ (m.turn r timing w).2.found.map .solutionFound
      phase := .mining { r with
        table := (m.turn r timing w).2.table
        stopped := r.stopped || (m.turn r timing w).2.stopped
        workers := r.workers.set index (m.turn r timing w).1 } } := by
  obtain ⟨s, mailbox, phase, solved⟩ := m
  dsimp only at hphase
  subst hphase
  unfold work
  dsimp only
  rw [hw]
  rfl

theorem work_of_no_worker {r : Running} {index : Nat} (hphase : m.phase = .mining r)
    (hw : r.workers[index]? = none) (timing : Timing) : m.work timing index = m := by
  obtain ⟨s, mailbox, phase, solved⟩ := m
  dsimp only at hphase
  subst hphase
  unfold work
  dsimp only
  rw [hw]

/-- what a turn of the lone worker `w` of the job `r` does: it may publish a block, and it does if it
ends with a solution -/
structure Worked (m : Machine) (r : Running) (w : Worker) (r' : Running) (w' : Worker)
    (found : List Candidate) (m' : Machine) : Prop where
  phase : m'.phase = .mining r'
  workers : r'.workers = [w']
  item : r'.item = r.item
  job : r'.job = r.job
  mailbox : m'.mailbox = m.mailbox ++ found.map .solutionFound
  current : m'.scheduler.current = m.scheduler.current
  outbox : m'.scheduler.outbox = m.scheduler.outbox
  threads : m'.scheduler.threads = m.scheduler.threads
  result : (∃ s, w.exit = none ∧ w'.exit = some (.solved s) ∧ found = [r.job.candidate s]) ∨
    ((∀ s, w'.exit = some (.solved s) ↔ w.exit = some (.solved s)) ∧ found = [])

theorem work_lone {r : Running} {w : Worker} (hphase : m.phase = .mining r)
    (hw : r.workers = [w]) (timing : Timing) (index : Nat) :
    m.work timing index = m ∨ ∃ r' w' found, Worked m r w r' w' found (m.work timing index) := by
  cases index with
  | succ index =>
    left
    refine work_of_no_worker hphase ?_ timing
    rw [hw]
    rfl
  | zero =>
    right
    have hfirst : r.workers[0]? = some w := by
      rw [hw]
      rfl
    rw [work_of_worker hphase hfirst timing]
    refine ⟨_, (m.turn r timing w).1, (m.turn r timing w).2.found, rfl, ?_, rfl, rfl, rfl, rfl,
      rfl, rfl, ?_⟩
    · dsimp only
      rw [hw]
      rfl
    rcases w.stepAt_cases r.job timing ⟨r.table, r.stopped, m.scheduler.counters, []⟩ with
      ⟨sol, hexit, hx, hf⟩ | ⟨hx, hf⟩
    · exact .inl ⟨sol, hexit, hx, hf⟩
    · exact .inr ⟨hx, hf⟩

end

end Machine

end CycleMiner
