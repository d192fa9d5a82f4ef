import CycleMiner.Proofs.Job.Counting
import CycleMiner.Proofs.Scheduler.Effect

/-!
# What the scheduler counts of blocks

Workers count what they try, and only the scheduler counts blocks: one handed in for each verdict it
handles, and one accepted for each that accepts.

* `Event.isVerdict`        the event tells of a verdict;
* `Counters.Tallied`       the counts of blocks have grown by some verdicts;
* `Worker.stepAt_tallied`  no turn of a worker counts blocks;
* `Machine.tallied_run`    every verdict handled is counted, and nothing else.
-/

namespace CycleMiner

def Event.isVerdict : Event → Bool
  | .blockAccepted | .blockRejected => true
  | _ => false

/-- the counts of blocks have grown by the verdicts among some events -/
structure Counters.Tallied (es : List Event) (c c' : Counters) : Prop where
  attempted : c'.attempted = c.attempted + UInt64.ofNat (es.countP (·.isVerdict))
  accepted : c'.accepted = c.accepted + UInt64.ofNat (es.count .blockAccepted)

namespace Counters.Tallied

section
variable {es es' : List Event} {c c' c'' : Counters}

theorem nil (hattempted : c'.attempted = c.attempted) (haccepted : c'.accepted = c.accepted) :
    Tallied [] c c' where
  attempted := by
    rw [hattempted]
    exact (UInt64.add_zero _).symm
  accepted := by
    rw [haccepted]
    exact (UInt64.add_zero _).symm

theorem append (h : Tallied es c c') (h' : Tallied es' c' c'') : Tallied (es ++ es') c c'' where
  attempted := by
    rw [h'.attempted, h.attempted, List.countP_append, UInt64.ofNat_add, UInt64.add_assoc]
  accepted := by
    rw [h'.accepted, h.accepted, List.count_append, UInt64.ofNat_add, UInt64.add_assoc]

end

end Counters.Tallied

open Counters (Tallied)

/-- a turn counts edges, cycles, solutions and errors, and no blocks -/
theorem Worker.stepAt_tallied (job : Job) (t : Timing) (w : Worker) (b : Board) :
    Tallied [] b.counters (w.stepAt job t b).2.counters := by
  have hact : ∀ told (b' : Board), b'.counters = b.counters →
      Tallied [] b.counters (w.act job told b').2.counters := by
    intro told b' hsame
    obtain ⟨g, hsettled⟩ := w.act_settled job told b'
    have hattempted := congrArg Counters.attempted hsettled
    have haccepted := congrArg Counters.accepted hsettled
    rw [← hsame]
    exact .nil hattempted haccepted
  cases t with
  | prompt => exact hact b.stopped b rfl
  | late => exact hact false b rfl
  | overdue => exact hact false { b with stopped := false } rfl

theorem Scheduler.handle_tallied (s : Scheduler) (e : Event) :
    Tallied [e] s.counters (s.handle e).counters := by
  cases e with
  | solutionFound c =>
    have hsame : (s.handle (.solutionFound c)).counters = s.counters := by
      show (s.submit c).counters = s.counters
      unfold submit
      dsimp only
      split <;> rfl
    rw [hsame]
    exact ⟨(UInt64.add_zero _).symm, (UInt64.add_zero _).symm⟩
  | blockAccepted => exact ⟨rfl, rfl⟩
  | blockRejected => exact ⟨rfl, (UInt64.add_zero _).symm⟩
  | _ => exact ⟨(UInt64.add_zero _).symm, (UInt64.add_zero _).symm⟩

theorem Scheduler.counters_notes (notices : List ScheduleNotice) (s : Scheduler) :
    (notices.foldl note s).counters = s.counters := by
  induction notices generalizing s with
  | nil => rfl
  | cons n notices ih => exact ih (s.note n)

namespace Machine

/-- a move counts the verdict it handles -/
theorem tallied_step (m : Machine) (x : Move) :
    Tallied (m.takes? x).toList m.scheduler.counters (m.step x).scheduler.counters := by
  have heffect := effect_step m x
  generalize m.step x = m', m.takes? x = taken at heffect ⊢
  cases heffect with
  | nothing hx => exact .nil rfl rfl
  | arrives => exact .nil rfl rfl
  | halts => exact .nil rfl rfl
  | takes _ hmail hphase => exact m.scheduler.handle_tallied _
  | shifts notices hfrom hto =>
    dsimp only
    rw [Scheduler.counters_notes]
    exact .nil rfl rfl
  | begins hphase hcurrent hsolved => exact .nil rfl rfl
  | closes hphase hover => exact .nil rfl rfl
  | solves hphase hmail => exact .nil rfl rfl
  | @works r timing index hphase =>
    cases hw : r.workers[index]? with
    | none =>
      rw [work_of_no_worker hphase hw]
      exact .nil rfl rfl
    | some w =>
      rw [work_of_worker hphase hw]
      exact w.stepAt_tallied r.job timing ⟨r.table, r.stopped, m.scheduler.counters, []⟩

/-- every verdict that moves handle is counted, and nothing else -/
theorem tallied_run (m : Machine) (moves : List Move) :
    Tallied (m.handled moves) m.scheduler.counters (m.run moves).scheduler.counters := by
  induction moves generalizing m with
  | nil => exact .nil rfl rfl
  | cons x moves ih => exact (m.tallied_step x).append (ih (m.step x))

end Machine

end CycleMiner
