import CycleMiner.Proofs.Job.Completeness
import CycleMiner.Proofs.Scheduler.Order

/-!
# No block is lost

Workers of a job publish blocks while others publish events of any kind.  All of them arrive in one
mailbox, are handled in the order of their arrival, and every block is handed on when its event is
handled.  A job does not return before its mailbox is empty.

* `Machine.posted`, `Machine.published`   the blocks that the workers publish;
* `Machine.arrived`      the events that arrive, from the workers and from outside;
* `Machine.handled_run`  what has been handled, and what is still in the mailbox, is what arrived;
* `Machine.outbox_run`   every block that has been handled is handed on;
* `Machine.arrived_perm`, `Machine.published_sublist`   the publications among the arrivals;
* `Running.solution?_eq`, `Running.isSome_solution?`   the result of a job;
* `Machine.Serves`       what the workers of one job have published, while it runs and when it ends;
* `Serves.step`, `Machine.serves_run`   moves preserve it until the job returns;
* `solutions_handed_on_once`   what therefore holds when a job returns.

Workers publish in any order, so their solutions by index are the published ones only up to order.
The result of the job is the last of them by index, and more than one may be published: a turn that
has begun is ended after the job has been told to stop.
-/

namespace CycleMiner

def Worker.solution? (w : Worker) : Option Solution :=
  match w.exit with
  | some (.solved s) => some s
  | _ => none

theorem Worker.solution?_eq_some {w : Worker} {s : Solution} :
    w.solution? = some s ↔ w.exit = some (.solved s) := by
  unfold solution?
  split
  case h_1 found hexit => rw [hexit, Option.some.injEq, Option.some.injEq, Exit.solved.injEq]
  case h_2 hnone => exact iff_of_false nofun (hnone s)

theorem Worker.solution?_of_iff {w w' : Worker}
    (h : ∀ s, w'.exit = some (.solved s) ↔ w.exit = some (.solved s)) :
    w'.solution? = w.solution? := by
  refine Option.ext fun s => ?_
  rw [solution?_eq_some, solution?_eq_some, h]

/-- the result of a job is the solution of the last worker that has one -/
theorem Running.solution?_eq (r : Running) :
    r.solution? = (r.workers.filterMap Worker.solution?).getLast? := by
  have hlast : r.solution? = r.workers.foldl (fun found w => w.solution?.or found) none := by
    unfold solution?
    congr 1
    funext found w
    unfold Worker.solution?
    cases w.exit with
    | none => rfl
    | some exit => cases exit <;> rfl
  have hfold : ∀ (workers : List Worker) (found : Option Solution),
      workers.foldl (fun found w => w.solution?.or found) found
        = (workers.filterMap Worker.solution?).getLast?.or found := by
    intro workers
    induction workers with
    | nil => exact fun found => rfl
    | cons w workers ih =>
      intro found
      rw [List.foldl_cons, ih, List.filterMap_cons]
      cases w.solution? with
      | none => rfl
      | some s =>
        rw [List.getLast?_cons]
        cases (workers.filterMap Worker.solution?).getLast? <;> rfl
  rw [hlast, hfold, Option.or_none]

theorem Running.exists_of_solution? {r : Running} {s : Solution} (h : r.solution? = some s) :
    ∃ w ∈ r.workers, w.exit = some (.solved s) := by
  rw [r.solution?_eq] at h
  obtain ⟨w, hw, hsol⟩ := List.mem_filterMap.1 (List.mem_of_getLast? h)
  exact ⟨w, hw, Worker.solution?_eq_some.1 hsol⟩

theorem Running.isSome_solution? {r : Running} :
    r.solution?.isSome = true ↔ ∃ w ∈ r.workers, ∃ s, w.exit = some (.solved s) := by
  constructor
  · intro h
    obtain ⟨s, hs⟩ := Option.isSome_iff_exists.1 h
    obtain ⟨w, hw, hexit⟩ := exists_of_solution? hs
    exact ⟨w, hw, s, hexit⟩
  · rintro ⟨w, hw, s, hexit⟩
    rw [r.solution?_eq, List.getLast?_isSome]
    exact List.ne_nil_of_mem (List.mem_filterMap.2 ⟨w, hw, Worker.solution?_eq_some.2 hexit⟩)

/-- while blocks are taken, handling an event hands on the block it tells of -/
theorem Scheduler.handle_outbox {s : Scheduler} (h : s.outbox.isOpen = true) (e : Event) :
    (s.handle e).outbox = ⟨true, s.outbox.sent ++ e.candidate?.toList⟩ := by
  have hsame : s.outbox = ⟨true, s.outbox.sent ++ []⟩ := by
    rw [List.append_nil, ← h]
  cases e with
  | solutionFound c =>
    show (if s.outbox.isOpen = true then _ else _ : Scheduler).outbox = _
    rw [if_pos h]
    show s.outbox.send c = _
    rw [Outbox.send, if_pos h, h]
    rfl
  | _ => exact hsame

namespace Machine

def posted (m : Machine) : Move → List Candidate
  | .work timing index =>
    match m.phase with
    | .mining r =>
      match r.workers[index]? with
      | some w => (m.turn r timing w).2.found
      | none => []
    | _ => []
  | _ => []

def published : Machine → List Move → List Candidate
  | _, [] => []
  | m, x :: xs => m.posted x ++ published (m.step x) xs

def arrived : Machine → List Move → List Event
  | _, [] => []
  | m, x :: xs => x.delivered ++ (m.posted x).map .solutionFound ++ arrived (m.step x) xs

section
variable {m : Machine}

/-! ## The mailbox -/

/-- a job returns with an empty mailbox -/
theorem closing_of_jobResult? {result : Option Solution} (h : m.jobResult? = some result) :
    ∃ item, m.phase = .closing item result ∧ m.mailbox = [] := by
  unfold jobResult? at h
  split at h
  case h_1 item result' hphase hmail =>
    obtain rfl := Option.some.inj h
    exact ⟨item, hphase, hmail⟩
  case h_2 => cases h

theorem posted_of_worker {r : Running} {w : Worker} {index : Nat} (hphase : m.phase = .mining r)
    (hw : r.workers[index]? = some w) (timing : Timing) :
    m.posted (.work timing index) = (m.turn r timing w).2.found := by
  rw [posted, hphase]
  dsimp only
  rw [hw]

theorem posted_of_no_worker {r : Running} {index : Nat} (hphase : m.phase = .mining r)
    (hw : r.workers[index]? = none) (timing : Timing) : m.posted (.work timing index) = [] := by
  rw [posted, hphase]
  dsimp only
  rw [hw]

theorem posted_of_not_mining (h : ∀ r, m.phase ≠ .mining r) (timing : Timing) (index : Nat) :
    m.posted (.work timing index) = [] := by
  unfold posted
  dsimp only
  split
  case h_1 r hphase => exact absurd hphase (h r)
  case h_2 => rfl

/-- a turn puts into the mailbox what the worker publishes, and nothing else -/
theorem work_mailbox (m : Machine) (timing : Timing) (index : Nat) :
    (m.work timing index).mailbox
      = m.mailbox ++ (m.posted (.work timing index)).map .solutionFound := by
  by_cases h : ∃ r, m.phase = .mining r
  · obtain ⟨r, hphase⟩ := h
    cases hw : r.workers[index]? with
    | none =>
      rw [work_of_no_worker hphase hw, posted_of_no_worker hphase hw]
      exact (List.append_nil _).symm
    | some w => rw [work_of_worker hphase hw, posted_of_worker hphase hw]
  · have hno : ∀ r, m.phase ≠ .mining r := fun r hr => h ⟨r, hr⟩
    rw [work_of_not_mining hno, posted_of_not_mining hno]
    exact (List.append_nil _).symm

theorem work_outbox (m : Machine) (timing : Timing) (index : Nat) :
    (m.work timing index).scheduler.outbox = m.scheduler.outbox := by
  by_cases h : ∃ r, m.phase = .mining r
  · obtain ⟨r, hphase⟩ := h
    cases hw : r.workers[index]? with
    | none => rw [work_of_no_worker hphase hw]
    | some w => rw [work_of_worker hphase hw]
  · rw [work_of_not_mining fun r hr => h ⟨r, hr⟩]

/-- a move of the scheduler itself takes the first event out of the mailbox, or none -/
theorem mailbox_of_own {x : Move} (hx : x = .oversee ∨ x = .advance) :
    (m.takes? x).toList ++ (m.step x).mailbox = m.mailbox := by
  have heffect := effect_step m x
  generalize m.step x = m', m.takes? x = taken at heffect ⊢
  cases heffect with
  | takes _ hmail hphase => exact hmail.symm
  | arrives => rcases hx with hx | hx <;> cases hx
  | works hphase => rcases hx with hx | hx <;> cases hx
  | _ => rfl

/-- what a move takes out of the mailbox was the first in it, and what arrives is the last -/
theorem handled_step (m : Machine) (x : Move) :
    (m.takes? x).toList ++ (m.step x).mailbox
      = m.mailbox ++ (x.delivered ++ (m.posted x).map .solutionFound) := by
  cases x with
  | deliver e => rfl
  | halt => exact (List.append_nil _).symm
  | work timing index => exact m.work_mailbox timing index
  | oversee => exact (mailbox_of_own (.inl rfl)).trans (List.append_nil _).symm
  | advance => exact (mailbox_of_own (.inr rfl)).trans (List.append_nil _).symm

theorem handled_run (m : Machine) (moves : List Move) :
    m.handled moves ++ (m.run moves).mailbox = m.mailbox ++ m.arrived moves := by
  induction moves generalizing m with
  | nil => exact (List.append_nil _).symm
  | cons x moves ih =>
    calc m.handled (x :: moves) ++ (m.run (x :: moves)).mailbox
        = (m.takes? x).toList ++ ((m.step x).handled moves ++ ((m.step x).run moves).mailbox) := by
          rw [handled, run_cons, List.append_assoc]
      _ = (m.takes? x).toList ++ (m.step x).mailbox ++ (m.step x).arrived moves := by
          rw [ih, List.append_assoc]
      _ = m.mailbox ++ m.arrived (x :: moves) := by
          rw [handled_step, List.append_assoc, arrived]

/-! ## The outbox -/

/-- while blocks are taken, a move hands on the block of the event it handles -/
theorem outbox_step (h : m.scheduler.outbox.isOpen = true) (x : Move) :
    (m.step x).scheduler.outbox
      = ⟨true, m.scheduler.outbox.sent ++ (m.takes? x).toList.filterMap Event.candidate?⟩ := by
  have hsame : m.scheduler.outbox = ⟨true, m.scheduler.outbox.sent ++ []⟩ := by
    rw [List.append_nil, ← h]
  have heffect := effect_step m x
  generalize m.step x = m', m.takes? x = taken at heffect ⊢
  cases heffect with
  | @takes x e rest phase _ hmail hphase =>
    show (m.scheduler.handle e).outbox = _
    rw [Scheduler.handle_outbox h, Option.toList_some, List.filterMap_cons]
    cases e.candidate? <;> rfl
  | shifts notices hfrom hto => exact (m.scheduler.notes_eq notices).2.1.trans hsame
  | works hphase => exact (m.work_outbox _ _).trans hsame
  | _ => exact hsame

theorem outbox_run (h : m.scheduler.outbox.isOpen = true) (moves : List Move) :
    (m.run moves).scheduler.outbox
      = ⟨true, m.scheduler.outbox.sent ++ (m.handled moves).filterMap Event.candidate?⟩ := by
  induction moves generalizing m with
  | nil =>
    show m.scheduler.outbox = ⟨true, m.scheduler.outbox.sent ++ []⟩
    rw [List.append_nil, ← h]
  | cons x moves ih =>
    have hstep := outbox_step h x
    rw [run_cons, ih (by rw [hstep]), hstep, handled, List.filterMap_append, List.append_assoc]

/-! ## What the workers publish -/

theorem arrived_perm (m : Machine) (moves : List Move) :
    (m.arrived moves).Perm
      (delivered moves ++ (m.published moves).map .solutionFound) := by
  induction moves generalizing m with
  | nil => exact .refl _
  | cons x moves ih =>
    have hdelivered : delivered (x :: moves) = x.delivered ++ delivered moves :=
      List.flatMap_cons
    rw [arrived, published, List.map_append, hdelivered, List.append_assoc, List.append_assoc]
    refine .append_left _ (((ih (m.step x)).append_left _).trans ?_)
    rw [← List.append_assoc, ← List.append_assoc]
    exact List.perm_append_comm.append_right _

theorem delivered_sublist (m : Machine) (moves : List Move) :
    (delivered moves).Sublist (m.arrived moves) := by
  induction moves generalizing m with
  | nil => exact .refl _
  | cons x moves ih =>
    exact ((List.sublist_append_left _ _)).append (ih (m.step x))

theorem published_sublist (m : Machine) (moves : List Move) :
    ((m.published moves).map Event.solutionFound).Sublist (m.arrived moves) := by
  induction moves generalizing m with
  | nil => exact .refl _
  | cons x moves ih =>
    rw [published, List.map_append]
    exact ((List.sublist_append_right _ _)).append (ih (m.step x))

/-- if no block comes from outside, the blocks that arrive are those published -/
theorem filterMap_arrived (m : Machine) {moves : List Move}
    (hquiet : ∀ e ∈ delivered moves, e.candidate? = none) :
    (m.arrived moves).filterMap Event.candidate? = m.published moves := by
  induction moves generalizing m with
  | nil => rfl
  | cons x moves ih =>
    rw [delivered, List.flatMap_cons] at hquiet
    have hnone : x.delivered.filterMap Event.candidate? = [] :=
      List.filterMap_eq_nil_iff.2 fun e he => hquiet e (List.mem_append_left _ he)
    rw [arrived, List.filterMap_append, List.filterMap_append, hnone, filterMap_solutionFound,
      List.nil_append, published, ih (m.step x) fun e he => hquiet e (List.mem_append_right _ he)]

theorem published_append (m : Machine) (moves : List Move) (x : Move) :
    m.published (moves ++ [x]) = m.published moves ++ (m.run moves).posted x := by
  induction moves generalizing m with
  | nil => exact List.append_nil _
  | cons y moves ih =>
    rw [List.cons_append, published, published, ih, List.append_assoc]
    rfl

end

end Machine

/-! ## One job -/

/-- one worker for another: what the one gives leaves the list, and what the other gives joins it -/
theorem filterMap_set_perm {α β : Type} (f : α → Option β) {ws : List α} {i : Nat} {w : α}
    (hw : ws[i]? = some w) (w' : α) :
    ((ws.set i w').filterMap f ++ (f w).toList).Perm (ws.filterMap f ++ (f w').toList) := by
  have hcons : ∀ (v : α) (vs : List α), (v :: vs).filterMap f = (f v).toList ++ vs.filterMap f := by
    intro v vs
    rw [List.filterMap_cons]
    cases f v <;> rfl
  induction ws generalizing i with
  | nil => cases hw
  | cons v ws ih =>
    cases i with
    | zero =>
      obtain rfl := Option.some.inj hw
      rw [List.set_cons_zero, hcons, hcons, List.append_assoc, List.append_assoc]
      refine List.perm_append_comm.trans ?_
      rw [← List.append_assoc (f v).toList]
      exact List.perm_append_comm.append_right _
    | succ i =>
      rw [List.set_cons_succ, hcons, hcons, List.append_assoc, List.append_assoc]
      exact (ih hw).append_left _

/-- a running job on this work, whose workers have published these blocks -/
structure Running.Carries (r : Running) (item : WorkItem) (job : Job) (published : List Candidate) :
    Prop where
  item_eq : r.item = item
  job_eq : r.job = job
  published : published.Perm ((r.workers.filterMap Worker.solution?).map job.candidate)

namespace Machine

/-- the job that begins on this machine has not returned after any of these moves -/
def InJob (m : Machine) (moves : List Move) : Prop :=
  ∀ front, front <+: moves → ¬ (m.run front).phase.Waits

/-- a job that began on this machine runs after these moves, or it has ended and returns as soon as
the mailbox is empty -/
inductive Serves (m : Machine) (item : WorkItem) (job : Job) (moves : List Move) : Prop
  | mining {r : Running} (hphase : (m.run moves).phase = .mining r)
      (h : r.Carries item job (m.published moves))
  | closing {before after : List Move} {r : Running} (hmoves : moves = before ++ .advance :: after)
      (hbefore : (m.run before).phase = .mining r) (hover : r.isOver = true)
      (hphase : (m.run moves).phase = .closing item r.solution?)
      (h : r.Carries item job (m.published moves))

section
variable {m : Machine} {item : WorkItem} {job : Job}

theorem carries_work {r : Running} {published : List Candidate}
    (h : r.Carries item job published) (hphase : m.phase = .mining r) (timing : Timing)
    (index : Nat) :
    ∃ r', (m.work timing index).phase = .mining r' ∧
      r'.Carries item job (published ++ m.posted (.work timing index)) := by
  cases hw : r.workers[index]? with
  | none =>
    rw [work_of_no_worker hphase hw, posted_of_no_worker hphase hw, List.append_nil]
    exact ⟨r, hphase, h⟩
  | some w =>
    rw [work_of_worker hphase hw, posted_of_worker hphase hw]
    refine ⟨_, rfl, h.item_eq, h.job_eq, ?_⟩
    have hset := filterMap_set_perm Worker.solution? hw (m.turn r timing w).1
    rcases w.stepAt_cases r.job timing ⟨r.table, r.stopped, m.scheduler.counters, []⟩ with
      ⟨s, hexit, hx, hf⟩ | ⟨hx, hf⟩
    · have hbefore : w.solution? = none := by rw [Worker.solution?, hexit]
      have hafter : (m.turn r timing w).1.solution? = some s := Worker.solution?_eq_some.2 hx
      have hfound : (m.turn r timing w).2.found = [job.candidate s] := by
        rw [← h.job_eq]
        exact hf
      rw [hbefore, hafter, Option.toList_none, Option.toList_some, List.append_nil] at hset
      have hmap := hset.map job.candidate
      rw [List.map_append] at hmap
      rw [hfound]
      exact (h.published.append_right _).trans hmap.symm
    · have hsame : (m.turn r timing w).1.solution? = w.solution? := Worker.solution?_of_iff hx
      have hfound : (m.turn r timing w).2.found = [] := hf
      rw [hsame, List.perm_append_right_iff] at hset
      rw [hfound, List.append_nil]
      exact h.published.trans (hset.map job.candidate).symm

/-- a move that is no turn leaves the workers of a running job alone, or the job has ended -/
theorem phase_of_mining {r : Running} (hphase : m.phase = .mining r) {x : Move}
    (hx : ∀ timing index, x ≠ .work timing index) :
    (∃ stopped, (m.step x).phase = .mining { r with stopped := stopped }) ∨
    (x = .advance ∧ r.isOver = true ∧ (m.step x).phase = .closing r.item r.solution?) := by
  have heffect := effect_step m x
  generalize m.step x = m', m.takes? x = taken at heffect ⊢
  cases heffect with
  | takes _ hmail htakes =>
    rw [hphase] at htakes
    cases htakes with
    | mining => exact .inl ⟨_, rfl⟩
  | shifts notices hfrom hto =>
    rw [hphase] at hfrom
    rcases hfrom with hfrom | ⟨item, hfrom⟩ <;> cases hfrom
  | begins hdraining => cases hphase.symm.trans hdraining
  | closes hmining hover =>
    obtain rfl := Phase.mining.inj (hphase.symm.trans hmining)
    exact .inr ⟨rfl, hover, rfl⟩
  | solves hclosing => cases hphase.symm.trans hclosing
  | works => exact absurd rfl (hx _ _)
  | _ => exact .inl ⟨r.stopped, hphase⟩

/-- a job that has ended keeps its result until it returns -/
theorem phase_of_closing {result : Option Solution} (hphase : m.phase = .closing item result)
    {x : Move} (hin : ¬ (m.step x).phase.Waits) : (m.step x).phase = .closing item result := by
  have heffect := effect_step m x
  generalize m.step x = m', m.takes? x = taken at heffect hin ⊢
  cases heffect with
  | takes _ hmail htakes =>
    rw [hphase] at htakes
    cases htakes with
    | closing => rfl
  | shifts notices hfrom hto => exact absurd hto hin
  | begins hdraining => cases hphase.symm.trans hdraining
  | closes hmining => cases hphase.symm.trans hmining
  | solves => exact absurd .head hin
  | works hmining => cases hphase.symm.trans hmining
  | _ => exact hphase

theorem posted_of_no_turn {x : Move} (hx : ∀ timing index, x ≠ .work timing index) :
    m.posted x = [] := by
  cases x with
  | work timing index => exact absurd rfl (hx timing index)
  | _ => rfl

theorem Serves.step {moves : List Move} (h : m.Serves item job moves) (x : Move)
    (hin : ¬ (m.run (moves ++ [x])).phase.Waits) : m.Serves item job (moves ++ [x]) := by
  have hrun : m.run (moves ++ [x]) = (m.run moves).step x := m.run_append moves [x]
  have hpublished := m.published_append moves x
  rw [hrun] at hin
  cases h with
  | @mining r hphase h =>
    -- only a turn publishes or changes a worker
    by_cases hx : ∃ timing index, x = .work timing index
    · obtain ⟨timing, index, rfl⟩ := hx
      obtain ⟨r', hphase', h'⟩ := carries_work h hphase timing index
      rw [← hpublished] at h'
      exact .mining (hrun ▸ hphase') h'
    · have hx : ∀ timing index, x ≠ .work timing index := fun timing index e =>
        hx ⟨timing, index, e⟩
      rw [posted_of_no_turn hx, List.append_nil] at hpublished
      rw [← hpublished] at h
      rcases phase_of_mining hphase hx with ⟨stopped, hphase'⟩ | ⟨rfl, hover, hphase'⟩
      · exact .mining (r := { r with stopped := stopped }) (hrun ▸ hphase')
          ⟨h.item_eq, h.job_eq, h.published⟩
      · refine .closing rfl hphase hover ?_ h
        rw [hrun, hphase', h.item_eq]
  | @closing before after r hmoves hbefore hover hphase h =>
    have hquiet : (m.run moves).posted x = [] := by
      cases x with
      | work timing index =>
        have hno : ∀ r, (m.run moves).phase ≠ .mining r := fun r hr => by
          cases hphase.symm.trans hr
        exact posted_of_not_mining hno timing index
      | _ => rfl
    rw [hquiet, List.append_nil] at hpublished
    rw [← hpublished] at h
    have hmoves' : moves ++ [x] = before ++ .advance :: (after ++ [x]) := by
      rw [hmoves, List.append_assoc, List.cons_append]
    refine .closing hmoves' hbefore hover ?_ h
    rw [hrun]
    exact phase_of_closing hphase hin

theorem serves_begin (m : Machine) (item : WorkItem) :
    (m.beginJob item).Serves item (Machine.start m.scheduler item).job [] := by
  have hnone : (Machine.start m.scheduler item).workers.filterMap Worker.solution? = [] := by
    rw [List.filterMap_eq_nil_iff]
    intro w hw
    obtain ⟨i, -, rfl⟩ := List.mem_map.1 hw
    rfl
  refine .mining (r := Machine.start m.scheduler item) rfl ⟨rfl, rfl, ?_⟩
  rw [hnone]
  exact .refl _

theorem serves_run (m : Machine) (item : WorkItem) {moves : List Move}
    (hin : (m.beginJob item).InJob moves) :
    (m.beginJob item).Serves item (Machine.start m.scheduler item).job moves := by
  induction moves using List.reverseRecOn with
  | nil => exact serves_begin m item
  | append_singleton moves x ih =>
    have hfront : (m.beginJob item).InJob moves := fun front hf =>
      hin front (hf.trans (List.prefix_append _ _))
    exact (ih hfront).step x (hin _ (List.prefix_refl _))

end

end Machine

/-- a job begins on any machine whose blocks are taken, and whatever is delivered, handled and
published until it returns: the events that arrive are those delivered and the blocks its workers
publish, each in order; the blocks of all of them are handed on, once and in the order of arrival;
the workers publish their solutions, with the work and header nonce of the job; and the job has a
result exactly if one of its workers ended with a solution -/
theorem solutions_handed_on_once {m : Machine} (hopen : m.scheduler.outbox.isOpen = true)
    (item : WorkItem) {moves : List Move} (hin : (m.beginJob item).InJob moves)
    {result : Option Solution} (hend : ((m.beginJob item).run moves).jobResult? = some result) :
    let m₀ := m.beginJob item
    let arrived := m₀.arrived moves
    let published := m₀.published moves
    let sent := (m₀.run moves).scheduler.outbox.sent
    sent = m.scheduler.outbox.sent ++ (m.mailbox ++ arrived).filterMap Event.candidate? ∧
    arrived.Perm (delivered moves ++ published.map .solutionFound) ∧
    (delivered moves).Sublist arrived ∧ (published.map Event.solutionFound).Sublist arrived ∧
    ((∀ e ∈ m.mailbox ++ delivered moves, e.candidate? = none) →
      sent = m.scheduler.outbox.sent ++ published) ∧
    (∀ c ∈ published, c.work = item.work ∧ c.headerNonce = m.scheduler.nextNonce) ∧
    ∃ before after r, moves = before ++ .advance :: after ∧ (m₀.run before).phase = .mining r ∧
      r.isOver = true ∧
      (published.map (·.solution)).Perm (r.workers.filterMap Worker.solution?) ∧
      (result.isSome = true ↔ ∃ w ∈ r.workers, ∃ s, w.exit = some (.solved s)) ∧
      ∀ s, result = some s → ∃ w ∈ r.workers, w.exit = some (.solved s) := by
  intro m₀ arrived published sent
  obtain ⟨old, hphase, hmail⟩ := Machine.closing_of_jobResult? hend
  -- when the job returns, all that has arrived has been handled
  have hhandled : m₀.handled moves = m.mailbox ++ arrived := by
    have hall := m₀.handled_run moves
    rwa [hmail, List.append_nil] at hall
  have hsent : sent = m.scheduler.outbox.sent ++
      (m.mailbox ++ arrived).filterMap Event.candidate? := by
    have hout := Machine.outbox_run (show m₀.scheduler.outbox.isOpen = true from hopen) moves
    rw [hhandled] at hout
    exact congrArg Outbox.sent hout
  refine ⟨hsent, m₀.arrived_perm moves, m₀.delivered_sublist moves, m₀.published_sublist moves,
    fun hquiet => ?_, ?_⟩
  · have hnone : m.mailbox.filterMap Event.candidate? = [] :=
      List.filterMap_eq_nil_iff.2 fun e he => hquiet e (List.mem_append_left _ he)
    rw [hsent, List.filterMap_append, hnone, List.nil_append,
      m₀.filterMap_arrived fun e he => hquiet e (List.mem_append_right _ he)]
  cases Machine.serves_run m item hin with
  | mining hmining => cases hphase.symm.trans hmining
  | @closing before after r hmoves hbefore hover hclosing h =>
    obtain ⟨rfl, rfl⟩ := Phase.closing.inj (hphase.symm.trans hclosing)
    refine ⟨fun c hc => ?_, before, after, r, hmoves, hbefore, hover, ?_,
      Running.isSome_solution?, fun s hs => Running.exists_of_solution? hs⟩
    · obtain ⟨s, -, rfl⟩ := List.mem_map.1 (h.published.subset hc)
      exact ⟨rfl, rfl⟩
    · have hsolutions := h.published.map (·.solution)
      rw [List.map_map] at hsolutions
      exact hsolutions.trans (.of_eq (List.map_id _))

instance : DecidablePred Phase.Waits
  | .head => .isTrue .head
  | .draining => .isTrue .draining
  | .idle => .isTrue .idle
  | .ended => .isTrue .ended
  | .mining _ => .isFalse nofun
  | .closing _ _ => .isFalse nofun

instance (m : Machine) (moves : List Move) : Decidable (m.InJob moves) :=
  decidable_of_iff (∀ front ∈ moves.inits, ¬ (m.run front).phase.Waits)
    (forall_congr' fun _ => imp_congr_left (List.mem_inits _ _))

def Machine.pair : Machine :=
  (ofScheduler ⟨.small, 8, 2, none, 4, true, .zero, ⟨true, []⟩, []⟩).beginJob ⟨1, Work.blank⟩

/-- new work is handled and the end of all work arrives before a worker ends its turn, and is handled
before the scheduler notices that the workers have ended -/
def Machine.toLateSolution : List Move :=
  [.work .prompt 0, .work .prompt 1, .work .prompt 0, .work .prompt 1,
    .deliver (.newWork ⟨2, Work.blank⟩), .advance, .deliver .terminated, .work .overdue 0,
    .work .prompt 1, .oversee, .advance, .advance]

/-- the block is handed on by a scheduler that is halted and knows other work -/
theorem solutions_handed_on_once_late :
    Machine.pair.InJob Machine.toLateSolution ∧
    (Machine.pair.run Machine.toLateSolution).scheduler.active = false ∧
    (Machine.pair.run Machine.toLateSolution).scheduler.current = some ⟨2, Work.blank⟩ ∧
    (Machine.pair.published Machine.toLateSolution).length = 1 ∧
    (Machine.pair.run Machine.toLateSolution).scheduler.outbox.sent
      = Machine.pair.published Machine.toLateSolution ∧
    ∃ s, (Machine.pair.run Machine.toLateSolution).jobResult? = some (some s) := by
  have hrun : Machine.pair.InJob Machine.toLateSolution ∧
      (Machine.pair.run Machine.toLateSolution).scheduler.active = false ∧
      (Machine.pair.run Machine.toLateSolution).scheduler.current = some ⟨2, Work.blank⟩ ∧
      (Machine.pair.published Machine.toLateSolution).length = 1 ∧
      (Machine.pair.run Machine.toLateSolution).jobResult?.any Option.isSome = true := by
    decide +kernel
  obtain ⟨hin, hactive, hcurrent, hone, hany⟩ := hrun
  obtain ⟨result, hend, hsome⟩ := (Option.any_eq_true _ _).1 hany
  obtain ⟨s, rfl⟩ := Option.isSome_iff_exists.1 hsome
  obtain ⟨-, -, -, -, hsent, -⟩ := solutions_handed_on_once rfl ⟨1, Work.blank⟩ hin hend
  have hquiet : ∀ e ∈ ([] : List Event) ++ delivered Machine.toLateSolution,
      e.candidate? = none := by
    decide
  exact ⟨hin, hactive, hcurrent, hone, (hsent hquiet).trans (List.nil_append _), s, hend⟩

end CycleMiner
