import CycleMiner.Proofs.Scheduler.Delivery
import CycleMiner.Proofs.Scheduler.Heights

/-!
# Jobs and their header nonces

A scheduler begins one job after the other.  Every job is on the work that was handled last, and the
jobs between two new works count their header nonces up from 0.

* `Scheduler.job`          the job of a scheduler on some work, with a header nonce;
* `Machine.begins?`, `Machine.begun`   the jobs that moves begin;
* `Machine.begins?_eq_some`   when a move begins a job, and which;
* `Machine.nonce_step`     a move that handles no new work counts the nonce up if it begins a job;
* `Machine.job_of_quiet`   the jobs that begin while no new work is handled;
* `Machine.nodup_headers`   their headers differ until the nonces come round;
* `Machine.running_step`   how a job goes on that runs;
* `Machine.Stopping`       it has been told to stop, and stays so;
* `header_nonces_count_up`   what therefore holds of all jobs in any moves.

Work and nonce are set at one moment, when new work is handled, and read at another, when a job
begins; both are moves of the scheduler itself, so nothing comes between the two it reads.
-/

namespace CycleMiner

namespace Scheduler

def job (s : Scheduler) (work : Work) (headerNonce : UInt32) : Job :=
  Job.start s.params s.easiness s.threads work headerNonce

section
variable (s : Scheduler)

/-- handling an event changes none of the settings of a job -/
theorem handle_job (e : Event) : (s.handle e).job = s.job := by
  cases e with
  | solutionFound c =>
    unfold handle submit
    dsimp only
    split <;> rfl
  | _ => rfl

theorem handle_nextNonce {e : Event} (h : e.item? = none) :
    (s.handle e).nextNonce = s.nextNonce := by
  cases e with
  | newWork item => cases h
  | solutionFound c =>
    unfold handle submit
    dsimp only
    split <;> rfl
  | _ => rfl

theorem notes_job (notices : List ScheduleNotice) :
    (notices.foldl note s).job = s.job ∧ (notices.foldl note s).nextNonce = s.nextNonce := by
  induction notices generalizing s with
  | nil => exact ⟨rfl, rfl⟩
  | cons n notices ih => exact ih (s.note n)

end

end Scheduler

/-- headers of the same work differ in their nonces -/
theorem Work.header_injective (w : Work) : Function.Injective w.header := by
  intro a b h
  have hdrop : Bytes.ofUInt32 a = Bytes.ofUInt32 b := by
    rw [← w.headerPrefix.drop_header a, ← w.headerPrefix.drop_header b]
    exact congrArg _ h
  have hnat := congrArg Bytes.ofLittleEndian hdrop
  rw [Bytes.ofLittleEndian_ofUInt32, Bytes.ofLittleEndian_ofUInt32] at hnat
  exact UInt32.toNat_inj.1 hnat

namespace Machine

/-- the job that a move begins: it runs after the move, and none ran before -/
def begins? (m : Machine) (x : Move) : Option Running :=
  match m.phase.isMining, (m.step x).phase with
  | false, .mining r => some r
  | _, _ => none

def begun : Machine → List Move → List Running
  | _, [] => []
  | m, x :: xs => (m.begins? x).toList ++ begun (m.step x) xs

section
variable {m : Machine} {x : Move} {r : Running}

theorem begins?_iff : m.begins? x = some r ↔
    m.phase.isMining = false ∧ (m.step x).phase = .mining r := by
  unfold begins?
  split
  case h_1 r' hidle hphase =>
    rw [hidle, hphase, Option.some.injEq, Phase.mining.injEq]
    exact (and_iff_right rfl).symm
  case h_2 hno => exact iff_of_false nofun fun h => hno r h.1 h.2

/-- a job begins when nothing is left to handle, if the scheduler is active, and on unsolved work -/
theorem begins?_eq_some (h : m.begins? x = some r) :
    m.phase = .draining ∧ m.mailbox = [] ∧ m.scheduler.active = true ∧
      ∃ item, m.scheduler.current = some item ∧ r = start m.scheduler item ∧
        m.step x = m.beginJob item := by
  obtain ⟨hidle, hr⟩ := begins?_iff.1 h
  have heffect := effect_step m x
  obtain ⟨m', hm⟩ : ∃ m', m.step x = m' := ⟨_, rfl⟩
  rw [hm] at heffect hr ⊢
  generalize m.takes? x = taken at heffect
  cases heffect with
  | takes _ hmail hphase =>
    obtain ⟨old, hold, -⟩ := hphase.of_mining hr
    rw [hold] at hidle
    cases hidle
  | shifts notices hfrom hto =>
    dsimp only at hr
    rw [hr] at hto
    cases hto
  | @begins item hphase hcurrent hsolved =>
    obtain ⟨s, mailbox, phase, solved⟩ := m
    obtain rfl : phase = .draining := hphase
    -- with an event to handle it would go on draining, and if it were halted it would end
    cases mailbox with
    | cons e rest => cases congrArg Machine.phase hm
    | nil =>
      cases hactive : s.active with
      | true => exact ⟨rfl, rfl, rfl, item, hcurrent, (Phase.mining.inj hr).symm, rfl⟩
      | false =>
        have hfinish : step ⟨s, [], .draining, solved⟩ .advance
            = finish ⟨s, [], .draining, solved⟩ := by
          show (if s.active = true then _ else _) = _
          rw [hactive]
          rfl
        cases congrArg Machine.phase (hm.symm.trans hfinish)
  | closes hphase hover => cases hr
  | solves hphase hmail => cases hr
  | works hphase =>
    rw [hphase] at hidle
    cases hidle
  | _ =>
    have hsame : m.phase = .mining r := hr
    rw [hsame] at hidle
    cases hidle

/-! ## The header nonce -/

theorem work_job (m : Machine) (timing : Timing) (index : Nat) :
    (m.work timing index).scheduler.job = m.scheduler.job ∧
      (m.work timing index).scheduler.nextNonce = m.scheduler.nextNonce := by
  by_cases h : ∃ r, m.phase = .mining r
  · obtain ⟨r, hphase⟩ := h
    cases hw : r.workers[index]? with
    | none =>
      rw [work_of_no_worker hphase hw]
      exact ⟨rfl, rfl⟩
    | some w =>
      rw [work_of_worker hphase hw]
      exact ⟨rfl, rfl⟩
  · rw [work_of_not_mining fun r hr => h ⟨r, hr⟩]
    exact ⟨rfl, rfl⟩

theorem job_step (m : Machine) (x : Move) : (m.step x).scheduler.job = m.scheduler.job := by
  have heffect := effect_step m x
  generalize m.step x = m', m.takes? x = taken at heffect ⊢
  cases heffect with
  | takes _ hmail hphase => exact m.scheduler.handle_job _
  | shifts notices hfrom hto => exact (m.scheduler.notes_job notices).1
  | works hphase => exact (m.work_job _ _).1
  | _ => rfl

theorem job_run (m : Machine) (moves : List Move) :
    (m.run moves).scheduler.job = m.scheduler.job := by
  induction moves generalizing m with
  | nil => rfl
  | cons x moves ih => rw [run_cons, ih, job_step]

/-- new work is taken with header nonce 0 -/
theorem nonce_of_newWork {item : WorkItem} (h : m.takes? x = some (.newWork item)) :
    (m.step x).scheduler.current = some item ∧ (m.step x).scheduler.nextNonce = 0 := by
  have heffect := effect_step m x
  rw [h] at heffect
  generalize m.step x = m' at heffect ⊢
  cases heffect with
  | takes _ hmail hphase => exact ⟨rfl, rfl⟩

/-- a move that handles no new work keeps the work, and counts the nonce up if it begins a job -/
theorem nonce_step (h : announcements (m.takes? x).toList = []) :
    (m.step x).scheduler.current = m.scheduler.current ∧
    ((m.begins? x = none ∧ (m.step x).scheduler.nextNonce = m.scheduler.nextNonce) ∨
      ((m.begins? x).isSome ∧ (m.step x).scheduler.nextNonce = m.scheduler.nextNonce + 1)) := by
  have heffect := effect_step m x
  refine ⟨?_, ?_⟩
  · rcases heffect.current_cases with ⟨new, rest, htaken, -⟩ | ⟨-, hsame⟩
    · rw [htaken] at h
      cases h
    · exact hsame
  cases hb : m.begins? x with
  | some r =>
    obtain ⟨-, -, -, item, -, -, hstep⟩ := begins?_eq_some hb
    rw [hstep]
    exact .inr ⟨rfl, rfl⟩
  | none =>
    refine .inl ⟨rfl, ?_⟩
    obtain ⟨m', hm⟩ : ∃ m', m.step x = m' := ⟨_, rfl⟩
    rw [hm] at heffect ⊢
    generalize m.takes? x = taken at heffect h
    cases heffect with
    | @takes x e rest phase _ hmail hphase =>
      refine m.scheduler.handle_nextNonce ?_
      cases he : e.item? with
      | none => rfl
      | some item =>
        rw [Option.toList_some, announcements, List.filterMap_cons_some he] at h
        cases h
    | shifts notices hfrom hto => exact (m.scheduler.notes_job notices).2
    | works hphase => exact (m.work_job _ _).2
    | @begins item hphase hcurrent hsolved =>
      have hbegins : m.begins? .advance = some (start m.scheduler item) := by
        rw [begins?_iff, hm, hphase]
        exact ⟨rfl, rfl⟩
      rw [hb] at hbegins
      cases hbegins
    | _ => rfl

/-- the jobs that begin while no new work is handled are on the current work, and count up -/
theorem job_of_quiet {moves : List Move} (h : announcements (m.handled moves) = []) {k : Nat}
    (hr : (m.begun moves)[k]? = some r) :
    m.scheduler.current = some r.item ∧
      r.job = m.scheduler.job r.item.work (m.scheduler.nextNonce + UInt32.ofNat k) := by
  induction moves generalizing m k with
  | nil => cases hr
  | cons x moves ih =>
    rw [handled, announcements_append, List.append_eq_nil_iff] at h
    obtain ⟨hcurrent, hnonce⟩ := nonce_step h.1
    have hrest : ∀ {j}, ((m.step x).begun moves)[j]? = some r →
        m.scheduler.current = some r.item ∧ r.job
          = m.scheduler.job r.item.work ((m.step x).scheduler.nextNonce + UInt32.ofNat j) := by
      intro j hj
      have hih := ih h.2 hj
      rwa [hcurrent, job_step] at hih
    rw [begun] at hr
    rcases hnonce with ⟨hnone, hnonce⟩ | ⟨hsome, hnonce⟩
    · rw [hnone, Option.toList_none, List.nil_append] at hr
      rw [← hnonce]
      exact hrest hr
    · obtain ⟨first, hfirst⟩ := Option.isSome_iff_exists.1 hsome
      obtain ⟨-, -, -, item, hitem, rfl, -⟩ := begins?_eq_some hfirst
      rw [hfirst, Option.toList_some, List.singleton_append] at hr
      cases k with
      | zero =>
        rw [List.getElem?_cons_zero] at hr
        obtain rfl := Option.some.inj hr
        refine ⟨hitem, ?_⟩
        show m.scheduler.job item.work m.scheduler.nextNonce = _
        rw [show UInt32.ofNat 0 = 0 from rfl, UInt32.add_zero]
        rfl
      | succ k =>
        rw [List.getElem?_cons_succ] at hr
        have hlater := hrest hr
        rwa [hnonce, UInt32.add_assoc, UInt32.add_comm 1, ← UInt32.ofNat_one,
          ← UInt32.ofNat_add] at hlater

/-- until the nonces come round no two of these jobs search the same header -/
theorem nodup_headers {moves : List Move} (h : announcements (m.handled moves) = []) :
    (((m.begun moves).take UInt32.size).map
      fun r => r.job.work.header r.job.headerNonce).Nodup := by
  rw [List.Nodup, List.pairwise_iff_getElem]
  intro i j hi hj hlt heq
  rw [List.length_map, List.length_take] at hi hj
  rw [List.getElem_map, List.getElem_map, List.getElem_take, List.getElem_take] at heq
  obtain ⟨hitem, hjob⟩ := job_of_quiet h (List.getElem?_eq_getElem (show i < _ by omega))
  obtain ⟨hitem', hjob'⟩ := job_of_quiet h (List.getElem?_eq_getElem (show j < _ by omega))
  have hsame : (m.begun moves)[i].item = (m.begun moves)[j].item :=
    Option.some.inj (hitem.symm.trans hitem')
  rw [hjob, hjob', hsame] at heq
  have hnonce := UInt32.add_right_inj _ |>.1 (Work.header_injective _ heq)
  have hnat := congrArg UInt32.toNat hnonce
  rw [UInt32.toNat_ofNat_of_lt' (by omega), UInt32.toNat_ofNat_of_lt' (by omega)] at hnat
  omega

/-! ## The stop flag -/

/-- how a job goes on that runs: its flag is never lowered, and only turns change its workers -/
theorem running_step (hno : m.begins? x = none) {r' : Running}
    (hr' : (m.step x).phase = .mining r') : ∃ r, m.phase = .mining r ∧ r'.job = r.job ∧
      (r.stopped = true → r'.stopped = true) ∧
      (r'.workers = r.workers ∨ ∃ timing index w, x = .work timing index ∧
        r.workers[index]? = some w ∧ r'.workers = r.workers.set index (m.turn r timing w).1) := by
  have hmining : m.phase.isMining = true := by
    by_contra hidle
    rw [Bool.not_eq_true] at hidle
    rw [begins?_iff.2 ⟨hidle, hr'⟩] at hno
    cases hno
  have heffect := effect_step m x
  generalize hm : m.step x = m', m.takes? x = taken at heffect hr'
  cases heffect with
  | takes _ hmail htakes =>
    obtain ⟨r, hr, rfl⟩ := htakes.of_mining hr'
    exact ⟨r, hr, rfl, fun hstop => Bool.or_eq_true_iff.2 (.inl hstop), .inl rfl⟩
  | shifts notices hfrom hto =>
    dsimp only at hr'
    rw [hr'] at hto
    cases hto
  | begins hphase hcurrent hsolved =>
    rw [hphase] at hmining
    cases hmining
  | closes hphase hover => cases hr'
  | solves hphase hmail => cases hr'
  | @works r timing index hphase =>
    refine ⟨r, hphase, ?_⟩
    cases hw : r.workers[index]? with
    | none =>
      rw [work_of_no_worker hphase hw, hphase] at hr'
      obtain rfl := Phase.mining.inj hr'
      exact ⟨rfl, id, .inl rfl⟩
    | some w =>
      rw [work_of_worker hphase hw] at hr'
      obtain rfl := Phase.mining.inj hr'
      exact ⟨rfl, fun hstop => Bool.or_eq_true_iff.2 (.inl hstop),
        .inr ⟨timing, index, w, rfl, hw, rfl⟩⟩
  | _ => exact ⟨r', hr', rfl, id, .inl rfl⟩

/-- if a job runs, it is this one, and it has been told to stop -/
def Stopping (m : Machine) (job : Job) : Prop :=
  ∀ r, m.phase = .mining r → r.stopped = true ∧ r.job = job

theorem Stopping.step {job : Job} (h : m.Stopping job) (hno : m.begins? x = none) :
    (m.step x).Stopping job := by
  intro r' hr'
  obtain ⟨r, hr, hjob, hstop, -⟩ := running_step hno hr'
  obtain ⟨hstopped, rfl⟩ := h r hr
  exact ⟨hstop hstopped, hjob⟩

theorem Stopping.run {job : Job} {moves : List Move} (h : m.Stopping job)
    (hno : m.begun moves = []) : (m.run moves).Stopping job := by
  induction moves generalizing m with
  | nil => exact h
  | cons x moves ih =>
    rw [begun, List.append_eq_nil_iff, Option.toList_eq_nil_iff] at hno
    exact ih (h.step hno.1) hno.2

/-- an event that ends jobs raises the flag of a job that runs when it is handled -/
theorem phase_of_endsJob {e : Event} (h : m.takes? x = some e) (he : e.endsJob = true)
    (hr : m.phase = .mining r) : (m.step x).phase = .mining { r with stopped := true } := by
  have heffect := effect_step m x
  rw [h] at heffect
  generalize m.step x = m' at heffect ⊢
  cases heffect with
  | takes _ hmail hphase =>
    rw [hr] at hphase
    cases hphase with
    | mining =>
      show Phase.mining { r with stopped := r.stopped || e.endsJob } = _
      rw [he, Bool.or_true]

end

end Machine

/-- whatever a scheduler has done: a job that begins is on the last new work it has handled; after
it handles new work, and until it handles other new work, its jobs search that work with the header
nonces 0, 1, 2 and so on, so the first `2 ^ 32` of them search different headers; and a job that
runs when new work is handled is told to stop, and stays so until it ends -/
theorem header_nonces_count_up (m : Machine) (before : List Move) :
    (∀ x r, (m.run before).begins? x = some r →
      (announcements (m.handled before)).getLast?.or m.scheduler.current = some r.item) ∧
    (announcements (m.handled before) = [] → ∀ k r, (m.begun before)[k]? = some r →
      r.job = m.scheduler.job r.item.work (m.scheduler.nextNonce + UInt32.ofNat k)) ∧
    ∀ x item, (m.run before).takes? x = some (.newWork item) →
      ∀ span, announcements ((m.run (before ++ [x])).handled span) = [] →
        let jobs := (m.run (before ++ [x])).begun span
        (∀ k r, jobs[k]? = some r →
          r.item = item ∧ r.job = m.scheduler.job item.work (UInt32.ofNat k)) ∧
        ((jobs.take UInt32.size).map fun r => r.job.work.header r.job.headerNonce).Nodup ∧
        ∀ r, (m.run before).phase = .mining r →
          (m.run (before ++ [x])).phase = .mining { r with stopped := true } ∧
          (jobs = [] → ∀ r', (m.run (before ++ x :: span)).phase = .mining r' →
            r'.stopped = true ∧ r'.job = r.job) := by
  refine ⟨fun x r hr => ?_, fun hquiet k r hr => (Machine.job_of_quiet hquiet hr).2, ?_⟩
  · obtain ⟨-, -, -, item, hitem, rfl, -⟩ := Machine.begins?_eq_some hr
    rw [← Machine.current_run, hitem]
    rfl
  intro x item hx span hquiet jobs
  have hrun : m.run (before ++ [x]) = (m.run before).step x := m.run_append before [x]
  obtain ⟨hcurrent, hnonce⟩ := Machine.nonce_of_newWork hx
  rw [← hrun] at hcurrent hnonce
  refine ⟨fun k r hr => ?_, Machine.nodup_headers hquiet, fun r hr => ?_⟩
  · obtain ⟨hitem, hjob⟩ := Machine.job_of_quiet hquiet hr
    obtain rfl := Option.some.inj (hcurrent.symm.trans hitem)
    rw [hnonce, UInt32.zero_add, Machine.job_run] at hjob
    exact ⟨rfl, hjob⟩
  · have hphase : (m.run (before ++ [x])).phase = .mining { r with stopped := true } := by
      rw [hrun]
      exact Machine.phase_of_endsJob hx rfl hr
    refine ⟨hphase, fun hnone => ?_⟩
    have hstopping : (m.run (before ++ [x])).Stopping r.job := by
      intro r' hr'
      obtain rfl := Phase.mining.inj (hphase.symm.trans hr')
      exact ⟨rfl, rfl⟩
    have hspan : m.run (before ++ x :: span) = (m.run (before ++ [x])).run span := by
      rw [← Machine.run_append, List.append_assoc]
      rfl
    rw [hspan]
    exact hstopping.run hnone

/-- a scheduler that has no nonces to search, so a turn ends each of its jobs -/
def Machine.hasty : Machine :=
  ofScheduler ⟨.small, 0, 1, none, 0, true, .zero, ⟨true, []⟩, []⟩

def Machine.toFirstWork : List Move := [.deliver (.newWork ⟨0, Work.blank⟩), .advance]

/-- a job of it runs to its end, and the next one begins -/
def Machine.toTwoJobs : List Move :=
  [.advance, .work .prompt 0, .advance, .advance, .advance, .advance]

/-- the two jobs search different headers, and the second is told to stop when other work is
handled -/
theorem header_nonces_count_up_to_two :
    let handled := Machine.toFirstWork ++ [.advance]
    let jobs := (Machine.hasty.run handled).begun Machine.toTwoJobs
    let moves := handled ++ Machine.toTwoJobs ++ [.deliver (.newWork ⟨1, Work.blank⟩)]
    (Machine.hasty.run Machine.toFirstWork).takes? .advance = some (.newWork ⟨0, Work.blank⟩) ∧
    announcements ((Machine.hasty.run handled).handled Machine.toTwoJobs) = [] ∧
    jobs.map (·.job.headerNonce) = [0, 1] ∧
    (∀ k r, jobs[k]? = some r → r.item = ⟨0, Work.blank⟩ ∧
      r.job = Machine.hasty.scheduler.job Work.blank (UInt32.ofNat k)) ∧
    ((jobs.take UInt32.size).map fun r => r.job.work.header r.job.headerNonce).Nodup ∧
    (Machine.hasty.run moves).takes? .advance = some (.newWork ⟨1, Work.blank⟩) ∧
    ∃ r, (Machine.hasty.run moves).phase = .mining r ∧
      (Machine.hasty.run (moves ++ [.advance])).phase = .mining { r with stopped := true } := by
  intro handled jobs moves
  have htaken : (Machine.hasty.run Machine.toFirstWork).takes? .advance
      = some (.newWork ⟨0, Work.blank⟩) := by
    decide +kernel
  have hquiet : announcements ((Machine.hasty.run handled).handled Machine.toTwoJobs) = [] := by
    decide +kernel
  have hnext : (Machine.hasty.run moves).takes? .advance = some (.newWork ⟨1, Work.blank⟩) := by
    decide +kernel
  obtain ⟨r, hr⟩ := Phase.isMining_iff.1
    (show (Machine.hasty.run moves).phase.isMining = true by decide +kernel)
  obtain ⟨hjobs, hheaders, -⟩ := (header_nonces_count_up Machine.hasty Machine.toFirstWork).2.2
    .advance _ htaken Machine.toTwoJobs hquiet
  obtain ⟨-, -, hstops⟩ := (header_nonces_count_up Machine.hasty moves).2.2 .advance _ hnext [] rfl
  exact ⟨htaken, hquiet, by decide +kernel, hjobs, hheaders, hnext, r, hr, (hstops r hr).1⟩

end CycleMiner
