import CycleMiner.Proofs.Poller.Rounds
import CycleMiner.Proofs.Scheduler.Effect

/-!
# The order of work and blocks

A machine with one worker is fed with work at ever greater heights.  Then every block it finds is
above all blocks before it.

* `Machine.candidates`   the blocks handed on, and those in the mailbox;
* `Machine.Below`        none of them is above some work, and none beside it unless it is solved;
* `Machine.Staged`       what holds of them in each phase;
* `Machine.Orderly`      with the order of the work to come, the invariant of the machine;
* `Staged.renew`, `Staged.begin`, `Staged.close`, `Staged.conclude`   new work, and a job from its
  beginning to its end;
* `Orderly.step`, `Orderly.run`   moves preserve the invariant;
* `Orderly.run_keeps`   and what each of them preserves in its presence.
-/

namespace CycleMiner

def Event.candidate? : Event → Option Candidate
  | .solutionFound c => some c
  | _ => none

theorem filterMap_solutionFound (found : List Candidate) :
    (found.map Event.solutionFound).filterMap Event.candidate? = found := by
  rw [List.filterMap_map]
  exact List.filterMap_some

def delivered (moves : List Move) : List Event := moves.flatMap Move.delivered

theorem delivered_append (moves moves' : List Move) :
    delivered (moves ++ moves') = delivered moves ++ delivered moves' :=
  List.flatMap_append

theorem delivered_map_deliver (es : List Event) : delivered (es.map .deliver) = es := by
  rw [delivered, List.flatMap_map]
  exact List.flatMap_singleton' es

theorem Event.eq_newWork {e : Event} {item : WorkItem} (h : e.item? = some item) :
    e = .newWork item := by
  cases e with
  | newWork new => exact congrArg _ (Option.some.inj h)
  | _ => cases h

namespace Scheduler

section
variable (s : Scheduler) {e : Event}

theorem handle_threads (e : Event) : (s.handle e).threads = s.threads := by
  cases e with
  | solutionFound c =>
    unfold handle submit
    dsimp only
    split <;> rfl
  | _ => rfl

theorem handle_current (h : e.item? = none) : (s.handle e).current = s.current := by
  cases e with
  | newWork item => cases h
  | solutionFound c =>
    unfold handle submit
    dsimp only
    split <;> rfl
  | _ => rfl

/-- handling an event hands on no block but the one it tells of -/
theorem handle_sent (e : Event) :
    (s.handle e).outbox.sent.Sublist (s.outbox.sent ++ e.candidate?.toList) := by
  cases e with
  | solutionFound c =>
    unfold handle submit Outbox.send
    dsimp only
    split
    · exact List.Sublist.refl _
    · exact List.sublist_append_left _ _
  | _ => exact List.sublist_append_left _ _

theorem notes_eq (notices : List ScheduleNotice) :
    (notices.foldl note s).current = s.current ∧ (notices.foldl note s).outbox = s.outbox ∧
      (notices.foldl note s).threads = s.threads := by
  induction notices generalizing s with
  | nil => exact ⟨rfl, rfl, rfl⟩
  | cons n notices ih => exact ih (s.note n)

end

end Scheduler

namespace Machine

/-- the blocks handed on, and those whose events have arrived -/
def candidates (m : Machine) : List Candidate :=
  m.scheduler.outbox.sent ++ m.mailbox.filterMap Event.candidate?

def Below (m : Machine) (item : WorkItem) (solved : Prop) : Prop :=
  ∀ c ∈ m.candidates, c.work.height < item.work.height ∨
    (solved ∧ c.work.height = item.work.height)

/-- the work is the current work, or lower -/
def Behind (m : Machine) (item : WorkItem) : Prop :=
  ∃ current, m.scheduler.current = some current ∧
    (item = current ∨ item.work.height < current.work.height)

/-- what holds in a phase: a lone worker mines work that has no block yet, and work that has one is
solved -/
def Staged (m : Machine) : Phase → Prop
  | .mining r => ∃ w, r.workers = [w] ∧ r.job.work = r.item.work ∧ m.Behind r.item ∧
      m.Below r.item (∃ s, w.exit = some (.solved s))
  | .closing item result => m.Behind item ∧ m.Below item (result.isSome = true)
  | _ => (m.scheduler.current = none → m.candidates = []) ∧
      ∀ item, m.scheduler.current = some item → m.Below item (m.solved = some item.serial)

/-- the invariant of a machine that is fed with this work -/
structure Orderly (future : List WorkItem) (m : Machine) : Prop where
  single : m.scheduler.threads = 1
  ordered : (m.scheduler.current.toList ++ announcements m.mailbox ++ future).Pairwise
    (·.work.height < ·.work.height)
  distinct : (m.candidates.map (·.work.height)).Nodup
  staged : m.Staged m.phase

section
variable {m m' : Machine} {item : WorkItem} {phase phase' : Phase}

theorem Below.of_subset {solved : Prop} (h : m.Below item solved)
    (hc : m'.candidates ⊆ m.candidates) : m'.Below item solved :=
  fun c hmem => h c (hc hmem)

theorem Below.le {solved : Prop} (h : m.Below item solved) {c : Candidate}
    (hc : c ∈ m.candidates) : c.work.height ≤ item.work.height := by
  rcases h c hc with hlt | ⟨-, heq⟩
  · exact UInt64.le_of_lt hlt
  · rw [heq]
    exact UInt64.le_refl _

theorem Below.above {solved solved' : Prop} (h : m.Below item solved) {higher : WorkItem}
    (hlt : item.work.height < higher.work.height) : m.Below higher solved' :=
  fun _ hc => .inl (UInt64.lt_of_le_of_lt (h.le hc) hlt)

theorem Below.imp {solved solved' : Prop} (h : m.Below item solved) (hs : solved → solved') :
    m.Below item solved' :=
  fun c hc => (h c hc).imp_right (And.imp_left hs)

theorem staged_of_waits (h : phase.Waits) : m.Staged phase ↔
    (m.scheduler.current = none → m.candidates = []) ∧
      ∀ item, m.scheduler.current = some item → m.Below item (m.solved = some item.serial) := by
  cases h <;> exact Iff.rfl

theorem Behind.lt {higher : WorkItem} (h : m.Behind item)
    (habove : ∀ current, m.scheduler.current = some current →
      current.work.height < higher.work.height) : item.work.height < higher.work.height := by
  obtain ⟨current, hcurrent, rfl | hlt⟩ := h
  · exact habove item hcurrent
  · exact UInt64.lt_trans hlt (habove current hcurrent)

/-- what holds in a phase is about blocks and current work only -/
theorem Staged.of_subset (h : m.Staged phase) (hc : m'.candidates ⊆ m.candidates)
    (hcurrent : m'.scheduler.current = m.scheduler.current) (hsolved : m'.solved = m.solved) :
    m'.Staged phase := by
  rcases phase.waits_or with hw | ⟨r, rfl⟩ | ⟨item, result, rfl⟩
  · rw [staged_of_waits hw] at h ⊢
    rw [hcurrent, hsolved]
    exact ⟨fun hnone => List.subset_nil.1 (h.1 hnone ▸ hc),
      fun item hitem => (h.2 item hitem).of_subset hc⟩
  · obtain ⟨w, hw, hjob, hbehind, hbelow⟩ := h
    refine ⟨w, hw, hjob, ?_, hbelow.of_subset hc⟩
    rw [Behind, hcurrent]
    exact hbehind
  · obtain ⟨hbehind, hbelow⟩ := h
    refine ⟨?_, hbelow.of_subset hc⟩
    rw [Behind, hcurrent]
    exact hbehind

/-- new work is above all blocks -/
theorem Staged.renew (h : m.Staged phase) (hc : m'.candidates ⊆ m.candidates)
    (hcurrent : m'.scheduler.current = some item)
    (habove : ∀ current, m.scheduler.current = some current →
      current.work.height < item.work.height) : m'.Staged phase := by
  rcases phase.waits_or with hw | ⟨r, rfl⟩ | ⟨old, result, rfl⟩
  · rw [staged_of_waits hw] at h ⊢
    rw [hcurrent]
    refine ⟨nofun, fun new hnew => ?_⟩
    obtain rfl := Option.some.inj hnew
    cases hold : m.scheduler.current with
    | none =>
      rw [h.1 hold] at hc
      exact fun c hmem => absurd (hc hmem) List.not_mem_nil
    | some current => exact ((h.2 current hold).above (habove current hold)).of_subset hc
  · obtain ⟨w, hw, hjob, hbehind, hbelow⟩ := h
    exact ⟨w, hw, hjob, ⟨item, hcurrent, .inr (hbehind.lt habove)⟩, hbelow.of_subset hc⟩
  · obtain ⟨hbehind, hbelow⟩ := h
    exact ⟨⟨item, hcurrent, .inr (hbehind.lt habove)⟩, hbelow.of_subset hc⟩

theorem Staged.takes {e : Event} (h : m.Staged phase) (ht : phase.Takes e phase') :
    m.Staged phase' := by
  cases ht <;> exact h

/-- a job that has ended leaves its work solved, or without a block -/
theorem Staged.conclude {s : Solution} (h : m.Staged (.closing item (some s)))
    (hc : m'.candidates ⊆ m.candidates) (hcurrent : m'.scheduler.current = m.scheduler.current)
    (hsolved : m'.solved = some item.serial) : m'.Staged .head := by
  obtain ⟨⟨current, hold, hle⟩, hbelow⟩ := h
  rw [staged_of_waits .head, hcurrent, hold]
  refine ⟨nofun, fun new hnew => ?_⟩
  obtain rfl := Option.some.inj hnew
  rcases hle with rfl | hlt
  · exact (hbelow.imp fun _ => hsolved).of_subset hc
  · exact (hbelow.above hlt).of_subset hc

theorem Staged.unsolved (h : m.Staged (.closing item none)) (hto : phase.Waits) :
    m.Staged phase := by
  obtain ⟨⟨current, hold, hle⟩, hbelow⟩ := h
  rw [staged_of_waits hto, hold]
  refine ⟨nofun, fun new hnew => ?_⟩
  obtain rfl := Option.some.inj hnew
  rcases hle with rfl | hlt
  · exact hbelow.imp fun hnone => by cases hnone
  · exact hbelow.above hlt

theorem Staged.begin (h : m.Staged .draining) (hcurrent : m.scheduler.current = some item)
    (hsolved : m.solved ≠ some item.serial) (hthreads : m.scheduler.threads = 1) :
    (m.beginJob item).Staged (m.beginJob item).phase := by
  have hworkers : (List.range m.scheduler.threads.toNat).map
      (fun i => Worker.start (UInt64.ofNat i)) = [Worker.start 0] := by
    rw [hthreads]
    rfl
  have hbelow : m.Below item (∃ s, (Worker.start 0).exit = some (.solved s)) :=
    (h.2 item hcurrent).imp fun hsame => absurd hsame hsolved
  exact ⟨Worker.start 0, hworkers, rfl, ⟨item, hcurrent, .inl rfl⟩, hbelow⟩

/-- a job that has ended is solved if its worker ended with a solution -/
theorem Staged.close {r : Running} (h : m.Staged (.mining r)) :
    m.Staged (.closing r.item r.solution?) := by
  obtain ⟨w, hw, -, hbehind, hbelow⟩ := h
  refine ⟨hbehind, hbelow.imp ?_⟩
  rintro ⟨s, hs⟩
  rw [(Running.solution?_lone hw).2 hs]
  rfl

end

namespace Worked

section
variable {m m' : Machine} {r r' : Running} {w w' : Worker} {found : List Candidate}
  (h : Worked m r w r' w' found m')
include h

theorem candidates_eq : m'.candidates = m.candidates ++ found := by
  rw [candidates, h.outbox, h.mailbox, List.filterMap_append, filterMap_solutionFound,
    ← List.append_assoc]
  rfl

theorem announcements_eq : announcements m'.mailbox = announcements m.mailbox := by
  have hfound : announcements (found.map Event.solutionFound) = [] := by
    rw [announcements, List.filterMap_map, List.filterMap_eq_nil_iff]
    exact fun c _ => rfl
  rw [h.mailbox, announcements_append, hfound, List.append_nil]

theorem staged (hjob : r.job.work = r.item.work) (hbehind : m.Behind r.item)
    (hbelow : m'.Below r.item (∃ s, w'.exit = some (.solved s))) : m'.Staged m'.phase := by
  rw [h.phase]
  refine ⟨w', h.workers, ?_, ?_, ?_⟩
  · rw [h.job, h.item]
    exact hjob
  · rw [Behind, h.current, h.item]
    exact hbehind
  · rw [h.item]
    exact hbelow

end

end Worked

namespace Orderly

section
variable {m m' : Machine} {future : List WorkItem}

theorem of_eq (h : m.Orderly future) (hthreads : m'.scheduler.threads = m.scheduler.threads)
    (hcurrent : m'.scheduler.current = m.scheduler.current)
    (houtbox : m'.scheduler.outbox = m.scheduler.outbox) (hmail : m'.mailbox = m.mailbox)
    (hstaged : m'.Staged m'.phase) : m'.Orderly future where
  single := hthreads.trans h.single
  ordered := by
    rw [hcurrent, hmail]
    exact h.ordered
  distinct := by
    rw [candidates, houtbox, hmail]
    exact h.distinct
  staged := hstaged

theorem arrive {e : Event} (h : m.Orderly (announcements [e] ++ future))
    (he : e.candidate? = none) : Orderly future { m with mailbox := m.mailbox ++ [e] } := by
  have hsame : candidates { m with mailbox := m.mailbox ++ [e] } = m.candidates := by
    unfold candidates
    dsimp only
    rw [List.filterMap_append, List.filterMap_cons_none he]
    exact congrArg _ (List.append_nil _)
  refine ⟨h.single, ?_, ?_, ?_⟩
  · show (m.scheduler.current.toList ++ announcements (m.mailbox ++ [e]) ++ future).Pairwise _
    rw [announcements_append, ← List.append_assoc, List.append_assoc (_ ++ _)]
    exact h.ordered
  · rw [hsame]
    exact h.distinct
  · exact h.staged.of_subset (fun c hc => hsame ▸ hc) rfl rfl

/-- new work that has arrived is above the current work -/
theorem above {item current : WorkItem} {rest : List Event} (h : m.Orderly future)
    (hmail : m.mailbox = .newWork item :: rest) (hcurrent : m.scheduler.current = some current) :
    current.work.height < item.work.height := by
  have hordered := h.ordered
  rw [hmail, hcurrent] at hordered
  exact (List.pairwise_cons.1 hordered).1 item List.mem_cons_self

theorem take {e : Event} {rest : List Event} {phase : Phase} (h : m.Orderly future)
    (hmail : m.mailbox = e :: rest) (hphase : m.phase.Takes e phase) :
    Orderly future { m with
      scheduler := m.scheduler.handle e
      mailbox := rest
      phase := phase } := by
  have hsub : (candidates { m with
      scheduler := m.scheduler.handle e
      mailbox := rest
      phase := phase }).Sublist m.candidates := by
    have hall : m.candidates
        = m.scheduler.outbox.sent ++ e.candidate?.toList ++ rest.filterMap Event.candidate? := by
      rw [candidates, hmail, List.append_assoc, List.filterMap_cons]
      cases e.candidate? <;> rfl
    rw [hall]
    exact (m.scheduler.handle_sent e).append_right _
  have hordered := h.ordered
  rw [hmail] at hordered
  have hdistinct := h.distinct.sublist (hsub.map _)
  have hstaged := h.staged.takes hphase
  have hthreads := (m.scheduler.handle_threads e).trans h.single
  cases he : e.item? with
  | none =>
    have hcurrent := m.scheduler.handle_current he
    refine ⟨hthreads, ?_, hdistinct, hstaged.of_subset hsub.subset hcurrent rfl⟩
    show ((m.scheduler.handle e).current.toList ++ announcements rest ++ future).Pairwise _
    rw [hcurrent]
    rwa [announcements, List.filterMap_cons_none he] at hordered
  | some item =>
    obtain rfl := Event.eq_newWork he
    rw [announcements, List.filterMap_cons_some he, List.append_assoc] at hordered
    refine ⟨hthreads, ?_, hdistinct, hstaged.renew hsub.subset rfl fun _ => h.above hmail⟩
    exact hordered.sublist (List.sublist_append_right _ _)

theorem lone {r : Running} (h : m.Orderly future) (hphase : m.phase = .mining r) :
    ∃ w, r.workers = [w] := by
  have hstaged := h.staged
  rw [hphase] at hstaged
  obtain ⟨w, hw, -⟩ := hstaged
  exact ⟨w, hw⟩

theorem work {r : Running} {timing : Timing} {index : Nat} (h : m.Orderly future)
    (hphase : m.phase = .mining r) : Orderly future (m.work timing index) := by
  have hstaged := h.staged
  rw [hphase] at hstaged
  obtain ⟨w, hw, hjob, hbehind, hbelow⟩ := hstaged
  rcases work_lone hphase hw timing index with e | ⟨r', w', found, hworked⟩
  · rw [e]
    exact h
  generalize m.work timing index = m' at hworked
  have hall := hworked.candidates_eq
  have hordered : (m'.scheduler.current.toList ++ announcements m'.mailbox ++ future).Pairwise
      (·.work.height < ·.work.height) := by
    rw [hworked.current, hworked.announcements_eq]
    exact h.ordered
  have hthreads := hworked.threads.trans h.single
  rcases hworked.result with ⟨s, hexit, hx, rfl⟩ | ⟨hx, rfl⟩
  · -- the worker has found a block, and none was as high
    have hheight : (r.job.candidate s).work.height = r.item.work.height := congrArg Work.height hjob
    have hlow : ∀ c ∈ m.candidates, c.work.height < r.item.work.height := by
      intro c hc
      refine (hbelow c hc).resolve_right ?_
      rintro ⟨⟨s', hs'⟩, -⟩
      rw [hexit] at hs'
      cases hs'
    refine ⟨hthreads, hordered, ?_, hworked.staged hjob hbehind fun c hc => ?_⟩
    · rw [hall, List.map_append, List.nodup_append]
      refine ⟨h.distinct, List.nodup_singleton _, fun a ha b hb => ?_⟩
      obtain ⟨c, hc, rfl⟩ := List.mem_map.1 ha
      obtain rfl := List.mem_singleton.1 hb
      show c.work.height ≠ (r.job.candidate s).work.height
      rw [hheight]
      exact UInt64.ne_of_lt (hlow c hc)
    · rw [hall] at hc
      rcases List.mem_append.1 hc with hc | hc
      · exact .inl (hlow c hc)
      · obtain rfl := List.mem_singleton.1 hc
        exact .inr ⟨⟨s, hx⟩, hheight⟩
  · rw [List.append_nil] at hall
    refine ⟨hthreads, hordered, ?_, hworked.staged hjob hbehind ?_⟩
    · rw [hall]
      exact h.distinct
    · refine (hbelow.imp ?_).of_subset fun c hc => hall ▸ hc
      rintro ⟨s, hs⟩
      exact ⟨s, (hx s).2 hs⟩

/-- a move preserves the invariant; what it delivers was to come -/
theorem step {x : Move} (h : m.Orderly (announcements x.delivered ++ future))
    (hx : ∀ e ∈ x.delivered, e.candidate? = none) : Orderly future (m.step x) := by
  have heffect := effect_step m x
  generalize m.step x = m', m.takes? x = taken at heffect ⊢
  cases heffect with
  | nothing hnone =>
    rw [hnone] at h
    exact h
  | arrives => exact h.arrive (hx _ (List.mem_singleton.2 rfl))
  | halts => exact h.of_eq rfl rfl rfl rfl h.staged
  | takes hnone hmail hphase =>
    rw [hnone] at h
    exact h.take hmail hphase
  | shifts notices hfrom hto =>
    obtain ⟨hcurrent, houtbox, hthreads⟩ := m.scheduler.notes_eq notices
    have hstaged := h.staged
    refine h.of_eq hthreads hcurrent houtbox rfl ?_
    refine Staged.of_subset (m := m) ?_ ?_ hcurrent rfl
    · rcases hfrom with hfrom | ⟨item, hfrom⟩
      · rw [staged_of_waits hfrom] at hstaged
        exact (staged_of_waits hto).2 hstaged
      · rw [hfrom] at hstaged
        exact hstaged.unsolved hto
    · intro c hc
      rw [candidates, houtbox] at hc
      exact hc
  | begins hphase hcurrent hsolved =>
    have hstaged := h.staged
    rw [hphase] at hstaged
    exact h.of_eq rfl rfl rfl rfl (hstaged.begin hcurrent hsolved h.single)
  | closes hphase hover =>
    have hstaged := h.staged
    rw [hphase] at hstaged
    exact h.of_eq rfl rfl rfl rfl hstaged.close
  | solves hphase hmail =>
    have hstaged := h.staged
    rw [hphase] at hstaged
    exact h.of_eq rfl rfl rfl rfl (hstaged.conclude (List.Subset.refl _) rfl rfl)
  | works hphase => exact h.work hphase

theorem step_cons {x : Move} {moves : List Move}
    (h : m.Orderly (announcements (delivered (x :: moves)) ++ future))
    (hx : ∀ e ∈ delivered (x :: moves), e.candidate? = none) :
    (m.step x).Orderly (announcements (delivered moves) ++ future) ∧
      ∀ e ∈ delivered moves, e.candidate? = none := by
  rw [delivered, List.flatMap_cons] at h hx
  rw [announcements_append, List.append_assoc] at h
  refine ⟨h.step fun e he => ?_, fun e he => ?_⟩
  · exact hx e (List.mem_append_left _ he)
  · exact hx e (List.mem_append_right _ he)

/-- moves preserve the invariant; what they deliver was to come -/
theorem run {moves : List Move} (h : m.Orderly (announcements (delivered moves) ++ future))
    (hx : ∀ e ∈ delivered moves, e.candidate? = none) : Orderly future (m.run moves) := by
  induction moves generalizing m with
  | nil => exact h
  | cons x moves ih =>
    obtain ⟨h', hx'⟩ := h.step_cons hx
    rw [run_cons]
    exact ih h' hx'

/-- what every move of an orderly machine preserves, moves one after the other preserve -/
theorem run_keeps {P : Machine → Prop} {moves : List Move}
    (h : m.Orderly (announcements (delivered moves) ++ future))
    (hx : ∀ e ∈ delivered moves, e.candidate? = none)
    (hstep : ∀ x ∈ moves, ∀ m future, Orderly future m → P m → P (m.step x)) (hm : P m) :
    P (m.run moves) := by
  induction moves generalizing m with
  | nil => exact hm
  | cons x moves ih =>
    obtain ⟨h', hx'⟩ := h.step_cons hx
    rw [run_cons]
    refine ih h' hx' (fun y hy => hstep y (List.mem_cons_of_mem x hy)) ?_
    exact hstep x List.mem_cons_self m _ h hm

end

end Orderly

end Machine

end CycleMiner
