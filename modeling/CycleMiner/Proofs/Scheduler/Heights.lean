import CycleMiner.Proofs.Block.Evidence
import CycleMiner.Proofs.Poller.Language
import CycleMiner.Proofs.Scheduler.Order

/-!
# One block for each height

A scheduler with one worker that is fed by a poller hands on at most one block for each height.
Once a job has solved its work, no job begins before later work has been handled.

* `Machine.Rests`      the current work is solved, so no job begins;
* `Machine.Done`       some work is solved, or has been replaced, and only higher work is mined;
* `Machine.current_run`   the current work is the last that has been handled;
* `Machine.Solves`     a move ends a job that has solved its work;
* `Scheduler.orderly_begin`   a scheduler that has not begun is in order;
* `one_block_for_each_height`   what therefore holds after any moves.

The later work may have been handled while the job still ran: a turn that looked at the stop flag
before it was raised can solve work that has been replaced, and the job of the later work begins as
soon as that job has ended.
-/

namespace CycleMiner

namespace Machine

/-- the current work is this, and it is solved, or a job that has solved it is ending -/
structure Rests (item : WorkItem) (m : Machine) : Prop where
  current : m.scheduler.current = some item
  phase : (∃ s, m.phase = .closing item (some s)) ∨
    (m.phase.Waits ∧ m.solved = some item.serial)

/-- the work is solved, or higher work has taken its place; a job that runs mines higher work -/
structure Done (item : WorkItem) (m : Machine) : Prop where
  work : m.Rests item ∨
    ∃ current, m.scheduler.current = some current ∧ item.work.height < current.work.height
  job : ∀ r, m.phase = .mining r → item.work.height < r.item.work.height

def Solves (m : Machine) (x : Move) (item : WorkItem) : Prop :=
  m.phase.isMining = true ∧ (m.step x).phase.solved? = some item

section
variable {m m' : Machine} {x : Move} {item : WorkItem} {future : List WorkItem}

/-! ## The current work -/

theorem Effect.current_cases {taken : Option Event} (h : Effect m x taken m') :
    (∃ new rest, taken = some (.newWork new) ∧ m.mailbox = .newWork new :: rest ∧
        m'.scheduler.current = some new) ∨
      (announcements taken.toList = [] ∧ m'.scheduler.current = m.scheduler.current) := by
  cases h with
  | @takes x e rest phase _ hmail hphase =>
    cases he : e.item? with
    | none => exact .inr ⟨List.filterMap_cons_none he, m.scheduler.handle_current he⟩
    | some new =>
      obtain rfl := Event.eq_newWork he
      exact .inl ⟨new, rest, rfl, hmail, rfl⟩
  | shifts notices hfrom hto => exact .inr ⟨rfl, (m.scheduler.notes_eq notices).1⟩
  | works hphase => exact .inr ⟨rfl, m.work_current _ _⟩
  | _ => exact .inr ⟨rfl, rfl⟩

theorem current_run (m : Machine) (moves : List Move) :
    (m.run moves).scheduler.current
      = (announcements (m.handled moves)).getLast?.or m.scheduler.current := by
  induction moves generalizing m with
  | nil => rfl
  | cons x moves ih =>
    rw [run_cons, ih, handled, announcements_append, List.getLast?_append, Option.or_assoc]
    congr 1
    rcases (m.effect_step x).current_cases with ⟨new, rest, htaken, -, hnew⟩ | ⟨hnone, hsame⟩
    · rw [hnew, htaken]
      rfl
    · rw [hsame, hnone]
      rfl

/-! ## Solved work -/

theorem Rests.not_mining (h : m.Rests item) : m.phase.isMining = false := by
  rcases h.phase with ⟨s, hs⟩ | ⟨hw, -⟩
  · rw [hs]
    rfl
  · exact hw.not_mining

/-- work that is solved stays so while it is the current work -/
theorem Rests.step {taken : Option Event} (h : m.Rests item) (heffect : Effect m x taken m')
    (hcurrent : m'.scheduler.current = some item) : m'.Rests item := by
  refine ⟨hcurrent, ?_⟩
  cases heffect with
  | takes _ hmail hphase =>
    rcases h.phase with ⟨s, hs⟩ | ⟨hw, hsolved⟩
    · rw [hs] at hphase
      cases hphase
      exact .inl ⟨s, rfl⟩
    · exact .inr ⟨hphase.waits hw, hsolved⟩
  | shifts notices hfrom hto =>
    rcases h.phase with ⟨s, hs⟩ | ⟨hw, hsolved⟩
    · rw [hs] at hfrom
      rcases hfrom with hfrom | ⟨old, hfrom⟩ <;> cases hfrom
    · exact .inr ⟨hto, hsolved⟩
  | begins hphase hold hnew =>
    rcases h.phase with ⟨s, hs⟩ | ⟨-, hsolved⟩
    · rw [hphase] at hs
      cases hs
    · rw [h.current] at hold
      obtain rfl := Option.some.inj hold
      exact absurd hsolved hnew
  | closes hphase hover =>
    have hquiet := h.not_mining
    rw [hphase] at hquiet
    cases hquiet
  | solves hphase hmail =>
    rcases h.phase with ⟨s, hs⟩ | ⟨hw, -⟩
    · rw [hphase] at hs
      obtain ⟨rfl, -⟩ := Phase.closing.inj hs
      exact .inr ⟨.head, rfl⟩
    · rw [hphase] at hw
      cases hw
  | works hphase =>
    have hquiet := h.not_mining
    rw [hphase] at hquiet
    cases hquiet
  | _ => exact h.phase

theorem Done.step_work (h : m.Done item) (horder : m.Orderly future) :
    (m.step x).Rests item ∨ ∃ current, (m.step x).scheduler.current = some current ∧
      item.work.height < current.work.height := by
  have heffect := m.effect_step x
  rcases heffect.current_cases with ⟨new, rest, -, hmail, hnew⟩ | ⟨-, hsame⟩
  · right
    refine ⟨new, hnew, ?_⟩
    rcases h.work with h | ⟨current, hcurrent, hlt⟩
    · exact horder.above hmail h.current
    · exact UInt64.lt_trans hlt (horder.above hmail hcurrent)
  · rcases h.work with h | ⟨current, hcurrent, hlt⟩
    · exact .inl (h.step heffect (hsame.trans h.current))
    · exact .inr ⟨current, hsame.trans hcurrent, hlt⟩

theorem Done.step (h : m.Done item) (horder : m.Orderly future) : (m.step x).Done item := by
  refine ⟨h.step_work horder, fun r' hr' => ?_⟩
  have hwork := h.step_work (x := x) horder
  have heffect := m.effect_step x
  generalize m.step x = m', m.takes? x = taken at heffect hr' hwork
  cases heffect with
  | takes _ hmail hphase =>
    obtain ⟨r, hr, rfl⟩ := hphase.of_mining hr'
    exact h.job r hr
  | shifts notices hfrom hto =>
    dsimp only at hr'
    rw [hr'] at hto
    cases hto
  | begins hphase hcurrent hsolved =>
    -- a job begins on the current work, which is not the solved one
    obtain rfl := Phase.mining.inj hr'
    rcases hwork with hrests | ⟨current, hnew, hlt⟩
    · cases hrests.not_mining
    · obtain rfl := Option.some.inj (hcurrent.symm.trans hnew)
      exact hlt
  | closes hphase hover => cases hr'
  | solves hphase hmail => cases hr'
  | @works r timing index hphase =>
    obtain ⟨w, hw⟩ := horder.lone hphase
    rcases work_lone hphase hw timing index with e | ⟨r₁, w', found, hworked⟩
    · rw [e] at hr'
      exact h.job r' hr'
    · rw [hworked.phase] at hr'
      obtain rfl := Phase.mining.inj hr'
      rw [hworked.item]
      exact h.job r hphase
  | _ => exact h.job r' hr'

theorem Done.run {moves : List Move} (h : m.Done item)
    (horder : m.Orderly (announcements (delivered moves) ++ future))
    (hx : ∀ e ∈ delivered moves, e.candidate? = none) : (m.run moves).Done item :=
  horder.run_keeps hx (fun _ _ _ _ ho h => h.step ho) h

/-- while solved work has not been replaced no job runs -/
theorem Done.not_mining (h : m.Done item) (hcurrent : m.scheduler.current = some item) :
    m.phase.isMining = false := by
  rcases h.work with h | ⟨current, hnew, hlt⟩
  · exact h.not_mining
  · rw [hcurrent] at hnew
    obtain rfl := Option.some.inj hnew
    exact absurd hlt (UInt64.lt_irrefl _)

theorem Orderly.done (h : m.Orderly future) (hsolved : m.phase.solved? = some item) :
    m.Done item := by
  obtain ⟨s, hphase⟩ := Phase.solved?_eq_some.1 hsolved
  refine ⟨?_, fun r hr => by cases hphase.symm.trans hr⟩
  have hstaged := h.staged
  rw [hphase] at hstaged
  obtain ⟨⟨current, hcurrent, rfl | hlt⟩, -⟩ := hstaged
  · exact .inl ⟨hcurrent, .inl ⟨s, hphase⟩⟩
  · exact .inr ⟨current, hcurrent, hlt⟩

end

theorem run_deliver (m : Machine) (es : List Event) :
    m.run (es.map .deliver) = { m with mailbox := m.mailbox ++ es } := by
  induction es generalizing m with
  | nil =>
    rw [List.append_nil]
    rfl
  | cons e es ih =>
    rw [List.map_cons, run_cons, ih]
    show { m with mailbox := m.mailbox ++ [e] ++ es } = { m with mailbox := m.mailbox ++ e :: es }
    rw [List.append_assoc]
    rfl

end Machine

/-! ## The beginning -/

theorem Round.candidate? {prefs : Preferences} {before round : List Event} {a : Answer}
    (h : Round prefs before a round) : round.filterMap Event.candidate? = [] := by
  have hopening : ∀ t, (opening before t).filterMap Event.candidate? = [] := by
    intro t
    unfold opening
    split <;> rfl
  have hclosing : ∀ t, (closing t).filterMap Event.candidate? = [] := by
    intro t
    unfold closing
    split <;> rfl
  cases h with
  | quiet hnews => rw [List.filterMap_append, hopening, hclosing, List.append_nil]
  | news hnews hw =>
    rw [List.filterMap_append, List.filterMap_append, hopening, hclosing]
    rfl
  | malformed hnews hw =>
    rw [List.filterMap_append, hopening]
    rfl
  | passing hf he => rcases he with rfl | rfl <;> rfl
  | final hf he => rcases he with rfl | rfl <;> rfl

theorem Rounds.candidate? {prefs : Preferences} {answers : List Answer} {es : List Event}
    (h : Rounds prefs answers es) : es.filterMap Event.candidate? = [] := by
  induction h with
  | nil => rfl
  | snoc h hlive hround ih => rw [List.filterMap_append, ih, hround.candidate?, List.append_nil]

/-- a scheduler with one worker that has not begun is in order -/
theorem Scheduler.orderly_begin {params : Params} {easiness : UInt32} {s : Scheduler}
    (hs : make params easiness 1 = .ok s) {arrived : List Event} {future : List WorkItem}
    (hordered : (announcements arrived ++ future).Pairwise (·.work.height < ·.work.height))
    (hx : ∀ e ∈ arrived, e.candidate? = none) :
    (((Machine.ofScheduler s).run (arrived.map .deliver)).begin).Orderly future := by
  have hfresh : s.threads = 1 ∧ s.current = none ∧ s.outbox.sent = [] := by
    unfold make at hs
    rw [if_neg (by decide)] at hs
    split at hs
    · cases hs
    · obtain rfl := Except.ok.inj hs
      exact ⟨rfl, rfl, rfl⟩
  obtain ⟨hthreads, hcurrent, hsent⟩ := hfresh
  rw [Machine.run_deliver]
  have hnone : Machine.candidates (Machine.begin { Machine.ofScheduler s with
      mailbox := (Machine.ofScheduler s).mailbox ++ arrived }) = [] := by
    show s.outbox.sent ++ arrived.filterMap Event.candidate? = []
    rw [hsent, List.nil_append, List.filterMap_eq_nil_iff]
    exact hx
  refine ⟨hthreads, ?_, ?_, fun _ => hnone, fun item hitem => ?_⟩
  · show (s.current.toList ++ announcements arrived ++ future).Pairwise _
    rw [hcurrent]
    exact hordered
  · rw [hnone]
    exact List.nodup_nil
  · exact absurd (hcurrent.symm.trans hitem) nofun

/-! ## The result -/

/-- a scheduler with one worker takes its events from a poller, some before it begins, the others at
any time; then it hands on at most one block for each height.  When a job has solved its work, only
higher work is mined, and none while the solved work is the last that has been handled -/
theorem one_block_for_each_height {params : Params} {easiness : UInt32} {s : Scheduler}
    (hs : Scheduler.make params easiness 1 = .ok s) (prefs : Preferences)
    (retryPause pollInterval : Nat) (clock : Clock) (replies : List Reply) (arrived : List Event)
    (moves : List Move)
    (hfed : arrived ++ delivered moves <+:
      ((Poller.make prefs retryPause pollInterval).run clock replies).events) :
    let m := ((Machine.ofScheduler s).run (arrived.map .deliver)).begin
    ((m.run moves).scheduler.outbox.sent.map (·.work.height)).Nodup ∧
    ∀ before x after item, moves = before ++ x :: after → (m.run before).Solves x item →
      (∀ r, (m.run moves).phase = .mining r → item.work.height < r.item.work.height) ∧
      ((announcements (m.handled moves)).getLast? = some item →
        (m.run moves).phase.isMining = false) := by
  intro m
  obtain ⟨taken, htells⟩ : ∃ taken, Poller.Tells prefs [] [] clock
      (Poller.make prefs retryPause pollInterval) 0 replies
      ((Poller.make prefs retryPause pollInterval).runFrom clock .fresh 0 replies) taken :=
    Poller.runFrom_tells .nil List.not_mem_nil (Poller.told_make _ _ _) rfl
  have hrounds : Rounds prefs taken
      ((Poller.make prefs retryPause pollInterval).run clock replies).events := htells.rounds
  -- what the poller has told so far announces work in order, and no block
  have hquiet : ∀ e ∈ arrived ++ delivered moves, e.candidate? = none := fun e he =>
    List.filterMap_eq_nil_iff.1 hrounds.candidate? e (hfed.subset he)
  have hordered : (announcements (arrived ++ delivered moves)).Pairwise
      (·.work.height < ·.work.height) :=
    hrounds.heights.sublist (hfed.sublist.filterMap _)
  rw [announcements_append] at hordered
  have hx : ∀ e ∈ delivered moves, e.candidate? = none := fun e he =>
    hquiet e (List.mem_append_right _ he)
  have horder : m.Orderly (announcements (delivered moves) ++ []) := by
    rw [List.append_nil]
    exact Scheduler.orderly_begin hs hordered fun e he => hquiet e (List.mem_append_left _ he)
  refine ⟨?_, ?_⟩
  · have hdistinct := (horder.run hx).distinct
    exact hdistinct.sublist ((List.sublist_append_left _ _).map _)
  rintro before x after item rfl hsolves
  rw [delivered_append] at hx horder
  rw [announcements_append, List.append_assoc] at horder
  have hx' : ∀ e ∈ delivered before, e.candidate? = none := fun e he =>
    hx e (List.mem_append_left _ he)
  obtain ⟨hstep, hxs⟩ := (horder.run hx').step_cons fun e he => hx e (List.mem_append_right _ he)
  have hdone : ((m.run before).step x).Done item := hstep.done hsolves.2
  have hrun : m.run (before ++ x :: after) = ((m.run before).step x).run after := by
    rw [Machine.run_append, Machine.run_cons]
  have hdone' : (m.run (before ++ x :: after)).Done item := hrun ▸ hdone.run hstep hxs
  refine ⟨hdone'.job, fun hlast => hdone'.not_mining ?_⟩
  rw [m.current_run, hlast]
  rfl

/-- a run of a poller whose source answers twice, the second time for the next height -/
def PollerRun.twice : PollerRun :=
  (Poller.make .bare 0 0).run ⟨.exact, none, 0⟩
    [.answer 0 (.template .bare), .answer 0 (.template { Template.bare with height := 8 })]

def Scheduler.lone : Scheduler := ⟨.small, 8, 1, none, 0, true, .zero, ⟨true, []⟩, []⟩

/-- a scheduler that begins when the first round of events has arrived -/
def Machine.bare : Machine :=
  ((ofScheduler .lone).run ((PollerRun.twice.events.take 3).map .deliver)).begin

/-- handles the three events, begins a job, and runs its worker to its end -/
def Machine.toSolution : List Move :=
  List.replicate 5 .advance ++ List.replicate 8 (.work .prompt 0)

/-- the worker solves the work; its block is handed on, and the scheduler waits -/
theorem one_block_for_bare_template :
    let moves := Machine.toSolution ++ .advance :: List.replicate 4 .advance
    PollerRun.twice.events.take 3 ++ delivered moves <+: PollerRun.twice.events ∧
    ∃ item, (Machine.bare.run Machine.toSolution).Solves .advance item ∧
      (announcements (Machine.bare.handled moves)).getLast? = some item ∧
      ((Machine.bare.run moves).scheduler.outbox.sent.map (·.work.height)).Nodup ∧
      (Machine.bare.run moves).phase.isMining = false := by
  intro moves
  have hs : Scheduler.make .small 8 1 = .ok .lone := rfl
  have hfed : PollerRun.twice.events.take 3 ++ delivered moves <+: PollerRun.twice.events := by
    have hnone : delivered moves = [] := rfl
    rw [hnone, List.append_nil]
    exact List.take_prefix _ _
  have hrun : (Machine.bare.run Machine.toSolution).phase.isMining = true ∧
      ((Machine.bare.run Machine.toSolution).step .advance).phase.solved?.isSome = true ∧
      (announcements (Machine.bare.handled moves)).getLast?
        = ((Machine.bare.run Machine.toSolution).step .advance).phase.solved? := by
    decide +kernel
  obtain ⟨hmining, hsolved, hlast⟩ := hrun
  obtain ⟨item, hitem⟩ := Option.isSome_iff_exists.1 hsolved
  obtain ⟨hdistinct, hrests⟩ := one_block_for_each_height hs .bare 0 0 ⟨.exact, none, 0⟩
    [.answer 0 (.template .bare), .answer 0 (.template { Template.bare with height := 8 })]
    (PollerRun.twice.events.take 3) moves hfed
  exact ⟨hfed, item, ⟨hmining, hitem⟩, hlast.trans hitem, hdistinct,
    (hrests _ _ _ item rfl ⟨hmining, hitem⟩).2 (hlast.trans hitem)⟩

/-- the second round of events arrives and is handled during the last turn of the worker, which has
looked at the flag before -/
def Machine.toLateTurn : List Move :=
  List.replicate 5 .advance ++ List.replicate 7 (.work .prompt 0) ++
    (PollerRun.twice.events.drop 3).map .deliver ++ List.replicate 3 .oversee ++
    [.work .overdue 0]

/-- the worker solves the work that has been replaced, and after the end of its job the next job
begins before any other work has been handled -/
theorem later_work_mined_at_once :
    let moves := Machine.toLateTurn ++ .advance :: List.replicate 4 .advance
    Scheduler.make .small 8 1 = .ok .lone ∧
    PollerRun.twice.events.take 3 ++ delivered moves = PollerRun.twice.events ∧
    (∃ item, (Machine.bare.run Machine.toLateTurn).Solves .advance item) ∧
    announcements ((Machine.bare.run (Machine.toLateTurn ++ [.advance])).handled
      (List.replicate 4 .advance)) = [] ∧
    (Machine.bare.run moves).phase.isMining = true := by
  intro moves
  have hdelivered : delivered moves = PollerRun.twice.events.drop 3 := by
    rw [delivered_append, Machine.toLateTurn, delivered_append, delivered_append, delivered_append,
      delivered_map_deliver]
    exact (List.append_nil _).trans ((List.append_nil _).trans (List.append_nil _))
  have hrun : (Machine.bare.run Machine.toLateTurn).phase.isMining = true ∧
      ((Machine.bare.run Machine.toLateTurn).step .advance).phase.solved?.isSome = true ∧
      announcements ((Machine.bare.run (Machine.toLateTurn ++ [.advance])).handled
        (List.replicate 4 .advance)) = [] ∧
      (Machine.bare.run moves).phase.isMining = true := by
    decide +kernel
  obtain ⟨hmining, hsolved, hnone, hnext⟩ := hrun
  obtain ⟨item, hitem⟩ := Option.isSome_iff_exists.1 hsolved
  refine ⟨rfl, ?_, ⟨item, hmining, hitem⟩, hnone, hnext⟩
  rw [hdelivered]
  exact List.take_append_drop 3 _

end CycleMiner
