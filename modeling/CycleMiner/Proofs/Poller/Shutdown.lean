import CycleMiner.Proofs.Poller.CurrentWork
import CycleMiner.Proofs.Poller.Loop

/-!
# Shutting a poller down

A run that is shut down while it waits is the same run without a shutdown up to that moment, and
then it ends.  Whatever ends a run, a shutdown or a final fault, leaves the poller stopped, and a
stopped poller does nothing in any later run.

* `PollerRun.upTo`    what happens in a run up to a moment;
* `PollerRun.Within`, `Poller.runFrom_within`   nothing happens before a run begins or after it is
  given up;
* `Clock.cut`, `Clock.wait_cut`   a clock with a shutdown, and how a wait ends on it;
* `PollerRun.Cut`, `Poller.runFrom_cut`   a run and the same run with a shutdown;
* `Poller.Halted`     a poller that does nothing any more;
* `PollLoop.run_stopped`   whatever ends the loop, but that it is given up, leaves the poller
  stopped;
* `shutdown_cuts_run`   what a shutdown does at any moment.

The two runs are compared on the timeline, which the loop follows.  At the very moment of a shutdown
the poller goes first: what is due then still happens.
-/

namespace CycleMiner

def PollerRun.upTo (r : PollerRun) (time : Nat) : List Moment := r.moments.filter (·.time ≤ time)

/-! ## without a shutdown -/

namespace PollerRun

/-- the run begins at one time at the earliest and is over at another at the latest -/
structure Within (first last : Nat) (r : PollerRun) : Prop where
  first_le : first ≤ r.time
  le_last : r.time ≤ last
  moments : ∀ m ∈ r.moments, first ≤ m.time

section
variable {first later last : Nat} {ms : List Moment} {r : PollerRun}

theorem Within.mono (h : r.Within later last) (hle : first ≤ later) : r.Within first last where
  first_le := Nat.le_trans hle h.first_le
  le_last := h.le_last
  moments m hm := Nat.le_trans hle (h.moments m hm)

theorem Within.after (h : r.Within first last) (hms : ∀ m ∈ ms, first ≤ m.time) :
    (PollerRun.after ms r).Within first last where
  first_le := h.first_le
  le_last := h.le_last
  moments := List.forall_mem_append.2 ⟨hms, h.moments⟩

end

end PollerRun

namespace Poller

section
variable {timer : Timer} {limit now time due : Nat} {p : Poller} {s : Session}
  {replies : List Reply} {before : List Moment}

theorem stopRun_within (p : Poller) (hnow : now ≤ limit) : (stopRun now p).Within now limit where
  first_le := Nat.le_refl now
  le_last := hnow
  moments := List.forall_mem_singleton.2 (Nat.le_refl now)

theorem giveUpRun_within (p : Poller) (hnow : now ≤ limit) :
    (giveUpRun (.calm timer limit) p).Within now limit where
  first_le := hnow
  le_last := Nat.le_refl limit
  moments := List.forall_mem_nil _

/-- a pause and all that happens after it -/
theorem pause_within
    (h : ∀ later ≤ limit, (runFrom (.calm timer limit) p s later replies).Within later limit)
    (hbefore : ∀ m ∈ before, time ≤ m.time) (hdue : time ≤ due) (htime : time ≤ limit) :
    ((pause (.calm timer limit) before p s time due).run (.calm timer limit) replies).Within
      time limit := by
  have hms : ∀ m ∈ before ++ [⟨time, p, .pauses due⟩], time ≤ m.time :=
    List.forall_mem_append.2 ⟨hbefore, List.forall_mem_singleton.2 (Nat.le_refl time)⟩
  rw [pause_calm hdue htime]
  split
  · rename_i hle
    exact ((h due hle).mono hdue).after hms
  · exact (giveUpRun_within p htime).after hms

theorem answered_within
    (h : ∀ p s, ∀ later ≤ limit, (runFrom (.calm timer limit) p s later replies).Within later limit)
    (p : Poller) (s : Session) (htime : time ≤ limit) (a : Answer) :
    ((answered (.calm timer limit) p s time a).run (.calm timer limit) replies).Within
      time limit := by
  have htold : ∀ m ∈ moments time (p.react s a).poller (p.react s a).actions, time ≤ m.time :=
    fun m hm => Nat.le_of_eq (mem_moments hm).1.symm
  cases hnext : (p.react s a).next with
  | ask =>
    rw [answered_of_ask hnext]
    exact (h _ _ time htime).after htold
  | rest =>
    rw [answered_of_rest hnext]
    exact pause_within (h _ _) htold (Nat.le_add_right _ _) htime
  | backOff =>
    rw [answered_of_backOff hnext]
    exact pause_within (h _ _) htold (Nat.le_add_right _ _) htime
  | giveUp f =>
    rw [answered_of_giveUp hnext]
    exact ⟨Nat.le_refl time, htime, htold⟩

/-- nothing happens before a run begins, and it is over when it is given up -/
theorem runFrom_within (p : Poller) (s : Session) (hnow : now ≤ limit) (replies : List Reply) :
    (runFrom (.calm timer limit) p s now replies).Within now limit := by
  induction replies generalizing p s now with
  | nil =>
    by_cases hp : p.state = .stopped
    · rw [runFrom_of_stopped hp]
      exact stopRun_within p hnow
    · rw [runFrom, if_neg hp]
      exact (giveUpRun_within _ hnow).after (List.forall_mem_singleton.2 (Nat.le_refl now))
  | cons reply replies ih =>
    by_cases hp : p.state = .stopped
    · rw [runFrom_of_stopped hp]
      exact stopRun_within p hnow
    rw [runFrom_cons_run _ s now hp]
    refine PollerRun.Within.after ?_ (List.forall_mem_singleton.2 (Nat.le_refl now))
    cases reply with
    | shutdown => exact stopRun_within _ hnow
    | answer delay a =>
      rw [request_calm hnow]
      split
      · rename_i hle
        exact (answered_within (fun p s _ hlater => ih p s hlater) _ s hle a).mono
          (Nat.le_add_right now delay)
      · exact giveUpRun_within _ hnow

end

end Poller

/-! ## with a shutdown -/

namespace Clock

/-- a shutdown at one time, before the run is given up at another -/
def cut (timer : Timer) (shutdown limit : Nat) : Clock := ⟨timer, some shutdown, limit⟩

/-- a wait that is due by the time of the shutdown ends as it should, and any other ends with it -/
theorem wait_cut {timer : Timer} {time limit now due : Nat} (htime : time < limit)
    (hnow : now ≤ time) (hdue : now ≤ due) :
    (cut timer time limit).wait now due = if due ≤ time then .due due else .shutdown time := by
  have hshutdown : (cut timer time limit).shutdown? = some time := if_pos (decide_eq_true htime)
  unfold wait
  rw [hshutdown]
  by_cases hle : due ≤ time
  · have hnone : (some time).filter (· < due) = none :=
      if_neg (by rw [decide_eq_true_eq, Nat.not_lt]; exact hle)
    rw [hnone, if_pos hle]
    split
    · rename_i h
      rw [Nat.le_antisymm h hdue]
    · exact if_pos (Nat.le_trans hle (Nat.le_of_lt htime))
  · have hlt : time < due := Nat.not_le.1 hle
    have hsome : (some time).filter (· < due) = some time := if_pos (decide_eq_true hlt)
    rw [hsome, if_neg hle, if_neg (Nat.not_le.2 (Nat.lt_of_le_of_lt hnow hlt))]
    exact congrArg Wake.shutdown (Nat.max_eq_left hnow)

theorem waitForever_cut {timer : Timer} {time limit now : Nat} (htime : time < limit)
    (hnow : now ≤ time) : (cut timer time limit).waitForever now = .shutdown time := by
  have hshutdown : (cut timer time limit).shutdown? = some time := if_pos (decide_eq_true htime)
  rw [waitForever, hshutdown]
  exact congrArg Wake.shutdown (Nat.max_eq_left hnow)

end Clock

namespace PollerRun

/-- a run and the same run with a shutdown at some time: they are one if the run is over by then,
and if it waits, it ends at that time with what has happened so far -/
inductive Cut (time : Nat) (r₀ r : PollerRun) : Prop
  | ended (htime : r₀.time ≤ time) (h : r = r₀)
  | cut (htime : time < r₀.time) (houtcome : r.outcome = .stopped) (hend : r.time = time)
      (hstate : r.poller.state = .stopped)
      (hmoments : r.moments = r₀.upTo time ++ [⟨time, r.poller, .does (.note .ends)⟩])

section
variable {time later last : Nat} {ms : List Moment} {r₀ r : PollerRun}

theorem upTo_after (hms : ∀ m ∈ ms, m.time ≤ time) (r : PollerRun) :
    (PollerRun.after ms r).upTo time = ms ++ r.upTo time := by
  have hall : ms.filter (·.time ≤ time) = ms :=
    List.filter_eq_self.2 fun m hm => decide_eq_true (hms m hm)
  rw [upTo, PollerRun.after, List.filter_append, hall]
  rfl

theorem upTo_eq_nil (h : r.Within later last) (hlater : time < later) : r.upTo time = [] := by
  rw [upTo, List.filter_eq_nil_iff]
  intro m hm
  rw [decide_eq_true_eq, Nat.not_le]
  exact Nat.lt_of_lt_of_le hlater (h.moments m hm)

theorem Cut.after (h : Cut time r₀ r) (hms : ∀ m ∈ ms, m.time ≤ time) :
    Cut time (.after ms r₀) (.after ms r) := by
  cases h with
  | ended htime h => exact .ended htime (congrArg (PollerRun.after ms) h)
  | cut htime houtcome hend hstate hmoments =>
    refine .cut htime houtcome hend hstate ?_
    rw [upTo_after hms, List.append_assoc]
    exact congrArg (ms ++ ·) hmoments

/-- a run that would have gone on later -/
theorem Cut.of_later (h : r₀.Within later last) (hlater : time < later)
    (hms : ∀ m ∈ ms, m.time ≤ time) (p : Poller) :
    Cut time (.after ms r₀) (.after ms (p.stopRun time)) := by
  refine .cut (Nat.lt_of_lt_of_le hlater h.first_le) rfl rfl rfl ?_
  rw [upTo_after hms, upTo_eq_nil h hlater, List.append_nil]
  rfl

end

end PollerRun

namespace Poller

section
variable {timer : Timer} {limit time now due : Nat} {p : Poller} {s : Session}
  {replies : List Reply} {before : List Moment} (htime : time < limit)
include htime

theorem pause_cut
    (h : ∀ later ≤ time, PollerRun.Cut time (runFrom (.calm timer limit) p s later replies)
      (runFrom (.cut timer time limit) p s later replies))
    (hbefore : ∀ m ∈ before, m.time ≤ time) (hdue : now ≤ due) (hnow : now ≤ time) :
    PollerRun.Cut time
      ((pause (.calm timer limit) before p s now due).run (.calm timer limit) replies)
      ((pause (.cut timer time limit) before p s now due).run (.cut timer time limit) replies) := by
  have hms : ∀ m ∈ before ++ [⟨now, p, .pauses due⟩], m.time ≤ time :=
    List.forall_mem_append.2 ⟨hbefore, List.forall_mem_singleton.2 hnow⟩
  rw [pause_calm hdue (Nat.le_trans hnow (Nat.le_of_lt htime))]
  unfold pause
  dsimp only
  rw [Clock.wait_cut htime hnow hdue]
  by_cases hle : due ≤ time
  · rw [if_pos (Nat.le_trans hle (Nat.le_of_lt htime)), if_pos hle]
    exact (h due hle).after hms
  · -- the pause is cut short, whether or not it would have ended
    have hlt : time < due := Nat.not_le.1 hle
    rw [if_neg hle]
    split
    · rename_i hlim
      exact .of_later (runFrom_within p s hlim replies) hlt hms p
    · exact .of_later (giveUpRun_within p (Nat.le_refl limit)) htime hms p

theorem answered_cut
    (h : ∀ p s, ∀ later ≤ time, PollerRun.Cut time (runFrom (.calm timer limit) p s later replies)
      (runFrom (.cut timer time limit) p s later replies))
    (p : Poller) (s : Session) (hnow : now ≤ time) (a : Answer) :
    PollerRun.Cut time ((answered (.calm timer limit) p s now a).run (.calm timer limit) replies)
      ((answered (.cut timer time limit) p s now a).run (.cut timer time limit) replies) := by
  have htold : ∀ m ∈ moments now (p.react s a).poller (p.react s a).actions, m.time ≤ time := by
    intro m hm
    rw [(mem_moments hm).1]
    exact hnow
  cases hnext : (p.react s a).next with
  | ask =>
    rw [answered_of_ask hnext, answered_of_ask hnext]
    exact (h _ _ now hnow).after htold
  | rest =>
    rw [answered_of_rest hnext, answered_of_rest hnext]
    exact pause_cut htime (h _ _) htold (Nat.le_add_right _ _) hnow
  | backOff =>
    rw [answered_of_backOff hnext, answered_of_backOff hnext]
    exact pause_cut htime (h _ _) htold (Nat.le_add_right _ _) hnow
  | giveUp f =>
    rw [answered_of_giveUp hnext, answered_of_giveUp hnext]
    exact .ended hnow rfl

/-- a run that begins by the time of the shutdown -/
theorem runFrom_cut (p : Poller) (s : Session) (hnow : now ≤ time) (replies : List Reply) :
    PollerRun.Cut time (runFrom (.calm timer limit) p s now replies)
      (runFrom (.cut timer time limit) p s now replies) := by
  have hasks : ∀ m ∈ [⟨now, { p with state := .polling }, .asks s.longPollId⟩],
      (m : Moment).time ≤ time := List.forall_mem_singleton.2 hnow
  induction replies generalizing p s now with
  | nil =>
    by_cases hp : p.state = .stopped
    · rw [runFrom_of_stopped hp, runFrom_of_stopped hp]
      exact .ended hnow rfl
    · rw [runFrom, runFrom, if_neg hp, if_neg hp, Clock.waitForever_cut htime hnow]
      exact .of_later (giveUpRun_within _ (Nat.le_refl limit)) htime hasks _
  | cons reply replies ih =>
    by_cases hp : p.state = .stopped
    · rw [runFrom_of_stopped hp, runFrom_of_stopped hp]
      exact .ended hnow rfl
    rw [runFrom_cons_run _ s now hp, runFrom_cons_run _ s now hp]
    cases reply with
    | shutdown => exact .ended hnow rfl
    | answer delay a =>
      rw [request_calm (Nat.le_trans hnow (Nat.le_of_lt htime)), request, await,
        Clock.wait_cut htime hnow (Nat.le_add_right now delay)]
      by_cases hle : now + delay ≤ time
      · rw [if_pos (Nat.le_trans hle (Nat.le_of_lt htime)), if_pos hle]
        exact (answered_cut htime (fun p s _ hlater => ih p s hlater
          (List.forall_mem_singleton.2 hlater)) _ s hle a).after hasks
      · have hlt : time < now + delay := Nat.not_le.1 hle
        rw [if_neg hle]
        split
        · rename_i hlim
          exact .of_later (answered_within (fun p s _ hlater => runFrom_within p s hlater replies)
            _ s hlim a) hlt hasks _
        · exact .of_later (giveUpRun_within _ (Nat.le_refl limit)) htime hasks _

end

/-! ## after the end -/

/-- a poller that does nothing any more: every run of it ends at once, without a request or an
event, and leaves it as it is, whether or not a wake-up is kept for it -/
structure Halted (p : Poller) : Prop where
  state : p.state = .stopped
  loop (c : Clock) (woken : Bool) (replies : List Reply) :
    let r := p.loop c woken replies
    r.outcome = .stopped ∧ r.time = 0 ∧ r.asked = [] ∧ r.events = [] ∧ r.poller = p

theorem halted_of_stopped {p : Poller} (h : p.state = .stopped) : p.Halted where
  state := h
  loop c woken replies := by
    rw [Poller.loop, PollLoop.run_of_stopped h]
    exact ⟨rfl, rfl, rfl, rfl, rfl⟩

end Poller

namespace PollLoop

section
variable {x : PollLoop} {r : PollerRun}

/-- a pause ends no run but one that is given up -/
theorem pause_ends {before : List Moment} {due : Nat} (h : x.pause before due = .ends r) :
    r.outcome = .unfinished := by
  unfold pause at h
  dsimp only at h
  split at h <;> cases h
  rfl

/-- the end of a run but by being given up leaves the poller stopped -/
theorem answered_ends {a : Answer} (h : x.answered a = .ends r) (hr : r.outcome ≠ .unfinished) :
    r.poller.state = .stopped := by
  unfold answered at h
  dsimp only at h
  split at h
  · rename_i f hnext
    cases h
    exact ((x.poller.heeds x.session a).stopped f hnext).1
  · cases h
  · exact absurd (pause_ends h) hr
  · split at h
    · cases h
    · exact absurd (pause_ends h) hr

theorem request_ends {reply? : Option Reply} (h : x.request reply? = .ends r)
    (hr : r.outcome ≠ .unfinished) : r.poller.state = .stopped := by
  unfold request at h
  split at h
  · split at h
    · exact answered_ends h hr
    · cases h
    · cases h
      exact absurd rfl hr
  · cases h
  · unfold unanswered at h
    split at h
    · cases h
    · cases h
    · cases h
      exact absurd rfl hr

theorem run_stopped (x : PollLoop) (replies : List Reply)
    (h : (x.run replies).outcome ≠ .unfinished) : (x.run replies).poller.state = .stopped := by
  induction x, replies using PollLoop.run.induct with
  | case1 x replies henter =>
    have hstopped := Poller.enter_eq_none_iff.1 henter
    rw [run_of_stopped hstopped]
    exact hstopped
  | case2 x replies p henter ih =>
    have hlive : x.poller.state ≠ .stopped := fun hstopped => by
      rw [Poller.enter_of_stopped hstopped] at henter
      cases henter
    rw [Poller.enter_of_live hlive] at henter
    obtain rfl := Option.some.inj henter
    rw [run_of_live hlive] at h ⊢
    cases e : request { x with poller := { x.poller with state := .polling } } replies.head? with
    | ends r =>
      rw [e] at h
      exact request_ends (r := r) e h
    | goesOn before y =>
      rw [e] at h
      exact ih before y e h

end

end PollLoop

/-- a run that has come to an end leaves the poller without anything to do -/
theorem Poller.halted_of_outcome {c : Clock} {p : Poller} {woken : Bool} {replies : List Reply}
    (h : (p.loop c woken replies).outcome ≠ .unfinished) :
    (p.loop c woken replies).poller.Halted :=
  halted_of_stopped (PollLoop.run_stopped _ replies h)

/-- a poller is shut down at any moment while its run waits, whatever the source answers and when:
the run ends at that moment, and all that happens in it is what happens up to that moment without
the shutdown, and that it ends; so the same requests go out and the same events are published.  A
poller that has been shut down before a run, or in a run, or has failed, does nothing any more -/
theorem shutdown_cuts_run (p : Poller) (replies : List Reply) {timer : Timer} {limit time : Nat}
    (hwaits : time < (p.loop (.calm timer limit) false replies).time) :
    let r₀ := p.loop (.calm timer limit) false replies
    let r := p.loop (.cut timer time limit) false replies
    r.outcome = .stopped ∧ r.time = time ∧
    r.moments = r₀.upTo time ++ [⟨time, r.poller, .does (.note .ends)⟩] ∧
    r.asked = askedIn (r₀.upTo time) ∧ r.events = eventsIn (r₀.upTo time) ∧
    (∀ τ, time ≤ τ → r.standing τ = some .stopped) ∧ r.poller.Halted ∧ p.shutdown.Halted ∧
    ∀ c woken replies', (p.loop c woken replies').outcome ≠ .unfinished →
      (p.loop c woken replies').poller.Halted := by
  intro r₀ r
  have hr₀ : r₀ = p.run (.calm timer limit) replies := p.loop_eq_run _ replies
  have hr : r = p.run (.cut timer time limit) replies := p.loop_eq_run _ replies
  have htime : time < limit := by
    rw [p.loop_eq_run] at hwaits
    have hwithin : (p.runFrom (.calm timer limit) .fresh 0 replies).Within 0 limit :=
      Poller.runFrom_within p .fresh (Nat.zero_le limit) replies
    exact Nat.lt_of_lt_of_le hwaits hwithin.le_last
  have hcut : PollerRun.Cut time r₀ r := by
    rw [hr₀, hr]
    exact (Poller.runFrom_cut htime p .fresh (Nat.zero_le time) replies).after
      (List.forall_mem_singleton.2 (Nat.zero_le time))
  cases hcut with
  | ended hended => exact absurd hended (Nat.not_le.2 hwaits)
  | cut _ houtcome hend hstate hmoments =>
    have hlast : ∀ m ∈ [⟨time, r.poller, .does (.note .ends)⟩], ∀ τ, time ≤ τ →
        (m : Moment).time ≤ τ ∧ m.poller.state = .stopped := fun m hm τ hτ => by
      rw [List.mem_singleton.1 hm]
      exact ⟨hτ, hstate⟩
    refine ⟨houtcome, hend, hmoments, ?_, ?_, fun τ hτ => ?_, Poller.halted_of_stopped hstate,
      Poller.halted_of_stopped rfl, fun c woken replies' => Poller.halted_of_outcome⟩
    · rw [PollerRun.asked, hmoments, askedIn_append]
      exact List.append_nil _
    · show eventsIn r.moments = _
      rw [hmoments, eventsIn_append]
      exact List.append_nil _
    · rw [PollerRun.standing, hmoments, standingIn_append,
        standingIn_of_forall (List.cons_ne_nil _ _) fun m hm => hlast m hm τ hτ]
      rfl

/-- in the pause after a passing fault: two requests have gone out by then, and no third follows -/
theorem shutdown_cuts_pause :
    let p := Poller.make .bare 10000 5000
    5000 < (p.loop (.calm .exact 100000) false Reply.relapse).time ∧
    (p.loop (.cut .exact 5000 100000) false Reply.relapse).outcome = .stopped ∧
    (p.loop (.cut .exact 5000 100000) false Reply.relapse).time = 5000 ∧
    (p.loop (.cut .exact 5000 100000) false Reply.relapse).asked.length = 2 ∧
    (p.loop (.calm .exact 100000) false Reply.relapse).asked.length = 4 := by
  intro p
  have hwaits : 5000 < (p.loop (.calm .exact 100000) false Reply.relapse).time := by
    rw [p.loop_eq_run]
    decide +kernel
  obtain ⟨houtcome, hend, -, hasked, -⟩ := shutdown_cuts_run p Reply.relapse hwaits
  refine ⟨hwaits, houtcome, hend, ?_, ?_⟩
  · rw [hasked, p.loop_eq_run]
    decide +kernel
  · rw [p.loop_eq_run]
    decide +kernel

end CycleMiner
