import CycleMiner.Poller.Timeline
import CycleMiner.Proofs.Poller.Rounds
import Mathlib.Algebra.GroupWithZero.Nat

/-!
# What a poller tells in a run

Whenever a run is shut down or given up, the poller has published the rounds of the answers it has
had, one after the other, and nothing else.

* `eventsIn`, `requestsIn`   what is published and asked in some moments;
* `Clock.wait_cases`   how a wait ends;
* `Poller.longestPause`, `Poller.patience`   how long a pause, and a reply with it, can take;
* `Poller.answered_cases`, `Poller.request_cases`   what comes of an answer and of a request;
* `Poller.Undisturbed`   a run that is neither shut down nor given up too early;
* `Poller.Tells`, `Poller.runFrom_tells`   what a run tells from any moment on;
* `events_are_rounds`   what it tells from the beginning.
-/

namespace CycleMiner

def Reply.answer? : Reply → Option Answer
  | .answer _ a => some a
  | .shutdown => none

def eventsIn (ms : List Moment) : List Event :=
  ms.filterMap fun m => match m.occurrence with
    | .does (.publish e) => some e
    | _ => none

def requestsIn (ms : List Moment) : Nat :=
  ms.countP fun m => match m.occurrence with
    | .asks _ => true
    | _ => false

def PollerRun.requests (r : PollerRun) : Nat := requestsIn r.moments

section
variable {before : List Moment} {r : PollerRun}

theorem eventsIn_append (ms ns : List Moment) :
    eventsIn (ms ++ ns) = eventsIn ms ++ eventsIn ns := List.filterMap_append

theorem requestsIn_append (ms ns : List Moment) :
    requestsIn (ms ++ ns) = requestsIn ms + requestsIn ns := List.countP_append

theorem PollerRun.events_after : (after before r).events = eventsIn before ++ r.events :=
  eventsIn_append before r.moments

theorem PollerRun.requests_after :
    (after before r).requests = requestsIn before + r.requests :=
  requestsIn_append before r.moments

theorem eventsIn_moments (time : Nat) (p : Poller) (as : List Action) :
    eventsIn (Poller.moments time p as) = published as := by
  rw [eventsIn, Poller.moments, List.filterMap_map, published]
  congr 1
  funext a
  cases a <;> rfl

theorem requestsIn_moments (time : Nat) (p : Poller) (as : List Action) :
    requestsIn (Poller.moments time p as) = 0 := by
  rw [requestsIn, Poller.moments, List.countP_map, List.countP_eq_zero]
  intro a _
  exact Bool.false_ne_true

end

namespace Clock

/-- there is a shutdown, or the run is given up before this time -/
def CutBefore (c : Clock) (time : Nat) : Prop := c.shutdownAt ≠ none ∨ c.limit < time

theorem CutBefore.mono {c : Clock} {time later : Nat} (h : c.CutBefore time)
    (hle : time ≤ later) : c.CutBefore later :=
  h.imp_right fun hlt => Nat.lt_of_lt_of_le hlt hle

/-- a wait ends as it should, unless there is a shutdown or the run is given up first -/
theorem wait_cases (c : Clock) {now due : Nat} (h : now ≤ due) :
    c.wait now due = .due due ∨
    (c.CutBefore due ∧
      (c.wait now due = .never ∨ ∃ time, c.wait now due = .shutdown time)) := by
  unfold wait
  split
  · rename_i hle
    rw [Nat.le_antisymm hle h]
    exact .inl rfl
  · split
    · rename_i time hs
      right
      refine ⟨.inl ?_, .inr ⟨_, rfl⟩⟩
      intro hnone
      rw [shutdown?, hnone] at hs
      cases hs
    · split
      · exact .inl rfl
      · rename_i hlate
        exact .inr ⟨.inr (Nat.not_le.1 hlate), .inl rfl⟩

end Clock

namespace Poller

def longestPause (t : Timer) (p : Poller) : Nat := t.span p.retryPause + t.span p.pollInterval

def patience (t : Timer) (p : Poller) : Reply → Nat
  | .answer delay _ => delay + p.longestPause t
  | .shutdown => 0

/-- what is left of a run publishes these events and asks no more -/
structure Ends (r : PollerRun) (es : List Event) : Prop where
  events : r.events = es
  requests : r.requests = 0

/-- these events are published in some moments, after which the poller `q` knows as much as `p` -/
structure GoesOn (before : List Moment) (es : List Event) (p q : Poller) : Prop where
  events : eventsIn before = es
  requests : requestsIn before = 0
  setup : SameSetup p q
  announced : q.announced = p.announced
  height : q.height = p.height
  state : p.state ≠ .stopped → q.state ≠ .stopped

section
variable {c : Clock} {p : Poller} {s : Session} {now : Nat} {replies : List Reply}

theorem runFrom_of_stopped (hp : p.state = .stopped) :
    runFrom c p s now replies = stopRun now p := by
  cases replies with
  | nil => exact if_pos hp
  | cons reply replies => exact if_pos hp

theorem runFrom_cons (hp : p.state ≠ .stopped) (reply : Reply) :
    runFrom c p s now (reply :: replies) =
      .after [⟨now, { p with state := .polling }, .asks s.longPollId⟩]
        (match request c { p with state := .polling } s now reply with
        | .ends r => r
        | .goesOn before q s time => .after before (runFrom c q s time replies)) :=
  if_neg hp

theorem runFrom_nil (c : Clock) (s : Session) (now : Nat) (hp : p.state ≠ .stopped) :
    (runFrom c p s now []).events = [] ∧ (runFrom c p s now []).requests = 1 := by
  rw [runFrom, if_neg hp]
  dsimp only
  rw [PollerRun.events_after, PollerRun.requests_after]
  split <;> exact ⟨rfl, rfl⟩

/-- a pause ends as it should, or it is cut short and with it the run -/
theorem pause_cases {before : List Moment} {es : List Event} {q : Poller} {time due last : Nat}
    (h : GoesOn before es p q) (s : Session) (hdue : time ≤ due) (hle : due ≤ last) :
    (∃ r, pause c before q s time due = .ends r ∧ Ends r es ∧ c.CutBefore last) ∨
    (∃ ms later, pause c before q s time due = .goesOn ms q s later ∧ GoesOn ms es p q ∧
      later ≤ last) := by
  have hev : eventsIn (before ++ [⟨time, q, .pauses due⟩]) = es := by
    rw [eventsIn_append, h.events]
    exact List.append_nil es
  have hreq : requestsIn (before ++ [⟨time, q, .pauses due⟩]) = 0 := by
    rw [requestsIn_append, h.requests]
    rfl
  unfold pause
  dsimp only
  rcases c.wait_cases hdue with e | ⟨hcut, e | ⟨t, e⟩⟩
  · rw [e]
    exact .inr ⟨_, _, rfl, { h with events := hev, requests := hreq }, hle⟩
  · rw [e]
    refine .inl ⟨_, rfl, ⟨?_, ?_⟩, hcut.mono hle⟩
    · rw [PollerRun.events_after, hev]
      exact List.append_nil es
    · rw [PollerRun.requests_after, hreq]
      rfl
  · rw [e]
    refine .inl ⟨_, rfl, ⟨?_, ?_⟩, hcut.mono hle⟩
    · rw [PollerRun.events_after, hev]
      exact List.append_nil es
    · rw [PollerRun.requests_after, hreq]
      rfl

/-- an answer is followed by its events, and then the run ends or goes on -/
theorem answered_cases (c : Clock) (p : Poller) (s : Session) (time : Nat) (a : Answer) :
    (∃ r, answered c p s time a = .ends r ∧ Ends r (published (p.react s a).actions) ∧
      ((∃ f, (p.react s a).next = .giveUp f) ∨ c.CutBefore (time + p.longestPause c.timer))) ∨
    (∃ ms q later, answered c p s time a = .goesOn ms q (p.react s a).session later ∧
      GoesOn ms (published (p.react s a).actions) (p.react s a).poller q ∧
      (∀ f, (p.react s a).next ≠ .giveUp f) ∧ later ≤ time + p.longestPause c.timer) := by
  have hsetup : SameSetup p (p.react s a).poller := react_setup a
  have hev := eventsIn_moments time (p.react s a).poller (p.react s a).actions
  have hreq := requestsIn_moments time (p.react s a).poller (p.react s a).actions
  unfold answered
  dsimp only
  cases hnext : (p.react s a).next with
  | giveUp f => exact .inl ⟨_, rfl, ⟨hev, hreq⟩, .inl ⟨f, rfl⟩⟩
  | ask =>
    exact .inr ⟨_, _, _, rfl, ⟨hev, hreq, ⟨rfl, rfl, rfl⟩, rfl, rfl, id⟩, by nofun,
      Nat.le_add_right _ _⟩
  | rest =>
    obtain ⟨hdue, hle⟩ : time ≤ time + c.timer.span (p.react s a).poller.pollInterval ∧
        time + c.timer.span (p.react s a).poller.pollInterval ≤ time + p.longestPause c.timer := by
      rw [hsetup.pollInterval]
      exact ⟨Nat.le_add_right _ _, Nat.add_le_add_left (Nat.le_add_left _ _) time⟩
    have hbase : GoesOn (moments time (p.react s a).poller (p.react s a).actions)
        (published (p.react s a).actions) (p.react s a).poller (p.react s a).poller :=
      ⟨hev, hreq, ⟨rfl, rfl, rfl⟩, rfl, rfl, id⟩
    rcases pause_cases (c := c) hbase (p.react s a).session hdue hle with
      ⟨r, e, hends, hcut⟩ | ⟨ms, later, e, hgoes, hlater⟩
    · exact .inl ⟨r, e, hends, .inr hcut⟩
    · exact .inr ⟨ms, _, later, e, hgoes, by nofun, hlater⟩
  | backOff =>
    obtain ⟨hdue, hle⟩ : time ≤ time + c.timer.span (p.react s a).poller.retryPause ∧
        time + c.timer.span (p.react s a).poller.retryPause ≤ time + p.longestPause c.timer := by
      rw [hsetup.retryPause]
      exact ⟨Nat.le_add_right _ _, Nat.add_le_add_left (Nat.le_add_right _ _) time⟩
    have hbase : GoesOn (moments time (p.react s a).poller (p.react s a).actions)
        (published (p.react s a).actions) (p.react s a).poller
        { (p.react s a).poller with state := .backoff } :=
      ⟨hev, hreq, ⟨rfl, rfl, rfl⟩, rfl, rfl, fun _ => by nofun⟩
    rcases pause_cases (c := c) hbase (p.react s a).session hdue hle with
      ⟨r, e, hends, hcut⟩ | ⟨ms, later, e, hgoes, hlater⟩
    · exact .inl ⟨r, e, hends, .inr hcut⟩
    · exact .inr ⟨ms, _, later, e, hgoes, by nofun, hlater⟩

theorem await_cases {due last : Nat} (hdue : now ≤ due) (hle : due ≤ last) (a : Answer) :
    (∃ r, await c p s now due a = .ends r ∧ Ends r [] ∧ c.CutBefore last) ∨
    await c p s now due a = answered c p s due a := by
  unfold await
  rcases c.wait_cases hdue with e | ⟨hcut, e | ⟨t, e⟩⟩
  · rw [e]
    exact .inr rfl
  · rw [e]
    exact .inl ⟨_, rfl, ⟨rfl, rfl⟩, hcut.mono hle⟩
  · rw [e]
    exact .inl ⟨_, rfl, ⟨rfl, rfl⟩, hcut.mono hle⟩

theorem request_cases (c : Clock) (p : Poller) (s : Session) (now : Nat) (reply : Reply) :
    (∃ r, request c p s now reply = .ends r ∧ Ends r [] ∧
      (reply = .shutdown ∨ c.CutBefore (now + p.patience c.timer reply))) ∨
    (∃ delay a, reply = .answer delay a ∧
      request c p s now reply = answered c p s (now + delay) a) := by
  cases reply with
  | shutdown => exact .inl ⟨_, rfl, ⟨rfl, rfl⟩, .inl rfl⟩
  | answer delay a =>
    have hle : now + delay ≤ now + p.patience c.timer (.answer delay a) :=
      Nat.add_le_add_left (Nat.le_add_right _ _) now
    rw [request]
    rcases await_cases (Nat.le_add_right now delay) hle a with
      ⟨r, e, hends, hcut⟩ | e
    · exact .inl ⟨r, e, hends, .inr hcut⟩
    · exact .inr ⟨delay, a, rfl, e⟩

theorem Told.goesOn {told es : List Event} {q : Poller} {before : List Moment}
    (h : Told told p s) (hgoes : GoesOn before es p q) : Told told q s where
  announced := by rw [hgoes.announced, h.announced]
  height t := by rw [hgoes.height, h.height]
  longPolling := h.longPolling

theorem SameSetup.trans {q r : Poller} (h : SameSetup p q) (h' : SameSetup q r) : SameSetup p r :=
  ⟨h'.prefs.trans h.prefs, h'.retryPause.trans h.retryPause, h'.pollInterval.trans h.pollInterval⟩

theorem SameSetup.patience {q : Poller} (h : SameSetup p q) (t : Timer) :
    q.patience t = p.patience t := by
  funext reply
  cases reply with
  | shutdown => rfl
  | answer delay a =>
    rw [Poller.patience, Poller.patience, longestPause, longestPause, h.retryPause,
      h.pollInterval]

/-- the poller is not shut down, and the run is not given up before all replies have come -/
structure Undisturbed (c : Clock) (p : Poller) (now : Nat) (replies : List Reply) : Prop where
  state : p.state ≠ .stopped
  shutdownAt : c.shutdownAt = none
  shutdown : .shutdown ∉ replies
  limit : now + (replies.map (p.patience c.timer)).sum ≤ c.limit

/-- the events of a run from any moment: the rounds of the answers to its requests, of all but the
last one, and of all answers unless it is disturbed or comes to its end -/
structure Tells (prefs : Preferences) (answers : List Answer) (es : List Event) (c : Clock)
    (p : Poller) (now : Nat) (replies : List Reply) (r : PollerRun) (taken : List Answer) :
    Prop where
  taken_prefix : taken <+: replies.filterMap Reply.answer?
  rounds : Rounds prefs (answers ++ taken) (es ++ r.events)
  le_requests : taken.length ≤ r.requests
  requests_le : r.requests ≤ taken.length + 1
  all : Undisturbed c p now replies →
    taken = replies.filterMap Reply.answer? ∨ .terminated ∈ r.events

theorem Undisturbed.not_cutBefore {reply : Reply} (h : Undisturbed c p now (reply :: replies)) :
    reply ≠ .shutdown ∧ ¬ c.CutBefore (now + p.patience c.timer reply) := by
  constructor
  · rintro rfl
    exact h.shutdown List.mem_cons_self
  · have hlimit := h.limit
    rw [List.map_cons, List.sum_cons] at hlimit
    rintro (hs | hlt)
    · exact hs h.shutdownAt
    · omega

theorem Undisturbed.tail {reply : Reply} {q : Poller} {later : Nat}
    (h : Undisturbed c p now (reply :: replies)) (hsetup : SameSetup p q)
    (hstate : q.state ≠ .stopped) (hlater : later ≤ now + p.patience c.timer reply) :
    Undisturbed c q later replies where
  state := hstate
  shutdownAt := h.shutdownAt
  shutdown hs := h.shutdown (List.mem_cons_of_mem _ hs)
  limit := by
    have hlimit := h.limit
    rw [List.map_cons, List.sum_cons] at hlimit
    rw [hsetup.patience]
    omega

section
variable {prefs : Preferences} {answers : List Answer} {es : List Event} {r : PollerRun}

/-- a run in which no request is answered -/
theorem Tells.none (h : Rounds prefs answers es) (he : r.events = []) (hr : r.requests ≤ 1)
    (hall : Undisturbed c p now replies → replies.filterMap Reply.answer? = []) :
    Tells prefs answers es c p now replies r [] where
  taken_prefix := List.nil_prefix
  rounds := by
    rw [he, List.append_nil, List.append_nil]
    exact h
  le_requests := Nat.zero_le _
  requests_le := hr
  all hu := .inl (hall hu).symm

theorem runFrom_tells (h : Rounds prefs answers es) (hlive : .terminated ∉ es) (ht : Told es p s)
    (hp : p.prefs = prefs) :
    ∃ taken, Tells prefs answers es c p now replies (runFrom c p s now replies) taken := by
  induction replies generalizing answers es p s now with
  | nil =>
    refine ⟨[], ?_⟩
    by_cases hs : p.state = .stopped
    · rw [runFrom_of_stopped hs]
      exact .none h rfl (Nat.zero_le 1) fun _ => rfl
    · obtain ⟨he, hr⟩ := runFrom_nil c s now hs
      exact .none h he (Nat.le_of_eq hr) fun _ => rfl
  | cons reply replies ih =>
    by_cases hs : p.state = .stopped
    · rw [runFrom_of_stopped hs]
      exact ⟨[], .none h rfl (Nat.zero_le 1) fun hu => absurd hs hu.state⟩
    rw [runFrom_cons hs]
    obtain ⟨p', hp'⟩ : ∃ p', p' = { p with state := .polling } := ⟨_, rfl⟩
    have hsetup : SameSetup p p' := by
      subst hp'
      exact ⟨rfl, rfl, rfl⟩
    have ht' : Told es p' s := by
      subst hp'
      exact ⟨ht.announced, ht.height, ht.longPolling⟩
    have hstate : p'.state ≠ .stopped := by
      subst hp'
      nofun
    rw [← hp']
    rcases request_cases c p' s now reply with ⟨r, e, hends, hcut⟩ | ⟨delay, a, rfl, e⟩
    · -- the request is not answered
      rw [e]
      refine ⟨[], .none h hends.events ?_ fun hu => ?_⟩
      · rw [PollerRun.requests_after, hends.requests]
        exact Nat.le_refl 1
      · obtain ⟨hreply, hnot⟩ := hu.not_cutBefore
        rw [hsetup.patience] at hcut
        exact absurd hcut (not_or.2 ⟨hreply, hnot⟩)
    rw [e]
    have hreacts := ht'.reacts a
    have hround : Round prefs es a (published (p'.react s a).actions) := by
      rw [← hp, ← hsetup.prefs]
      exact hreacts.round
    have hrounds := Rounds.snoc h hlive hround
    rcases answered_cases c p' s (now + delay) a with
      ⟨r, e, hends, hcause⟩ | ⟨ms, q, later, e, hgoes, hnext, hlater⟩
    · -- the run ends with the round of the answer
      rw [e]
      refine ⟨[a], ?_, ?_, ?_, ?_, fun hu => .inr ?_⟩
      · exact List.prefix_append [a] _
      · rw [PollerRun.events_after, hends.events]
        exact hrounds
      · rw [PollerRun.requests_after, hends.requests]
        exact Nat.le_refl 1
      · rw [PollerRun.requests_after, hends.requests]
        exact Nat.le_succ 1
      · rw [PollerRun.events_after, hends.events]
        refine List.mem_append_right _ (hreacts.ends_iff.2 (hcause.resolve_right fun hcut => ?_))
        apply hu.not_cutBefore.2
        rw [← hsetup.patience, patience, ← Nat.add_assoc]
        exact hcut
    · -- the run goes on after it
      rw [e]
      have hlive' : .terminated ∉ published (p'.react s a).actions := by
        rw [hreacts.ends_iff]
        rintro ⟨f, hf⟩
        exact hnext f hf
      have hq : q.prefs = prefs := by
        rw [hgoes.setup.prefs, (react_setup a).prefs, hsetup.prefs, hp]
      have hes : .terminated ∉ es ++ published (p'.react s a).actions := by
        rw [List.mem_append, not_or]
        exact ⟨hlive, hlive'⟩
      obtain ⟨taken, htaken⟩ : ∃ taken, Tells prefs (answers ++ [a])
          (es ++ published (p'.react s a).actions) c q later replies
          (runFrom c q (p'.react s a).session later replies) taken :=
        ih hrounds hes ((hreacts.told hlive').goesOn hgoes) hq
      have hevents : (PollerRun.after [⟨now, p', .asks s.longPollId⟩]
          (.after ms (runFrom c q (p'.react s a).session later replies))).events
            = published (p'.react s a).actions
              ++ (runFrom c q (p'.react s a).session later replies).events := by
        rw [PollerRun.events_after, PollerRun.events_after, hgoes.events]
        rfl
      have hrequests : (PollerRun.after [⟨now, p', .asks s.longPollId⟩]
          (.after ms (runFrom c q (p'.react s a).session later replies))).requests
            = (runFrom c q (p'.react s a).session later replies).requests + 1 := by
        rw [PollerRun.requests_after, PollerRun.requests_after, hgoes.requests, Nat.zero_add]
        exact Nat.add_comm _ _
      refine ⟨a :: taken, ?_, ?_, ?_, ?_, fun hu => ?_⟩
      · exact List.cons_prefix_cons.2 ⟨rfl, htaken.taken_prefix⟩
      · have := htaken.rounds
        rw [List.append_assoc, List.append_assoc] at this
        rw [hevents]
        exact this
      · rw [hrequests, List.length_cons]
        exact Nat.succ_le_succ htaken.le_requests
      · rw [hrequests, List.length_cons]
        exact Nat.succ_le_succ htaken.requests_le
      · have hrest : Undisturbed c q later replies := by
          refine hu.tail (hsetup.trans ((react_setup a).trans hgoes.setup)) ?_ ?_
          · apply hgoes.state
            rw [hreacts.state hlive']
            exact hstate
          · rw [← hsetup.patience, patience, ← Nat.add_assoc]
            exact hlater
        rw [hevents]
        rcases htaken.all hrest with e | hend
        · left
          rw [e]
          rfl
        · right
          exact List.mem_append_right _ hend

end

end

end Poller

/-- a run of a poller that has announced nothing: its events are the rounds of the answers to its
requests, of all but perhaps the last; if nobody shuts it down and it is given the time, they are
the rounds of all answers, up to one after which it terminates -/
theorem events_are_rounds (prefs : Preferences) (retryPause pollInterval : Nat)
    (state : Lifecycle) (clock : Clock) (replies : List Reply) :
    let p := { Poller.make prefs retryPause pollInterval with state := state }
    let r := p.run clock replies
    (∃ taken, taken <+: replies.filterMap Reply.answer? ∧ Rounds prefs taken r.events ∧
      taken.length ≤ r.requests ∧ r.requests ≤ taken.length + 1 ∧
      (state ≠ .stopped → clock.shutdownAt = none → .shutdown ∉ replies →
        (replies.map (p.patience clock.timer)).sum ≤ clock.limit →
        taken = replies.filterMap Reply.answer? ∨ .terminated ∈ r.events) ∧
      (.longPollEnabled ∈ r.events ↔ ∃ a ∈ taken, a.HasId)) ∧
    (announcements r.events).Pairwise (·.work.height < ·.work.height) ∧
    r.events.count .longPollEnabled ≤ 1 ∧
    ∃ front, .terminated ∉ front ∧ (r.events = front ∨ r.events = front ++ [.terminated]) := by
  intro p r
  have htold : Poller.Told [] p .fresh := by
    obtain ⟨hann, hheight, hlong⟩ := Poller.told_make prefs retryPause pollInterval
    exact ⟨hann, hheight, hlong⟩
  obtain ⟨taken, h⟩ : ∃ taken, Poller.Tells prefs [] [] clock p 0 replies
      (p.runFrom clock .fresh 0 replies) taken :=
    Poller.runFrom_tells .nil List.not_mem_nil htold rfl
  have hrounds : Rounds prefs taken r.events := h.rounds
  have hrequests : r.requests = (p.runFrom clock .fresh 0 replies).requests :=
    PollerRun.requests_after.trans (Nat.zero_add _)
  refine ⟨⟨taken, h.taken_prefix, hrounds, ?_, ?_, ?_, hrounds.mem_enabled_iff⟩, hrounds.heights,
    hrounds.count_enabled_le, hrounds.eq_append_terminated⟩
  · rw [hrequests]
    exact h.le_requests
  · rw [hrequests]
    exact h.requests_le
  · intro hstate hshutdown hreplies hlimit
    refine h.all ⟨hstate, hshutdown, hreplies, ?_⟩
    rw [Nat.zero_add]
    exact hlimit

end CycleMiner
