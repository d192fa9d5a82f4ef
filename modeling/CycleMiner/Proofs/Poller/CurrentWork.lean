import CycleMiner.Proofs.Block.Evidence
import CycleMiner.Proofs.Poller.Answers
import CycleMiner.Proofs.Poller.Language
import Mathlib.Data.List.Induction

/-!
# The current work of a poller

Between its rounds a poller holds the last work it has announced if it has told of no fault since,
and otherwise none.  Its height is that of the last work announced, faults or not; so after a fault
it takes a template above that height to give it work again, and one at the same height leaves it
without.

* `Event.tellsFault`   the events that tell of a fault while work is fetched;
* `latest`   the last work announced with no fault told of since;
* `Poller.Settled`   what a poller has told between its rounds, and what it holds then;
* `Poller.Ready`, `Poller.Ready.react`   what else it remembers while it goes on, and what an answer
  does to that;
* `Poller.runFrom_between`   what holds between the rounds of a run because it is kept by an answer;
* `current_work_since_fault`   a poller is settled between the rounds of every run.
-/

namespace CycleMiner

/-! ## events -/

def Event.tellsFault : Event → Bool
  | .connectionFailed | .communicationFailed | .credentialsRejected | .permissionRefused => true
  | _ => false

def Event.recall (e : Event) (held : Option WorkItem) : Option WorkItem :=
  if e.tellsFault then none else e.item?.or held

/-- the last work announced in some events, none if a fault is told of since -/
def latest (es : List Event) : Option WorkItem := es.foldl (fun held e => e.recall held) none

/-- this work is announced in some events, and after it neither other work nor a fault is told of -/
def IsLatest (es : List Event) (item : WorkItem) : Prop :=
  ∃ front back, es = front ++ .newWork item :: back ∧
    ∀ e ∈ back, e.tellsFault = false ∧ e.item? = none

/-- the height of the last work announced in some events, 0 if there is none -/
def lastHeight (es : List Event) : UInt64 :=
  ((announcements es).getLast?.map (·.work.height)).getD 0

section
variable {es round : List Event} {item : WorkItem}

theorem latest_append (es round : List Event) :
    latest (es ++ round) = round.foldl (fun held e => e.recall held) (latest es) := List.foldl_append

theorem Event.recall_eq_some_iff {held : Option WorkItem} {e : Event} :
    e.recall held = some item ↔
      e = .newWork item ∨ held = some item ∧ e.tellsFault = false ∧ e.item? = none := by
  cases e <;> simp [Event.recall, Event.tellsFault, Event.item?]

theorem isLatest_append_singleton {e : Event} : IsLatest (es ++ [e]) item ↔
    e = .newWork item ∨ IsLatest es item ∧ e.tellsFault = false ∧ e.item? = none := by
  constructor
  · rintro ⟨front, back, h, hback⟩
    rcases List.eq_nil_or_concat back with rfl | ⟨back, e', rfl⟩
    · left
      exact List.singleton_inj.1 (List.append_inj' h rfl).2
    · right
      rw [List.concat_eq_append, ← List.cons_append, ← List.append_assoc] at h
      obtain ⟨rfl, he⟩ := List.append_inj' h rfl
      obtain rfl := List.singleton_inj.1 he
      rw [List.concat_eq_append] at hback
      refine ⟨⟨front, back, rfl, fun e he => hback e (List.mem_append_left _ he)⟩, ?_⟩
      exact hback e (List.mem_append_right _ (List.mem_singleton.2 rfl))
  · rintro (rfl | ⟨⟨front, back, rfl, hback⟩, he⟩)
    · exact ⟨es, [], rfl, List.forall_mem_nil _⟩
    · refine ⟨front, back ++ [e], List.append_assoc .., fun e' he' => ?_⟩
      rcases List.mem_append.1 he' with he' | he'
      · exact hback e' he'
      · rw [List.mem_singleton.1 he']
        exact he

theorem latest_eq_some_iff : latest es = some item ↔ IsLatest es item := by
  induction es using List.reverseRecOn with
  | nil =>
    refine iff_of_false (by nofun) ?_
    rintro ⟨front, back, h, -⟩
    exact List.append_ne_nil_of_right_ne_nil front (List.cons_ne_nil _ _) h.symm
  | append_singleton es e ih =>
    rw [latest_append, List.foldl_cons, List.foldl_nil, Event.recall_eq_some_iff, ih,
      isLatest_append_singleton]

/-- the work held is the last announced -/
theorem getLast?_of_latest (h : latest es = some item) :
    (announcements es).getLast? = some item := by
  obtain ⟨front, back, rfl, hback⟩ := latest_eq_some_iff.1 h
  have hnone : announcements back = [] :=
    List.filterMap_eq_nil_iff.2 fun e he => (hback e he).2
  have hitem : announcements (.newWork item :: back) = [item] := congrArg (item :: ·) hnone
  rw [announcements_append, hitem, List.getLast?_concat]

theorem height_of_latest (h : latest es = some item) : item.work.height = lastHeight es := by
  rw [lastHeight, getLast?_of_latest h]
  rfl

theorem lastHeight_append_of_nil (es : List Event) (h : announcements round = []) :
    lastHeight (es ++ round) = lastHeight es := by
  rw [lastHeight, announcements_append, h, List.append_nil]
  rfl

end

/-! ## answers -/

namespace Poller

/-- what a new poller that has been given these answers has told, and what it holds -/
structure Settled (prefs : Preferences) (answers : List Answer) (es : List Event) (p : Poller) :
    Prop where
  rounds : Rounds prefs answers es
  height : p.height = lastHeight es
  currentWork : ∀ item, p.currentWork = some item ↔ IsLatest es item
  /-- the work held is work for the height -/
  agrees : ∀ item, p.currentWork = some item → item.work.height = p.height
  /-- there is none after a fault -/
  none_of_fault : ∀ front a f, answers = front ++ [a] →
    a.fault? prefs (tip 0 front) = some f → p.currentWork = none

/-- what such a poller remembers as long as it has not come to its end -/
structure Ready (prefs : Preferences) (answers : List Answer) (es : List Event) (p : Poller)
    (s : Session) : Prop where
  settled : Settled prefs answers es p
  live : .terminated ∉ es
  told : Told es p s
  prefs : p.prefs = prefs
  tip : p.height = tip 0 answers

section
variable {prefs : Preferences} {answers : List Answer} {es : List Event} {p q : Poller}
  {s : Session} {a : Answer} {t : Template} {f : Fault} {told : List Action}

theorem published_fail (p : Poller) (s : Session) (before : List Action) (f : Fault) :
    ∃ rest, (rest = [] ∨ rest = [.terminated]) ∧
      published (p.fail s before f).actions
        = published before ++ Event.ofFault f :: rest := by
  rcases Event.ofFault_cases f with ⟨hf, -⟩ | ⟨hf, -⟩
  · exact ⟨_, .inr rfl, (fail_of_isFatal p s before hf).1⟩
  · rw [fail_of_not_isFatal hf, published_append]
    exact ⟨_, .inl rfl, rfl⟩

/-- a fault takes the work away and leaves the height -/
theorem fail_work (p : Poller) (s : Session) (before : List Action) (f : Fault) :
    (p.fail s before f).poller.currentWork = none ∧ (p.fail s before f).poller.height = p.height := by
  unfold fail
  dsimp only
  split <;> exact ⟨rfl, rfl⟩

/-- a round with a fault announces no more work than what is told before the fault -/
theorem round_of_fail (es : List Event) {before : List Action}
    (h : announcements (published before) = []) :
    latest (es ++ published (p.fail s before f).actions) = none ∧
      announcements (published (p.fail s before f).actions) = [] := by
  obtain ⟨rest, hrest, e⟩ := published_fail p s before f
  rw [e, ← List.append_assoc, latest_append, announcements_append, h]
  rcases Event.ofFault_cases f with ⟨-, he | he⟩ | ⟨-, he | he⟩ <;>
    rcases hrest with rfl | rfl <;> rw [he] <;> exact ⟨rfl, rfl⟩

theorem latest_greeting (es : List Event) (s : Session) (t : Template) :
    latest (es ++ published (greeting s t)) = latest es := by
  rw [latest_append]
  unfold greeting
  split <;> rfl

theorem latest_closing (es : List Event) (t : Template) : latest (es ++ closing t) = latest es := by
  rw [latest_append]
  unfold closing
  split <;> rfl

/-- what an answer does to the work and the height goes with what it makes the poller tell -/
theorem react_work (h : p.currentWork = latest es) (hheight : p.height = lastHeight es)
    (s : Session) (a : Answer) :
    (p.react s a).poller.currentWork = latest (es ++ published (p.react s a).actions) ∧
      (p.react s a).poller.height = lastHeight (es ++ published (p.react s a).actions) := by
  cases hf : a.fault? p.prefs p.height with
  | some f =>
    obtain ⟨s', before, e, hnone⟩ := react_of_fault? s hf
    obtain ⟨hlatest, hround⟩ := round_of_fail (p := p) (s := s') (f := f) es hnone
    obtain ⟨hwork, hsame⟩ := fail_work p s' before f
    rw [e, hwork, hsame, hlatest, lastHeight_append_of_nil es hround]
    exact ⟨rfl, hheight⟩
  | none =>
    obtain ⟨t, q, told, rfl, e⟩ := accept_of_fault? hf
    obtain ⟨hq, hp, -, -⟩ := react_of_accept (s := s) e
    rw [hq, hp]
    rcases accept_cases e with ⟨-, w, hw, rfl, htold⟩ | ⟨-, rfl, htold⟩
    · rw [htold, ← List.append_assoc, latest_closing, ← List.append_assoc, latest_append]
      refine ⟨rfl, ?_⟩
      have hitem : announcements (es ++ published (greeting s t) ++
          [.tipMoved, .newWork ⟨p.announced, w⟩] ++ closing t)
            = announcements es ++ [⟨p.announced, w⟩] := by
        rw [announcements_append, announcements_append, announcements_append,
          announcements_greeting, announcements_closing, List.append_nil, List.append_nil]
        rfl
      rw [lastHeight, hitem, List.getLast?_concat]
      exact (height_of_ofTemplate hw).symm
    · rw [htold, List.append_nil, ← List.append_assoc, latest_closing, latest_greeting,
        List.append_assoc]
      refine ⟨h, ?_⟩
      rw [lastHeight_append_of_nil, hheight]
      rw [announcements_append, announcements_greeting, announcements_closing]
      rfl

theorem Settled.of_latest (hrounds : Rounds prefs answers es) (hwork : p.currentWork = latest es)
    (hheight : p.height = lastHeight es)
    (hfault : ∀ front a f, answers = front ++ [a] →
      a.fault? prefs (tip 0 front) = some f → p.currentWork = none) :
    Settled prefs answers es p where
  rounds := hrounds
  height := hheight
  currentWork item := by rw [hwork, latest_eq_some_iff]
  agrees item h := by
    rw [hwork] at h
    rw [hheight, height_of_latest h]
  none_of_fault := hfault

theorem Settled.currentWork_eq (h : Settled prefs answers es p) : p.currentWork = latest es :=
  Option.ext fun item => by rw [latest_eq_some_iff, h.currentWork]

/-- what an answer does to a poller that has not come to its end -/
theorem Ready.react (h : Ready prefs answers es p s) (a : Answer) :
    Settled prefs (answers ++ [a]) (es ++ published (p.react s a).actions) (p.react s a).poller ∧
      ((∀ f, (p.react s a).next ≠ .giveUp f) →
        Ready prefs (answers ++ [a]) (es ++ published (p.react s a).actions) (p.react s a).poller
          (p.react s a).session) := by
  obtain ⟨hwork, hheight⟩ := react_work h.settled.currentWork_eq h.settled.height s a
  have hreacts := h.told.reacts a
  have hround : Round prefs es a (published (p.react s a).actions) := by
    rw [← h.prefs]
    exact hreacts.round
  have hsettled : Settled prefs (answers ++ [a]) (es ++ published (p.react s a).actions)
      (p.react s a).poller := by
    refine .of_latest (h.settled.rounds.snoc h.live hround) hwork hheight ?_
    intro front a' f e hf
    obtain ⟨rfl, ha⟩ := List.append_inj' e rfl
    obtain rfl := List.singleton_inj.1 ha
    rw [← h.prefs, ← h.tip] at hf
    obtain ⟨s', before, e, -⟩ := react_of_fault? s hf
    rw [e]
    exact (fail_work p s' before f).1
  refine ⟨hsettled, fun hnext => ?_⟩
  have hlive : .terminated ∉ published (p.react s a).actions := by
    rw [hreacts.ends_iff]
    rintro ⟨f, hf⟩
    exact hnext f hf
  refine ⟨hsettled, ?_, hreacts.told hlive, ?_, ?_⟩
  · rw [List.mem_append, not_or]
    exact ⟨h.live, hlive⟩
  · rw [(react_setup a).prefs, h.prefs]
  · rw [((heeds p s a).live hnext).2, h.tip, tip_append_singleton]

theorem Settled.withState (h : Settled prefs answers es p) (state : Lifecycle) :
    Settled prefs answers es { p with state := state } :=
  ⟨h.rounds, h.height, h.currentWork, h.agrees, h.none_of_fault⟩

theorem Ready.withState (h : Ready prefs answers es p s) (state : Lifecycle) :
    Ready prefs answers es { p with state := state } s :=
  ⟨h.settled.withState state, h.live, ⟨h.told.announced, h.told.height, h.told.longPolling⟩,
    h.prefs, h.tip⟩

theorem ready_make (prefs : Preferences) (retryPause pollInterval : Nat) :
    Ready prefs [] [] (make prefs retryPause pollInterval) .fresh where
  settled := .of_latest .nil rfl rfl fun front _ _ e =>
    absurd e.symm (List.append_ne_nil_of_right_ne_nil front (List.cons_ne_nil _ _))
  live := List.not_mem_nil
  told := told_make prefs retryPause pollInterval
  prefs := rfl
  tip := rfl

end

end Poller

/-! ## runs -/

/-- this holds at each request of a run, of the number of requests before it, of the events
published before it, and of the poller as it stands then -/
def PollerRun.AtRequests (r : PollerRun) (P : Nat → List Event → Poller → Prop) : Prop :=
  ∀ before m after id, r.moments = before ++ m :: after → m.occurrence = .asks id →
    P (requestsIn before) (eventsIn before) m.poller

theorem requestsIn_pos {ms : List Moment} {m : Moment} {id : Option String} (hm : m ∈ ms)
    (h : m.occurrence = .asks id) : 0 < requestsIn ms := by
  refine List.countP_pos_iff.2 ⟨m, hm, ?_⟩
  rw [h]

namespace PollerRun

section
variable {r : PollerRun} {ms : List Moment} {P : Nat → List Event → Poller → Prop}

theorem atRequests_of_requests (h : r.requests = 0) : r.AtRequests P := by
  intro before m after id e hm
  have hmem : m ∈ r.moments := by
    rw [e]
    exact List.mem_append_right _ List.mem_cons_self
  exact absurd h (Nat.ne_of_gt (requestsIn_pos hmem hm))

/-- the first request of a run -/
theorem atRequests_asks {time : Nat} {p : Poller} {id : Option String} (hp : P 0 [] p)
    (h : r.AtRequests fun k es q => P (k + 1) es q) :
    (PollerRun.after [⟨time, p, .asks id⟩] r).AtRequests P := by
  intro before m after id' e hm
  cases before with
  | nil =>
    obtain ⟨rfl, -⟩ := List.cons.inj e
    exact hp
  | cons m' before =>
    obtain ⟨rfl, e'⟩ := List.cons.inj e
    have hP := h before m after id' e' hm
    rw [← List.singleton_append, requestsIn_append, eventsIn_append, Nat.add_comm]
    exact hP

/-- moments without a request before a run -/
theorem atRequests_after (hms : requestsIn ms = 0)
    (h : r.AtRequests fun k es q => P k (eventsIn ms ++ es) q) :
    (PollerRun.after ms r).AtRequests P := by
  intro before m after id e hm
  rcases List.append_eq_append_iff.1 e with ⟨front, rfl, e'⟩ | ⟨back, rfl, e'⟩
  · have hP := h front m after id e' hm
    rw [requestsIn_append, eventsIn_append, hms, Nat.zero_add]
    exact hP
  · cases back with
    | nil =>
      have hP := h [] m after id e'.symm hm
      rw [List.append_nil, show eventsIn [] = [] from rfl, List.append_nil] at hP
      rw [List.append_nil] at hms
      rw [hms]
      exact hP
    | cons m' back =>
      obtain ⟨rfl, -⟩ := List.cons.inj e'
      have hmem : m ∈ before ++ m :: back := List.mem_append_right _ List.mem_cons_self
      exact absurd hms (Nat.ne_of_gt (requestsIn_pos hmem hm))

end

end PollerRun

def Turn.poller : Turn → Poller
  | .ends r => r.poller
  | .goesOn _ p _ _ => p

namespace Poller

/-- a pause changes nothing of a poller but where it stands -/
theorem pause_poller (c : Clock) (before : List Moment) (p : Poller) (s : Session) (time due : Nat) :
    ∃ state, (pause c before p s time due).poller = { p with state := state } := by
  unfold pause
  dsimp only
  cases c.wait time due with
  | due time => exact ⟨p.state, rfl⟩
  | shutdown time => exact ⟨.stopped, rfl⟩
  | never => exact ⟨p.state, rfl⟩

/-- after an answer the poller is as the answer leaves it, but for where it stands -/
theorem answered_poller (c : Clock) (p : Poller) (s : Session) (time : Nat) (a : Answer) :
    ∃ state, (answered c p s time a).poller = { (p.react s a).poller with state := state } := by
  unfold answered
  dsimp only
  cases (p.react s a).next with
  | giveUp f => exact ⟨(p.react s a).poller.state, rfl⟩
  | ask => exact ⟨(p.react s a).poller.state, rfl⟩
  | rest => exact pause_poller ..
  | backOff => exact pause_poller ..

/-- a request is answered, or the run ends before that -/
theorem request_or_answered (c : Clock) (p : Poller) (s : Session) (now : Nat) (reply : Reply) :
    (∃ r, request c p s now reply = .ends r ∧ Ends r [] ∧
      ∃ state, r.poller = { p with state := state }) ∨
    ∃ delay a time, reply = .answer delay a ∧ request c p s now reply = answered c p s time a := by
  cases reply with
  | shutdown => exact .inl ⟨_, rfl, ⟨rfl, rfl⟩, .stopped, rfl⟩
  | answer delay a =>
    rw [request, await]
    cases c.wait now (now + delay) with
    | due time => exact .inr ⟨delay, a, time, rfl, rfl⟩
    | shutdown time => exact .inl ⟨_, rfl, ⟨rfl, rfl⟩, .stopped, rfl⟩
    | never => exact .inl ⟨_, rfl, ⟨rfl, rfl⟩, p.state, rfl⟩

section
variable {c : Clock} {s : Session} {now : Nat} {replies : List Reply}
  {prefs : Preferences} {answers : List Answer} {es : List Event} {p : Poller}

/-- a run of a poller that has been given some answers: it is settled at each request, with the
answers to those before, and at the end, with all answers taken -/
structure Between (prefs : Preferences) (answers : List Answer) (es : List Event)
    (replies : List Reply) (r : PollerRun) (taken : List Answer) : Prop where
  taken_prefix : taken <+: replies.filterMap Reply.answer?
  le_requests : taken.length ≤ r.requests
  requests_le : r.requests ≤ taken.length + 1
  atRequests : r.AtRequests fun k told q => Settled prefs (answers ++ taken.take k) (es ++ told) q
  atEnd : Settled prefs (answers ++ taken) (es ++ r.events) r.poller

/-- a run of a poller that is stopped -/
theorem Between.stopped (h : Settled prefs answers es p) :
    Between prefs answers es replies (stopRun now p) [] where
  taken_prefix := List.nil_prefix
  le_requests := Nat.zero_le _
  requests_le := Nat.zero_le 1
  atRequests := PollerRun.atRequests_of_requests rfl
  atEnd := by
    have he : (stopRun now p).events = [] := rfl
    rw [he, List.append_nil, List.append_nil]
    exact h.withState .stopped

/-- a run that ends before its request is answered -/
theorem Between.unanswered {r : PollerRun} {id : Option String} (h : Settled prefs answers es p)
    (hends : Ends r []) (hpoller : ∃ state, r.poller = { p with state := state }) :
    Between prefs answers es replies
      (.after [⟨now, { p with state := .polling }, .asks id⟩] r) [] where
  taken_prefix := List.nil_prefix
  le_requests := Nat.zero_le _
  requests_le := by
    rw [PollerRun.requests_after, hends.requests]
    exact Nat.le_refl 1
  atRequests := by
    refine PollerRun.atRequests_asks ?_ (PollerRun.atRequests_of_requests hends.requests)
    rw [List.take_nil, List.append_nil, List.append_nil]
    exact h.withState .polling
  atEnd := by
    obtain ⟨state, hq⟩ := hpoller
    rw [PollerRun.events_after, hends.events, List.append_nil]
    show Settled prefs answers (es ++ []) r.poller
    rw [hq, List.append_nil]
    exact h.withState state

/-- a run that ends with the answer to its request -/
theorem Between.last {r : PollerRun} {id : Option String} {delay : Nat} {a : Answer}
    {round : List Event} (h : Settled prefs answers es p)
    (h' : Settled prefs (answers ++ [a]) (es ++ round) r.poller) (hends : Ends r round) :
    Between prefs answers es (.answer delay a :: replies)
      (.after [⟨now, { p with state := .polling }, .asks id⟩] r) [a] where
  taken_prefix := List.prefix_append [a] _
  le_requests := by
    rw [PollerRun.requests_after, hends.requests]
    exact Nat.le_refl 1
  requests_le := by
    rw [PollerRun.requests_after, hends.requests]
    exact Nat.le_succ 1
  atRequests := by
    refine PollerRun.atRequests_asks ?_ (PollerRun.atRequests_of_requests hends.requests)
    rw [List.take_zero, List.append_nil, List.append_nil]
    exact h.withState .polling
  atEnd := by
    rw [PollerRun.events_after, hends.events]
    exact h'

/-- a request with the answer to it, before a run from the next request on -/
theorem Between.cons {r : PollerRun} {ms : List Moment} {id : Option String} {delay : Nat}
    {a : Answer} {taken : List Answer} (h : Settled prefs answers es p) (hms : requestsIn ms = 0)
    (h' : Between prefs (answers ++ [a]) (es ++ eventsIn ms) replies r taken) :
    Between prefs answers es (.answer delay a :: replies)
      (.after [⟨now, { p with state := .polling }, .asks id⟩] (.after ms r)) (a :: taken) where
  taken_prefix := List.cons_prefix_cons.2 ⟨rfl, h'.taken_prefix⟩
  le_requests := by
    rw [PollerRun.requests_after, PollerRun.requests_after, hms, Nat.zero_add, Nat.add_comm]
    exact Nat.succ_le_succ h'.le_requests
  requests_le := by
    rw [PollerRun.requests_after, PollerRun.requests_after, hms, Nat.zero_add, Nat.add_comm]
    exact Nat.succ_le_succ h'.requests_le
  atRequests := by
    refine PollerRun.atRequests_asks ?_ (PollerRun.atRequests_after hms ?_)
    · rw [List.take_zero, List.append_nil, List.append_nil]
      exact h.withState .polling
    · intro before m after id e hm
      have hsettled : Settled prefs (answers ++ [a] ++ taken.take (requestsIn before))
          (es ++ eventsIn ms ++ eventsIn before) m.poller := h'.atRequests before m after id e hm
      rw [List.append_assoc, List.append_assoc] at hsettled
      exact hsettled
  atEnd := by
    have hsettled := h'.atEnd
    rw [List.append_assoc, List.append_assoc] at hsettled
    rw [PollerRun.events_after, PollerRun.events_after]
    exact hsettled

theorem runFrom_between (h : Ready prefs answers es p s) :
    ∃ taken, Between prefs answers es replies (runFrom c p s now replies) taken := by
  -- what is ready before a reply is ready after it, with its answer and its round added
  induction replies generalizing answers es p s now with
  | nil =>
    refine ⟨[], ?_⟩
    by_cases hs : p.state = .stopped
    · rw [runFrom_of_stopped hs]
      exact .stopped h.settled
    · rw [runFrom, if_neg hs]
      refine .unanswered h.settled ?_ ?_
      · split <;> exact ⟨rfl, rfl⟩
      · split
        · exact ⟨.stopped, rfl⟩
        · exact ⟨.polling, rfl⟩
  | cons reply replies ih =>
    by_cases hs : p.state = .stopped
    · rw [runFrom_of_stopped hs]
      exact ⟨[], .stopped h.settled⟩
    rw [runFrom_cons hs]
    have hready : Ready prefs answers es { p with state := .polling } s := h.withState .polling
    rcases request_or_answered c { p with state := .polling } s now reply with
      ⟨r, e, hends, hpoller⟩ | ⟨delay, a, time, rfl, e⟩
    · rw [e]
      exact ⟨[], .unanswered h.settled hends hpoller⟩
    rw [e]
    obtain ⟨hsettled, hgoes⟩ := hready.react a
    obtain ⟨state, hpoller⟩ := answered_poller c { p with state := .polling } s time a
    rcases answered_cases c { p with state := .polling } s time a with
      ⟨r, e, hends, -⟩ | ⟨ms, q, later, e, hmoments, hnext, -⟩
    · rw [e] at hpoller ⊢
      refine ⟨[a], .last h.settled ?_ hends⟩
      rw [show r.poller = _ from hpoller]
      exact hsettled.withState state
    · rw [e] at hpoller ⊢
      obtain rfl : q = _ := hpoller
      obtain ⟨taken, htaken⟩ := ih ((hgoes hnext).withState state)
      rw [← hmoments.events] at htaken
      exact ⟨a :: taken, .cons h.settled hmoments.requests htaken⟩

end

end Poller

/-- a run of a new poller, whatever its source answers and whenever it is shut down or given up:
at every request, and at the end, its height is that of the last work announced, and it holds the
last work announced, for that height, if no fault has been told of since, and none otherwise; in
particular it holds none after an answer with a fault -/
theorem current_work_since_fault (prefs : Preferences) (retryPause pollInterval : Nat)
    (state : Lifecycle) (clock : Clock) (replies : List Reply) :
    let p := { Poller.make prefs retryPause pollInterval with state := state }
    let r := p.run clock replies
    ∃ taken, taken <+: replies.filterMap Reply.answer? ∧
      taken.length ≤ r.requests ∧ r.requests ≤ taken.length + 1 ∧
      (∀ before m after id, r.moments = before ++ m :: after → m.occurrence = .asks id →
        Poller.Settled prefs (taken.take (requestsIn before)) (eventsIn before) m.poller) ∧
      Poller.Settled prefs taken r.events r.poller := by
  intro p r
  have hready : Poller.Ready prefs [] [] p .fresh :=
    (Poller.ready_make prefs retryPause pollInterval).withState state
  obtain ⟨taken, h⟩ : ∃ taken, Poller.Between prefs [] [] replies
      (p.runFrom clock .fresh 0 replies) taken := Poller.runFrom_between hready
  have hrequests : r.requests = (p.runFrom clock .fresh 0 replies).requests :=
    PollerRun.requests_after.trans (Nat.zero_add _)
  refine ⟨taken, h.taken_prefix, ?_, ?_, ?_, h.atEnd⟩
  · rw [hrequests]
    exact h.le_requests
  · rw [hrequests]
    exact h.requests_le
  · have hruns : PollerRun.AtRequests r fun k es q => Poller.Settled prefs (taken.take k) es q :=
      PollerRun.atRequests_after rfl h.atRequests
    exact hruns

/-- a source that fails between two templates of one height -/
def Reply.relapse : List Reply :=
  [.answer 0 (.template .bare), .answer 0 (.failure (.connection "")),
    .answer 0 (.template .bare)]

/-- the second template is accepted like the first, whose work has been announced, and yet the
poller holds no work after it -/
theorem no_work_after_relapse :
    let r := (Poller.make .bare 10000 5000).run ⟨.exact, none, 100000⟩ Reply.relapse
    (Answer.template .bare).fault? .bare r.poller.height = none ∧
    (announcements r.events).map (·.work.height) = [r.poller.height] ∧
    r.requests = 4 ∧ r.poller.currentWork = none := by
  decide +kernel

end CycleMiner
