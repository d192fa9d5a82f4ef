import CycleMiner.Proofs.Block.Evidence
import CycleMiner.Proofs.Poller.Answers
import CycleMiner.Proofs.Poller.Language

/-!
# When a poller asks

A run that nobody shuts down: when each request goes out, which long-poll id it carries, and where
the poller stands in between.  All of it is settled by the answers and by how long they take.

* `PollerRun.asked`, `PollerRun.standing`   the requests of a run, and where the poller stands;
* `Clock.calm`, `Clock.wait_calm`   a clock without a shutdown, and how a wait ends on it;
* `Poller.Resumes`, `Poller.Proceeds`   what becomes of an answer, and of a request;
* `Poller.Orderly`   a run in which this becomes of every request;
* `Poller.Stretch`   the moments from a request to the next;
* `Poller.runFrom_orderly`   a run that nobody shuts down is orderly from each of its requests on;
* `Poller.Follows`, `requests_follow_answers`   what this says of the run of a new poller.
-/

namespace CycleMiner

/-! ## moments -/

/-- the requests among some moments: when they go out, and with which long-poll id -/
def askedIn (ms : List Moment) : List (Nat × Option String) :=
  ms.filterMap fun m => match m.occurrence with
    | .asks id => some (m.time, id)
    | _ => none

/-- where the poller stands at a given time, after all that happens then -/
def standingIn (ms : List Moment) (time : Nat) : Option Lifecycle :=
  (ms.filter (·.time ≤ time)).getLast?.map (·.poller.state)

namespace PollerRun

def asked (r : PollerRun) : List (Nat × Option String) := askedIn r.moments

def standing (r : PollerRun) (time : Nat) : Option Lifecycle := standingIn r.moments time

end PollerRun

section
variable {ms ns : List Moment} {m : Moment} {time τ : Nat}

theorem askedIn_append (ms ns : List Moment) : askedIn (ms ++ ns) = askedIn ms ++ askedIn ns :=
  List.filterMap_append

/-- the later moments say where the poller stands, if there are any by then -/
theorem standingIn_append (ms ns : List Moment) (τ : Nat) :
    standingIn (ms ++ ns) τ = (standingIn ns τ).or (standingIn ms τ) := by
  rw [standingIn, List.filter_append, List.getLast?_append, Option.map_or]
  rfl

/-- where the poller stands by all moments that have come by then -/
theorem standingIn_of_forall {x : Lifecycle} (hne : ms ≠ [])
    (h : ∀ m ∈ ms, m.time ≤ τ ∧ m.poller.state = x) : standingIn ms τ = some x := by
  have hall : ms.filter (·.time ≤ τ) = ms :=
    List.filter_eq_self.2 fun m hm => decide_eq_true (h m hm).1
  rw [standingIn, hall, List.getLast?_eq_some_getLast hne]
  exact congrArg some (h _ (List.getLast_mem hne)).2

theorem standingIn_eq_none (h : ∀ m ∈ ms, τ < m.time) : standingIn ms τ = none := by
  rw [standingIn, List.filter_eq_nil_iff.2]
  · rfl
  · intro m hm
    rw [decide_eq_true_eq, Nat.not_le]
    exact h m hm

end

namespace Clock

/-- nothing happens to a run but that it is given up -/
def calm (timer : Timer) (limit : Nat) : Clock := ⟨timer, none, limit⟩

/-- a wait that nobody cuts short is over when it is due, unless the run is given up first -/
theorem wait_calm {timer : Timer} {limit now due : Nat} (hdue : now ≤ due) (hnow : now ≤ limit) :
    (calm timer limit).wait now due = if due ≤ limit then .due due else .never := by
  unfold wait
  by_cases hle : due ≤ now
  · rw [if_pos hle, if_pos (Nat.le_trans hle hnow), Nat.le_antisymm hle hdue]
  · rw [if_neg hle]
    rfl

end Clock

/-! ## requests -/

namespace Poller

/-- a pause in a run: where the poller stands until the pause is due, and the next request, which
carries no long-poll id -/
def Rests (limit : Nat) (r : PollerRun) (state : Lifecycle) (since due : Nat)
    (next : Option (Nat × Option String)) : Prop :=
  (∀ τ, since ≤ τ → τ < due → r.standing τ = some state) ∧
  next = if due ≤ limit then some (due, none) else none

/-- what becomes of an answer in a run: the next request goes out at once with the long-poll id of
the answer, or after a pause without one, or the poller has stopped -/
def Resumes (p : Poller) (timer : Timer) (limit : Nat) (r : PollerRun) (answered : Nat) (a : Answer)
    (next : Option (Nat × Option String)) : Next → Prop
  | .ask => next = some (answered, a.usableId)
  | .rest => Rests limit r .polling answered (answered + timer.span p.pollInterval) next
  | .backOff => Rests limit r .backoff answered (answered + timer.span p.retryPause) next
  | .giveUp f => next = none ∧ r.outcome = .failed f ∧
      ∀ τ, answered ≤ τ → r.standing τ = some .stopped

/-- what becomes of a request in a run: the poller stands polling until it is answered, if it ever
is, and then it goes on as the answer says -/
def Proceeds (p : Poller) (timer : Timer) (limit : Nat) (r : PollerRun) (height : UInt64)
    (time : Nat) (next : Option (Nat × Option String)) : Option (Nat × Answer) → Prop
  | none => next = none ∧ ∀ τ, time ≤ τ → r.standing τ = some .polling
  | some (delay, a) =>
    (∀ τ, time ≤ τ → τ < time + delay → r.standing τ = some .polling) ∧
    if time + delay ≤ limit then
      Resumes p timer limit r (time + delay) a next (a.leads p.prefs height)
    else next = none

/-- this time lies in the pause after a passing fault in the answer to a request -/
def Retries (p : Poller) (timer : Timer) (height : UInt64) (time : Nat) :
    Option (Nat × Answer) → Nat → Prop
  | none, _ => False
  | some (delay, a), τ =>
    a.leads p.prefs height = .backOff ∧ time + delay ≤ τ ∧
      τ < time + delay + timer.span p.retryPause

/-- a run in which every request proceeds as it should, from one with this long-poll id on, which
goes out at this time and at a poller of this height -/
structure Orderly (p : Poller) (timer : Timer) (limit : Nat) (height : UInt64) (now : Nat)
    (id : Option String) (script : List (Nat × Answer)) (r : PollerRun) : Prop where
  first : r.asked[0]? = some (now, id)
  before : ∀ τ < now, r.standing τ = none
  proceeds : ∀ k time id, r.asked[k]? = some (time, id) →
    Proceeds p timer limit r (tip height ((script.take k).map (·.2))) time r.asked[k + 1]?
      script[k]?
  backoff : ∀ τ ≤ limit, r.standing τ = some .backoff →
    ∃ k time id, r.asked[k]? = some (time, id) ∧
      Retries p timer (tip height ((script.take k).map (·.2))) time script[k]? τ

section
variable {p : Poller} {timer : Timer} {limit : Nat} {height : UInt64} {r rest : PollerRun}
  {ms : List Moment} {now time later τ : Nat} {id : Option String}
  {next : Option (Nat × Option String)} {script : List (Nat × Answer)} {x : Nat × Answer}

theorem asked_after (ms : List Moment) (r : PollerRun) :
    (PollerRun.after ms r).asked = askedIn ms ++ r.asked :=
  askedIn_append ms r.moments

theorem after_after (ms ns : List Moment) (r : PollerRun) :
    PollerRun.after ms (.after ns r) = .after (ms ++ ns) r := by
  rw [PollerRun.after, PollerRun.after, PollerRun.after, List.append_assoc]

theorem standing_after (ms : List Moment) (r : PollerRun) (τ : Nat) :
    (PollerRun.after ms r).standing τ = (r.standing τ).or (standingIn ms τ) :=
  standingIn_append ms r.moments τ

theorem standing_after_of_eq_none (h : rest.standing τ = none) :
    (PollerRun.after ms rest).standing τ = standingIn ms τ := by
  rw [standing_after, h, Option.none_or]

/-- moments before a run change nothing of what it says -/
theorem standing_after_of_eq_some {state : Lifecycle} (h : r.standing τ = some state) :
    (PollerRun.after ms r).standing τ = some state := by
  rw [standing_after, h, Option.some_or]

/-- from its first request on a run says where the poller stands -/
theorem standing_of_asked (h : (time, id) ∈ r.asked) (hτ : time ≤ τ) :
    ∃ state, r.standing τ = some state := by
  obtain ⟨m, hm, he⟩ := List.mem_filterMap.1 h
  have htime : m.time = time := by
    split at he
    · exact (Prod.mk.inj (Option.some.inj he)).1
    · cases he
  have hmem : m ∈ r.moments.filter (·.time ≤ τ) :=
    List.mem_filter.2 ⟨hm, decide_eq_true (by rw [htime]; exact hτ)⟩
  rw [PollerRun.standing, standingIn, List.getLast?_eq_some_getLast (List.ne_nil_of_mem hmem)]
  exact ⟨_, rfl⟩

theorem Rests.after {state : Lifecycle} {since due : Nat} (h : Rests limit r state since due next) :
    Rests limit (.after ms r) state since due next :=
  ⟨fun τ hs hd => standing_after_of_eq_some (h.1 τ hs hd), h.2⟩

theorem Resumes.after {answered : Nat} {a : Answer} {n : Next}
    (h : Resumes p timer limit r answered a next n) :
    Resumes p timer limit (.after ms r) answered a next n := by
  cases n with
  | ask => exact h
  | rest => exact Rests.after h
  | backOff => exact Rests.after h
  | giveUp f => exact ⟨h.1, h.2.1, fun τ hτ => standing_after_of_eq_some (h.2.2 τ hτ)⟩

theorem Proceeds.after {x : Option (Nat × Answer)}
    (h : Proceeds p timer limit r height time next x) :
    Proceeds p timer limit (.after ms r) height time next x := by
  cases x with
  | none => exact ⟨h.1, fun τ hτ => standing_after_of_eq_some (h.2 τ hτ)⟩
  | some x =>
    refine ⟨fun τ hτ hlt => standing_after_of_eq_some (h.1 τ hτ hlt), ?_⟩
    have h2 := h.2
    split
    · rename_i hle
      rw [if_pos hle] at h2
      exact Resumes.after h2
    · rename_i hgt
      rw [if_neg hgt] at h2
      exact h2

/-- in the pause after a passing fault the poller stands backing off -/
theorem Proceeds.standing_of_retries {x : Option (Nat × Answer)}
    (h : Proceeds p timer limit r height time next x) (hτ : τ ≤ limit)
    (hretries : Retries p timer height time x τ) : r.standing τ = some .backoff := by
  cases x with
  | none => exact hretries.elim
  | some x =>
    obtain ⟨hleads, hanswered, hdue⟩ := hretries
    have h2 := h.2
    rw [if_pos (Nat.le_trans hanswered hτ), hleads] at h2
    exact h2.1 τ hanswered hdue

/-! ### from a request to the next -/

/-- the moments from a request to the next one, or to the end of the run: until it is answered the
poller stands polling -/
structure Stretch (now answered : Nat) (id : Option String) (ms : List Moment) : Prop where
  asked : askedIn ms = [(now, id)]
  before : ∀ τ < now, standingIn ms τ = none
  polling : ∀ τ, now ≤ τ → τ < answered → standingIn ms τ = some .polling

/-- all that happens between a request and the next happens when the answer comes -/
theorem stretch {q : Poller} {answered : Nat} (id : Option String) (hnow : now ≤ answered)
    (hq : q.state = .polling)
    (hms : ∀ m ∈ ms, m.time = answered ∧ ∀ id, m.occurrence ≠ .asks id) :
    Stretch now answered id (⟨now, q, .asks id⟩ :: ms) := by
  have hlater : ∀ τ < answered, standingIn ms τ = none := fun τ hτ =>
    standingIn_eq_none fun m hm => by rw [(hms m hm).1]; exact hτ
  constructor
  · have hnone : askedIn ms = [] := by
      rw [askedIn, List.filterMap_eq_nil_iff]
      intro m hm
      split
      · rename_i id' e
        exact absurd e ((hms m hm).2 id')
      · rfl
    rw [← List.singleton_append, askedIn_append, hnone]
    rfl
  · intro τ hτ
    rw [← List.singleton_append, standingIn_append, hlater τ (Nat.lt_of_lt_of_le hτ hnow)]
    exact standingIn_eq_none (by simpa using hτ)
  · intro τ hle hlt
    rw [← List.singleton_append, standingIn_append, hlater τ hlt]
    exact standingIn_of_forall (List.cons_ne_nil _ _) (by simpa using ⟨hle, hq⟩)

theorem Stretch.answered_le {answered : Nat} (hms : Stretch now answered id ms)
    (h : standingIn ms τ = some .backoff) : answered ≤ τ := by
  by_contra hlt
  rw [Nat.not_le] at hlt
  rcases Nat.lt_or_ge τ now with hnow | hnow
  · rw [hms.before τ hnow] at h
    cases h
  · rw [hms.polling τ hnow hlt] at h
    cases h

/-- a run with one request -/
theorem Orderly.last (hms : Stretch now (now + x.1) id r.moments)
    (hresumes : now + x.1 ≤ limit →
      Resumes p timer limit r (now + x.1) x.2 none (x.2.leads p.prefs height))
    (hbackoff : ∀ τ ≤ limit, now + x.1 ≤ τ → r.standing τ = some .backoff →
      x.2.leads p.prefs height = .backOff ∧
        τ < now + x.1 + timer.span p.retryPause) :
    Orderly p timer limit height now id (x :: script) r where
  first := by
    rw [PollerRun.asked, hms.asked]
    rfl
  before := hms.before
  proceeds k time id h := by
    rw [PollerRun.asked, hms.asked] at h ⊢
    cases k with
    | zero =>
      obtain ⟨rfl, rfl⟩ := Prod.mk.inj (Option.some.inj h)
      refine ⟨hms.polling, ?_⟩
      split
      · rename_i hle
        exact hresumes hle
      · rfl
    | succ k => cases h
  backoff τ hτ h := by
    have hanswered : now + x.1 ≤ τ := hms.answered_le h
    obtain ⟨hleads, hdue⟩ := hbackoff τ hτ hanswered h
    refine ⟨0, now, id, ?_, hleads, hanswered, hdue⟩
    rw [PollerRun.asked, hms.asked]
    rfl

/-- the stretch of an answered request, before a run from the next request on -/
theorem Orderly.cons {id' : Option String}
    (h : Orderly p timer limit (x.2.raise height) later id' script rest)
    (hms : Stretch now (now + x.1) id ms) (hlater : now + x.1 ≤ later)
    (hle : now + x.1 ≤ limit)
    (hresumes : Resumes p timer limit (.after ms rest) (now + x.1) x.2 (some (later, id'))
      (x.2.leads p.prefs height))
    (hbackoff : ∀ τ < later, now + x.1 ≤ τ → standingIn ms τ = some .backoff →
      x.2.leads p.prefs height = .backOff ∧
        τ < now + x.1 + timer.span p.retryPause) :
    Orderly p timer limit height now id (x :: script) (.after ms rest) := by
  have hasked : (PollerRun.after ms rest).asked = (now, id) :: rest.asked := by
    rw [asked_after, hms.asked]
    rfl
  have hsame : ∀ τ < later, (PollerRun.after ms rest).standing τ = standingIn ms τ := fun τ hτ =>
    standing_after_of_eq_none (h.before τ hτ)
  have hnow : now ≤ later := Nat.le_trans (Nat.le_add_right now x.1) hlater
  refine ⟨by rw [hasked]; rfl, fun τ hτ => ?_, fun k time id hk => ?_, fun τ hτ hback => ?_⟩
  · rw [hsame τ (Nat.lt_of_lt_of_le hτ hnow), hms.before τ hτ]
  · rw [hasked] at hk ⊢
    cases k with
    | zero =>
      obtain ⟨rfl, rfl⟩ := Prod.mk.inj (Option.some.inj hk)
      rw [List.getElem?_cons_succ, h.first]
      refine ⟨fun τ hτ hlt => ?_, ?_⟩
      · rw [hsame τ (Nat.lt_of_lt_of_le hlt hlater)]
        exact hms.polling τ hτ hlt
      · rw [if_pos hle]
        exact hresumes
    | succ k => exact Proceeds.after (h.proceeds k time id hk)
  · -- the stretch says where the poller stands until the next request, and the rest after it
    rcases Nat.lt_or_ge τ later with hlt | hge
    · rw [hsame τ hlt] at hback
      have hanswered := hms.answered_le hback
      obtain ⟨hleads, hdue⟩ := hbackoff τ hlt hanswered hback
      refine ⟨0, now, id, ?_, hleads, hanswered, hdue⟩
      rw [hasked]
      rfl
    · obtain ⟨state, hstate⟩ := standing_of_asked (List.mem_of_getElem? h.first) hge
      rw [standing_after_of_eq_some hstate] at hback
      obtain ⟨k, time, id, hk, hretries⟩ := h.backoff τ hτ (hstate.trans hback)
      refine ⟨k + 1, time, id, ?_, hretries⟩
      rw [hasked]
      exact hk

/-! ### a run -/

/-- a pause that nobody cuts short is over when it is due, unless the run is given up first -/
theorem pause_calm {before : List Moment} {q : Poller} {s : Session} {due : Nat}
    (hdue : time ≤ due) (htime : time ≤ limit) :
    pause (.calm timer limit) before q s time due =
      if due ≤ limit then .goesOn (before ++ [⟨time, q, .pauses due⟩]) q s due
      else .ends
        (.after (before ++ [⟨time, q, .pauses due⟩]) (giveUpRun (.calm timer limit) q)) := by
  unfold pause
  dsimp only
  rw [Clock.wait_calm hdue htime]
  by_cases hle : due ≤ limit
  · rw [if_pos hle, if_pos hle]
  · rw [if_neg hle, if_neg hle]

/-- an answer is heeded when it comes, unless the run is given up first -/
theorem request_calm {q : Poller} {s : Session} {delay : Nat} {a : Answer} (hnow : now ≤ limit) :
    request (.calm timer limit) q s now (.answer delay a) =
      if now + delay ≤ limit then answered (.calm timer limit) q s (now + delay) a
      else .ends (giveUpRun (.calm timer limit) q) := by
  rw [request, await, Clock.wait_calm (Nat.le_add_right now delay) hnow]
  by_cases hle : now + delay ≤ limit
  · rw [if_pos hle, if_pos hle]
  · rw [if_neg hle, if_neg hle]

def reply (x : Nat × Answer) : Reply := .answer x.1 x.2

theorem mem_moments {q : Poller} {as : List Action} {m : Moment} (hm : m ∈ moments time q as) :
    m.time = time ∧ m.poller = q ∧ ∀ id, m.occurrence ≠ .asks id := by
  obtain ⟨a, -, rfl⟩ := List.mem_map.1 hm
  exact ⟨rfl, rfl, by nofun⟩

/-- a stretch that ends with a pause, before a run from the next request on, if there is time for
it -/
theorem Orderly.paused {q q' : Poller} {s : Session} {told : List Moment} {due : Nat}
    {replies : List Reply} (hle : now + x.1 ≤ limit) (hq : q.state = .polling)
    (htold : ∀ m ∈ told, m.time = now + x.1 ∧ ∀ id, m.occurrence ≠ .asks id)
    (hdue : now + x.1 ≤ due)
    (hrests : ∀ r next, Rests limit r q'.state (now + x.1) due next →
      Resumes p timer limit r (now + x.1) x.2 next (x.2.leads p.prefs height))
    (hbackoff : q'.state = .backoff → x.2.leads p.prefs height = .backOff ∧
      due = now + x.1 + timer.span p.retryPause)
    (h : due ≤ limit → Orderly p timer limit (x.2.raise height) due none script
      (q'.runFrom (.calm timer limit) s due replies)) :
    Orderly p timer limit height now id (x :: script) (.after [⟨now, q, .asks id⟩]
      (match pause (.calm timer limit) told q' s (now + x.1) due with
      | .ends r => r
      | .goesOn before q s now =>
        .after before (runFrom (.calm timer limit) q s now replies))) := by
  rw [pause_calm hdue hle]
  have hms : ∀ m ∈ told ++ [⟨now + x.1, q', .pauses due⟩],
      m.time = now + x.1 ∧ ∀ id, m.occurrence ≠ .asks id := by
    intro m hm
    rcases List.mem_append.1 hm with hm | hm
    · exact htold m hm
    · obtain rfl := List.mem_singleton.1 hm
      exact ⟨rfl, by nofun⟩
  have hstretch := stretch id (Nat.le_add_right now x.1) hq hms
  have hstand : ∀ τ, now + x.1 ≤ τ → standingIn (⟨now, q, .asks id⟩ ::
      (told ++ [⟨now + x.1, q', .pauses due⟩])) τ = some q'.state := by
    intro τ hτ
    rw [← List.cons_append, standingIn_append,
      standingIn_of_forall (List.cons_ne_nil _ _) (by simpa using ⟨hτ, rfl⟩)]
    rfl
  have hback : ∀ τ < due, now + x.1 ≤ τ → standingIn (⟨now, q, .asks id⟩ ::
      (told ++ [⟨now + x.1, q', .pauses due⟩])) τ = some .backoff →
      x.2.leads p.prefs height = .backOff ∧
        τ < now + x.1 + timer.span p.retryPause := by
    intro τ hτ hanswered e
    rw [hstand τ hanswered] at e
    obtain ⟨hleads, rfl⟩ := hbackoff (Option.some.inj e)
    exact ⟨hleads, hτ⟩
  by_cases hlim : due ≤ limit
  · rw [if_pos hlim]
    refine (h hlim).cons hstretch hdue hle (hrests _ _ ⟨fun τ hτ hlt => ?_, ?_⟩) hback
    · rw [standing_after_of_eq_none ((h hlim).before τ hlt)]
      exact hstand τ hτ
    · exact (if_pos hlim).symm
  · rw [if_neg hlim]
    have hend : ∀ r, r.moments = ⟨now, q, .asks id⟩ ::
        (told ++ [⟨now + x.1, q', .pauses due⟩]) →
        Orderly p timer limit height now id (x :: script) r := by
      intro r hr
      refine .last (by rw [hr]; exact hstretch) (fun _ => hrests _ _ ⟨fun τ hτ hlt => ?_, ?_⟩) ?_
      · rw [PollerRun.standing, hr]
        exact hstand τ hτ
      · exact (if_neg hlim).symm
      · intro τ hτ hanswered e
        rw [PollerRun.standing, hr] at e
        exact hback τ (Nat.lt_of_le_of_lt hτ (Nat.not_le.1 hlim)) hanswered e
    apply hend
    exact congrArg _ (List.append_nil _)

section
variable {c : Clock} {q : Poller} {s : Session} {a : Answer}

theorem answered_of_ask (h : (q.react s a).next = .ask) :
    answered c q s time a = .goesOn (moments time (q.react s a).poller (q.react s a).actions)
      (q.react s a).poller (q.react s a).session time := by
  unfold answered
  dsimp only
  rw [h]

theorem answered_of_rest (h : (q.react s a).next = .rest) :
    answered c q s time a = pause c (moments time (q.react s a).poller (q.react s a).actions)
      (q.react s a).poller (q.react s a).session time
      (time + c.timer.span (q.react s a).poller.pollInterval) := by
  unfold answered
  dsimp only
  rw [h]

theorem answered_of_backOff (h : (q.react s a).next = .backOff) :
    answered c q s time a = pause c (moments time (q.react s a).poller (q.react s a).actions)
      { (q.react s a).poller with state := .backoff } (q.react s a).session time
      (time + c.timer.span (q.react s a).poller.retryPause) := by
  unfold answered
  dsimp only
  rw [h]

theorem answered_of_giveUp {f : Fault} (h : (q.react s a).next = .giveUp f) :
    answered c q s time a = .ends ⟨moments time (q.react s a).poller (q.react s a).actions,
      (q.react s a).poller, time, .failed f⟩ := by
  unfold answered
  dsimp only
  rw [h]

end

/-- a request that is answered in time, before runs that are orderly from the next request on -/
theorem Orderly.answered {q : Poller} {s : Session} {replies : List Reply}
    (hle : now + x.1 ≤ limit) (hq : q.state = .polling) (hsetup : SameSetup p q)
    (h : ∀ q' s' later, SameSetup p q' → q'.state ≠ .stopped → later ≤ limit →
      Orderly p timer limit q'.height later s'.longPollId script
        (runFrom (.calm timer limit) q' s' later replies)) :
    Orderly p timer limit q.height now id (x :: script) (.after [⟨now, q, .asks id⟩]
      (match Poller.answered (.calm timer limit) q s (now + x.1) x.2 with
      | .ends r => r
      | .goesOn before q s now =>
        .after before (runFrom (.calm timer limit) q s now replies))) := by
  have hheeds := heeds q s x.2
  have hleads : (q.react s x.2).next = x.2.leads p.prefs q.height := by
    rw [hheeds.next, hsetup.prefs]
  have hsetup' : SameSetup p (q.react s x.2).poller := hsetup.trans (react_setup x.2)
  have htold : ∀ m ∈ moments (now + x.1) (q.react s x.2).poller (q.react s x.2).actions,
      m.time = now + x.1 ∧ ∀ id, m.occurrence ≠ .asks id := by
    intro m hm
    obtain ⟨htime, -, hasks⟩ := mem_moments hm
    exact ⟨htime, hasks⟩
  have hstretch := stretch id (Nat.le_add_right now x.1) hq htold
  have hid := hheeds.longPollId
  cases hnext : (q.react s x.2).next with
  | ask =>
    rw [answered_of_ask hnext]
    dsimp only
    rw [after_after]
    obtain ⟨hstate, hheight⟩ := hheeds.live (by rw [hnext]; nofun)
    rw [hnext] at hid
    rw [hq] at hstate
    have hrest := h _ (q.react s x.2).session _ hsetup' (by rw [hstate]; nofun) hle
    rw [hheight] at hrest
    refine hrest.cons hstretch (Nat.le_refl _) hle ?_ fun τ hlt hge => ?_
    · rw [← hleads, hnext, hid]
      rfl
    · exact absurd hlt (Nat.not_lt.2 hge)
  | rest =>
    rw [answered_of_rest hnext]
    obtain ⟨hstate, hheight⟩ := hheeds.live (by rw [hnext]; nofun)
    rw [hnext] at hid
    rw [hq] at hstate
    refine .paused hle hq htold (Nat.le_add_right _ _) (fun r next hrests => ?_) ?_ fun hlim => ?_
    · rw [hstate, hsetup'.pollInterval] at hrests
      rw [← hleads, hnext]
      exact hrests
    · rw [hstate]
      nofun
    · have hrest := h _ (q.react s x.2).session _ hsetup' (by rw [hstate]; nofun) hlim
      rw [hheight, hid] at hrest
      exact hrest
  | backOff =>
    rw [answered_of_backOff hnext]
    obtain ⟨hstate, hheight⟩ := hheeds.live (by rw [hnext]; nofun)
    rw [hnext] at hid
    refine .paused hle hq htold (Nat.le_add_right _ _) (fun r next hrests => ?_) (fun _ => ?_)
      fun hlim => ?_
    · rw [hsetup'.retryPause] at hrests
      rw [← hleads, hnext]
      exact hrests
    · rw [← hleads, hsetup'.retryPause]
      exact ⟨hnext, rfl⟩
    · have hrest := h { (q.react s x.2).poller with state := .backoff } (q.react s x.2).session _
        ⟨hsetup'.prefs, hsetup'.retryPause, hsetup'.pollInterval⟩ (by nofun) hlim
      rw [hid] at hrest
      rw [← hheight]
      exact hrest
  | giveUp f =>
    -- whatever it tells when it gives up, it tells stopped
    rw [answered_of_giveUp hnext]
    obtain ⟨hstopped, hactions⟩ := hheeds.stopped f hnext
    have hstand : ∀ τ, now + x.1 ≤ τ → standingIn (⟨now, q, .asks id⟩ ::
        moments (now + x.1) (q.react s x.2).poller (q.react s x.2).actions) τ
          = some .stopped := by
      intro τ hτ
      have htold : standingIn (moments (now + x.1) (q.react s x.2).poller
          (q.react s x.2).actions) τ = some .stopped := by
        refine standingIn_of_forall (mt List.map_eq_nil_iff.1 hactions) fun m hm => ?_
        obtain ⟨htime, hpoller, -⟩ := mem_moments hm
        rw [htime, hpoller]
        exact ⟨hτ, hstopped⟩
      rw [← List.singleton_append, standingIn_append, htold]
      rfl
    refine .last hstretch (fun _ => ?_) fun τ _ hanswered e => ?_
    · rw [← hleads, hnext]
      exact ⟨rfl, rfl, hstand⟩
    · cases (hstand τ hanswered).symm.trans e

/-- a run that nobody shuts down is orderly from each of its requests on -/
theorem runFrom_orderly {q : Poller} {s : Session} (hq : SameSetup p q) (hs : q.state ≠ .stopped)
    (hnow : now ≤ limit) :
    Orderly p timer limit q.height now s.longPollId script
      (q.runFrom (.calm timer limit) s now (script.map reply)) := by
  induction script generalizing q s now with
  | nil =>
    have hrun : (q.runFrom (.calm timer limit) s now []).moments =
        [⟨now, { q with state := .polling }, .asks s.longPollId⟩] := by
      rw [runFrom, if_neg hs]
      rfl
    have hasked : (q.runFrom (.calm timer limit) s now []).asked = [(now, s.longPollId)] := by
      rw [PollerRun.asked, hrun]
      rfl
    have hstand : ∀ τ, (q.runFrom (.calm timer limit) s now []).standing τ =
        if now ≤ τ then some .polling else none := by
      intro τ
      rw [PollerRun.standing, hrun]
      split
      · rename_i hle
        exact standingIn_of_forall (List.cons_ne_nil _ _) (by simpa using hle)
      · rename_i hgt
        exact standingIn_eq_none (by simpa using hgt)
    refine ⟨?_, fun τ hτ => ?_, fun k time id hk => ?_, fun τ _ e => ?_⟩
    · rw [List.map_nil, hasked]
      rfl
    · rw [List.map_nil, hstand]
      exact if_neg (Nat.not_le.2 hτ)
    · rw [List.map_nil] at hk ⊢
      rw [hasked] at hk ⊢
      cases k with
      | zero =>
        obtain ⟨rfl, rfl⟩ := Prod.mk.inj (Option.some.inj hk)
        exact ⟨rfl, fun τ hτ => by rw [hstand, if_pos hτ]⟩
      | succ k => cases hk
    · rw [List.map_nil, hstand] at e
      split at e <;> cases e
  | cons x script ih =>
    rw [List.map_cons, runFrom_cons hs, reply, request_calm hnow]
    obtain ⟨q', hq'⟩ : ∃ q', q' = { q with state := .polling } := ⟨_, rfl⟩
    rw [← hq']
    have hheight : q'.height = q.height := by rw [hq']
    have hpolling : q'.state = .polling := by rw [hq']
    have hsetup : SameSetup p q' := by
      rw [hq']
      exact ⟨hq.prefs, hq.retryPause, hq.pollInterval⟩
    by_cases hle : now + x.1 ≤ limit
    · rw [if_pos hle, ← hheight]
      exact .answered hle hpolling hsetup fun q s later hq hs hlater => ih hq hs hlater
    · -- the run is given up while the request is under way
      rw [if_neg hle]
      refine .last (stretch _ (Nat.le_add_right now x.1) hpolling ?_) (fun h => absurd h hle) ?_
      · exact fun m hm => absurd hm List.not_mem_nil
      · intro τ hτ hanswered
        exact absurd (Nat.le_trans hanswered hτ) hle

end

/-- a run from its first request on: that carries no long-poll id, each request proceeds as it
should, and the poller backs off during the pauses after passing faults and at no other time -/
structure Follows (p : Poller) (timer : Timer) (limit : Nat) (script : List (Nat × Answer))
    (r : PollerRun) : Prop where
  first : r.asked[0]? = some (0, none)
  proceeds : ∀ k time id, r.asked[k]? = some (time, id) →
    Proceeds p timer limit r (tip 0 ((script.take k).map (·.2))) time r.asked[k + 1]? script[k]?
  backoff : ∀ τ ≤ limit, r.standing τ = some .backoff ↔
    ∃ k time id, r.asked[k]? = some (time, id) ∧
      Retries p timer (tip 0 ((script.take k).map (·.2))) time script[k]? τ

section
variable {p : Poller} {timer : Timer} {limit : Nat} {script : List (Nat × Answer)} {r : PollerRun}

/-- a run of a new poller is orderly, and that it begins is not a request -/
theorem Orderly.follows (h : Orderly p timer limit 0 0 none script r) {begins : Moment}
    (hbegins : ∀ id, begins.occurrence ≠ .asks id) :
    Follows p timer limit script (.after [begins] r) := by
  have hasked : (PollerRun.after [begins] r).asked = r.asked := by
    have hnone : askedIn [begins] = [] := by
      rw [askedIn, List.filterMap_eq_nil_iff]
      intro m hm
      obtain rfl := List.mem_singleton.1 hm
      split
      · rename_i id e
        exact absurd e (hbegins id)
      · rfl
    rw [asked_after, hnone]
    rfl
  have hstand : ∀ τ, (PollerRun.after [begins] r).standing τ = r.standing τ := by
    intro τ
    obtain ⟨state, hstate⟩ := standing_of_asked (List.mem_of_getElem? h.first) (Nat.zero_le τ)
    rw [hstate]
    exact standing_after_of_eq_some hstate
  have hproceeds : ∀ k time id, (PollerRun.after [begins] r).asked[k]? = some (time, id) →
      Proceeds p timer limit (.after [begins] r) (tip 0 ((script.take k).map (·.2))) time
        (PollerRun.after [begins] r).asked[k + 1]? script[k]? := by
    intro k time id hk
    rw [hasked] at hk ⊢
    exact (h.proceeds k time id hk).after
  refine ⟨by rw [hasked]; exact h.first, hproceeds, fun τ hτ => ⟨fun hback => ?_, ?_⟩⟩
  · rw [hstand] at hback
    rw [hasked]
    exact h.backoff τ hτ hback
  · rintro ⟨k, time, id, hk, hretries⟩
    exact (hproceeds k time id hk).standing_of_retries hτ hretries

/-- of a timer only the two lengths of the poller's own pauses count -/
theorem Follows.of_span {timer' : Timer} (h : Follows p timer limit script r)
    (hretry : timer.span p.retryPause = timer'.span p.retryPause)
    (hpoll : timer.span p.pollInterval = timer'.span p.pollInterval) :
    Follows p timer' limit script r := by
  have hresumes : ∀ answered a next n, Resumes p timer limit r answered a next n →
      Resumes p timer' limit r answered a next n := by
    intro answered a next n h
    cases n with
    | ask => exact h
    | rest =>
      rw [Resumes, hpoll] at h
      exact h
    | backOff =>
      rw [Resumes, hretry] at h
      exact h
    | giveUp f => exact h
  have hretries : ∀ height time x τ,
      Retries p timer height time x τ ↔ Retries p timer' height time x τ := by
    intro height time x τ
    cases x with
    | none => rfl
    | some x => rw [Retries, Retries, hretry]
  refine ⟨h.first, fun k time id hk => ?_, fun τ hτ => ?_⟩
  · have hproceeds := h.proceeds k time id hk
    cases hx : script[k]? with
    | none =>
      rw [hx] at hproceeds
      exact hproceeds
    | some x =>
      rw [hx] at hproceeds
      refine ⟨hproceeds.1, ?_⟩
      have h2 := hproceeds.2
      split at h2
      · rename_i hle
        rw [if_pos hle]
        exact hresumes _ _ _ _ h2
      · rename_i hgt
        rw [if_neg hgt]
        exact h2
  · simp only [h.backoff τ hτ, hretries]

end

end Poller

/-- a run of a new poller that nobody shuts down, whatever its source answers and when: its requests
follow the answers, with pauses that last as the timer has it, and so as they should if they are
not too long for it -/
theorem requests_follow_answers {timer : Timer} {longest : Nat} (htimer : timer.Keeps longest)
    (prefs : Preferences) (retryPause pollInterval limit : Nat) (script : List (Nat × Answer)) :
    let p := Poller.make prefs retryPause pollInterval
    let r := p.run (.calm timer limit) (script.map Poller.reply)
    p.Follows timer limit script r ∧
    (retryPause ≤ longest → pollInterval ≤ longest → p.Follows .exact limit script r) := by
  intro p r
  have hstate : p.state ≠ .stopped := by
    show Lifecycle.idle ≠ .stopped
    nofun
  have horderly : p.Orderly timer limit 0 0 none script
      (p.runFrom (.calm timer limit) .fresh 0 (script.map Poller.reply)) :=
    Poller.runFrom_orderly (s := .fresh) ⟨rfl, rfl, rfl⟩ hstate (Nat.zero_le limit)
  have h : p.Follows timer limit script r := horderly.follows (by nofun)
  exact ⟨h, fun hretry hpoll => h.of_span (htimer _ hretry) (htimer _ hpoll)⟩

/-- the longest pause that the timer keeps is longer than those of a poller by default -/
theorem requests_follow_failing_source :
    let timer := Timer.upTo 68719476734 946080000000
    let p := Poller.make .bare 10000 5000
    let script := [(7, Answer.template { Template.bare with longPollId := some "a" }),
      (3, .failure (.connection "")), (0, .template .bare), (1, .failure (.permission ""))]
    let r := p.run (.calm timer 100000) (script.map Poller.reply)
    timer.Keeps 68719476734 ∧ 10000 ≤ 68719476734 ∧ 5000 ≤ 68719476734 ∧
    p.Follows .exact 100000 script r ∧
    r.asked = [(0, none), (7, some "a"), (10010, none), (15010, none)] ∧
    r.standing 10 = some .backoff ∧ r.standing 10010 = some .polling ∧
    r.standing 15011 = some .stopped := by
  intro timer p script r
  have htimer : timer.Keeps 68719476734 := Timer.keeps_upTo _ _
  obtain ⟨-, hexact⟩ := requests_follow_answers htimer .bare 10000 5000 100000 script
  exact ⟨htimer, by decide, by decide, hexact (by decide) (by decide), by decide +kernel,
    by decide +kernel, by decide +kernel, by decide +kernel⟩

/-- a timer that does not keep to so long an interval makes it shorter -/
theorem unmeasured_interval_cut :
    let timer := Timer.upTo 68719476734 946080000000
    let p := Poller.make .bare 10000 18446744073709551615
    let a := Answer.template { Template.bare with height := 0 }
    timer.Keeps 68719476734 ∧ a.leads p.prefs 0 = .rest ∧
    (p.run (.calm timer 1000000000000) [.answer 0 a]).asked =
      [(0, none), (946080000000, none)] ∧
    946080000000 < p.pollInterval := by
  intro timer p a
  refine ⟨Timer.keeps_upTo _ _, rfl, by decide +kernel, ?_⟩
  show 946080000000 < 18446744073709551615
  decide

end CycleMiner
