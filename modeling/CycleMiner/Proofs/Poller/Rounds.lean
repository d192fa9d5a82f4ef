import CycleMiner.Poller
import CycleMiner.Proofs.Work.Parts

/-!
# What a poller tells of each answer

Every answer of the source makes the poller publish a round of events.  Which round it is depends on
the answer and on the events published before, and on nothing else.

* `announcements`   the work announced in some events;
* `IsNews`          a template above all work announced;
* `Round`           the round of an answer after some events;
* `Rounds`          rounds one after the other; a terminated poller has none any more;
* `Rounds.heights`   work is announced at ever greater heights;
* `Rounds.count_enabled_le`, `Rounds.mem_enabled_iff`   the first long-poll id is told of, once;
* `Rounds.eq_append_terminated`   nothing follows the end;
* `Poller.Told`      what a poller remembers of the events it has published;
* `Poller.Told.reacts`   an answer makes it publish the round of that answer.
-/

namespace CycleMiner

def Event.item? : Event → Option WorkItem
  | .newWork item => some item
  | _ => none

def announcements (es : List Event) : List WorkItem := es.filterMap Event.item?

def IsNews (before : List Event) (t : Template) : Prop :=
  0 < t.height ∧ ∀ item ∈ announcements before, item.work.height < t.height

/-- the first answer with a long-poll id is told of -/
def opening (before : List Event) (t : Template) : List Event :=
  if t.usableId.isSome ∧ .longPollEnabled ∉ before then [.longPollEnabled] else []

/-- every template without one is told of -/
def closing (t : Template) : List Event :=
  if t.usableId = none then [.longPollUnavailable] else []

/-- the events that an answer makes a poller publish after those it has published before -/
inductive Round (prefs : Preferences) (before : List Event) : Answer → List Event → Prop
  | quiet {t : Template} (hnews : ¬ IsNews before t) :
      Round prefs before (.template t) (opening before t ++ closing t)
  | news {t : Template} {w : Work} (hnews : IsNews before t)
      (hw : Work.ofTemplate t prefs = .ok w) :
      Round prefs before (.template t)
        (opening before t ++ [.tipMoved, .newWork ⟨(announcements before).length, w⟩] ++ closing t)
  | malformed {t : Template} {f : InputFault} (hnews : IsNews before t)
      (hw : Work.ofTemplate t prefs = .error f) :
      Round prefs before (.template t)
        (opening before t ++ [.credentialsRejected, .terminated])
  | passing {f : Fault} {e : Event} (hf : Event.ofFault f = e)
      (he : e = .connectionFailed ∨ e = .communicationFailed) :
      Round prefs before (.failure f) [e]
  | final {f : Fault} {e : Event} (hf : Event.ofFault f = e)
      (he : e = .credentialsRejected ∨ e = .permissionRefused) :
      Round prefs before (.failure f) [e, .terminated]

/-- the rounds of some answers, one after the other -/
inductive Rounds (prefs : Preferences) : List Answer → List Event → Prop
  | nil : Rounds prefs [] []
  | snoc {answers : List Answer} {es : List Event} {a : Answer} {round : List Event}
      (h : Rounds prefs answers es) (hlive : .terminated ∉ es) (hround : Round prefs es a round) :
      Rounds prefs (answers ++ [a]) (es ++ round)

theorem announcements_append (es es' : List Event) :
    announcements (es ++ es') = announcements es ++ announcements es' :=
  List.filterMap_append

theorem announcements_opening (before : List Event) (t : Template) :
    announcements (opening before t) = [] := by
  unfold opening
  split <;> rfl

theorem announcements_closing (t : Template) : announcements (closing t) = [] := by
  unfold closing
  split <;> rfl

theorem height_of_ofTemplate {t : Template} {prefs : Preferences} {w : Work}
    (h : Work.ofTemplate t prefs = .ok w) : w.height = t.height := by
  rw [Work.height, (Work.ofTemplate_eq_ok.1 h).1]

def Answer.HasId (a : Answer) : Prop := ∃ t, a = .template t ∧ t.usableId.isSome

theorem mem_opening_iff {before : List Event} {t : Template} :
    .longPollEnabled ∈ opening before t ↔
      (Answer.template t).HasId ∧ .longPollEnabled ∉ before := by
  unfold opening
  split
  · rename_i h
    exact iff_of_true List.mem_cons_self ⟨⟨t, rfl, h.1⟩, h.2⟩
  · rename_i h
    refine iff_of_false List.not_mem_nil ?_
    rintro ⟨⟨t', e, hid⟩, hb⟩
    obtain rfl := Answer.template.inj e
    exact h ⟨hid, hb⟩

theorem count_opening_le (before : List Event) (t : Template) (e : Event) :
    (opening before t).count e ≤ 1 := by
  unfold opening
  split
  · exact List.count_le_length
  · exact Nat.zero_le 1

theorem terminated_notMem_opening (before : List Event) (t : Template) :
    .terminated ∉ opening before t := by
  unfold opening
  split <;> decide

theorem terminated_notMem_closing (t : Template) : .terminated ∉ closing t := by
  unfold closing
  split <;> decide

theorem enabled_notMem_closing (t : Template) : .longPollEnabled ∉ closing t := by
  unfold closing
  split <;> decide

namespace Round

section
variable {prefs : Preferences} {before round : List Event} {a : Answer}
  (h : Round prefs before a round)
include h

/-- a round announces no work, or the next one, which is above all before -/
theorem announces : announcements round = [] ∨ ∃ item, announcements round = [item] ∧
    item.serial = (announcements before).length ∧
    ∀ old ∈ announcements before, old.work.height < item.work.height := by
  cases h with
  | @quiet t _ =>
    left
    rw [announcements_append, announcements_opening, announcements_closing]
    rfl
  | @news t w hnews hw =>
    right
    refine ⟨⟨(announcements before).length, w⟩, ?_, rfl, fun old hold => ?_⟩
    · rw [announcements_append, announcements_append, announcements_opening,
        announcements_closing]
      rfl
    · show old.work.height < w.height
      rw [height_of_ofTemplate hw]
      exact hnews.2 old hold
  | @malformed t f _ _ =>
    left
    rw [announcements_append, announcements_opening]
    rfl
  | passing _ he =>
    left
    rcases he with rfl | rfl <;> rfl
  | final _ he =>
    left
    rcases he with rfl | rfl <;> rfl

/-- a round begins with what it tells of long-poll ids, and tells of none after that -/
theorem eq_opening_append : ∃ rest, .longPollEnabled ∉ rest ∧
    ((∃ t, a = .template t ∧ round = opening before t ++ rest) ∨
      (∃ f, a = .failure f ∧ round = rest)) := by
  cases h with
  | @quiet t _ => exact ⟨closing t, enabled_notMem_closing t, .inl ⟨t, rfl, rfl⟩⟩
  | @news t w _ _ =>
    refine ⟨_, ?_, .inl ⟨t, rfl, List.append_assoc ..⟩⟩
    rw [List.mem_append, not_or]
    exact ⟨by simp, enabled_notMem_closing t⟩
  | @malformed t f _ _ => exact ⟨_, by decide, .inl ⟨t, rfl, rfl⟩⟩
  | @passing f _ _ he =>
    refine ⟨_, ?_, .inr ⟨f, rfl, rfl⟩⟩
    rcases he with rfl | rfl <;> decide
  | @final f _ _ he =>
    refine ⟨_, ?_, .inr ⟨f, rfl, rfl⟩⟩
    rcases he with rfl | rfl <;> decide

/-- long-poll ids are told of in the round of the first answer that has one -/
theorem mem_enabled_iff : .longPollEnabled ∈ round ↔ a.HasId ∧ .longPollEnabled ∉ before := by
  obtain ⟨rest, hrest, ⟨t, rfl, rfl⟩ | ⟨f, rfl, rfl⟩⟩ := h.eq_opening_append
  · rw [List.mem_append, mem_opening_iff, or_iff_left hrest]
  · refine iff_of_false hrest ?_
    rintro ⟨⟨t, e, -⟩, -⟩
    cases e

theorem count_enabled_le : round.count .longPollEnabled ≤ 1 := by
  obtain ⟨rest, hrest, ⟨t, rfl, rfl⟩ | ⟨f, rfl, rfl⟩⟩ := h.eq_opening_append
  · rw [List.count_append, List.count_eq_zero.2 hrest]
    exact count_opening_le before t _
  · rw [List.count_eq_zero.2 hrest]
    exact Nat.zero_le 1

/-- the end can only come last in a round -/
theorem eq_append_terminated : ∃ front, .terminated ∉ front ∧
    (round = front ∨ round = front ++ [.terminated]) := by
  cases h with
  | @quiet t _ =>
    refine ⟨_, ?_, .inl rfl⟩
    rw [List.mem_append, not_or]
    exact ⟨terminated_notMem_opening before t, terminated_notMem_closing t⟩
  | @news t w _ _ =>
    refine ⟨_, ?_, .inl rfl⟩
    rw [List.mem_append, List.mem_append, not_or, not_or]
    exact ⟨⟨terminated_notMem_opening before t, by simp⟩, terminated_notMem_closing t⟩
  | @malformed t f _ _ =>
    refine ⟨opening before t ++ [.credentialsRejected], ?_, .inr ?_⟩
    · rw [List.mem_append, not_or]
      exact ⟨terminated_notMem_opening before t, by decide⟩
    · rw [List.append_assoc]
      rfl
  | passing _ he =>
    refine ⟨_, ?_, .inl rfl⟩
    rcases he with rfl | rfl <;> decide
  | @final f e _ he =>
    refine ⟨[e], ?_, .inr rfl⟩
    rcases he with rfl | rfl <;> decide

end

end Round

namespace Rounds

section
variable {prefs : Preferences} {answers : List Answer} {es : List Event}
  (h : Rounds prefs answers es)
include h

theorem heights : (announcements es).Pairwise (·.work.height < ·.work.height) := by
  induction h with
  | nil => exact .nil
  | snoc h hlive hround ih =>
    rw [announcements_append]
    rcases hround.announces with e | ⟨item, e, -, habove⟩
    · rw [e, List.append_nil]
      exact ih
    · rw [e, List.pairwise_append]
      refine ⟨ih, List.pairwise_singleton _ _, fun old hold new hnew => ?_⟩
      obtain rfl := List.mem_singleton.1 hnew
      exact habove old hold

/-- long-poll ids are told of exactly if an answer had one -/
theorem mem_enabled_iff : .longPollEnabled ∈ es ↔ ∃ a ∈ answers, a.HasId := by
  induction h with
  | nil => simp
  | @snoc answers es a round h hlive hround ih =>
    rw [List.mem_append, hround.mem_enabled_iff, ih]
    constructor
    · rintro (⟨b, hb, hid⟩ | ⟨hid, -⟩)
      · exact ⟨b, List.mem_append_left _ hb, hid⟩
      · exact ⟨a, List.mem_append_right _ (List.mem_singleton.2 rfl), hid⟩
    · rintro ⟨b, hb, hid⟩
      by_cases hold : ∃ b ∈ answers, b.HasId
      · exact .inl hold
      rcases List.mem_append.1 hb with hb | hb
      · exact .inl ⟨b, hb, hid⟩
      · obtain rfl := List.mem_singleton.1 hb
        exact .inr ⟨hid, hold⟩

theorem count_enabled_le : es.count .longPollEnabled ≤ 1 := by
  induction h with
  | nil => exact Nat.zero_le 1
  | @snoc answers es a round h hlive hround ih =>
    rw [List.count_append]
    by_cases hb : .longPollEnabled ∈ es
    · have hnone : .longPollEnabled ∉ round := fun hr => (hround.mem_enabled_iff.1 hr).2 hb
      rw [List.count_eq_zero.2 hnone]
      exact ih
    · rw [List.count_eq_zero.2 hb, Nat.zero_add]
      exact hround.count_enabled_le

/-- nothing follows the end -/
theorem eq_append_terminated : ∃ front, .terminated ∉ front ∧
    (es = front ∨ es = front ++ [.terminated]) := by
  cases h with
  | nil => exact ⟨[], List.not_mem_nil, .inl rfl⟩
  | @snoc answers es a round h hlive hround =>
    obtain ⟨front, hfront, e⟩ := hround.eq_append_terminated
    refine ⟨es ++ front, ?_, ?_⟩
    · rw [List.mem_append, not_or]
      exact ⟨hlive, hfront⟩
    · rcases e with rfl | rfl
      · exact .inl rfl
      · exact .inr (List.append_assoc ..).symm

end

end Rounds

/-! ## the poller -/

theorem Event.ofFault_cases (f : Fault) :
    ((ofFault f).isFatal = true ∧
      (ofFault f = .credentialsRejected ∨ ofFault f = .permissionRefused)) ∨
    ((ofFault f).isFatal = false ∧
      (ofFault f = .connectionFailed ∨ ofFault f = .communicationFailed)) := by
  cases f with
  | http late _ => cases late <;> simp [ofFault, isFatal]
  | _ => simp [ofFault, isFatal]

def published (actions : List Action) : List Event :=
  actions.filterMap fun
    | .publish e => some e
    | .note _ => none

theorem published_append (as bs : List Action) :
    published (as ++ bs) = published as ++ published bs := List.filterMap_append

namespace Poller

structure Told (before : List Event) (p : Poller) (s : Session) : Prop where
  announced : p.announced = (announcements before).length
  height : ∀ t : Template, p.height < t.height ↔ IsNews before t
  longPolling : s.longPolling = true ↔ .longPollEnabled ∈ before

/-- what a run of the poller does not change -/
structure SameSetup (p q : Poller) : Prop where
  prefs : q.prefs = p.prefs
  retryPause : q.retryPause = p.retryPause
  pollInterval : q.pollInterval = p.pollInterval

section
variable {before : List Event} {p : Poller} {s : Session} {t : Template} {f : Fault}
  {as : List Action}

theorem fail_eq_of_isFatal (p : Poller) (s : Session) (as : List Action)
    (hf : (Event.ofFault f).isFatal = true) :
    p.fail s as f = ⟨{ p with currentWork := none, state := .stopped }, { s with longPollId := none },
      as ++ [.note (.gaveUp f), .publish (Event.ofFault f), .publish .terminated], .giveUp f⟩ :=
  if_pos hf

theorem fail_of_isFatal (p : Poller) (s : Session) (as : List Action)
    (hf : (Event.ofFault f).isFatal = true) :
    published (p.fail s as f).actions = published as ++ [Event.ofFault f, .terminated] ∧
      (p.fail s as f).next = .giveUp f := by
  rw [fail_eq_of_isFatal p s as hf]
  exact ⟨published_append _ _, rfl⟩

theorem fail_of_not_isFatal (hf : (Event.ofFault f).isFatal = false) :
    p.fail s as f = ⟨{ p with currentWork := none }, { s with longPollId := none },
      as ++ [.note (.retries f (p.retryPause / 1000)), .publish (Event.ofFault f)], .backOff⟩ := by
  unfold fail
  dsimp only
  rw [if_neg (by rw [hf]; exact Bool.false_ne_true)]

theorem fail_setup : SameSetup p (p.fail s as f).poller := by
  unfold fail
  dsimp only
  split <;> exact ⟨rfl, rfl, rfl⟩

theorem accept_setup {q : Poller} {told : List Action} (h : p.accept t = .ok (q, told)) :
    SameSetup p q := by
  unfold accept at h
  split at h
  · split at h
    · cases h
    · cases h
      exact ⟨rfl, rfl, rfl⟩
  · cases h
    exact ⟨rfl, rfl, rfl⟩

theorem react_setup (a : Answer) : SameSetup p (p.react s a).poller := by
  cases a with
  | failure f => exact fail_setup
  | template t =>
    unfold react
    dsimp only
    split
    · exact fail_setup
    · rename_i q told e
      split <;> exact accept_setup e

namespace Told

variable (h : Told before p s)
include h

theorem published_greeting : published (greeting s t) = opening before t := by
  have hcond : (t.usableId.isSome && !s.longPolling) = true ↔
      t.usableId.isSome ∧ .longPollEnabled ∉ before := by
    rw [Bool.and_eq_true, Bool.not_eq_true', ← Bool.not_eq_true, h.longPolling]
  unfold greeting opening
  by_cases hc : t.usableId.isSome ∧ .longPollEnabled ∉ before
  · rw [if_pos (hcond.2 hc), if_pos hc]
    rfl
  · rw [if_neg (mt hcond.1 hc), if_neg hc]
    rfl

/-- a round that announces nothing leaves what is remembered of announcements -/
theorem of_quiet {round : List Event} {a : Answer} {q : Poller} {s' : Session}
    (hr : Round p.prefs before a round) (hnone : announcements round = [])
    (hann : q.announced = p.announced) (hheight : q.height = p.height)
    (hs : s'.longPolling = true ↔ s.longPolling = true ∨ a.HasId) :
    Told (before ++ round) q s' where
  announced := by rw [hann, h.announced, announcements_append, hnone, List.append_nil]
  height t := by
    rw [hheight, h.height, IsNews, IsNews, announcements_append, hnone, List.append_nil]
  longPolling := by
    rw [hs, h.longPolling, List.mem_append, hr.mem_enabled_iff]
    by_cases hb : .longPollEnabled ∈ before <;> simp [hb]

theorem of_news {round : List Event} {q : Poller} {s' : Session} {item : WorkItem}
    (hr : Round p.prefs before (.template t) round) (hnews : IsNews before t)
    (hitem : announcements round = [item]) (hw : item.work.height = t.height)
    (hann : q.announced = p.announced + 1) (hheight : q.height = t.height)
    (hs : s'.longPolling = true ↔ s.longPolling = true ∨ (Answer.template t).HasId) :
    Told (before ++ round) q s' where
  announced := by
    rw [hann, h.announced, announcements_append, hitem, List.length_append]
    rfl
  height t' := by
    rw [hheight, IsNews, announcements_append, hitem]
    constructor
    · intro hlt
      refine ⟨UInt64.lt_trans hnews.1 hlt, fun old hold => ?_⟩
      rcases List.mem_append.1 hold with hold | hold
      · exact UInt64.lt_trans (hnews.2 old hold) hlt
      · rw [List.mem_singleton.1 hold, hw]
        exact hlt
    · rintro ⟨-, habove⟩
      rw [← hw]
      exact habove item (List.mem_append_right _ (List.mem_singleton.2 rfl))
  longPolling := by
    rw [hs, h.longPolling, List.mem_append, hr.mem_enabled_iff]
    by_cases hb : .longPollEnabled ∈ before <;> simp [hb]

end Told

/-- what an answer does to a poller that has published some events: it makes it publish the round
of that answer, and then the poller has come to its end or goes on remembering -/
structure Reacts (before : List Event) (p : Poller) (a : Answer) (r : Reaction) : Prop where
  round : Round p.prefs before a (published r.actions)
  ends_iff : .terminated ∈ published r.actions ↔ ∃ f, r.next = .giveUp f
  told : .terminated ∉ published r.actions → Told (before ++ published r.actions) r.poller r.session
  state : .terminated ∉ published r.actions → r.poller.state = p.state

theorem hasId_iff : (Answer.template t).HasId ↔ t.usableId.isSome := by
  constructor
  · rintro ⟨t', e, hid⟩
    obtain rfl := Answer.template.inj e
    exact hid
  · intro hid
    exact ⟨t, rfl, hid⟩

theorem not_hasId (f : Fault) : ¬ (Answer.failure f).HasId := by
  rintro ⟨t, e, -⟩
  cases e

/-- what a template does that is not malformed -/
theorem react_of_accept {q : Poller} {told : List Action} (e : p.accept t = .ok (q, told)) :
    (p.react s (.template t)).poller = q ∧
    published (p.react s (.template t)).actions
      = published (greeting s t) ++ published told ++ closing t ∧
    (∀ f, (p.react s (.template t)).next ≠ .giveUp f) ∧
    ((p.react s (.template t)).session.longPolling = true ↔
      s.longPolling = true ∨ (Answer.template t).HasId) := by
  rw [hasId_iff, ← Bool.or_eq_true]
  unfold react
  dsimp only
  rw [e]
  cases hid : t.usableId with
  | none =>
    refine ⟨rfl, ?_, fun f => by nofun, Iff.rfl⟩
    rw [published_append, published_append, closing, if_pos hid]
    rfl
  | some id =>
    refine ⟨rfl, ?_, fun f => by nofun, Iff.rfl⟩
    rw [published_append, closing, if_neg (by rw [hid]; nofun), List.append_nil]

namespace Told

variable (h : Told before p s)
include h

theorem reacts_failure (f : Fault) : Reacts before p (.failure f) (p.react s (.failure f)) := by
  show Reacts before p (.failure f) (p.fail s [] f)
  rcases Event.ofFault_cases f with ⟨hf, he⟩ | ⟨hf, he⟩
  · obtain ⟨hp, hnext⟩ := fail_of_isFatal p s [] hf
    have hend : .terminated ∈ published (p.fail s [] f).actions := by
      rw [hp]
      exact List.mem_append_right _ (by simp)
    refine ⟨?_, iff_of_true hend ⟨f, hnext⟩, fun hlive => absurd hend hlive,
      fun hlive => absurd hend hlive⟩
    rw [hp]
    exact .final rfl he
  · rw [fail_of_not_isFatal hf]
    have hround : Round p.prefs before (.failure f) [Event.ofFault f] := .passing rfl he
    have hlive : .terminated ∉ [Event.ofFault f] := by
      rcases he with he | he <;> rw [he] <;> decide
    have hnone : announcements [Event.ofFault f] = [] := by
      rcases he with he | he <;> rw [he] <;> rfl
    refine ⟨hround, iff_of_false hlive ?_, fun _ => h.of_quiet hround hnone rfl rfl ?_,
      fun _ => rfl⟩
    · rintro ⟨f', e⟩
      cases e
    · exact (or_iff_left (not_hasId f)).symm

theorem reacts_malformed {f : InputFault} (hnews : IsNews before t)
    (hw : Work.ofTemplate t p.prefs = .error f) :
    Reacts before p (.template t) (p.react s (.template t)) := by
  have e : p.accept t = .error f := by
    unfold accept
    rw [if_pos ((h.height t).2 hnews), hw]
  obtain ⟨s', hreact⟩ : ∃ s', p.react s (.template t) = p.fail s' (greeting s t) (.input f) := by
    refine ⟨{ s with longPolling := s.longPolling || t.usableId.isSome }, ?_⟩
    unfold react
    dsimp only
    rw [e]
  obtain ⟨hp, hnext⟩ := fail_of_isFatal p s' (greeting s t) (f := .input f) rfl
  rw [hreact]
  rw [h.published_greeting] at hp
  have hend : .terminated ∈ opening before t ++ [Event.ofFault (.input f), .terminated] :=
    List.mem_append_right _ (by simp)
  rw [← hp] at hend
  refine ⟨?_, iff_of_true hend ⟨_, hnext⟩, fun hlive => absurd hend hlive,
    fun hlive => absurd hend hlive⟩
  rw [hp]
  exact .malformed hnews hw

theorem reacts_quiet (hnews : ¬ IsNews before t) :
    Reacts before p (.template t) (p.react s (.template t)) := by
  have e : p.accept t = .ok (p, []) := by
    unfold accept
    rw [if_neg (mt (h.height t).1 hnews)]
  obtain ⟨hq, hp, hnext, hs⟩ := react_of_accept (s := s) e
  rw [h.published_greeting, show published [] = [] from rfl, List.append_nil] at hp
  have hround : Round p.prefs before (.template t) (opening before t ++ closing t) := .quiet hnews
  refine ⟨?_, ?_, fun _ => ?_, fun _ => by rw [hq]⟩
  · rw [hp]
    exact hround
  · rw [hp, List.mem_append]
    refine iff_of_false ?_ ?_
    · rw [not_or]
      exact ⟨terminated_notMem_opening before t, terminated_notMem_closing t⟩
    · rintro ⟨f, hf⟩
      exact hnext f hf
  · rw [hp]
    refine h.of_quiet hround ?_ (by rw [hq]) (by rw [hq]) hs
    rw [announcements_append, announcements_opening, announcements_closing]
    rfl

theorem reacts_news {w : Work} (hnews : IsNews before t)
    (hw : Work.ofTemplate t p.prefs = .ok w) :
    Reacts before p (.template t) (p.react s (.template t)) := by
  have e : p.accept t = .ok ({ p with
        currentWork := some ⟨p.announced, w⟩
        height := t.height
        announced := p.announced + 1 },
      [.publish .tipMoved, .note (.tip t.height), .publish (.newWork ⟨p.announced, w⟩)]) := by
    unfold accept
    rw [if_pos ((h.height t).2 hnews), hw]
  obtain ⟨hq, hp, hnext, hs⟩ := react_of_accept (s := s) e
  have htold : published [.publish .tipMoved, .note (.tip t.height),
      .publish (.newWork ⟨p.announced, w⟩)]
        = [.tipMoved, .newWork ⟨(announcements before).length, w⟩] := by
    rw [← h.announced]
    rfl
  rw [h.published_greeting, htold] at hp
  have hround : Round p.prefs before (.template t) (opening before t ++
      [.tipMoved, .newWork ⟨(announcements before).length, w⟩] ++ closing t) := .news hnews hw
  refine ⟨?_, ?_, fun _ => ?_, fun _ => by rw [hq]⟩
  · rw [hp]
    exact hround
  · rw [hp, List.mem_append, List.mem_append]
    refine iff_of_false ?_ ?_
    · rw [not_or, not_or]
      exact ⟨⟨terminated_notMem_opening before t, by simp⟩, terminated_notMem_closing t⟩
    · rintro ⟨f, hf⟩
      exact hnext f hf
  · rw [hp, hq]
    have hitem : announcements (opening before t ++
        [.tipMoved, .newWork ⟨(announcements before).length, w⟩] ++ closing t)
          = [⟨(announcements before).length, w⟩] := by
      rw [announcements_append, announcements_append, announcements_opening,
        announcements_closing]
      rfl
    exact h.of_news hround hnews hitem (height_of_ofTemplate hw) rfl rfl hs

theorem reacts (a : Answer) : Reacts before p a (p.react s a) := by
  cases a with
  | failure f => exact h.reacts_failure f
  | template t =>
    by_cases hnews : IsNews before t
    · cases hw : Work.ofTemplate t p.prefs with
      | error f => exact h.reacts_malformed hnews hw
      | ok w => exact h.reacts_news hnews hw
    · exact h.reacts_quiet hnews

end Told

theorem told_make (prefs : Preferences) (retryPause pollInterval : Nat) :
    Told [] (make prefs retryPause pollInterval) .fresh where
  announced := rfl
  height t := by
    refine ⟨fun hlt => ⟨hlt, fun item hitem => ?_⟩, fun hnews => hnews.1⟩
    cases hitem
  longPolling := by simp [Session.fresh]

end

end Poller

end CycleMiner
