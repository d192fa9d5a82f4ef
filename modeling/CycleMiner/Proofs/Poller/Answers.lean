import CycleMiner.Proofs.Poller.Rounds

/-!
# What an answer leads to

What becomes of a poller with an answer is settled by the answer and by the height of the last work:
whether it gives up, retries, or goes on, at which height, and with which long-poll id.

* `Answer.fault?`    the fault in an answer, of the source or of the template;
* `Answer.leads`     what an answer leads to;
* `tip`              the height that some answers have led to;
* `Poller.accept_cases`   what a template does that is accepted;
* `Poller.react_of_fault?`, `Poller.accept_of_fault?`   an answer fails or is accepted, by its fault;
* `Poller.heeds`     what an answer does to a poller, by what it leads to.
-/

namespace CycleMiner

/-- the fault in an answer to a poller of a given height: the one the source gives, or what is wrong
with a template above that height -/
def Answer.fault? (prefs : Preferences) (height : UInt64) : Answer → Option Fault
  | .failure f => some f
  | .template t =>
    if height < t.height then
      match Work.ofTemplate t prefs with
      | .error f => some (.input f)
      | .ok _ => none
    else none

def Answer.usableId : Answer → Option String
  | .template t => t.usableId
  | .failure _ => none

/-- what an answer leads to: the end after a final fault, a retry after a passing one, and after a
template without a fault the next request, at once if there is a long-poll id -/
def Answer.leads (prefs : Preferences) (height : UInt64) (a : Answer) : Next :=
  match a.fault? prefs height with
  | some f => if (Event.ofFault f).isFatal then .giveUp f else .backOff
  | none => if a.usableId.isSome then .ask else .rest

def Answer.raise (height : UInt64) : Answer → UInt64
  | .template t => if height < t.height then t.height else height
  | .failure _ => height

def tip (height : UInt64) (answers : List Answer) : UInt64 := answers.foldl Answer.raise height

theorem tip_append_singleton (height : UInt64) (answers : List Answer) (a : Answer) :
    tip height (answers ++ [a]) = a.raise (tip height answers) :=
  List.foldl_concat _ _ _ _

namespace Poller

section
variable {p q : Poller} {s : Session} {a : Answer} {t : Template} {f : Fault}
  {told : List Action}

/-- a template that is accepted is either above the last height, and makes the latest work, or it
changes nothing -/
theorem accept_cases (h : p.accept t = .ok (q, told)) :
    (p.height < t.height ∧ ∃ w, Work.ofTemplate t p.prefs = .ok w ∧
      q = { p with
        currentWork := some ⟨p.announced, w⟩
        height := t.height
        announced := p.announced + 1 } ∧
      published told = [.tipMoved, .newWork ⟨p.announced, w⟩]) ∨
    (¬ p.height < t.height ∧ q = p ∧ published told = []) := by
  unfold accept at h
  split at h
  · rename_i hlt
    split at h
    · cases h
    · rename_i w hw
      cases h
      exact .inl ⟨hlt, w, hw, rfl, rfl⟩
  · rename_i hle
    cases h
    exact .inr ⟨hle, rfl, rfl⟩

/-- the fault in a template is what keeps it from being accepted -/
theorem fault?_template (p : Poller) (t : Template) :
    (Answer.template t).fault? p.prefs p.height =
      match p.accept t with
      | .error f => some (.input f)
      | .ok _ => none := by
  rw [Answer.fault?, accept]
  by_cases hlt : p.height < t.height
  · rw [if_pos hlt, if_pos hlt]
    cases Work.ofTemplate t p.prefs with
    | error f => rfl
    | ok w => rfl
  · rw [if_neg hlt, if_neg hlt]

theorem announcements_greeting (s : Session) (t : Template) :
    announcements (published (greeting s t)) = [] := by
  unfold greeting
  split <;> rfl

/-- an answer with a fault fails, be it the fault of the source or of the template, and announces
nothing -/
theorem react_of_fault? (s : Session) (h : a.fault? p.prefs p.height = some f) :
    ∃ s' before, p.react s a = p.fail s' before f ∧ announcements (published before) = [] := by
  cases a with
  | failure f' =>
    obtain rfl := Option.some.inj h
    exact ⟨s, [], rfl, rfl⟩
  | template t =>
    rw [fault?_template] at h
    unfold react
    dsimp only
    cases e : p.accept t with
    | error f' =>
      rw [e] at h
      obtain rfl := Option.some.inj h
      exact ⟨_, _, rfl, announcements_greeting s t⟩
    | ok x =>
      rw [e] at h
      cases h

/-- an answer without a fault is a template that is accepted -/
theorem accept_of_fault? (h : a.fault? p.prefs p.height = none) :
    ∃ t q told, a = .template t ∧ p.accept t = .ok (q, told) := by
  cases a with
  | failure f => cases h
  | template t =>
    rw [fault?_template] at h
    cases e : p.accept t with
    | error f =>
      rw [e] at h
      cases h
    | ok x => exact ⟨t, x.1, x.2, rfl, e⟩

/-- a template that is accepted leaves its long-poll id for the next request -/
theorem react_of_ok (s : Session) (e : p.accept t = .ok (q, told)) :
    (p.react s (.template t)).session.longPollId = t.usableId ∧
    (p.react s (.template t)).next = if t.usableId.isSome then .ask else .rest := by
  unfold react
  dsimp only
  rw [e]
  cases t.usableId with
  | none => exact ⟨rfl, rfl⟩
  | some id => exact ⟨rfl, rfl⟩

/-- what an answer does to a poller of this height: it stops, or it goes on with the height and the
long-poll id that the answer leaves it -/
structure Heeds (p : Poller) (a : Answer) (r : Reaction) : Prop where
  next : r.next = a.leads p.prefs p.height
  stopped : ∀ f, r.next = .giveUp f → r.poller.state = .stopped ∧ r.actions ≠ []
  live : (∀ f, r.next ≠ .giveUp f) →
    r.poller.state = p.state ∧ r.poller.height = a.raise p.height
  longPollId : r.session.longPollId = match r.next with
    | .ask => a.usableId
    | _ => none

theorem heeds (p : Poller) (s : Session) (a : Answer) : Heeds p a (p.react s a) := by
  cases h : a.fault? p.prefs p.height with
  | some f =>
    obtain ⟨s', before, e, -⟩ := react_of_fault? s h
    rw [e]
    rcases Event.ofFault_cases f with ⟨hf, -⟩ | ⟨hf, -⟩
    · rw [fail_eq_of_isFatal p s' before hf]
      refine ⟨?_, fun f' _ => ⟨rfl, by simp⟩, fun hlive => absurd rfl (hlive f), rfl⟩
      rw [Answer.leads, h]
      exact (if_pos hf).symm
    · rw [fail_of_not_isFatal hf]
      refine ⟨?_, by nofun, fun _ => ⟨rfl, ?_⟩, rfl⟩
      · rw [Answer.leads, h]
        exact (if_neg (by rw [hf]; exact Bool.false_ne_true)).symm
      · -- a template at fault ends the run, so this is a failure, which leaves the height
        cases a with
        | failure f' => rfl
        | template t =>
          rw [fault?_template] at h
          split at h
          · obtain rfl := Option.some.inj h
            cases hf
          · cases h
  | none =>
    obtain ⟨t, q, told, rfl, e⟩ := accept_of_fault? h
    obtain ⟨hq, -, -, -⟩ := react_of_accept (s := s) e
    obtain ⟨hid, hnext⟩ := react_of_ok s e
    have hleads : (p.react s (.template t)).next = (Answer.template t).leads p.prefs p.height := by
      rw [hnext, Answer.leads, h]
      rfl
    refine ⟨hleads, fun f hf => ?_, fun _ => ?_, ?_⟩
    · rw [hnext] at hf
      split at hf <;> cases hf
    · rw [hq, Answer.raise]
      rcases accept_cases e with ⟨hlt, w, -, rfl, -⟩ | ⟨hle, rfl, -⟩
      · exact ⟨rfl, (if_pos hlt).symm⟩
      · exact ⟨rfl, (if_neg hle).symm⟩
    · rw [hid, hnext]
      cases hu : t.usableId with
      | none => rfl
      | some id => exact hu.symm

end

end Poller

end CycleMiner
