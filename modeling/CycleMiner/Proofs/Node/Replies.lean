import CycleMiner.Node.Source
import CycleMiner.Proofs.Node.Results
import CycleMiner.Proofs.Poller.CurrentWork
import CycleMiner.Proofs.Poller.Requests

/-!
# What a node's reply makes of a poller

A reply that gives no template, but for the statuses 401 and 403, is a fault that passes.  So a node
stops a poller only by one of the two statuses, or by a template above the last height whose
contents are malformed.

* `templateOf_eq_ok_iff`, `templateOf_reply_error`   when there is a template, and which fault there
  is otherwise;
* `Delivery.Stops`, `Answer.leads_ofDelivery_iff`   the deliveries that stop a poller;
* `Poller.runFrom_failed`   what a run fails by is the answer to its last request;
* `stopped_by_refusals_only`   what therefore stops a poller that asks a node.
-/

namespace CycleMiner

section
variable {d : Delivery} {f : Fault} {status : Nat} {text : Option String}

theorem templateOf_eq_ok_iff {t : Template} : templateOf d = .ok t ↔
    ∃ result, resultOf "getblocktemplate" d = .ok result ∧ Template.ofJson result = .ok t := by
  unfold templateOf
  cases resultOf "getblocktemplate" d with
  | error f => exact iff_of_false nofun fun ⟨_, h, _⟩ => nomatch h
  | ok result =>
    dsimp only
    cases hresult : Template.ofJson result with
    | error f =>
      refine iff_of_false nofun ?_
      rintro ⟨_, h, ht⟩
      cases h
      rw [hresult] at ht
      cases ht
    | ok t' => simp [Except.mapError, hresult]

/-- what gives no template gives no result, or one that is no template -/
theorem templateOf_error_cases (h : templateOf d = .error f) :
    resultOf "getblocktemplate" d = .error f ∨
      (∃ result, resultOf "getblocktemplate" d = .ok result) ∧ ∃ g, f = .protocol g := by
  unfold templateOf at h
  cases hresult : resultOf "getblocktemplate" d with
  | error f' =>
    rw [hresult] at h
    cases h
    exact .inl rfl
  | ok result =>
    rw [hresult] at h
    dsimp only at h
    cases ht : Template.ofJson result with
    | error g =>
      rw [ht] at h
      cases h
      exact .inr ⟨⟨result, rfl⟩, _, rfl⟩
    | ok t =>
      rw [ht] at h
      cases h

theorem templateOf_reply_error (h401 : status ≠ 401) (h403 : status ≠ 403)
    (h : templateOf (.reply status text) = .error f) :
    ((∃ v, text.bind Json.parse? = some v ∧ v.ReportsError) ∧ ∃ code reason, f = .rpc code reason) ∨
    ((¬ ∃ v, text.bind Json.parse? = some v ∧ v.ReportsError) ∧ ∃ g, f = .protocol g) := by
  rcases templateOf_error_cases h with h | ⟨⟨result, hresult⟩, g, rfl⟩
  · exact resultOf_error_cases h401 h403 h
  · obtain ⟨v, hv, hreports, -⟩ := resultOf_eq_ok_iff.1 hresult
    rw [json?_reply h401 h403] at hv
    refine .inr ⟨fun ⟨v', hv', hr⟩ => hreports ?_, g, rfl⟩
    rw [hv] at hv'
    exact Option.some.inj hv' ▸ hr

end

/-! ## what stops a poller -/

/-- what becomes of a request stops a poller of this height, because of a fault -/
inductive Delivery.Stops (prefs : Preferences) (height : UInt64) : Delivery → Fault → Prop
  | credentials (text : Option String) :
    Stops prefs height (.reply 401 text) (.authentication "RPC credentials rejected")
  | permission (text : Option String) :
    Stops prefs height (.reply 403 text) (.permission "RPC access forbidden")
  | contents {d : Delivery} {t : Template} {g : InputFault} (ht : templateOf d = .ok t)
    (habove : height < t.height) (hg : Work.ofTemplate t prefs = .error g) :
    Stops prefs height d (.input g)

section
variable {prefs : Preferences} {height : UInt64} {d : Delivery} {f : Fault} {a : Answer}

theorem Answer.leads_eq_giveUp_iff : a.leads prefs height = .giveUp f ↔
    a.fault? prefs height = some f ∧ (Event.ofFault f).isFatal = true := by
  unfold leads
  cases a.fault? prefs height with
  | none =>
    refine iff_of_false (fun h => ?_) nofun
    dsimp only at h
    split at h <;> cases h
  | some f' =>
    dsimp only
    constructor
    · intro h
      split at h
      · cases h
        exact ⟨rfl, ‹_›⟩
      · cases h
    · rintro ⟨h, hf⟩
      cases h
      exact if_pos hf

/-- what becomes of a request to a node stops a poller exactly by one of the two statuses or by
malformed contents -/
theorem Answer.leads_ofDelivery_iff :
    (Answer.ofDelivery d).leads prefs height = .giveUp f ↔ d.Stops prefs height f := by
  rw [leads_eq_giveUp_iff, Event.isFatal_ofFault]
  constructor
  · rintro ⟨h, hf⟩
    cases ht : templateOf d with
    | ok t =>
      rw [ofDelivery, ht, fault?] at h
      split at h
      · rename_i habove
        split at h
        · rename_i g hg
          cases h
          exact .contents ht habove hg
        · cases h
      · cases h
    | error f' =>
      rw [ofDelivery, ht] at h
      obtain rfl := Option.some.inj h
      cases d with
      | unreachable text =>
        cases ht
        simp at hf
      | broken text =>
        cases ht
        simp at hf
      | reply status text =>
        by_cases h401 : status = 401
        · subst h401
          cases ht
          exact .credentials text
        by_cases h403 : status = 403
        · subst h403
          cases ht
          exact .permission text
        rcases templateOf_reply_error h401 h403 ht with ⟨-, code, reason, rfl⟩ | ⟨-, g, rfl⟩ <;>
          simp at hf
  · rintro (_ | _ | ⟨ht, habove, hg⟩)
    · exact ⟨rfl, by simp⟩
    · exact ⟨rfl, by simp⟩
    · refine ⟨?_, by simp⟩
      rw [ofDelivery, ht, fault?, if_pos habove, hg]

end

namespace Poller

section
variable {c : Clock} {p : Poller} {s : Session} {now time due : Nat} {a : Answer} {f : Fault}
  {reply : Reply} {r : PollerRun} {before : List Moment}

theorem pause_ends (h : pause c before p s time due = .ends r) : r.outcome ≠ .failed f := by
  unfold pause at h
  dsimp only at h
  split at h <;> cases h <;> nofun

theorem answered_ends (h : answered c p s time a = .ends r) (hr : r.outcome = .failed f) :
    (p.react s a).next = .giveUp f := by
  unfold answered at h
  dsimp only at h
  split at h
  · rename_i f' hnext
    cases h
    cases hr
    exact hnext
  · cases h
  · exact absurd hr (pause_ends h)
  · exact absurd hr (pause_ends h)

/-- a run that fails at a request fails by the answer to it -/
theorem request_ends (h : request c p s now reply = .ends r) (hr : r.outcome = .failed f) :
    ∃ delay a, reply = .answer delay a ∧ a.leads p.prefs p.height = .giveUp f := by
  cases reply with
  | shutdown =>
    cases h
    cases hr
  | answer delay a =>
    refine ⟨delay, a, rfl, ?_⟩
    rw [request, await] at h
    split at h
    · cases h
      cases hr
    · cases h
      cases hr
    · exact (heeds p s a).next ▸ answered_ends h hr

/-- a run ends at a request without another one, or it goes on from where the answer leaves it -/
theorem request_turns (c : Clock) (p : Poller) (s : Session) (now : Nat) (reply : Reply) :
    (∃ r, request c p s now reply = .ends r ∧ r.requests = 0) ∨
    ∃ delay a ms q s' later, reply = .answer delay a ∧
      request c p s now reply = .goesOn ms q s' later ∧
      requestsIn ms = 0 ∧ q.prefs = p.prefs ∧ q.height = a.raise p.height := by
  rcases request_or_answered c p s now reply with ⟨r, e, hends, -⟩ | ⟨delay, a, time, rfl, e⟩
  · exact .inl ⟨r, e, hends.requests⟩
  · rw [e]
    rcases answered_cases c p s time a with
      ⟨r, e, hends, -⟩ | ⟨ms, q, later, e, hgoes, hnext, -⟩
    · exact .inl ⟨r, e, hends.requests⟩
    · refine .inr ⟨delay, a, ms, q, _, later, rfl, e, hgoes.requests, ?_, ?_⟩
      · exact hgoes.setup.prefs.trans (react_setup a).prefs
      · exact hgoes.height.trans ((heeds p s a).live hnext).2

/-- a run that fails has failed by the answer to its last request -/
theorem runFrom_failed {answers : List (Nat × Answer)}
    (h : (runFrom c p s now (answers.map Poller.reply)).outcome = .failed f) :
    ∃ front x back, answers = front ++ x :: back ∧
      (runFrom c p s now (answers.map Poller.reply)).requests = front.length + 1 ∧
      x.2.leads p.prefs (tip p.height (front.map (·.2))) = .giveUp f := by
  -- while a run goes on, the poller has the height that the answers so far have led to
  induction answers generalizing p s now with
  | nil =>
    by_cases hs : p.state = .stopped
    · rw [List.map_nil, runFrom_of_stopped hs] at h
      cases h
    · rw [List.map_nil, runFrom, if_neg hs] at h
      dsimp only [PollerRun.after] at h
      split at h <;> cases h
  | cons x answers ih =>
    by_cases hs : p.state = .stopped
    · rw [runFrom_of_stopped hs] at h
      cases h
    rw [List.map_cons, runFrom_cons hs] at h ⊢
    rcases request_turns c { p with state := .polling } s now (Poller.reply x) with
      ⟨r, e, hrequests⟩ | ⟨delay, a, ms, q, s', later, hx, e, hms, hprefs, hheight⟩
    · rw [e] at h ⊢
      obtain ⟨delay, a, hx, hleads⟩ := request_ends e h
      cases hx
      refine ⟨[], x, answers, rfl, ?_, hleads⟩
      rw [PollerRun.requests_after, hrequests]
      rfl
    · rw [e] at h ⊢
      cases hx
      obtain ⟨front, y, back, rfl, hrequests, hleads⟩ := ih h
      rw [hprefs, hheight] at hleads
      refine ⟨x :: front, y, back, rfl, ?_, hleads⟩
      rw [PollerRun.requests_after, PollerRun.requests_after, hms, hrequests, Nat.zero_add,
        Nat.add_comm]
      rfl

end

end Poller

/-- Of what a node replies, the status 401 is a fault of the credentials and 403 one of permission;
any other reply is a template exactly if it is an object with one and without an error, and
otherwise a fault that passes, of the node if it tells of an error.  So whatever a poller is
replied, and whenever it is shut down or given up, it stops for good only by one of the two statuses
or by a template above the height so far whose contents are malformed. -/
theorem stopped_by_refusals_only :
    (∀ text, templateOf (.reply 401 text) = .error (.authentication "RPC credentials rejected")) ∧
    (∀ text, templateOf (.reply 403 text) = .error (.permission "RPC access forbidden")) ∧
    (∀ status text, status ≠ 401 → status ≠ 403 →
      (∀ t, templateOf (.reply status text) = .ok t ↔ ∃ members result,
        text.bind Json.parse? = some (.object members) ∧ ¬ (Json.object members).ReportsError ∧
        (Json.object members).member? "result" = some result ∧ Template.ofJson result = .ok t) ∧
      (∀ f, templateOf (.reply status text) = .error f →
        Event.ofFault f = .communicationFailed ∧ (Event.ofFault f).isFatal = false ∧
        ((∃ v, text.bind Json.parse? = some v ∧ v.ReportsError) ∧
            (∃ code reason, f = .rpc code reason) ∨
          (¬ ∃ v, text.bind Json.parse? = some v ∧ v.ReportsError) ∧ ∃ g, f = .protocol g))) ∧
    (∀ (c : Clock) (p : Poller) (exchanges : List (Nat × Delivery)) (f : Fault),
      let r := p.run c (exchanges.map fun x => .answer x.1 (.ofDelivery x.2))
      r.outcome = .failed f → ∃ front x back, exchanges = front ++ x :: back ∧
        r.requests = front.length + 1 ∧
        x.2.Stops p.prefs (tip p.height (front.map fun x => .ofDelivery x.2)) f) := by
  refine ⟨fun _ => rfl, fun _ => rfl, fun status text h401 h403 => ⟨fun t => ?_, fun f h => ?_⟩, ?_⟩
  · rw [templateOf_eq_ok_iff]
    constructor
    · rintro ⟨result, hresult, ht⟩
      obtain ⟨v, hv, hreports, hmember⟩ := resultOf_eq_ok_iff.1 hresult
      rw [json?_reply h401 h403] at hv
      obtain ⟨members, rfl⟩ := Json.eq_object_of_member? hmember
      exact ⟨members, result, hv, hreports, hmember, ht⟩
    · rintro ⟨members, result, hv, hreports, hmember, ht⟩
      rw [← json?_reply h401 h403] at hv
      exact ⟨result, resultOf_eq_ok_iff.2 ⟨_, hv, hreports, hmember⟩, ht⟩
  · have hcases := templateOf_reply_error h401 h403 h
    have hevent : Event.ofFault f = .communicationFailed := by
      rcases hcases with ⟨-, code, reason, rfl⟩ | ⟨-, g, rfl⟩ <;> rfl
    refine ⟨hevent, ?_, hcases⟩
    rw [hevent]
    rfl
  · intro c p exchanges f r h
    have hreplies : exchanges.map (fun x => Reply.answer x.1 (.ofDelivery x.2))
        = (exchanges.map fun x => (x.1, Answer.ofDelivery x.2)).map Poller.reply := by
      rw [List.map_map]
      rfl
    have hfailed : (p.runFrom c .fresh 0
        ((exchanges.map fun x => (x.1, Answer.ofDelivery x.2)).map Poller.reply)).outcome
          = .failed f := by
      rw [← hreplies]
      exact h
    obtain ⟨front, y, back, hsplit, hrequests, hleads⟩ := Poller.runFrom_failed hfailed
    obtain ⟨front, rest, rfl, rfl, hrest⟩ := List.map_eq_append_iff.1 hsplit
    obtain ⟨x, back, rfl, rfl, -⟩ := List.map_eq_cons_iff.1 hrest
    rw [← hreplies, List.length_map] at hrequests
    rw [List.map_map] at hleads
    refine ⟨front, x, back, rfl, ?_, Answer.leads_ofDelivery_iff.1 hleads⟩
    exact PollerRun.requests_after.trans ((Nat.zero_add _).trans hrequests)

def RunEnd.fault? : RunEnd → Option Fault
  | .failed f => some f
  | .stopped | .unfinished => none

theorem RunEnd.eq_failed_of_fault? {e : RunEnd} {f : Fault} (h : e.fault? = some f) :
    e = .failed f := by
  cases e with
  | failed f' => exact congrArg RunEnd.failed (Option.some.inj h)
  | _ => cases h

/-- a node that tells of an error, under a status that lets its text count, and then refuses the
credentials -/
def Delivery.busyThenRefused : List (Nat × Delivery) :=
  [(0, .reply 500 (some "\x7b\"error\": \"busy\", \"result\": null\x7d")), (0, .reply 401 none)]

/-- the error passes, and the second reply stops the poller -/
theorem stopped_by_second_reply :
    let r := (Poller.make .bare 10000 5000).run (.calm .exact 100000)
      (Delivery.busyThenRefused.map fun x => .answer x.1 (.ofDelivery x.2))
    r.events = [.communicationFailed, .credentialsRejected, .terminated] ∧
    ∃ front x back, Delivery.busyThenRefused = front ++ x :: back ∧ front.length = 1 ∧
      x.2.Stops .bare (tip 0 (front.map fun x => .ofDelivery x.2))
        (.authentication "RPC credentials rejected") := by
  intro r
  have hevents : r.events = [.communicationFailed, .credentialsRejected, .terminated] := by
    decide +kernel
  have hrequests : r.requests = 2 := by decide +kernel
  have hfault : r.outcome.fault? = some (.authentication "RPC credentials rejected") := by
    decide +kernel
  have hfailed := RunEnd.eq_failed_of_fault? hfault
  obtain ⟨front, x, back, hsplit, hlast, hstops⟩ := stopped_by_refusals_only.2.2.2
    (.calm .exact 100000) (Poller.make .bare 10000 5000) Delivery.busyThenRefused _ hfailed
  exact ⟨hevents, front, x, back, hsplit, Nat.succ.inj (hlast.symm.trans hrequests), hstops⟩

end CycleMiner
