import CycleMiner.Event.Exchange
import Mathlib.Data.List.Basic
import Mathlib.Data.List.Induction

/-!
# Listeners of a bus

Whatever is done with buses, a listener that is still there has been given what was published on its
bus since it subscribed, and the bus lists the listeners that were there when the last event was
published, and those that have come since.

* `living`            who has subscribed and not gone away;
* `Bus.numbers`       the mailboxes of a kind, in the order of subscription;
* `Bus.handed`        the events that the owner of a mailbox takes out;
* `Bus.Sound`         a mailbox whose owner is there is listed;
* `Bus.numbers_alive`, `Bus.listing_publish`   who is there, and who is listed after an event;
* `Bus.listeners_of_quiet`   how many are listed while nothing is published;
* `Bus.given`         what has been given to a listener that is there;
* `Exchange.history`  what is done with one bus, through whichever handle;
* `Exchange.bus_run`  a bus is what its own history makes of it;
* `delivered_to_each_listener`   what therefore holds of every bus.
-/

namespace CycleMiner

/-! ## what is done with a bus -/

def BusAct.event? : BusAct → Option Event
  | .publish e => some e
  | _ => none

def publishedIn (as : List BusAct) : List Event := as.filterMap BusAct.event?

/-- how many have subscribed, and the numbers of those who are there, in the order of subscription -/
def attend (s : Nat × List Nat) : BusAct → Nat × List Nat
  | .subscribe => (s.1 + 1, s.2 ++ [s.1])
  | .drop i => (s.1, s.2.filter (· ≠ i))
  | .publish _ | .take _ => s

/-- the numbers of those who have subscribed and not gone away, in the order of subscription -/
def living (as : List BusAct) : List Nat := (as.foldl attend (0, [])).2

def Quiet (as : List BusAct) : Prop := ∀ e, .publish e ∉ as

theorem publishedIn_concat (as : List BusAct) (a : BusAct) :
    publishedIn (as ++ [a]) = publishedIn as ++ a.event?.toList := by
  rw [publishedIn, List.filterMap_append]
  cases a <;> rfl

section
variable {as : List BusAct} {i : Nat}

theorem foldl_attend (as : List BusAct) :
    as.foldl attend (0, []) = (as.count .subscribe, living as) := by
  have hcount : (as.foldl attend (0, [])).1 = as.count .subscribe := by
    induction as using List.reverseRecOn with
    | nil => rfl
    | append_singleton as a ih =>
      rw [List.foldl_concat, List.count_append, ← ih]
      cases a <;> rfl
  exact Prod.ext hcount rfl

theorem living_concat (as : List BusAct) (a : BusAct) :
    living (as ++ [a]) = (attend (as.count .subscribe, living as) a).2 := by
  rw [living, List.foldl_concat, foldl_attend]

/-- the living are those who have subscribed and not gone away since -/
theorem mem_living_iff : i ∈ living as ↔ ∃ before after,
    as = before ++ .subscribe :: after ∧ before.count .subscribe = i ∧ .drop i ∉ after := by
  constructor
  · intro h
    induction as using List.reverseRecOn with
    | nil => exact absurd h List.not_mem_nil
    | append_singleton as a ih =>
      have hstays : i ∈ living as → a ≠ .drop i → ∃ before after, as ++ [a] =
          before ++ .subscribe :: after ∧ before.count .subscribe = i ∧ .drop i ∉ after := by
        intro hi ha
        obtain ⟨before, after, rfl, hcount, hdrop⟩ := ih hi
        refine ⟨before, after ++ [a], List.append_assoc .., hcount, fun hmem => ?_⟩
        rcases List.mem_append.1 hmem with hmem | hmem
        · exact hdrop hmem
        · exact ha (List.mem_singleton.1 hmem).symm
      rw [living_concat] at h
      cases a with
      | subscribe =>
        rcases List.mem_append.1 h with h | h
        · exact hstays h nofun
        · exact ⟨as, [], rfl, (List.mem_singleton.1 h).symm, List.not_mem_nil⟩
      | drop j =>
        obtain ⟨hi, hne⟩ := List.mem_filter.1 h
        exact hstays hi fun e => of_decide_eq_true hne (BusAct.drop.inj e).symm
      | publish e => exact hstays h nofun
      | take j => exact hstays h nofun
  · rintro ⟨before, after, rfl, rfl, hdrop⟩
    induction after using List.reverseRecOn with
    | nil =>
      rw [living_concat]
      exact List.mem_append_right _ (List.mem_singleton.2 rfl)
    | append_singleton after a ih =>
      have hi := ih fun hmem => hdrop (List.mem_append_left _ hmem)
      rw [← List.cons_append, ← List.append_assoc, living_concat]
      cases a with
      | subscribe => exact List.mem_append_left _ hi
      | drop j =>
        refine List.mem_filter.2 ⟨hi, decide_eq_true ?_⟩
        rintro rfl
        exact hdrop (List.mem_append_right _ (List.mem_singleton.2 rfl))
      | publish e => exact hi
      | take j => exact hi

end

def Mailbox.act (box : Nat) (m : Mailbox) : BusAct → Mailbox
  | .subscribe => m
  | .publish e => m.deliver e
  | .drop i => if i = box then { m with queue := [], alive := false } else m
  | .take i => if i = box then { m with queue := m.queue.tail } else m

section
variable {m : Mailbox} {e : Event}

theorem Mailbox.alive_deliver (m : Mailbox) (e : Event) : (m.deliver e).alive = m.alive := by
  unfold deliver
  split
  · split <;> rfl
  · rfl

theorem Mailbox.listed_deliver (h : m.alive = true → m.listed = true) (e : Event) :
    (m.deliver e).listed = m.alive := by
  unfold deliver
  cases halive : m.alive with
  | true =>
    rw [if_pos (h halive), if_pos rfl]
    exact h halive
  | false =>
    split
    · rfl
    · rename_i hlisted
      exact Bool.eq_false_iff.2 hlisted

theorem Mailbox.alive_act_of_ne {box : Nat} (m : Mailbox) (a : BusAct) (h : a ≠ .drop box) :
    (m.act box a).alive = m.alive := by
  cases a with
  | subscribe => rfl
  | publish e => exact m.alive_deliver e
  | drop i =>
    rw [act, if_neg]
    rintro rfl
    exact h rfl
  | take i =>
    rw [act]
    split <;> rfl

theorem Mailbox.listed_act_of_alive (h : m.alive = true → m.listed = true) (box : Nat) (a : BusAct)
    (ha : (m.act box a).alive = true) : (m.act box a).listed = true := by
  cases a with
  | subscribe => exact h ha
  | publish e => exact (listed_deliver h e).trans ((m.alive_deliver e).symm.trans ha)
  | drop i =>
    rw [act] at ha ⊢
    split at ha
    · cases ha
    · rename_i hne
      rw [if_neg hne]
      exact h ha
  | take i =>
    rw [act] at ha ⊢
    split at ha
    · rename_i heq
      rw [if_pos heq]
      exact h ha
    · rename_i hne
      rw [if_neg hne]
      exact h ha

end

namespace Bus

def numbers (p : Mailbox → Bool) (b : Bus) : List Nat :=
  (List.range b.boxes.length).filter fun i => b.boxes[i]?.any p

def listing (b : Bus) : List Nat := b.numbers (·.listed)

/-- the event that an act gives to the owner of a mailbox -/
def hands (b : Bus) (box : Nat) : BusAct → Option Event
  | .take i => if i = box then (b.waiting? box).bind List.head? else none
  | _ => none

def handed (box : Nat) : Bus → List BusAct → List Event
  | _, [] => []
  | b, a :: as => (b.hands box a).toList ++ handed box (b.act a) as

/-- a mailbox whose owner is there is listed -/
def Sound (b : Bus) : Prop :=
  ∀ (i : Nat) (m : Mailbox), b.boxes[i]? = some m → m.alive = true → m.listed = true

section
variable {b : Bus} {a : BusAct} {as : List BusAct} {i : Nat} {m : Mailbox} {p : Mailbox → Bool}

theorem acts_concat (b : Bus) (as : List BusAct) (a : BusAct) :
    b.acts (as ++ [a]) = (b.acts as).act a := List.foldl_concat _ _ _ _

theorem acts_append (b : Bus) (as bs : List BusAct) : b.acts (as ++ bs) = (b.acts as).acts bs :=
  List.foldl_append

/-! ### one act -/

theorem length_act (b : Bus) (a : BusAct) :
    (b.act a).boxes.length = b.boxes.length + [a].count .subscribe := by
  cases a with
  | subscribe => exact List.length_append
  | publish e => exact b.length_publish e
  | drop i => exact List.length_modify ..
  | take i => exact List.length_modify ..

theorem getElem?_act (h : b.boxes[i]? = some m) (a : BusAct) :
    (b.act a).boxes[i]? = some (m.act i a) := by
  cases a with
  | subscribe =>
    have hlt : i < b.boxes.length := (List.getElem?_eq_some_iff.1 h).1
    exact (List.getElem?_append_left hlt).trans h
  | publish e =>
    show (b.boxes.map (·.deliver e))[i]? = _
    rw [List.getElem?_map, h]
    rfl
  | drop j =>
    show (b.boxes.modify j _)[i]? = _
    rw [List.getElem?_modify, h, Mailbox.act]
    split <;> rfl
  | take j =>
    show (b.boxes.modify j _)[i]? = _
    rw [List.getElem?_modify, h, Mailbox.act]
    split <;> rfl

theorem getElem?_subscribe (b : Bus) :
    (b.act .subscribe).boxes[b.boxes.length]? = some ⟨[], true, true⟩ :=
  List.getElem?_concat_length

/-- a mailbox after an act was there before, or it is new -/
theorem getElem?_act_cases (h : (b.act a).boxes[i]? = some m) :
    (∃ m₀, b.boxes[i]? = some m₀ ∧ m = m₀.act i a) ∨
      (a = .subscribe ∧ i = b.boxes.length ∧ m = ⟨[], true, true⟩) := by
  cases hb : b.boxes[i]? with
  | some m₀ =>
    rw [getElem?_act hb] at h
    exact .inl ⟨m₀, rfl, (Option.some.inj h).symm⟩
  | none =>
    have hle : b.boxes.length ≤ i := List.getElem?_eq_none_iff.1 hb
    have hlt : i < (b.act a).boxes.length := (List.getElem?_eq_some_iff.1 h).1
    rw [length_act] at hlt
    cases a with
    | subscribe =>
      obtain rfl : i = b.boxes.length := Nat.le_antisymm (Nat.lt_succ_iff.1 hlt) hle
      rw [getElem?_subscribe] at h
      exact .inr ⟨rfl, rfl, (Option.some.inj h).symm⟩
    | _ => exact absurd hlt (Nat.not_lt.2 hle)

theorem Sound.act (h : b.Sound) (a : BusAct) : (b.act a).Sound := by
  intro i m hm
  rcases getElem?_act_cases hm with ⟨m₀, hm₀, rfl⟩ | ⟨-, -, rfl⟩
  · exact Mailbox.listed_act_of_alive (h i m₀ hm₀) i a
  · exact fun _ => rfl

theorem sound_acts (as : List BusAct) : (empty.acts as).Sound := by
  induction as using List.reverseRecOn with
  | nil => exact fun i m hm => absurd hm nofun
  | append_singleton as a ih =>
    rw [acts_concat]
    exact ih.act a

theorem length_acts (as : List BusAct) : (empty.acts as).boxes.length = as.count .subscribe := by
  induction as using List.reverseRecOn with
  | nil => rfl
  | append_singleton as a ih => rw [acts_concat, length_act, ih, List.count_append]

/-! ### who is there, and who is listed -/

theorem length_numbers (p : Mailbox → Bool) (b : Bus) :
    (b.numbers p).length = (b.boxes.filter p).length := by
  obtain ⟨boxes⟩ := b
  induction boxes using List.reverseRecOn with
  | nil => rfl
  | append_singleton boxes m ih =>
    have hfront : (List.range boxes.length).filter (fun i => (boxes ++ [m])[i]?.any p)
        = (List.range boxes.length).filter fun i => boxes[i]?.any p := by
      refine List.filter_congr fun i hi => ?_
      rw [List.getElem?_append_left (List.mem_range.1 hi)]
    have hlast : (boxes ++ [m])[boxes.length]?.any p = p m := by
      rw [List.getElem?_concat_length, Option.any_some]
    rw [numbers, List.length_append, List.length_singleton, List.range_succ, List.filter_append,
      hfront, List.filter_append, List.length_append, List.length_append, List.filter_singleton,
      List.filter_singleton, hlast]
    refine congrArg₂ (· + ·) ih ?_
    cases p m <;> rfl

theorem exists_box (hi : i ∈ List.range b.boxes.length) : ∃ m, b.boxes[i]? = some m :=
  ⟨_, List.getElem?_eq_getElem (List.mem_range.1 hi)⟩

theorem length_listing (b : Bus) : b.listing.length = b.listeners := b.length_numbers _

theorem numbers_act (a : BusAct) (ha : a ≠ .subscribe) (p : Mailbox → Bool) (b : Bus) :
    (b.act a).numbers p
      = (List.range b.boxes.length).filter fun i => b.boxes[i]?.any fun m => p (m.act i a) := by
  have hlength : (b.act a).boxes.length = b.boxes.length := by
    rw [length_act, List.count_singleton, if_neg (by simpa using ha)]
    rfl
  rw [numbers, hlength]
  refine List.filter_congr fun i hi => ?_
  obtain ⟨m, hm⟩ := exists_box hi
  rw [getElem?_act hm, hm]
  rfl

/-- an act that leaves the kind of each mailbox alone -/
theorem numbers_act_of_keeps (a : BusAct) (ha : a ≠ .subscribe) {q : Mailbox → Bool}
    (h : ∀ i m, b.boxes[i]? = some m → p (m.act i a) = q m) : (b.act a).numbers p = b.numbers q := by
  rw [numbers_act a ha]
  refine List.filter_congr fun i hi => ?_
  obtain ⟨m, hm⟩ := exists_box hi
  rw [hm]
  exact h i _ hm

theorem numbers_subscribe (hp : p ⟨[], true, true⟩ = true) (b : Bus) :
    (b.act .subscribe).numbers p = b.numbers p ++ [b.boxes.length] := by
  have hfront : (List.range b.boxes.length).filter
      (fun i => (b.act .subscribe).boxes[i]?.any p) = b.numbers p := by
    refine List.filter_congr fun i hi => ?_
    obtain ⟨m, hm⟩ := exists_box hi
    rw [getElem?_act hm, hm]
    rfl
  rw [numbers, length_act, List.count_singleton_self, List.range_succ, List.filter_append, hfront,
    List.filter_singleton, getElem?_subscribe, Option.any_some, hp]
  rfl

/-- the mailboxes whose owners are there are those of the living -/
theorem numbers_alive (as : List BusAct) : (empty.acts as).numbers (·.alive) = living as := by
  induction as using List.reverseRecOn with
  | nil => rfl
  | append_singleton as a ih =>
    rw [acts_concat, living_concat]
    cases a with
    | subscribe => rw [numbers_subscribe rfl, ih, length_acts, attend]
    | publish e =>
      exact (numbers_act_of_keeps (.publish e) nofun fun i m _ => m.alive_deliver e).trans ih
    | drop j =>
      show _ = (living as).filter (· ≠ j)
      rw [← ih, numbers_act (.drop j) nofun, numbers, List.filter_filter]
      refine List.filter_congr fun i hi => ?_
      obtain ⟨m, hm⟩ := exists_box hi
      rw [hm, Option.any_some, Option.any_some]
      by_cases hij : j = i
      · rw [Mailbox.act, if_pos hij, hij, decide_eq_false (not_not.2 rfl), Bool.false_and]
      · rw [Mailbox.act, if_neg hij, decide_eq_true (Ne.symm hij), Bool.true_and]
    | take j =>
      refine (numbers_act_of_keeps (.take j) nofun fun i m _ => ?_).trans ih
      exact m.alive_act_of_ne (.take j) nofun

/-- after an event the living are listed, in the order of subscription, and nobody else -/
theorem listing_publish (as : List BusAct) (e : Event) :
    ((empty.acts as).publish e).listing = living as := by
  rw [← numbers_alive]
  refine numbers_act_of_keeps (.publish e) nofun fun i m hm => ?_
  exact Mailbox.listed_deliver (sound_acts as i m hm) e

/-- whoever is there is listed -/
theorem living_sublist (as : List BusAct) : (living as).Sublist (empty.acts as).listing := by
  rw [← numbers_alive]
  refine List.monotone_filter_right _ fun i hi => ?_
  obtain ⟨m, hm, halive⟩ := (Option.any_eq_true _ _).1 hi
  rw [hm]
  exact sound_acts as i m hm halive

/-- while nothing is published nobody is struck off -/
theorem listeners_of_quiet (b : Bus) (h : Quiet as) :
    (b.acts as).listeners = b.listeners + as.count .subscribe := by
  induction as using List.reverseRecOn with
  | nil => rfl
  | append_singleton as a ih =>
    have hquiet : Quiet as := fun e he => h e (List.mem_append_left _ he)
    have ha : ∀ e, a ≠ .publish e := fun e he =>
      h e (List.mem_append_right _ (List.mem_singleton.2 he.symm))
    rw [acts_concat, List.count_append, ← Nat.add_assoc, ← ih hquiet, ← length_listing,
      ← length_listing]
    cases a with
    | subscribe =>
      rw [listing, numbers_subscribe rfl]
      exact List.length_append
    | publish e => exact absurd rfl (ha e)
    | drop j =>
      refine congrArg List.length (numbers_act_of_keeps (.drop j) nofun fun i m _ => ?_)
      rw [Mailbox.act]
      split <;> rfl
    | take j =>
      refine congrArg List.length (numbers_act_of_keeps (.take j) nofun fun i m _ => ?_)
      rw [Mailbox.act]
      split <;> rfl

/-! ### what a listener is given -/

theorem handed_concat (box : Nat) (b : Bus) (as : List BusAct) (a : BusAct) :
    b.handed box (as ++ [a]) = b.handed box as ++ ((b.acts as).hands box a).toList := by
  induction as generalizing b with
  | nil => exact List.append_nil _
  | cons a' as ih =>
    rw [List.cons_append, handed, handed, ih, List.append_assoc]
    rfl

/-- nothing is given to one who has not subscribed yet -/
theorem handed_of_count_le (h : as.count .subscribe ≤ i) : empty.handed i as = [] := by
  induction as using List.reverseRecOn with
  | nil => rfl
  | append_singleton as a ih =>
    rw [List.count_append] at h
    have hle : as.count .subscribe ≤ i := Nat.le_trans (Nat.le_add_right _ _) h
    have hnone : (empty.acts as).waiting? i = none := by
      rw [waiting?, List.getElem?_eq_none]
      rw [length_acts]
      exact hle
    rw [handed_concat, ih hle, List.nil_append]
    cases a with
    | take j =>
      rw [hands, hnone]
      split <;> rfl
    | _ => rfl

/-- a listener that is there has taken out, or finds in its mailbox, what was published since it
subscribed -/
theorem given (before after : List BusAct) (h : .drop (before.count .subscribe) ∉ after) :
    ∃ m, (empty.acts (before ++ .subscribe :: after)).boxes[before.count .subscribe]? = some m ∧
      m.alive = true ∧
      empty.handed (before.count .subscribe) (before ++ .subscribe :: after) ++ m.queue
        = publishedIn after := by
  induction after using List.reverseRecOn with
  | nil =>
    have hbox : (empty.acts (before ++ [.subscribe])).boxes[before.count .subscribe]?
        = some ⟨[], true, true⟩ := by
      rw [acts_concat, ← length_acts, getElem?_subscribe]
    refine ⟨_, hbox, rfl, ?_⟩
    rw [handed_concat, handed_of_count_le (Nat.le_refl _)]
    rfl
  | append_singleton after a ih =>
    obtain ⟨m, hm, halive, hgiven⟩ := ih fun hmem => h (List.mem_append_left _ hmem)
    have hne : a ≠ .drop (before.count .subscribe) := fun e =>
      h (List.mem_append_right _ (List.mem_singleton.2 e.symm))
    have hsplit : before ++ .subscribe :: (after ++ [a])
        = (before ++ .subscribe :: after) ++ [a] := by
      rw [List.append_assoc, List.cons_append]
    rw [hsplit, acts_concat, handed_concat, publishedIn_concat, ← hgiven]
    refine ⟨_, getElem?_act hm a, (m.alive_act_of_ne a hne).trans halive, ?_⟩
    rw [List.append_assoc, List.append_assoc]
    congr 1
    -- what is taken out now, and what stays, is what was there, and what arrives
    cases a with
    | subscribe => exact (List.append_nil _).symm
    | publish e =>
      have hlisted := sound_acts _ _ m hm halive
      rw [Mailbox.act, Mailbox.deliver, if_pos hlisted, if_pos halive]
      rfl
    | drop j =>
      rw [Mailbox.act, if_neg fun e => hne (congrArg BusAct.drop e)]
      exact (List.append_nil _).symm
    | take j =>
      rw [hands, Mailbox.act, waiting?, hm]
      dsimp only
      rw [if_pos halive]
      split
      · cases m.queue <;> exact (List.append_nil _).symm
      · exact (List.append_nil _).symm

end

end Bus

/-! ## buses and their handles -/

namespace Exchange

def does (x : Exchange) (b : Nat) (a : ExchangeAct) : Option BusAct :=
  match x.target? a with
  | some (b', act) => if b' = b then some act else none
  | none => none

/-- what acts do with one bus, one after the other -/
def history (b : Nat) : Exchange → List ExchangeAct → List BusAct
  | _, [] => []
  | x, a :: as => (x.does b a).toList ++ history b (x.step a) as

/-- every handle stands for a bus -/
def Sound (x : Exchange) : Prop := ∀ b ∈ x.handles, b < x.buses.length

section
variable {x : Exchange} {a : ExchangeAct}

theorem run_append (x : Exchange) (as bs : List ExchangeAct) :
    x.run (as ++ bs) = (x.run as).run bs := List.foldl_append

/-- an act that is done with a bus -/
theorem step_of_target? {b : Nat} {act : BusAct} (h : x.target? a = some (b, act)) :
    x.step a = { x with buses := x.buses.modify b (·.act act) } := by
  unfold step
  rw [h]

/-- an act that is done with no bus leaves all of them alone, but for a new one -/
theorem buses_step_of_target? (h : x.target? a = none) :
    (x.step a).buses = x.buses ∨ (x.step a).buses = x.buses ++ [Bus.empty] := by
  unfold step
  rw [h]
  cases a with
  | make => exact .inr rfl
  | _ => exact .inl rfl

/-- handles are added, and never stand for another bus -/
theorem handles_step (x : Exchange) (a : ExchangeAct) : x.handles <+: (x.step a).handles := by
  unfold step
  split
  · exact List.prefix_refl _
  · cases a with
    | make => exact List.prefix_append _ _
    | clone handle => exact List.prefix_append _ _
    | _ => exact List.prefix_refl _

theorem handles_run (x : Exchange) (as : List ExchangeAct) : x.handles <+: (x.run as).handles := by
  induction as generalizing x with
  | nil => exact List.prefix_refl _
  | cons a as ih => exact (x.handles_step a).trans (ih (x.step a))

/-- there is no mailbox to do anything with on a bus that nobody has subscribed to -/
theorem act_empty {act : BusAct} (h : act ≠ .subscribe) : Bus.empty.act act = Bus.empty := by
  cases act with
  | subscribe => exact absurd rfl h
  | publish e => rfl
  | drop i => exact congrArg Bus.mk (List.modify_nil ..)
  | take i => exact congrArg Bus.mk (List.modify_nil ..)

theorem target?_lt (hx : x.Sound) {b : Nat} (h : x.target? a = some (b, .subscribe)) :
    b < x.buses.length := by
  cases a with
  | subscribe handle =>
    obtain ⟨c, hc, heq⟩ := Option.map_eq_some_iff.1 h
    cases heq
    exact hx b (List.mem_of_getElem? hc)
  | publish handle e =>
    obtain ⟨c, -, heq⟩ := Option.map_eq_some_iff.1 h
    cases heq
  | _ => cases h

theorem Sound.step (hx : x.Sound) (a : ExchangeAct) : (x.step a).Sound := by
  unfold Exchange.step
  split
  · intro b hb
    exact (List.length_modify ..).symm ▸ hx b hb
  · cases a with
    | make =>
      intro b hb
      show b < (x.buses ++ [Bus.empty]).length
      rw [List.length_append, List.length_singleton]
      rcases List.mem_append.1 hb with hb | hb
      · exact Nat.lt_succ_of_lt (hx b hb)
      · exact Nat.lt_succ_of_le (Nat.le_of_eq (List.mem_singleton.1 hb))
    | clone handle =>
      intro b hb
      rcases List.mem_append.1 hb with hb | hb
      · exact hx b hb
      · exact hx b (List.mem_of_getElem? (Option.mem_toList.1 hb))
    | _ => exact hx

theorem sound_start : start.Sound := by
  intro b hb
  rw [List.mem_singleton.1 hb]
  exact Nat.one_pos

/-- a bus after an act, whichever handle it was done through -/
theorem bus_step (hx : x.Sound) (a : ExchangeAct) (b : Nat) :
    (x.step a).bus b = (x.bus b).acts (x.does b a).toList := by
  cases h : x.target? a with
  | none =>
    rw [does, h]
    rcases buses_step_of_target? h with heq | heq
    · exact congrArg (fun bs => bs.getD b Bus.empty) heq
    · -- before it is there, the new bus is empty as well
      rw [bus, heq]
      show _ = x.bus b
      rw [bus, List.getD_eq_getElem?_getD, List.getD_eq_getElem?_getD, List.getElem?_append]
      split
      · rfl
      · rename_i hlt
        rw [List.getElem?_eq_none (Nat.not_lt.1 hlt)]
        cases hd : b - x.buses.length <;> rfl
  | some t =>
    obtain ⟨b', act⟩ := t
    rw [step_of_target? h, does, h, bus, bus, List.getD_eq_getElem?_getD,
      List.getD_eq_getElem?_getD, List.getElem?_modify]
    dsimp only
    by_cases hb : b' = b
    · subst hb
      rw [if_pos rfl]
      cases hbus : x.buses[b']? with
      | some c => simp [Bus.acts]
      | none =>
        have hne : act ≠ .subscribe := by
          rintro rfl
          exact absurd (target?_lt hx h) (Nat.not_lt.2 (List.getElem?_eq_none_iff.1 hbus))
        simpa [Bus.acts] using (act_empty hne).symm
    · rw [if_neg hb]
      cases x.buses[b]? <;> simp [hb, Bus.acts]

/-- a bus after a run is what its own history has made of it -/
theorem bus_run (hx : x.Sound) (as : List ExchangeAct) (b : Nat) :
    (x.run as).bus b = (x.bus b).acts (x.history b as) := by
  induction as generalizing x with
  | nil => rfl
  | cons a as ih =>
    show ((x.step a).run as).bus b = _
    rw [ih (hx.step a), bus_step hx, history, Bus.acts_append]

theorem bus_start (b : Nat) : start.bus b = Bus.empty := by
  cases b <;> rfl

/-- a clone stands for the bus of the handle it was made from, and goes on doing so -/
theorem handles_clone {front back : List ExchangeAct} {handle c : Nat}
    (h : (x.run front).handles[handle]? = some c) :
    (x.run (front ++ .clone handle :: back)).handles[handle]? = some c ∧
      (x.run (front ++ .clone handle :: back)).handles[(x.run front).handles.length]? = some c := by
  have hclone : ((x.run front).step (.clone handle)).handles = (x.run front).handles ++ [c] := by
    show _ ++ (x.run front).handles[handle]?.toList = _
    rw [h]
    rfl
  obtain ⟨rest, hrest⟩ : (x.run front).handles ++ [c] <+:
      (x.run (front ++ .clone handle :: back)).handles := by
    rw [run_append, ← hclone]
    exact handles_run _ back
  have hlt : handle < (x.run front).handles.length := (List.getElem?_eq_some_iff.1 h).1
  rw [← hrest, List.append_assoc]
  constructor
  · rw [List.getElem?_append_left hlt, h]
  · rw [List.getElem?_append_right (Nat.le_refl _), Nat.sub_self]
    rfl

end

end Exchange

/-- What is published on a bus, through whichever handle, is given to each listener that is there,
once and in this order, from its subscription on.  An event reaches those who are there, and leaves
them listed in the order in which they came.  Who has gone away is listed until the next event, and
nobody else is struck off with it. -/
theorem delivered_to_each_listener (acts : List ExchangeAct) (b : Nat) :
    let x := Exchange.start.run acts
    let bus := x.bus b
    let past := Exchange.start.history b acts
    (∀ before after, past = before ++ .subscribe :: after →
      .drop (before.count .subscribe) ∉ after →
      ∃ waiting, bus.waiting? (before.count .subscribe) = some waiting ∧
        Bus.empty.handed (before.count .subscribe) past ++ waiting = publishedIn after) ∧
    (∀ i, i ∈ living past ↔ ∃ before after, past = before ++ .subscribe :: after ∧
      before.count .subscribe = i ∧ .drop i ∉ after) ∧
    (∀ e, bus.reached e = (living past).length ∧ (bus.publish e).listing = living past) ∧
    (living past).Sublist bus.listing ∧
    (Quiet past → bus.listeners = past.count .subscribe) ∧
    (∀ before e since, past = before ++ .publish e :: since → Quiet since →
      bus.listeners = (living before).length + since.count .subscribe) ∧
    (∀ front handle back c, acts = front ++ .clone handle :: back →
      (Exchange.start.run front).handles[handle]? = some c →
      x.handles[handle]? = some c ∧
        x.handles[(Exchange.start.run front).handles.length]? = some c) := by
  intro x bus past
  have hbus : bus = Bus.empty.acts past := by
    rw [← Exchange.bus_start b]
    exact Exchange.bus_run Exchange.sound_start acts b
  have hreached : ∀ (as : List BusAct) (e : Event),
      ((Bus.empty.acts as).publish e).listeners = (living as).length := fun as e => by
    rw [← Bus.length_listing, Bus.listing_publish]
  rw [hbus]
  refine ⟨fun before after hpast hdrop => ?_, fun i => mem_living_iff, fun e => ?_,
    Bus.living_sublist past, fun hquiet => ?_, fun before e since hpast hquiet => ?_,
    fun front handle back c hacts hc => ?_⟩
  · obtain ⟨m, hm, halive, hgiven⟩ := Bus.given before after hdrop
    rw [hpast, Bus.waiting?, hm]
    exact ⟨m.queue, if_pos halive, hgiven⟩
  · exact ⟨hreached past e, Bus.listing_publish past e⟩
  · exact (Bus.listeners_of_quiet Bus.empty hquiet).trans (Nat.zero_add _)
  · have hsplit : Bus.empty.acts past = ((Bus.empty.acts before).publish e).acts since := by
      rw [hpast, Bus.acts_append]
      rfl
    rw [hsplit, Bus.listeners_of_quiet _ hquiet, hreached]
  · subst hacts
    exact Exchange.handles_clone hc

/-- two listeners, of which the first goes away between two events; the first event is published
through a clone -/
def Exchange.departure : List ExchangeAct :=
  [.subscribe 0, .subscribe 0, .clone 0, .publish 1 .tipMoved, .drop 0 0, .publish 0 .terminated]

/-- the other listener finds both events, and it alone is listed after the second -/
theorem delivered_after_departure :
    let bus := (Exchange.start.run Exchange.departure).bus 0
    bus.waiting? 1 = some [.tipMoved, .terminated] ∧ bus.listeners = 1 := by
  intro bus
  obtain ⟨hgiven, -, -, -, -, hlisteners, -⟩ := delivered_to_each_listener Exchange.departure 0
  obtain ⟨waiting, hwaiting, hall⟩ := hgiven [.subscribe]
    [.publish .tipMoved, .drop 0, .publish .terminated] (by decide) (by decide)
  have hnone : Bus.empty.handed 1 (Exchange.start.history 0 Exchange.departure) = [] := by decide
  rw [List.count_singleton_self, hnone, List.nil_append] at hall
  rw [List.count_singleton_self, hall] at hwaiting
  refine ⟨hwaiting, hlisteners [.subscribe, .subscribe, .publish .tipMoved, .drop 0] .terminated []
    (by decide) fun e he => absurd he List.not_mem_nil⟩

end CycleMiner
