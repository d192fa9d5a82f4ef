import CycleMiner.Graph.Verify
import Mathlib

/-!
# The walk over the edges of a proof

The verifier walks from place to place in the list of edges: over the second side to the only other
place with the same node, then over the first side, and so on.  Here the walk is taken apart, for
any two arrays of nodes.

* `other_eq_some_iff`   what `other` finds: the one place that shares the node;
* `other_symm`          crossing back leads back;
* `IsWalk`              places met one after the other, crossing the second side first;
* `IsWalk.injOn`        a walk that has not come back to its start meets no place twice;
* `closesAfter_iff`     the verifier's answer is a walk that comes back when no edge is left;
* `EndsWith`            the same loop turn by turn, and that it ends from every place.

Why no place is met twice: a crossing is its own inverse and has no fixed place.  Two equal places
an even distance apart can be moved back together until the first of them is the start; two equal
places an odd distance apart can be moved towards each other until they are neighbours.
-/

namespace CycleMiner

/-! ## the other place of a node -/

/-- place `k` is another place than `i` and holds the same node -/
def Shares (nodes : Array UInt32) (i k : Nat) : Prop :=
  k < nodes.size ∧ k ≠ i ∧ nodes[k]? = nodes[i]?

/-- the places that `other` looks through -/
def sharers (nodes : Array UInt32) (i : Nat) : List Nat :=
  (List.range nodes.size).filter fun k => k != i && nodes[k]? == nodes[i]?

theorem mem_sharers {nodes : Array UInt32} {i k : Nat} :
    k ∈ sharers nodes i ↔ Shares nodes i k := by
  simp [sharers, Shares]

theorem nodup_sharers (nodes : Array UInt32) (i : Nat) : (sharers nodes i).Nodup :=
  List.nodup_range.filter _

theorem other_eq_some_iff_sharers {nodes : Array UInt32} {i j : Nat} :
    other nodes i = some j ↔ sharers nodes i = [j] := by
  have hs : ((List.range nodes.size).filter fun k => k != i && nodes[k]? == nodes[i]?)
      = sharers nodes i := rfl
  unfold other
  rw [hs]
  split
  · rename_i k e
    rw [e, Option.some.injEq, List.cons.injEq, and_iff_left rfl]
  · rename_i h
    exact ⟨fun e => by simp at e, fun e => absurd e (h j)⟩

theorem other_eq_some_iff {nodes : Array UInt32} {i j : Nat} :
    other nodes i = some j ↔ ∀ k, Shares nodes i k ↔ k = j := by
  rw [other_eq_some_iff_sharers]
  constructor
  · intro e k
    rw [← mem_sharers, e, List.mem_singleton]
  · intro h
    have hp : (sharers nodes i).Perm [j] :=
      (List.perm_ext_iff_of_nodup (nodup_sharers nodes i) (List.nodup_singleton j)).2
        fun k => by rw [mem_sharers, h k, List.mem_singleton]
    exact List.perm_singleton.1 hp

theorem shares_of_other {nodes : Array UInt32} {i j : Nat} (h : other nodes i = some j) :
    Shares nodes i j :=
  (other_eq_some_iff.1 h j).2 rfl

theorem other_lt {nodes : Array UInt32} {i j : Nat} (h : other nodes i = some j) :
    j < nodes.size :=
  (shares_of_other h).1

theorem other_ne {nodes : Array UInt32} {i j : Nat} (h : other nodes i = some j) : j ≠ i :=
  (shares_of_other h).2.1

theorem other_symm {nodes : Array UInt32} {i j : Nat} (h : other nodes i = some j) :
    other nodes j = some i := by
  obtain ⟨hj, hne, he⟩ := shares_of_other h
  have hi : i < nodes.size := by
    rw [Array.getElem?_eq_getElem hj] at he
    exact (Array.getElem?_eq_some_iff.1 he.symm).1
  rw [other_eq_some_iff]
  intro k
  constructor
  · rintro ⟨hk, hkj, hke⟩
    by_contra hki
    exact hkj ((other_eq_some_iff.1 h k).1 ⟨hk, hki, hke.trans he⟩)
  · rintro rfl
    exact ⟨hi, hne.symm, he.symm⟩

/-! ## walks -/

section
variable (us vs : Array UInt32)

/-- crossing `k` of a walk: over the second side if `k` is even, over the first if it is odd -/
def cross (k i : Nat) : Option Nat := if k % 2 = 0 then other vs i else other us i

def IsWalk (n : Nat) (r : Nat → Nat) : Prop := ∀ k < n, cross us vs k (r k) = some (r (k + 1))

end

section
variable {us vs : Array UInt32}

theorem cross_congr {k l : Nat} (h : k % 2 = l % 2) (i : Nat) :
    cross us vs k i = cross us vs l i := by
  rw [cross, cross, h]

theorem cross_symm {k i j : Nat} (h : cross us vs k i = some j) : cross us vs k j = some i := by
  unfold cross at h ⊢
  split at h
  · rename_i e
    rw [if_pos e]
    exact other_symm h
  · rename_i e
    rw [if_neg e]
    exact other_symm h

theorem cross_ne {k i j : Nat} (h : cross us vs k i = some j) : j ≠ i := by
  unfold cross at h
  split at h <;> exact other_ne h

theorem cross_lt (hs : us.size = vs.size) {k i j : Nat} (h : cross us vs k i = some j) :
    j < vs.size := by
  unfold cross at h
  split at h
  · exact other_lt h
  · exact hs ▸ other_lt h

/-- two places of a walk that are an odd distance apart differ -/
theorem IsWalk.ne_of_odd {n : Nat} {r : Nat → Nat} (w : IsWalk us vs n r) (d : Nat) :
    ∀ a, a + (2 * d + 1) ≤ n → r a ≠ r (a + (2 * d + 1)) := by
  induction d with
  | zero => exact fun a ha => (cross_ne (w a (by omega))).symm
  | succ d ih =>
    intro a ha e
    have first : cross us vs a (r a) = some (r (a + 1)) := w a (by omega)
    have last := cross_symm (w (a + (2 * d + 2)) (by omega))
    rw [show a + (2 * d + 2) + 1 = a + (2 * (d + 1) + 1) by omega, ← e,
      cross_congr (show (a + (2 * d + 2)) % 2 = a % 2 by omega), first] at last
    apply ih (a + 1) (by omega)
    rw [show a + 1 + (2 * d + 1) = a + (2 * d + 2) by omega]
    exact Option.some.inj last

/-- two equal places of a walk that are an even distance apart move back to its start -/
theorem IsWalk.eq_start {n : Nat} {r : Nat → Nat} (w : IsWalk us vs n r) (d : Nat) :
    ∀ a, a + 2 * d ≤ n → r a = r (a + 2 * d) → r 0 = r (2 * d) := by
  intro a
  induction a with
  | zero =>
    intro _ e
    rwa [Nat.zero_add] at e
  | succ a ih =>
    intro ha e
    apply ih (by omega)
    have first := cross_symm (w a (by omega))
    have last := cross_symm (w (a + 2 * d) (by omega))
    rw [show a + 2 * d + 1 = a + 1 + 2 * d by omega, ← e,
      cross_congr (show (a + 2 * d) % 2 = a % 2 by omega), first] at last
    exact Option.some.inj last

/-- a walk meets no place twice before it comes back to its start -/
theorem IsWalk.injOn {m : Nat} {r : Nat → Nat} (w : IsWalk us vs (2 * m) r)
    (hr : ∀ t, 0 < t → t < m → r (2 * t) ≠ r 0) :
    Set.InjOn r (Finset.range (2 * m)) := by
  have key : ∀ a b, a < b → b < 2 * m → r a ≠ r b := by
    intro a b hab hb e
    rcases Nat.even_or_odd' (b - a) with ⟨d, hd | hd⟩
    · have e' : r a = r (a + 2 * d) := by rw [e, ← hd]; congr 1; omega
      exact hr d (by omega) (by omega) (w.eq_start d a (by omega) e').symm
    · have e' : r a = r (a + (2 * d + 1)) := by rw [e, ← hd]; congr 1; omega
      exact w.ne_of_odd d a (by omega) e'
  intro a ha b hb e
  have ha' : a < 2 * m := by simpa using ha
  have hb' : b < 2 * m := by simpa using hb
  rcases Nat.lt_trichotomy a b with h | h | h
  · exact absurd e (key a b h hb')
  · exact h
  · exact absurd e.symm (key b a h ha')

/-- from every place of a closed walk both crossings lead to places of the walk -/
theorem IsWalk.exists_cross {m : Nat} {r : Nat → Nat} (w : IsWalk us vs (2 * m) r)
    (hc : r (2 * m) = r 0) {k : Nat} (hk : k < 2 * m) (q : Nat) :
    ∃ l < 2 * m, cross us vs q (r k) = some (r l) := by
  by_cases hq : q % 2 = k % 2
  · have forward : cross us vs q (r k) = some (r (k + 1)) := by rw [cross_congr hq, w k hk]
    by_cases hlast : k + 1 < 2 * m
    · exact ⟨k + 1, hlast, forward⟩
    · rw [show k + 1 = 2 * m by omega, hc] at forward
      exact ⟨0, by omega, forward⟩
  · cases k with
    | zero =>
      have back := cross_symm (w (2 * m - 1) (by omega))
      rw [show 2 * m - 1 + 1 = 2 * m by omega, hc,
        cross_congr (show (2 * m - 1) % 2 = q % 2 by omega)] at back
      exact ⟨2 * m - 1, by omega, back⟩
    | succ k =>
      have back := cross_symm (w k (by omega))
      rw [cross_congr (show k % 2 = q % 2 by omega)] at back
      exact ⟨k, by omega, back⟩

/-! ## the verifier's walk -/

theorem IsWalk.prepend {n i j : Nat} {r : Nat → Nat} (w : IsWalk us vs n r)
    (hi : other vs i = some j) (hj : other us j = some (r 0)) :
    IsWalk us vs (n + 2) (fun | 0 => i | 1 => j | k + 2 => r k) := by
  intro k hk
  match k with
  | 0 => exact hi
  | 1 => exact hj
  | k + 2 =>
    show cross us vs (k + 2) (r k) = some (r (k + 1))
    rw [cross_congr (show (k + 2) % 2 = k % 2 by omega), w k (by omega)]

theorem IsWalk.tail {n : Nat} {r : Nat → Nat} (w : IsWalk us vs (n + 2) r) :
    IsWalk us vs n (fun k => r (k + 2)) := by
  intro k hk
  show cross us vs k (r (k + 2)) = some (r (k + 2 + 1))
  rw [cross_congr (show k % 2 = (k + 2) % 2 by omega), w (k + 2) (by omega)]

theorem closesAfter_succ {m i j k : Nat} (hj : other vs i = some j) (hk : other us j = some k) :
    closesAfter us vs (2 * (m + 1)) i
      = if k = 0 then (2 * m) == 0 else closesAfter us vs (2 * m) k := by
  show closesAfter us vs (2 * m + 2) i = _
  simp only [closesAfter, hj, hk]

/-- the verifier's answer is a walk that comes back to the first edge exactly when no edge is
left -/
theorem closesAfter_iff {m i : Nat} :
    closesAfter us vs (2 * m) i = true ↔
      0 < m ∧ ∃ r, IsWalk us vs (2 * m) r ∧ r 0 = i ∧ r (2 * m) = 0 ∧
        ∀ t, 0 < t → t < m → r (2 * t) ≠ 0 := by
  induction m generalizing i with
  | zero => simp [closesAfter]
  | succ m ih =>
    constructor
    · intro h
      cases hj : other vs i with
      | none => simp [Nat.mul_succ, closesAfter, hj] at h
      | some j =>
        cases hk : other us j with
        | none => simp [Nat.mul_succ, closesAfter, hj, hk] at h
        | some k =>
          rw [closesAfter_succ hj hk] at h
          refine ⟨Nat.succ_pos m, ?_⟩
          by_cases hk0 : k = 0
          · rw [if_pos hk0] at h
            have hm : m = 0 := by simpa using h
            subst hm hk0
            have w0 : IsWalk us vs 0 (fun _ => 0) := fun k hk => absurd hk (Nat.not_lt_zero k)
            exact ⟨_, w0.prepend hj hk, rfl, rfl, fun t h0 h1 => by omega⟩
          · rw [if_neg hk0] at h
            obtain ⟨hm, r, w, rfl, hlast, hr⟩ := ih.1 h
            refine ⟨_, w.prepend hj hk, rfl, hlast, fun t h0 h1 => ?_⟩
            obtain ⟨t, rfl⟩ := Nat.exists_eq_succ_of_ne_zero h0.ne'
            show r (2 * t) ≠ 0
            by_cases ht : t = 0
            · subst ht
              exact hk0
            · exact hr t (by omega) (by omega)
    · rintro ⟨-, r, w, rfl, hlast, hr⟩
      have hj : other vs (r 0) = some (r 1) := w 0 (by omega)
      have hk : other us (r 1) = some (r 2) := w 1 (by omega)
      rw [closesAfter_succ hj hk]
      by_cases hm : m = 0
      · subst hm
        rw [if_pos hlast]
        rfl
      · rw [if_neg (hr 1 (by omega) (by omega)), ih]
        exact ⟨by omega, _, w.tail, rfl, hlast, fun t h0 h1 => hr (t + 1) (by omega) (by omega)⟩

end

/-! ## turn by turn -/

section
variable (us vs : Array UInt32)

/-- one turn of the verifier's loop from edge `i` with `remaining` edges not yet walked over: its
verdict if it ends here, and else where it goes on -/
def turn (remaining i : Nat) : Bool ⊕ (Nat × Nat) :=
  match other vs i with
  | none => .inl false
  | some j =>
    match other us j with
    | none => .inl false
    | some k =>
      if remaining < 2 then .inl false
      else if k = 0 then .inl (remaining - 2 == 0)
      else .inr (remaining - 2, k)

/-- the loop ends with this verdict -/
inductive EndsWith : Nat → Nat → Bool → Prop
  | stop {remaining i : Nat} {b : Bool} (h : turn us vs remaining i = .inl b) :
    EndsWith remaining i b
  | go {remaining i remaining' i' : Nat} {b : Bool}
    (h : turn us vs remaining i = .inr (remaining', i')) (rest : EndsWith remaining' i' b) :
    EndsWith remaining i b

/-- the loop ends from every place, with the answer of `closesAfter` -/
theorem endsWith_closesAfter :
    ∀ remaining i, EndsWith us vs remaining i (closesAfter us vs remaining i)
  | 0, i => .stop (by unfold turn closesAfter; grind)
  | 1, i => .stop (by unfold turn closesAfter; grind)
  | remaining + 2, i => by
    cases hj : other vs i with
    | none => exact .stop (by simp [turn, closesAfter, hj])
    | some j =>
      cases hk : other us j with
      | none => exact .stop (by simp [turn, closesAfter, hj, hk])
      | some k =>
        by_cases hk0 : k = 0
        · exact .stop (by simp [turn, closesAfter, hj, hk, hk0])
        · have e : closesAfter us vs (remaining + 2) i = closesAfter us vs remaining k := by
            simp [closesAfter, hj, hk, hk0]
          rw [e]
          exact .go (by simp [turn, hj, hk, hk0]) (endsWith_closesAfter remaining k)

end

end CycleMiner
