import CycleMiner.Proofs.Table.Path
import Mathlib.Dynamics.PeriodicPts.Defs

/-!
# Links hop by hop

Following links from a node is iterating `Table.get`.  Here the table may hold anything: the links
from a node may run to a root, run in a loop, or lead into one after a while.

* `Table.hop`, `Table.hops`   the node after so many hops, and the nodes before it;
* `Table.EndsAfter`           the first node without a link is met after so many hops;
* `EndsAfter.isPath`          then the nodes met are a path, and so no two of them are the same;
* `LastAt`                    the last place where a sequence takes a value;
* `minimalPeriod_of_lastAt`   how far that is back is the length of the loop;
* `Table.path_of_endless`     what is reported if no root comes within the bound;
* `Table.isPath_of_path`      what is found is a path.
-/

namespace CycleMiner

/-! ## the last place of a value -/

/-- `i` is the last place below `n` where the sequence takes the value -/
structure LastAt {α : Type} (x : Nat → α) (value : α) (n i : Nat) : Prop where
  lt : i < n
  eq : x i = value
  later : ∀ j, i < j → j < n → x j ≠ value

/-- the distance from the last earlier place of a node is the length of the loop it stands on -/
theorem minimalPeriod_of_lastAt {α : Type} {f : α → α} {a : α} {n i : Nat}
    (h : LastAt (fun k => f^[k] a) (f^[n] a) n i) :
    Function.minimalPeriod f (f^[n] a) = n - i := by
  have hback : ∀ m, f^[m] (f^[n] a) = f^[i + m] a := by
    intro m
    rw [Nat.add_comm, Function.iterate_add_apply]
    exact congrArg f^[m] h.eq.symm
  have hround : Function.IsPeriodicPt f (n - i) (f^[n] a) := by
    show f^[n - i] (f^[n] a) = f^[n] a
    rw [hback, Nat.add_sub_cancel' (Nat.le_of_lt h.lt)]
  have hpos : 0 < n - i := Nat.sub_pos_of_lt h.lt
  have hle := hround.minimalPeriod_le hpos
  have hpos' : 0 < Function.minimalPeriod f (f^[n] a) :=
    Function.minimalPeriod_pos_of_mem_periodicPts ⟨_, hpos, hround⟩
  by_contra hne
  -- a shorter way round would meet the node again at a later place
  apply h.later (i + Function.minimalPeriod f (f^[n] a)) (by omega) (by omega)
  show f^[_] a = _
  rw [← hback]
  exact Function.isPeriodicPt_minimalPeriod f _

namespace Table

/-! ## the nodes met -/

def hop (t : Table) (node : UInt32) (k : Nat) : UInt32 := t.get^[k] node

/-- the nodes met before the hop `k`, the first one first -/
def hops (t : Table) (node : UInt32) (k : Nat) : List UInt32 := (List.range k).map (t.hop node)

/-- the first node without a link is met after `k` hops -/
structure EndsAfter (t : Table) (node : UInt32) (k : Nat) : Prop where
  root : t.get (t.hop node k) = 0
  linked : ∀ j < k, t.get (t.hop node j) ≠ 0

section
variable {t : Table} {node : UInt32} {k n : Nat} {p : List UInt32}

theorem hop_succ (k : Nat) : t.hop node (k + 1) = t.get (t.hop node k) :=
  Function.iterate_succ_apply' _ _ _

theorem hop_succ' (k : Nat) : t.hop node (k + 1) = t.hop (t.get node) k :=
  Function.iterate_succ_apply _ _ _

theorem hops_succ (k : Nat) : t.hops node (k + 1) = t.hops node k ++ [t.hop node k] := by
  rw [hops, List.range_succ, List.map_append]
  rfl

theorem hops_succ' (k : Nat) : t.hops node (k + 1) = node :: t.hops (t.get node) k := by
  rw [hops, List.range_succ_eq_map, List.map_cons, List.map_map]
  exact congrArg (node :: ·) (List.map_congr_left fun i _ => hop_succ' i)

@[simp] theorem length_hops : (t.hops node k).length = k := by
  rw [hops, List.length_map, List.length_range]

theorem EndsAfter.tail (h : t.EndsAfter node (k + 1)) : t.EndsAfter (t.get node) k where
  root := by
    rw [← hop_succ']
    exact h.root
  linked j hj := by
    rw [← hop_succ']
    exact h.linked (j + 1) (Nat.succ_lt_succ hj)

theorem EndsAfter.isPath (h : t.EndsAfter node k) : t.IsPath (t.hops node (k + 1)) := by
  induction k generalizing node with
  | zero => exact h.root
  | succ k ih =>
    have hlink : t.Link node (t.get node) := link_get (h.linked 0 (Nat.succ_pos k))
    have hrest := ih h.tail
    rw [hops_succ'] at hrest ⊢
    rw [hops_succ']
    exact ⟨hlink, hrest⟩

theorem EndsAfter.hop_inj (h : t.EndsAfter node k) {i j : Nat} (hi : i ≤ k) (hj : j ≤ k)
    (e : t.hop node i = t.hop node j) : i = j := by
  have hnd : ((List.range (k + 1)).map (t.hop node)).Nodup := h.isPath.nodup
  exact List.inj_on_of_nodup_map hnd (List.mem_range.2 (Nat.lt_succ_of_le hi))
    (List.mem_range.2 (Nat.lt_succ_of_le hj)) e

/-- the links end within `n` nodes, or every one of `n` nodes is linked -/
theorem endsAfter_or (t : Table) (node : UInt32) (n : Nat) :
    (∃ k < n, t.EndsAfter node k) ∨ ∀ k < n, t.get (t.hop node k) ≠ 0 := by
  by_cases h : ∃ k, k < n ∧ t.get (t.hop node k) = 0
  · obtain ⟨hlt, hroot⟩ := Nat.find_spec h
    exact .inl ⟨Nat.find h, hlt, hroot, fun j hj he =>
      Nat.find_min h hj ⟨Nat.lt_trans hj hlt, he⟩⟩
  · exact .inr fun k hk he => h ⟨k, hk, he⟩

end

/-! ## what a search for a path finds -/

/-- what is reported of a node whose links do not end within `bound` nodes -/
def faultAt (t : Table) (bound : Nat) (node : UInt32) : PathFault :=
  match (t.hops node bound).reverse.idxOf? (t.hop node bound) with
  | some back => .loop (back + 1)
  | none => .tooLong bound

section
variable {t : Table} {node : UInt32} {k n : Nat} {p : List UInt32}

theorem lastAt_of_idxOf? {value : UInt32} {back : Nat}
    (h : (t.hops node n).reverse.idxOf? value = some back) :
    back < n ∧ LastAt (t.hop node) value n (n - 1 - back) := by
  obtain ⟨hlt, he, hbefore⟩ := List.idxOf?_eq_some_iff.1 h
  have hn : back < n := by simpa using hlt
  have hget : ∀ j (hj : j < (t.hops node n).reverse.length),
      (t.hops node n).reverse[j] = t.hop node (n - 1 - j) := by
    intro j hj
    simp [hops]
  rw [hget] at he
  refine ⟨hn, by omega, he, fun j hj hj' e => ?_⟩
  have hsmall : n - 1 - j < back := by omega
  apply hbefore (n - 1 - j) hsmall
  rw [hget, ← e]
  congr 1
  omega

/-- a loop is reported with its length exactly if the node that does not fit was met before -/
theorem faultAt_eq (t : Table) (bound : Nat) (node : UInt32) :
    t.faultAt bound node = if ∃ i < bound, t.hop node i = t.hop node bound
      then .loop (Function.minimalPeriod t.get (t.hop node bound)) else .tooLong bound := by
  unfold faultAt
  split
  case h_1 back h =>
    obtain ⟨hlt, hlast⟩ := lastAt_of_idxOf? h
    have hperiod : Function.minimalPeriod t.get (t.hop node bound) = bound - (bound - 1 - back) :=
      minimalPeriod_of_lastAt hlast
    rw [if_pos ⟨_, hlast.lt, hlast.eq⟩, hperiod]
    congr 1
    omega
  case h_2 h =>
    have hnew := List.idxOf?_eq_none_iff.1 h
    rw [if_neg]
    rintro ⟨i, hi, e⟩
    exact hnew (List.mem_reverse.2 (List.mem_map.2 ⟨i, List.mem_range.2 hi, e⟩))

theorem follow_of_endless {bound d room : Nat} (h : ∀ k ≤ d + room, t.get (t.hop node k) ≠ 0)
    (hbound : bound = d + room + 1) :
    follow t bound room (t.hop node d) (t.hops node (d + 1)).reverse
      = .error (t.faultAt bound node) := by
  -- `room` more nodes fit behind node `d`, and none of them is a root
  induction room generalizing d with
  | zero =>
    subst hbound
    unfold follow
    dsimp only
    rw [if_neg (h d (Nat.le_refl d)), faultAt, Nat.add_zero, hop_succ]
    cases (t.hops node (d + 1)).reverse.idxOf? (t.get (t.hop node d)) <;> rfl
  | succ room ih =>
    have hnext : t.get (t.hop node d) :: (t.hops node (d + 1)).reverse
        = (t.hops node (d + 1 + 1)).reverse := by
      rw [hops_succ (d + 1), List.reverse_append, hop_succ]
      rfl
    unfold follow
    dsimp only
    rw [if_neg (h d (by omega)), hnext, ← hop_succ]
    exact ih (fun k hk => h k (by omega)) (by omega)

/-- no root within the bound is an anomaly, and never a part of a path -/
theorem path_of_endless {bound : Nat} (h : ∀ k < bound, t.get (t.hop node k) ≠ 0) :
    t.path bound node = .error (if 0 < bound then t.faultAt bound node else .tooLong 0) := by
  cases bound with
  | zero => rfl
  | succ room =>
    have hall : ∀ k ≤ 0 + room, t.get (t.hop node k) ≠ 0 := fun k hk => h k (by omega)
    rw [if_pos (Nat.succ_pos room)]
    exact follow_of_endless hall (by omega)

theorem EndsAfter.path_eq {bound : Nat} (h : t.EndsAfter node k) (hk : k < bound) :
    t.path bound node = .ok (t.hops node (k + 1)) := by
  have hpath := h.isPath
  rw [hops_succ'] at hpath ⊢
  rw [path_of_isPath hpath, length_hops, if_pos hk]

theorem isPath_of_path {bound : Nat} (h : t.path bound node = .ok p) :
    ∃ q, p = node :: q ∧ t.IsPath (node :: q) ∧ q.length < bound := by
  rcases t.endsAfter_or node bound with ⟨k, hk, hends⟩ | hendless
  · have hpath := hends.isPath
    rw [hends.path_eq hk] at h
    obtain rfl := Except.ok.inj h
    rw [hops_succ'] at hpath ⊢
    exact ⟨_, rfl, hpath, by rwa [length_hops]⟩
  · rw [path_of_endless hendless] at h
    cases h

end

end Table

end CycleMiner
