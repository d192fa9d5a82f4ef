import CycleMiner.Graph
import CycleMiner.Proofs.Params
import Mathlib.Combinatorics.SimpleGraph.Basic
import Mathlib.Data.Set.Insert

/-!
# The edges of a graph

Numbered over both sides, a node lies on the first side exactly if its number is small enough, so
the two ends of an edge are never the same.

* `address_a_lt`, `le_address_b`, `address_b_lt`   where the ends of an edge lie;
* `Graph.Joins`     two nodes that the edge of one of some nonces joins;
* `Graph.simple`    the simple graph of the edges of some nonces.
-/

namespace CycleMiner

namespace Graph

section
variable (g : Graph) (n : UInt32)

theorem endpoint_lt (s : Side) : (g.endpoint n s).toNat < 2 ^ g.params.edgeBits := by
  rw [endpoint, UInt32.toNat_and, g.params.toNat_mask, Nat.and_two_pow_sub_one_eq_mod]
  exact Nat.mod_lt _ (Nat.two_pow_pos _)

theorem toNat_address_b :
    (g.address n .b).toNat = 2 ^ g.params.edgeBits + (g.endpoint n .b).toNat := by
  have hlt := g.endpoint_lt n .b
  have hbits : 2 ^ g.params.edgeBits ≤ 2 ^ 30 :=
    Nat.pow_le_pow_right (by decide) g.params.edgeBits_le
  show (g.params.half + g.endpoint n .b).toNat = _
  rw [UInt32.toNat_add, g.params.toNat_half, Nat.mod_eq_of_lt (by omega)]

theorem address_a_lt : g.address n .a < g.params.half := by
  rw [UInt32.lt_iff_toNat_lt, g.params.toNat_half]
  exact g.endpoint_lt n .a

theorem le_address_b : g.params.half ≤ g.address n .b := by
  rw [UInt32.le_iff_toNat_le, g.params.toNat_half, toNat_address_b]
  omega

theorem address_b_lt : g.address n .b < g.params.nodeCount := by
  have := g.endpoint_lt n .b
  rw [UInt32.lt_iff_toNat_lt, g.params.toNat_nodeCount, toNat_address_b]
  omega

theorem address_lt (s : Side) : g.address n s < g.params.nodeCount := by
  cases s with
  | a =>
    have h := g.endpoint_lt n .a
    rw [UInt32.lt_iff_toNat_lt, g.params.toNat_nodeCount]
    show (g.endpoint n .a).toNat < _
    omega
  | b => exact g.address_b_lt n

theorem address_b_ne_zero : g.address n .b ≠ 0 := by
  intro e
  have h := UInt32.le_iff_toNat_le.1 (g.le_address_b n)
  rw [e, g.params.toNat_half, UInt32.toNat_zero] at h
  have := Nat.two_pow_pos g.params.edgeBits
  omega

end

/-! ## edges of some nonces -/

def Joins (g : Graph) (S : Set UInt32) (x y : UInt32) : Prop :=
  ∃ n ∈ S, (x = g.address n .a ∧ y = g.address n .b) ∨ (x = g.address n .b ∧ y = g.address n .a)

section
variable {g : Graph} {S S' : Set UInt32} {x y : UInt32}

theorem Joins.symm (h : g.Joins S x y) : g.Joins S y x := by
  obtain ⟨n, hn, h | h⟩ := h
  · exact ⟨n, hn, .inr ⟨h.2, h.1⟩⟩
  · exact ⟨n, hn, .inl ⟨h.2, h.1⟩⟩

theorem Joins.mono (hS : S ⊆ S') (h : g.Joins S x y) : g.Joins S' x y := by
  obtain ⟨n, hn, h⟩ := h
  exact ⟨n, hS hn, h⟩

theorem joins_address (n : UInt32) (hn : n ∈ S) : g.Joins S (g.address n .a) (g.address n .b) :=
  ⟨n, hn, .inl ⟨rfl, rfl⟩⟩

theorem Joins.lt_nodeCount (h : g.Joins S x y) : y < g.params.nodeCount := by
  obtain ⟨n, -, ⟨-, rfl⟩ | ⟨-, rfl⟩⟩ := h
  · exact g.address_lt n .b
  · exact g.address_lt n .a

/-- the two ends of an edge lie on different sides -/
theorem Joins.lt_half_iff (h : g.Joins S x y) : x < g.params.half ↔ ¬ y < g.params.half := by
  obtain ⟨n, -, ⟨rfl, rfl⟩ | ⟨rfl, rfl⟩⟩ := h
  · exact iff_of_true (g.address_a_lt n) (UInt32.not_lt.2 (g.le_address_b n))
  · exact iff_of_false (UInt32.not_lt.2 (g.le_address_b n)) (not_not_intro (g.address_a_lt n))

theorem Joins.ne (h : g.Joins S x y) : x ≠ y := by
  rintro rfl
  exact (iff_not_self (a := x < g.params.half)).elim h.lt_half_iff

theorem joins_insert {n : UInt32} : g.Joins (insert n S) x y ↔
    g.Joins S x y ∨ (x = g.address n .a ∧ y = g.address n .b) ∨
      (x = g.address n .b ∧ y = g.address n .a) := by
  constructor
  · rintro ⟨m, rfl | hm, h⟩
    · exact .inr h
    · exact .inl ⟨m, hm, h⟩
  · rintro (h | h)
    · exact h.mono (Set.subset_insert n S)
    · exact ⟨n, Set.mem_insert n S, h⟩

end

def simple (g : Graph) (S : Set UInt32) : SimpleGraph UInt32 where
  Adj := g.Joins S
  symm := ⟨fun _ _ h => h.symm⟩
  loopless := ⟨fun _ h => h.ne rfl⟩

@[simp] theorem simple_adj {g : Graph} {S : Set UInt32} {x y : UInt32} :
    (g.simple S).Adj x y ↔ g.Joins S x y := Iff.rfl

theorem simple_mono {g : Graph} {S S' : Set UInt32} (h : S ⊆ S') : g.simple S ≤ g.simple S' :=
  fun _ _ hadj => Joins.mono h hadj

end Graph

end CycleMiner
