import CycleMiner.Params
import Mathlib.Algebra.Group.Nat.Defs

/-!
# The sizes as numbers

The words for the sizes of a graph do not overflow, so they are powers of two.

* `Params.toNat_half`, `Params.toNat_nodeCount`   nodes on one side, and on both;
* `Params.toNat_mask`   all bits that number a node;
* `Params.small`        the parameters that examples use.
-/

namespace CycleMiner

namespace Params

theorem toNat_shiftLeft_edgeBits (p : Params) (n : Nat) (h : n ≤ 2) :
    (UInt32.ofNat n <<< UInt32.ofNat p.edgeBits).toNat = n * 2 ^ p.edgeBits := by
  have fits : p.edgeBits % 2 ^ 32 % 32 = p.edgeBits := by
    have := p.edgeBits_le
    omega
  have small : n % 2 ^ 32 = n := by omega
  have bound : n * 2 ^ p.edgeBits < 2 ^ 32 := by
    have : 2 ^ p.edgeBits ≤ 2 ^ 30 := Nat.pow_le_pow_right (by decide) p.edgeBits_le
    calc n * 2 ^ p.edgeBits ≤ 2 * 2 ^ 30 := Nat.mul_le_mul h this
      _ < 2 ^ 32 := by decide
  rw [UInt32.toNat_shiftLeft, UInt32.toNat_ofNat', UInt32.toNat_ofNat', fits, small,
    Nat.shiftLeft_eq, Nat.mod_eq_of_lt bound]

theorem toNat_half (p : Params) : p.half.toNat = 2 ^ p.edgeBits := by
  have := p.toNat_shiftLeft_edgeBits 1 (by decide)
  rw [Nat.one_mul] at this
  exact this

theorem toNat_nodeCount (p : Params) : p.nodeCount.toNat = 2 * 2 ^ p.edgeBits :=
  p.toNat_shiftLeft_edgeBits 2 (by decide)

theorem toNat_mask (p : Params) : p.mask.toNat = 2 ^ p.edgeBits - 1 := by
  have hone : (1 : UInt32) ≤ p.half := by
    rw [UInt32.le_iff_toNat_le, p.toNat_half]
    exact Nat.one_le_two_pow
  rw [mask, UInt32.toNat_sub_of_le _ _ hone, p.toNat_half]
  rfl

/-- four nodes on each side -/
def small : Params := ⟨2, 4, by decide, by decide, by decide, by decide⟩

end Params

end CycleMiner
