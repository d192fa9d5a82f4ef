import CycleMiner.Proofs.Bytes
import CycleMiner.Work

/-!
# Comparing byte strings is comparing numbers

* `bytesLe_iff`              of two strings of one length, the order from the front is the order of
  the numbers they spell;
* `Target.isMetBy_iff`       a hash meets a target exactly if its number is at most the target's;
* `Target.le_iff`, `Target.toNat_inj`   targets are ordered as their numbers are;
* `target_met_iff_le`        what is compared when a solution is tried against a target, whatever
  function hashes it.
-/

namespace CycleMiner

/-- the order from the front is the order of the numbers -/
theorem bytesLe_iff {as bs : Bytes} (h : as.length = bs.length) :
    bytesLe as bs = true ↔ Bytes.ofBigEndian as ≤ Bytes.ofBigEndian bs := by
  induction as generalizing bs with
  | nil =>
    cases bs with
    | nil => simp [bytesLe]
    | cons b bs => simp at h
  | cons a as ih =>
    cases bs with
    | nil => simp at h
    | cons b bs =>
      have hl : as.length = bs.length := by simpa using h
      have ha := Bytes.ofBigEndian_lt as
      have hb := Bytes.ofBigEndian_lt bs
      rw [hl] at ha
      rw [Bytes.ofBigEndian_cons, Bytes.ofBigEndian_cons, hl]
      rcases Nat.lt_trichotomy a.toNat b.toNat with hlt | heq | hgt
      · have hw : bytesLe (a :: as) (b :: bs) = true := by
          simp [bytesLe, UInt8.lt_iff_toNat_lt, hlt]
        have hstep : a.toNat * 256 ^ bs.length + 256 ^ bs.length ≤ b.toNat * 256 ^ bs.length := by
          rw [← Nat.succ_mul]
          exact Nat.mul_le_mul_right _ hlt
        exact ⟨fun _ => by omega, fun _ => hw⟩
      · obtain rfl := UInt8.toNat_inj.1 heq
        simp [bytesLe, ih hl]
      · have hw : bytesLe (a :: as) (b :: bs) = false := by
          have h1 : ¬ a < b := by rw [UInt8.lt_iff_toNat_lt]; omega
          have h2 : a ≠ b := fun e => by rw [e] at hgt; omega
          simp [bytesLe, h1, h2]
        have hstep : b.toNat * 256 ^ bs.length + 256 ^ bs.length ≤ a.toNat * 256 ^ bs.length := by
          rw [← Nat.succ_mul]
          exact Nat.mul_le_mul_right _ hgt
        exact ⟨fun e => absurd (hw.symm.trans e) Bool.false_ne_true, fun _ => by omega⟩

theorem Target.isMetBy_iff (t : Target) (hash : Digest) :
    t.isMetBy hash = true ↔ hash.toNat ≤ t.toNat :=
  bytesLe_iff (by rw [Target.bytes, Digest.length_bytes, Digest.length_bytes])

theorem Target.isMetBy_max (hash : Digest) : Target.max.isMetBy hash = true := by
  rw [isMetBy_iff]
  have hmax : Target.max.toNat = 256 ^ 32 - 1 := by decide
  have hlt : hash.toNat < 256 ^ hash.bytes.length := Bytes.ofBigEndian_lt hash.bytes
  rw [Digest.length_bytes] at hlt
  omega

namespace Target

theorem le_iff (s t : Target) : s.le t = true ↔ s.toNat ≤ t.toNat :=
  bytesLe_iff (by rw [bytes, bytes, Digest.length_bytes, Digest.length_bytes])

theorem toNat_inj {s t : Target} : s.toNat = t.toNat ↔ s = t := by
  obtain ⟨⟨as, ha⟩⟩ := s
  obtain ⟨⟨bs, hb⟩⟩ := t
  refine (Bytes.ofBigEndian_inj (ha.trans hb.symm)).trans ?_
  rw [mk.injEq, Digest.mk.injEq]

/-- whether a solution is good enough if another function takes the place of SHA-256 -/
def isMetUnder (sha : Bytes → Digest) (t : Target) (s : Solution) : Bool :=
  t.isMetBy (sha (sha s.bytes).bytes).reverse

/-- the hash is turned round and compared from the front, so it counts from its last byte down -/
theorem isMetUnder_iff (sha : Bytes → Digest) (t : Target) (s : Solution) :
    t.isMetUnder sha s = true ↔
      Bytes.ofLittleEndian (sha (sha s.bytes).bytes).bytes ≤ t.toNat := by
  rw [isMetUnder, isMetBy_iff, Digest.toNat, Digest.bytes_reverse, Bytes.ofBigEndian,
    List.reverse_reverse]

end Target

/-- a solution is good enough if and only if its hash, read with the least significant byte first,
is at most the target, read with the most significant byte first, whatever function hashes it;
targets are ordered as these numbers are; and what is good enough stays so under a higher target -/
theorem target_met_iff_le (sha : Bytes → Digest) (t : Target) (s : Solution) :
    (t.isMetUnder sha s = true ↔
      Bytes.ofLittleEndian
          (sha (sha (s.flatMap fun n => Bytes.littleEndian 4 n.toNat)).bytes).bytes
        ≤ Bytes.ofBigEndian t.bytes) ∧
    (∀ w : Work, (w.withTarget t).isMetBy s = t.isMetUnder sha256 s) ∧
    ∀ t' : Target,
      (t.le t' = true ↔ Bytes.ofBigEndian t.bytes ≤ Bytes.ofBigEndian t'.bytes) ∧
      (t = t' ↔ Bytes.ofBigEndian t.bytes = Bytes.ofBigEndian t'.bytes) ∧
      (t.le t' = true → t.isMetUnder sha s = true → t'.isMetUnder sha s = true) := by
  refine ⟨t.isMetUnder_iff sha s, fun w => rfl, fun t' => ⟨t.le_iff t', Target.toNat_inj.symm, ?_⟩⟩
  intro hle hmet
  rw [Target.isMetUnder_iff] at hmet ⊢
  exact Nat.le_trans hmet ((t.le_iff t').1 hle)

end CycleMiner
