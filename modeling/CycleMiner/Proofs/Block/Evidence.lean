import CycleMiner.Proofs.Cycle.Exactness
import CycleMiner.Proofs.Job.Turns
import CycleMiner.Proofs.Params
import CycleMiner.Proofs.Target.Order
import CycleMiner.Proofs.Work.Parts

/-!
# A block proves its work

Whoever receives a block sees only its bytes.  The first 80 are a header, which keys a graph and
holds a compact target; then come the nonces of a cycle.  `ProvesWork` says, of the bytes alone, that
these nonces are a proof in the header's graph and that their hash meets the header's target.

* `Solution.ofBytes`    reads nonces back from their bytes;
* `ProvesWork`          what the bytes of a block show;
* `Candidate.bytes_of_accepts`   a candidate that its job accepts writes out such a block;
* `published_block_proves_work`   so does everything that a worker publishes, whatever others do to
  the board between its turns.

The target is read from the template twice, once for the work and once for the header; both read the
same text, so the header's target is the one that was met.
-/

namespace CycleMiner

/-! ## reading a block -/

/-- the nonces that a byte string spells, four bytes each, least significant first -/
def Solution.ofBytes : Bytes → Solution
  | a :: b :: c :: d :: rest => UInt32.ofNat (Bytes.ofLittleEndian [a, b, c, d]) :: ofBytes rest
  | _ => []

namespace Block

def headerOf (block : Bytes) : Bytes := block.take 80

/-- the bytes of the nonces behind the header -/
def proofOf (size : Nat) (block : Bytes) : Bytes := (block.drop 80).take (4 * size)

def bitsOf (block : Bytes) : UInt32 :=
  UInt32.ofNat (Bytes.ofLittleEndian (((headerOf block).drop 72).take 4))

end Block

open Block in
/-- the bytes of a block show that work has been done on it -/
structure ProvesWork (params : Params) (easiness headerNonce : UInt32) (block : Bytes) : Prop where
  header_length : (headerOf block).length = 80
  /-- the header ends with the header nonce -/
  header_nonce : (headerOf block).drop 76 = Bytes.ofUInt32 headerNonce
  proof_length : (proofOf params.proofSize block).length = 4 * params.proofSize
  /-- the nonces are a proof in the header's graph -/
  isProof : (Graph.keyed params (headerOf block)).IsProof easiness
    (Solution.ofBytes (proofOf params.proofSize block))
  /-- the hash of the nonces' bytes, last byte first, is at most the header's target -/
  meets : ∃ target, Target.ofCompact (bitsOf block) = .ok target ∧
    Bytes.ofBigEndian (doubleSha256 (proofOf params.proofSize block)).bytes.reverse
      ≤ target.toNat

/-! ## what is written is read back -/

theorem Solution.ofBytes_bytes (s : Solution) : ofBytes s.bytes = s := by
  induction s with
  | nil => rfl
  | cons n rest ih =>
    have first : UInt32.ofNat (Bytes.ofLittleEndian (Bytes.ofUInt32 n)) = n := by
      rw [Bytes.ofLittleEndian_ofUInt32, UInt32.ofNat_toNat]
    show ofBytes (Bytes.ofUInt32 n ++ Solution.bytes rest) = n :: rest
    conv_rhs => rw [← ih, ← first]
    rfl

theorem HeaderPrefix.drop_header (h : HeaderPrefix) (nonce : UInt32) :
    (h.header nonce).drop 76 = Bytes.ofUInt32 nonce :=
  List.drop_left' h.length_bytes

theorem HeaderPrefix.bits_header (h : HeaderPrefix) (nonce : UInt32) :
    ((h.header nonce).drop 72).take 4 = Bytes.ofUInt32 h.bits := by
  have front : (Bytes.ofUInt32 h.version ++ h.previous.bytes ++ h.root.bytes ++
      Bytes.ofUInt32 h.time).length = 72 := by simp
  rw [header, bytes, List.append_assoc _ (Bytes.ofUInt32 h.bits), List.drop_left' front,
    List.take_left' (Bytes.length_ofUInt32 h.bits)]

theorem Work.length_header (w : Work) (nonce : UInt32) : (w.header nonce).length = 80 :=
  w.headerPrefix.length_header nonce

section
variable {c : Candidate} {block : Bytes} (h : c.bytes = .ok block)
include h

theorem Candidate.headerOf_bytes : Block.headerOf block = c.work.header c.headerNonce := by
  obtain ⟨body, -, rfl⟩ := bytes_eq_ok.1 h
  rw [Block.headerOf, List.append_assoc, List.append_assoc, List.append_assoc]
  exact List.take_left' (c.work.length_header c.headerNonce)

theorem Candidate.proofOf_bytes {size : Nat} (hs : c.solution.length = size) :
    Block.proofOf size block = c.solution.bytes := by
  obtain ⟨body, -, rfl⟩ := bytes_eq_ok.1 h
  rw [Block.proofOf, List.append_assoc, List.append_assoc, List.append_assoc,
    List.drop_left' (c.work.length_header c.headerNonce)]
  exact List.take_left' (by rw [Solution.length_bytes, hs])

theorem Candidate.bitsOf_bytes : Block.bitsOf block = c.work.headerPrefix.bits := by
  rw [Block.bitsOf, headerOf_bytes h, Work.header, HeaderPrefix.bits_header,
    Bytes.ofLittleEndian_ofUInt32, UInt32.ofNat_toNat]

end

/-! ## what is published proves work -/

/-- the target of work is the one that its headers spell -/
theorem Work.ofCompact_bits {t : Template} {prefs : Preferences} {w : Work}
    (hw : ofTemplate t prefs = .ok w) : Target.ofCompact w.headerPrefix.bits = .ok w.target := by
  obtain ⟨-, htarget, -, txids, -, hheader⟩ := ofTemplate_eq_ok.1 hw
  obtain ⟨bits, hbits, hcompact⟩ := targetOf_eq_ok.1 htarget
  obtain ⟨hbits', -⟩ := HeaderPrefix.ofTemplate_eq_ok.1 hheader
  obtain rfl := Except.ok.inj (hbits.symm.trans hbits')
  exact hcompact

/-- a candidate that its job accepts writes out a block that proves its work -/
theorem Candidate.bytes_of_accepts {t : Template} {prefs : Preferences} {w : Work}
    (hw : Work.ofTemplate t prefs = .ok w) {params : Params} {easiness headerNonce : UInt32}
    {threads : UInt64} {s : Solution}
    (ha : (Job.start params easiness threads w headerNonce).Accepts s) {block : Bytes}
    (hb : ((Job.start params easiness threads w headerNonce).candidate s).bytes = .ok block) :
    ProvesWork params easiness headerNonce block := by
  have hproof := (Graph.verify_iff _ _ _).1 ha.verified
  have hheader : Block.headerOf block = w.header headerNonce :=
    headerOf_bytes (c := ⟨w, headerNonce, s⟩) hb
  have hnonces : Block.proofOf params.proofSize block = Solution.bytes s :=
    proofOf_bytes hb hproof.length_eq
  have hmet : s.hash.toNat ≤ w.target.toNat := (Target.isMetBy_iff _ _).1 ha.met
  refine ⟨?_, ?_, ?_, ?_, w.target, ?_, ?_⟩
  · rw [hheader]
    exact w.length_header headerNonce
  · rw [hheader]
    exact w.headerPrefix.drop_header headerNonce
  · rw [hnonces, Solution.length_bytes, hproof.length_eq]
    rfl
  · rw [hheader, hnonces, Solution.ofBytes_bytes]
    exact hproof
  · rw [bitsOf_bytes hb]
    exact Work.ofCompact_bits hw
  · rw [hnonces]
    exact hmet

/-- what a worker publishes proves its work, whatever others do to the board between its turns -/
theorem published_block_proves_work {t : Template} {prefs : Preferences} {work : Work}
    (hw : Work.ofTemplate t prefs = .ok work) (params : Params) (easiness headerNonce : UInt32)
    (threads index : UInt64) (others : Nat → Board → Board) (b : Board) (turns : Nat)
    {c : Candidate} {block : Bytes}
    (hc : c ∈ Worker.published (Job.start params easiness threads work headerNonce) others
      (Worker.start index) b turns)
    (hb : c.bytes = .ok block) : ProvesWork params easiness headerNonce block := by
  obtain ⟨s, ha, rfl⟩ := Worker.accepts_of_mem_published hc
  exact Candidate.bytes_of_accepts hw ha hb

def Template.bare : Template where
  version := 1
  previousHash := "0000000000000000000000000000000000000000000000000000000000000000"
  transactions := []
  coinbaseValue := 50
  longPollId := none
  time := 0
  bits := "2100ffff"
  height := 7
  payments := []
  paymentsStarted := false
  payload := none

def Preferences.bare : Preferences := ⟨[0x51], [], []⟩

/-- puts another table under a worker -/
def swapTable (t : Table) : Nat → Board → Board := fun _ b => { b with table := t }

/-- the first turn of a worker closes a cycle of links that it has not made itself, in a table with
a loop elsewhere -/
theorem published_block_of_swapped_table :
    ∃ work c block, Work.ofTemplate .bare .bare = .ok work ∧
      c ∈ Worker.published (Job.start .small 8 1 work 0)
        (swapTable ⟨#[2, 0, 6, 7, 0, 1, 2, 1, 8]⟩) (Worker.start 7) (Board.fresh .small .zero) 1 ∧
      c.bytes = .ok block ∧ ProvesWork .small 8 0 block := by
  have h : (match Work.ofTemplate .bare .bare with
      | .ok work => (Worker.published (Job.start .small 8 1 work 0)
          (swapTable ⟨#[2, 0, 6, 7, 0, 1, 2, 1, 8]⟩) (Worker.start 7)
            (Board.fresh .small .zero) 1).any (·.bytes.isOk)
      | .error _ => false) = true := by
    decide +kernel
  cases hw : Work.ofTemplate .bare .bare with
  | error f =>
    rw [hw] at h
    cases h
  | ok work =>
    rw [hw] at h
    obtain ⟨c, hc, hok⟩ := List.any_eq_true.1 h
    cases hb : c.bytes with
    | error f =>
      rw [hb] at hok
      cases hok
    | ok block =>
      exact ⟨work, c, block, rfl, hc, hb, published_block_proves_work hw _ _ _ _ _ _ _ _ hc hb⟩

end CycleMiner
