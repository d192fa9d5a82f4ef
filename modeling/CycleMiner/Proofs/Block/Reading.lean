import CycleMiner.Proofs.Block.Assembly
import CycleMiner.Proofs.Block.Version
import CycleMiner.Proofs.Coinbase.Reading
import Mathlib.Data.Nat.Digits.Defs

/-!
# A block as a node reads it

A node takes a block apart: 80 bytes of header, the nonces of a cycle, a count, and as many
transactions, the coinbase first.  The header tells of the template, and its root of the very
transactions that follow.

* `Text.IsHexNumeral`         texts for a number in base 16;
* `Text.hexWord_eq_ok_iff`    the texts from which a word is read;
* `Digest.IsShownAs`          a hash and its text;
* `HeaderPrefix.CommitsTo`    what the header of a template has to say;
* `Work.commitsTo`            the header of work says it;
* `Block.Parts`, `Parts.AreOf`   the parts of a block, and what they have to be;
* `Candidate.exists_parts`    the bytes of a block are such parts;
* `Candidate.front_eq_of_bytes_eq`   blocks of the same bytes have the same nonces;
* `block_reads_back`          both of these, for the work of a template.

The count is written as a number of 64 bits, so that it is canonical asks for a list that a machine
can hold.
-/

namespace CycleMiner

/-! ## numerals -/

/-- a text of digits in base 16, which may follow a plus sign -/
def Text.IsHexNumeral (text : String) (n : Nat) : Prop :=
  ∃ digits values, digits ≠ [] ∧ (text.toList = digits ∨ text.toList = '+' :: digits) ∧
    List.Forall₂ (fun c d => hexDigit c = some d) digits values ∧
    n = Nat.ofDigits 16 values.reverse

namespace Text

/-- a digit that is read after `n` counts as much as one that was read before -/
theorem ofDigits_reverse_cons (n d : Nat) (values : List Nat) :
    Nat.ofDigits 16 (d :: values).reverse + 16 ^ (d :: values).length * n
      = Nat.ofDigits 16 values.reverse + 16 ^ values.length * (16 * n + d) := by
  rw [List.reverse_cons, Nat.ofDigits_append, Nat.ofDigits_singleton, List.length_reverse,
    List.length_cons, pow_succ]
  ring

theorem hexDigits_eq_ok {n m : Nat} {cs : List Char} (hn : n < UInt32.size)
    (h : hexDigits n cs = .ok m) : m < UInt32.size ∧
      ∃ values, List.Forall₂ (fun c d => hexDigit c = some d) cs values ∧
        m = Nat.ofDigits 16 values.reverse + 16 ^ values.length * n := by
  induction cs generalizing n with
  | nil =>
    obtain rfl := Except.ok.inj h
    exact ⟨hn, [], .nil, by simp⟩
  | cons c cs ih =>
    rw [hexDigits] at h
    split at h
    case h_1 => cases h
    case h_2 d hd =>
      split at h
      case isFalse => cases h
      case isTrue hlt =>
        obtain ⟨hm, values, hvalues, rfl⟩ := ih hlt h
        exact ⟨hm, d :: values, .cons hd hvalues, (ofDigits_reverse_cons n d values).symm⟩

/-- digits are read, whatever was read before them, if the number is not too large at the end -/
theorem hexDigits_of_values {n : Nat} {cs : List Char} {values : List Nat}
    (h : List.Forall₂ (fun c d => hexDigit c = some d) cs values)
    (hlt : Nat.ofDigits 16 values.reverse + 16 ^ values.length * n < UInt32.size) :
    hexDigits n cs = .ok (Nat.ofDigits 16 values.reverse + 16 ^ values.length * n) := by
  induction h generalizing n with
  | nil => simp [hexDigits]
  | @cons c d cs values hd _ ih =>
    rw [ofDigits_reverse_cons] at hlt ⊢
    -- the number only grows
    have hfirst : 16 * n + d < UInt32.size := by
      have : 1 * (16 * n + d) ≤ 16 ^ values.length * (16 * n + d) :=
        Nat.mul_le_mul_right _ (Nat.pow_pos (by decide))
      omega
    rw [hexDigits, hd]
    dsimp only
    rw [if_pos hfirst]
    exact ih hlt

theorem hexWord_eq_ok {text : String} {w : UInt32} (h : hexWord text = .ok w) :
    IsHexNumeral text w.toNat := by
  have hdigits : ∀ cs : List Char, (hexDigits 0 cs).map UInt32.ofNat = .ok w →
      ∃ values, List.Forall₂ (fun c d => hexDigit c = some d) cs values ∧
        w.toNat = Nat.ofDigits 16 values.reverse := by
    intro cs h
    obtain ⟨m, hm, rfl⟩ := map_eq_ok.1 h
    obtain ⟨hlt, values, hvalues, rfl⟩ := hexDigits_eq_ok (by decide) hm
    refine ⟨values, hvalues, ?_⟩
    rw [UInt32.toNat_ofNat_of_lt' hlt, Nat.mul_zero, Nat.add_zero]
  unfold hexWord at h
  split at h
  case h_1 => cases h
  case h_2 => cases h
  case h_3 rest hnil htext =>
    obtain ⟨values, hvalues, hn⟩ := hdigits rest h
    exact ⟨rest, values, hnil, .inr htext, hvalues, hn⟩
  case h_4 hnil _ _ =>
    obtain ⟨values, hvalues, hn⟩ := hdigits _ h
    exact ⟨_, values, hnil, .inl rfl, hvalues, hn⟩

theorem hexWord_of_isHexNumeral {text : String} {w : UInt32} (h : IsHexNumeral text w.toNat) :
    hexWord text = .ok w := by
  obtain ⟨digits, values, hne, htext, hvalues, hn⟩ := h
  have hword : (hexDigits 0 digits).map UInt32.ofNat = .ok w := by
    have hlt : Nat.ofDigits 16 values.reverse + 16 ^ values.length * 0 < UInt32.size := by
      rw [Nat.mul_zero, Nat.add_zero, ← hn]
      exact w.toNat_lt
    rw [hexDigits_of_values hvalues hlt, Nat.mul_zero, Nat.add_zero, ← hn]
    exact congrArg Except.ok (UInt32.ofNat_toNat)
  unfold hexWord
  rcases htext with htext | htext
  · rw [htext]
    cases hvalues with
    | nil => exact (hne rfl).elim
    | @cons c d cs values hd _ =>
      have hc : c ≠ '+' := by
        rintro rfl
        cases hd
      split
      case h_1 e => cases e
      case h_2 e => exact (hc (List.cons.inj e).1).elim
      case h_3 e => exact (hc (List.cons.inj e).1).elim
      case h_4 => exact hword
  · rw [htext]
    split
    case h_1 e => cases e
    case h_2 e => exact (hne (List.cons.inj e).2).elim
    case h_3 e =>
      obtain ⟨-, rfl⟩ := List.cons.inj e
      exact hword
    case h_4 e => exact (e digits rfl).elim

theorem hexWord_eq_ok_iff {text : String} {w : UInt32} :
    hexWord text = .ok w ↔ IsHexNumeral text w.toNat := ⟨hexWord_eq_ok, hexWord_of_isHexNumeral⟩

end Text

/-! ## the header -/

/-- the text shows the bytes of a hash from back to front -/
def Digest.IsShownAs (d : Digest) (text : String) : Prop :=
  ∃ bs, Hex.decode text = .ok bs ∧ d.bytes = bs.reverse

theorem InputFault.ofShownHash_eq_ok {text : String} {d : Digest} (h : ofShownHash text = .ok d) :
    d.IsShownAs text := by
  unfold ofShownHash at h
  split at h
  case h_1 => cases h
  case h_2 bs hbs =>
    split at h
    case h_1 d' hd =>
      obtain rfl := Except.ok.inj h
      unfold Digest.ofBytes? at hd
      split at hd
      case isTrue =>
        obtain rfl := Option.some.inj hd
        exact ⟨bs, InputFault.ofHex_eq_ok.1 hbs, rfl⟩
      case isFalse => cases hd
    case h_2 => cases h

/-- what the header of a template has to say, above these bytes of a coinbase -/
structure HeaderPrefix.CommitsTo (h : HeaderPrefix) (t : Template) (prefs : Preferences)
    (coinbase : Bytes) : Prop where
  version : ∀ i, h.version.toNat.testBit i = true ↔
    t.version.toNat.testBit i = true ∨ ∃ bit ∈ prefs.voteBits, bit.toNat = i
  previous : h.previous.IsShownAs t.previousHash
  /-- the coinbase is the first transaction that is hashed -/
  root : ∃ txids, List.Forall₂ (fun tx txid => Digest.IsShownAs txid tx.hash) t.transactions txids ∧
    h.root = Merkle.root (doubleSha256 coinbase :: txids)
  time : h.time = t.time
  bits : Text.IsHexNumeral t.bits h.bits.toNat

theorem Work.isShownAs_of_txidsOf {txs : List TemplateTransaction} {txids : List Digest}
    (h : txidsOf txs = .ok txids) :
    List.Forall₂ (fun tx txid => Digest.IsShownAs txid tx.hash) txs txids := by
  rw [txidsOf_eq, mapM_eq_ok, List.forall₂_map_left_iff] at h
  exact h.imp fun _ _ => InputFault.ofShownHash_eq_ok

theorem Work.commitsTo {t : Template} {prefs : Preferences} {w : Work}
    (hw : ofTemplate t prefs = .ok w) : w.headerPrefix.CommitsTo t prefs w.coinbase.bytes := by
  obtain ⟨-, -, -, txids, htxids, hheader⟩ := ofTemplate_eq_ok.1 hw
  obtain ⟨hbits, hversion, hprevious, hroot, htime⟩ := HeaderPrefix.ofTemplate_eq_ok.1 hheader
  exact ⟨testBit_blockVersion hversion, InputFault.ofShownHash_eq_ok hprevious,
    ⟨txids, isShownAs_of_txidsOf htxids, hroot⟩, htime, Text.hexWord_eq_ok (mapError_eq_ok.1 hbits)⟩

def Reader.header : Reader (HeaderPrefix × UInt32) := do
  let version ← word
  let previous ← digest
  let root ← digest
  let time ← word
  let bits ← word
  let nonce ← word
  return (⟨version, previous, root, time, bits⟩, nonce)

theorem HeaderPrefix.reads_header (h : HeaderPrefix) (nonce : UInt32) :
    Reads Reader.header (h.header nonce) (h, nonce) := by
  rw [header, bytes, List.append_assoc, List.append_assoc, List.append_assoc, List.append_assoc]
  refine (Reads.word h.version).bind ?_
  refine (Reads.digest h.previous).bind ?_
  refine (Reads.digest h.root).bind ?_
  refine (Reads.word h.time).bind ?_
  refine (Reads.word h.bits).bind ?_
  exact (Reads.word nonce).bind_pure

theorem Solution.reads_bytes (s : Solution) : Reads (Reader.word.many s.length) s.bytes s :=
  Reads.many s fun n _ => Reads.word n

/-! ## the block -/

structure Block.Parts where
  header : Bytes
  proof : Bytes
  count : Bytes
  coinbase : Bytes
  transactions : List Bytes

namespace Block.Parts

def bytes (p : Parts) : Bytes :=
  p.header ++ p.proof ++ p.count ++ p.coinbase ++ p.transactions.flatten

/-- what the parts of a block with this header nonce and these nonces have to be -/
structure AreOf (t : Template) (prefs : Preferences) (headerNonce : UInt32) (solution : Solution)
    (p : Parts) : Prop where
  header_length : p.header.length = 80
  header : ∃ h, Reader.header.whole p.header = some (h, headerNonce) ∧
    h.CommitsTo t prefs p.coinbase
  proof_length : p.proof.length = 4 * solution.length
  proof : (Reader.word.many solution.length).whole p.proof = some solution
  count : t.transactions.length < memoryBound →
    CompactSize.IsCanonical (1 + t.transactions.length) p.count
  coinbase : ∃ c, Coinbase.ofTemplate t prefs = .ok c ∧ p.coinbase = c.bytes
  transactions : List.Forall₂ (fun tx bs => Hex.decode tx.data = .ok bs) t.transactions
    p.transactions

end Block.Parts

namespace Candidate

theorem exists_parts {t : Template} {prefs : Preferences} {w : Work}
    (hw : Work.ofTemplate t prefs = .ok w) {headerNonce : UInt32} {solution : Solution}
    {block : Bytes} (h : bytes ⟨w, headerNonce, solution⟩ = .ok block) :
    ∃ p : Block.Parts, block = p.bytes ∧ p.AreOf t prefs headerNonce solution := by
  have hcommits := Work.commitsTo hw
  obtain ⟨rfl, -, hcoinbase, -⟩ := Work.ofTemplate_eq_ok.1 hw
  obtain ⟨body, hbody, rfl⟩ := bytes_eq_ok.1 h
  rw [transactionBytes_eq] at hbody
  obtain ⟨bss, hbss, rfl⟩ := map_eq_ok.1 hbody
  rw [mapM_eq_ok, List.forall₂_map_left_iff] at hbss
  refine ⟨⟨w.header headerNonce, solution.bytes, _, w.coinbase.bytes, bss⟩, rfl, ?_⟩
  exact {
    header_length := w.headerPrefix.length_header headerNonce
    header := ⟨w.headerPrefix, (w.headerPrefix.reads_header headerNonce).whole_eq, hcommits⟩
    proof_length := solution.length_bytes
    proof := solution.reads_bytes.whole_eq
    count := fun hmem => CompactSize.isCanonical_encode (by unfold memoryBound at hmem; omega)
    coinbase := ⟨w.coinbase, hcoinbase, rfl⟩
    transactions := hbss.imp fun _ _ h => InputFault.ofHex_eq_ok.1 h }

/-- the header nonce and the nonces of the cycle are read off the front of a block -/
theorem front_eq_of_bytes_eq {c c' : Candidate} {block : Bytes} (h : c.bytes = .ok block)
    (h' : c'.bytes = .ok block) (hlen : c'.solution.length = c.solution.length) :
    c'.headerNonce = c.headerNonce ∧ c'.solution = c.solution := by
  have front (c : Candidate) : Reads (Reader.header >>= fun h =>
      (h.2, ·) <$> Reader.word.many c.solution.length)
      (c.work.header c.headerNonce ++ c.solution.bytes) (c.headerNonce, c.solution) :=
    (c.work.headerPrefix.reads_header c.headerNonce).bind (c.solution.reads_bytes.map _)
  obtain ⟨body, -, rfl⟩ := bytes_eq_ok.1 h
  obtain ⟨body', -, hsame⟩ := bytes_eq_ok.1 h'
  rw [List.append_assoc, List.append_assoc, List.append_assoc (_ ++ _ : Bytes),
    List.append_assoc (_ ++ _ : Bytes)] at hsame
  have hfront' := front c'
  rw [hlen] at hfront'
  exact Prod.mk.inj (hfront'.unique (front c) hsame.symm)

end Candidate

/-- the bytes of a block are the header of its template above the coinbase that is in it, the nonces
of the cycle, the count of the transactions, the coinbase, and the other transactions, and nothing
else; blocks with as many nonces of a cycle differ if their header nonces or these nonces do -/
theorem block_reads_back {t : Template} {prefs : Preferences} {w : Work}
    (hw : Work.ofTemplate t prefs = .ok w) (headerNonce : UInt32) (solution : Solution)
    {block : Bytes} (h : Candidate.bytes ⟨w, headerNonce, solution⟩ = .ok block) :
    (∃ p : Block.Parts, block = p.bytes ∧ p.AreOf t prefs headerNonce solution) ∧
    ∀ c : Candidate, c.bytes = .ok block → c.solution.length = solution.length →
      c.headerNonce = headerNonce ∧ c.solution = solution :=
  ⟨Candidate.exists_parts hw h, fun _ h' hlen => Candidate.front_eq_of_bytes_eq h h' hlen⟩

/-- a block with one transaction -/
theorem block_of_one_byte_reads_back :
    ∃ w block, Work.ofTemplate (.carrying "00") (.plain [0x52]) = .ok w ∧
      Candidate.bytes ⟨w, 7, [1, 2, 3, 4]⟩ = .ok block ∧
      (∃ p : Block.Parts, block = p.bytes ∧
        p.AreOf (.carrying "00") (.plain [0x52]) 7 [1, 2, 3, 4]) ∧
      Candidate.bytes ⟨w, 7, [1, 2, 3, 5]⟩ ≠ .ok block := by
  obtain ⟨w, hw, ht⟩ := Work.exists_ofTemplate_carrying "00"
  have hdata : ∀ tx ∈ (Template.carrying "00").transactions,
      ∃ data, Hex.decode tx.data = .ok data := by
    intro tx htx
    obtain rfl := List.mem_singleton.1 htx
    exact exists_of_isOk (by decide +kernel)
  rw [← ht] at hdata
  obtain ⟨block, hblock⟩ := Candidate.exists_bytes_iff (c := ⟨w, 7, [1, 2, 3, 4]⟩) |>.2 hdata
  obtain ⟨hparts, hdiffer⟩ := block_reads_back hw 7 [1, 2, 3, 4] hblock
  refine ⟨w, block, hw, hblock, hparts, fun hsame => ?_⟩
  obtain ⟨-, hnonces⟩ := hdiffer _ hsame rfl
  cases hnonces

end CycleMiner
