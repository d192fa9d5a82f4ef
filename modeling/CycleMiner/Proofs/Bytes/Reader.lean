import CycleMiner.Digest
import CycleMiner.Proofs.CompactSize

/-!
# Readers

A reader takes a value off the front of a byte string and hands on what is left.  That it reads a
value off some bytes means that it does so whatever stands behind them; so readers can be put one
after the other as the bytes are.

* `Reader`, `Reader.whole`         a reader, and what it makes of a string that it uses up;
* `Reader.bytes`, `Reader.word`, `Reader.doubleWord`, `Reader.digest`   fields of a fixed length;
* `Reader.counted`, `Reader.list`  a CompactSize number, then as many bytes, or as many values;
* `Reads r bs a`                   the reader `r` takes `a` off the bytes `bs`;
* `CompactSize.isCanonical_encode` nothing as short is read as a number below `2 ^ 64` as what is
  written of it.
-/

namespace CycleMiner

/-- takes a value off the front of a byte string -/
abbrev Reader := StateT Bytes Option

namespace Reader

variable {α : Type}

/-- the value of a string that is used up -/
def whole (r : Reader α) (bs : Bytes) : Option α :=
  match r bs with
  | some (a, []) => some a
  | _ => none

def bytes (n : Nat) : Reader Bytes := fun bs =>
  if n ≤ bs.length then some (bs.take n, bs.drop n) else none

theorem bytes_eq_some {n : Nat} {bs taken rest : Bytes} (h : bytes n bs = some (taken, rest)) :
    bs = taken ++ rest ∧ taken.length = n := by
  unfold bytes at h
  split at h
  case isTrue hle =>
    obtain ⟨rfl, rfl⟩ := Prod.mk.inj (Option.some.inj h)
    exact ⟨(List.take_append_drop n bs).symm, List.length_take_of_le hle⟩
  case isFalse => cases h

def word : Reader UInt32 := do
  return UInt32.ofNat (Bytes.ofLittleEndian (← bytes 4))

def doubleWord : Reader UInt64 := do
  return UInt64.ofNat (Bytes.ofLittleEndian (← bytes 8))

def digest : Reader Digest := do
  Digest.ofBytes? (← bytes 32)

def size : Reader Nat := CompactSize.decode

def counted : Reader Bytes := do
  bytes (← size)

def many (r : Reader α) : Nat → Reader (List α)
  | 0 => return []
  | n + 1 => do
    let a ← r
    let as ← many r n
    return a :: as

def list (r : Reader α) : Reader (List α) := do
  many r (← size)

end Reader

/-- the reader takes the value off the bytes, whatever stands behind them -/
def Reads {α : Type} (r : Reader α) (bs : Bytes) (a : α) : Prop :=
  ∀ rest, r (bs ++ rest) = some (a, rest)

/-! ## numbers in four forms -/

namespace CompactSize

/-- bytes that hold a number; other bytes that hold it are longer -/
structure IsCanonical (n : Nat) (bs : Bytes) : Prop where
  reads : Reads Reader.size bs n
  longer : ∀ bs', Reads Reader.size bs' n → bs' = bs ∨ bs.length < bs'.length

/-- the form that is written is the shortest one -/
theorem isCanonical_encode {n : Nat} (h : n < 2 ^ 64) : IsCanonical n (encode n) := by
  refine ⟨decode_encode h, fun bs' h' => ?_⟩
  have hread : decode bs' = some (n, []) := by
    have := h' []
    rwa [List.append_nil] at this
  obtain ⟨f, hf, e⟩ := exists_isShortest h
  obtain ⟨g, hg, rfl⟩ := decode_eq_some_iff.1 hread
  rw [e, List.append_nil]
  obtain rfl | hlt := hf.eq_or_size_lt hg
  · exact .inl rfl
  · exact .inr (by rwa [Form.length_bytes, Form.length_bytes])

end CompactSize

/-! ## reading one field after the other -/

namespace Reads

variable {α β : Type} {r : Reader α} {bs cs : Bytes} {a : α}

theorem eq_some (h : Reads r bs a) : r bs = some (a, []) := by
  have := h []
  rwa [List.append_nil] at this

theorem whole_eq (h : Reads r bs a) : r.whole bs = some a := by
  rw [Reader.whole, h.eq_some]

/-- a reader takes only one value off the same bytes -/
theorem unique {a' : α} {rest rest' : Bytes} (h : Reads r bs a) (h' : Reads r cs a')
    (e : bs ++ rest = cs ++ rest') : a = a' := by
  have := h rest
  rw [e, h' rest'] at this
  exact (congrArg Prod.fst (Option.some.inj this)).symm

theorem pure (a : α) : Reads (Pure.pure a) [] a := fun _ => rfl

theorem bind {f : α → Reader β} {b : β} (h : Reads r bs a) (hf : Reads (f a) cs b) :
    Reads (r >>= f) (bs ++ cs) b := by
  intro rest
  show (r (bs ++ cs ++ rest) >>= fun p => f p.1 p.2) = some (b, rest)
  rw [List.append_assoc, h]
  exact hf rest

/-- the last field of a record -/
theorem bind_pure {f : α → β} (h : Reads r bs a) :
    Reads (r >>= fun a => Pure.pure (f a)) bs (f a) := by
  have : Reads (r >>= fun a => Pure.pure (f a)) (bs ++ []) (f a) := h.bind (pure (f a))
  rwa [List.append_nil] at this

theorem map (f : α → β) (h : Reads r bs a) : Reads (f <$> r) bs (f a) := h.bind_pure

theorem bytes (bs : Bytes) : Reads (Reader.bytes bs.length) bs bs := by
  intro rest
  rw [Reader.bytes, if_pos (by rw [List.length_append]; omega), List.take_left, List.drop_left]

theorem word (w : UInt32) : Reads Reader.word (Bytes.ofUInt32 w) w := by
  have h := (bytes (Bytes.ofUInt32 w)).map fun bs => UInt32.ofNat (Bytes.ofLittleEndian bs)
  rw [Bytes.ofLittleEndian_ofUInt32, UInt32.ofNat_toNat, Bytes.length_ofUInt32] at h
  exact h

theorem doubleWord (w : UInt64) : Reads Reader.doubleWord (Bytes.ofUInt64 w) w := by
  have h := (bytes (Bytes.ofUInt64 w)).map fun bs => UInt64.ofNat (Bytes.ofLittleEndian bs)
  rw [Bytes.ofLittleEndian_ofUInt64, UInt64.ofNat_toNat, Bytes.length_ofUInt64] at h
  exact h

theorem digest (d : Digest) : Reads Reader.digest d.bytes d := by
  intro rest
  have h := bytes d.bytes rest
  rw [d.length_bytes] at h
  show (Reader.bytes 32 (d.bytes ++ rest) >>= fun p =>
    Digest.ofBytes? p.1 >>= fun d => some (d, p.2)) = some (d, rest)
  rw [h]
  show (Digest.ofBytes? d.bytes >>= fun d => some (d, rest)) = some (d, rest)
  rw [Digest.ofBytes?_bytes]
  rfl

theorem size {n : Nat} (h : n < 2 ^ 64) : Reads Reader.size (CompactSize.encode n) n :=
  CompactSize.decode_encode h

theorem counted (h : bs.length < 2 ^ 64) : Reads Reader.counted (CompactSize.counted bs) bs :=
  (size h).bind (bytes bs)

theorem many {f : α → Bytes} (as : List α) (h : ∀ a ∈ as, Reads r (f a) a) :
    Reads (r.many as.length) (as.flatMap f) as := by
  induction as with
  | nil => exact pure []
  | cons a as ih =>
    have ha : Reads r (f a) a := h a List.mem_cons_self
    have has : Reads (r.many as.length) (as.flatMap f) as :=
      ih fun a' h' => h a' (List.mem_cons_of_mem a h')
    rw [List.flatMap_cons, List.length_cons]
    exact ha.bind (has.map (a :: ·))

theorem list {f : α → Bytes} {as : List α} (hl : as.length < 2 ^ 64)
    (h : ∀ a ∈ as, Reads r (f a) a) :
    Reads r.list (CompactSize.encode as.length ++ as.flatMap f) as :=
  (size hl).bind (many as h)

end Reads

end CycleMiner
