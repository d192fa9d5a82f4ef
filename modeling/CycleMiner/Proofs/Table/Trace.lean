import CycleMiner.Proofs.Params
import CycleMiner.Proofs.Table.Hops
import CycleMiner.Proofs.Table.Inside

/-!
# Paths traced into a buffer

A worker traces paths into a buffer that it uses over and over: the nodes of the path are written
over what the buffer held, and the length of the buffer is the bound.  Here the search is written
that way, index by index; it gives up at a node without a cell.

* `lastPlace`             the last place of a node in the front of a buffer;
* `Table.trace?`          traces the path of a node into a buffer: the number of hops or the fault,
  and the buffer after it;
* `Table.InRange`         a cell for every node and a spare one, and every cell holds one of these;
* `Table.Traced`          the nodes met so far stand at the front of a buffer, all else is as before;
* `Table.trace?_of_ends`, `Table.trace?_of_endless`   what comes of a path that ends within the
  buffer, and of one that does not;
* `path_traced_exactly`   both, for every table in range, and `Table.path` finds the same.

The table is only read.
-/

namespace CycleMiner

/-- the last of the first `n` places of a buffer that holds a node -/
def lastPlace (buf : Array UInt32) (node : UInt32) : Nat → Option Nat
  | 0 => none
  | n + 1 => if buf[n]? = some node then some n else lastPlace buf node n

section
variable {buf : Array UInt32} {node : UInt32} {n i : Nat}

theorem of_lastPlace (h : lastPlace buf node n = some i) :
    i < n ∧ buf[i]? = some node ∧ ∀ j, i < j → j < n → buf[j]? ≠ some node := by
  induction n with
  | zero => cases h
  | succ n ih =>
    rw [lastPlace] at h
    split at h
    case isTrue hn =>
      obtain rfl := Option.some.inj h
      exact ⟨Nat.lt_succ_self _, hn, fun j hij hjn => by omega⟩
    case isFalse hn =>
      obtain ⟨hlt, he, hlater⟩ := ih h
      refine ⟨Nat.lt_succ_of_lt hlt, he, fun j hij hjn => ?_⟩
      by_cases hj : j = n
      · exact hj ▸ hn
      · exact hlater j hij (by omega)

theorem of_lastPlace_eq_none (h : lastPlace buf node n = none) :
    ∀ j < n, buf[j]? ≠ some node := by
  induction n with
  | zero => exact fun j hj => absurd hj (Nat.not_lt_zero j)
  | succ n ih =>
    rw [lastPlace] at h
    split at h
    case isTrue => cases h
    case isFalse hn =>
      intro j hjn
      by_cases hj : j = n
      · exact hj ▸ hn
      · exact ih h j (by omega)

end

namespace Table

/-- goes on from `next`, the node after hop `depth + 1`, and writes the nodes met into the buffer -/
def chase? (t : Table) (depth : Nat) (next : UInt32) (buf : Array UInt32) :
    Option (Except PathFault Nat × Array UInt32) :=
  if next = 0 then some (.ok depth, buf)
  else if h : depth + 1 < buf.size then
    (t.get? next).bind fun after => chase? t (depth + 1) after (buf.set (depth + 1) next)
  else
    match lastPlace buf next (depth + 1) with
    | some place => some (.error (.loop (depth + 1 - place)), buf)
    | none => some (.error (.tooLong buf.size), buf)
termination_by buf.size - depth

/-- traces the path of a node into a buffer: the number of hops or what is wrong, and the buffer
after it; `none` if it meets a node without a cell -/
def trace? (t : Table) (node : UInt32) (buf : Array UInt32) :
    Option (Except PathFault Nat × Array UInt32) :=
  if h : 0 < buf.size then
    (t.get? node).bind fun next => t.chase? 0 next (buf.set 0 node)
  else some (.error (.tooLong 0), buf)

/-- a cell for every node and a spare one, and every cell holds the number of one of these -/
structure InRange (p : Params) (t : Table) : Prop where
  size_eq : t.cells.size = p.nodeCount.toNat + 1
  cells_le : ∀ x ∈ t.cells, x ≤ p.nodeCount

/-- the first `n` nodes met from `node` stand at the front of the buffer after, and all else in it is
as before -/
structure Traced (t : Table) (node : UInt32) (n : Nat) (before after : Array UInt32) : Prop where
  size_eq : after.size = before.size
  met : ∀ i < n, after[i]? = some (t.hop node i)
  rest : ∀ i, n ≤ i → after[i]? = before[i]?

/-! ## tables in range -/

section
variable {p : Params} {t : Table} (h : t.InRange p)
include h

theorem InRange.get_le (x : UInt32) : t.get x ≤ p.nodeCount := by
  rw [get, Array.getD_eq_getD_getElem?]
  cases e : t.cells[x.toNat]? with
  | none => exact UInt32.le_iff_toNat_le.2 (Nat.zero_le _)
  | some y => exact h.cells_le y (Array.mem_of_getElem? e)

theorem InRange.lt_size {x : UInt32} (hx : x ≤ p.nodeCount) : x.toNat < t.cells.size := by
  rw [h.size_eq]
  exact Nat.lt_succ_of_le (UInt32.le_iff_toNat_le.1 hx)

theorem InRange.linksInside : t.LinksInside := by
  intro x y hl
  rw [← hl.1]
  exact h.lt_size (h.get_le x)

end

/-! ## tracing -/

section
variable {t : Table} {node : UInt32} {n : Nat} {before after : Array UInt32}

theorem Traced.push (h : t.Traced node n before after) (hn : n < after.size) :
    t.Traced node (n + 1) before (after.set n (t.hop node n)) where
  size_eq := by rw [Array.size_set, h.size_eq]
  met i hi := by
    rw [Array.getElem?_set]
    split
    case isTrue e => rw [e]
    case isFalse hne => exact h.met i (by omega)
  rest i hi := by
    rw [Array.getElem?_set, if_neg (by omega)]
    exact h.rest i (by omega)

theorem Traced.take_eq (h : t.Traced node n before after) :
    after.toList.take n = t.hops node n := by
  apply List.ext_getElem?
  intro i
  by_cases hi : i < n
  · rw [List.getElem?_take_of_lt hi, Array.getElem?_toList, h.met i hi, hops, List.getElem?_map,
      List.getElem?_range hi]
    rfl
  · rw [List.getElem?_eq_none (by rw [List.length_take]; omega),
      List.getElem?_eq_none (by rw [length_hops]; omega)]

theorem Traced.lastAt {value : UInt32} {i : Nat} (h : t.Traced node n before after)
    (hi : lastPlace after value n = some i) : LastAt (t.hop node) value n i := by
  obtain ⟨hlt, he, hlater⟩ := of_lastPlace hi
  rw [h.met i hlt] at he
  refine ⟨hlt, Option.some.inj he, fun j hij hj e => hlater j hij hj ?_⟩
  rw [h.met j hj, e]

theorem Traced.fault_eq (h : t.Traced node before.size before after) :
    (match lastPlace after (t.hop node before.size) before.size with
      | some place => .loop (before.size - place)
      | none => .tooLong before.size) = t.faultAt before.size node := by
  rw [faultAt_eq]
  split
  case h_1 place e =>
    have hlast := h.lastAt e
    have hperiod : Function.minimalPeriod t.get (t.hop node before.size) = before.size - place :=
      minimalPeriod_of_lastAt hlast
    rw [if_pos ⟨place, hlast.lt, hlast.eq⟩, hperiod]
  case h_2 e =>
    rw [if_neg]
    rintro ⟨i, hi, he⟩
    apply of_lastPlace_eq_none e i hi
    rw [h.met i hi, he]

theorem hop_lt_size (hl : t.LinksInside) (hn : node.toNat < t.cells.size)
    (h : ∀ j < n, t.get (t.hop node j) ≠ 0) : (t.hop node n).toNat < t.cells.size := by
  cases n with
  | zero => exact hn
  | succ n =>
    rw [hop_succ]
    exact hl _ _ (link_get (h n (Nat.lt_succ_self n)))

theorem trace?_eq (hnode : node.toNat < t.cells.size) (hpos : 0 < before.size) :
    t.trace? node before = t.chase? 0 (t.hop node 1) (before.set 0 node) ∧
      t.Traced node 1 before (before.set 0 node) := by
  have hnone : t.Traced node 0 before before :=
    ⟨rfl, fun i hi => absurd hi (Nat.not_lt_zero i), fun _ _ => rfl⟩
  refine ⟨?_, hnone.push hpos⟩
  rw [trace?, dif_pos hpos, get?_eq hnode, Option.bind_some]
  rfl

section
variable (hl : t.LinksInside) (hnode : node.toNat < t.cells.size)
include hl hnode

theorem chase?_of_ends {k d : Nat} (hends : t.EndsAfter node k) (hk : k < before.size)
    (hd : d ≤ k) (htraced : t.Traced node (d + 1) before after) :
    ∃ after', t.chase? d (t.hop node (d + 1)) after = some (.ok k, after') ∧
      t.Traced node (k + 1) before after' := by
  -- the induction is on the hops left up to the root
  induction hm : k - d generalizing d after with
  | zero =>
    obtain rfl : d = k := by omega
    have hroot : t.hop node (d + 1) = 0 := (hop_succ d).trans hends.root
    refine ⟨after, ?_, htraced⟩
    rw [chase?, if_pos hroot]
  | succ m ih =>
    have hlink : t.hop node (d + 1) ≠ 0 := by
      rw [hop_succ]
      exact hends.linked d (by omega)
    have hroom : d + 1 < after.size := by
      have := htraced.size_eq
      omega
    have hcell := hop_lt_size hl hnode (n := d + 1) fun j hj => hends.linked j (by omega)
    rw [chase?, if_neg hlink, dif_pos hroom, get?_eq hcell, Option.bind_some, ← hop_succ]
    exact ih (by omega) (htraced.push hroom) (by omega)

theorem chase?_of_endless {d : Nat} (h : ∀ k < before.size, t.get (t.hop node k) ≠ 0)
    (hd : d < before.size) (htraced : t.Traced node (d + 1) before after) :
    ∃ after', t.chase? d (t.hop node (d + 1)) after
        = some (.error (t.faultAt before.size node), after') ∧
      t.Traced node before.size before after' := by
  have hlink : ∀ d < before.size, t.hop node (d + 1) ≠ 0 := by
    intro d hd
    rw [hop_succ]
    exact h d hd
  -- the induction is on the room left; when there is none, all places hold nodes met
  induction hm : before.size - d generalizing d after with
  | zero => omega
  | succ m ih =>
    have hsize := htraced.size_eq
    by_cases hroom : d + 1 < after.size
    · have hcell := hop_lt_size hl hnode (n := d + 1) fun j hj => h j (by omega)
      rw [chase?, if_neg (hlink d hd), dif_pos hroom, get?_eq hcell, Option.bind_some, ← hop_succ]
      exact ih (by omega) (htraced.push hroom) (by omega)
    · have hfull : d + 1 = before.size := by omega
      rw [hfull] at htraced
      refine ⟨after, ?_, htraced⟩
      rw [chase?, if_neg (hlink d hd), dif_neg hroom, hfull, hsize, ← htraced.fault_eq]
      split <;> rfl

/-- a path that ends within the buffer is traced to its root -/
theorem trace?_of_ends {k : Nat} (hends : t.EndsAfter node k) (hk : k < before.size) :
    ∃ after, t.trace? node before = some (.ok k, after) ∧
      t.Traced node (k + 1) before after := by
  obtain ⟨e, htraced⟩ := trace?_eq hnode (Nat.zero_lt_of_lt hk)
  rw [e]
  exact chase?_of_ends hl hnode hends hk (Nat.zero_le k) htraced

/-- one that does not is an anomaly, and the buffer is full of its nodes -/
theorem trace?_of_endless (h : ∀ k < before.size, t.get (t.hop node k) ≠ 0) :
    ∃ after, t.trace? node before = some (.error (if 0 < before.size
        then t.faultAt before.size node else .tooLong 0), after) ∧
      t.Traced node before.size before after := by
  by_cases hpos : 0 < before.size
  · obtain ⟨e, htraced⟩ := trace?_eq hnode hpos
    rw [e, if_pos hpos]
    exact chase?_of_endless hl hnode h hpos htraced
  · refine ⟨before, ?_, rfl, fun i hi => absurd hi (by omega), fun _ _ => rfl⟩
    rw [trace?, dif_neg hpos, if_neg hpos]

end

end

end Table

/-- in every table in range, from every node and into every buffer: a path that reaches a node
without a link within the buffer is traced with all its nodes in order, and the rest of the buffer
is left; otherwise an anomaly is reported, a loop with its exact length if the node that no longer
fits has been met before, and too long a path if not; `Table.path` finds the same -/
theorem path_traced_exactly (params : Params) (t : Table) (ht : t.InRange params) (node : UInt32)
    (hnode : node ≤ params.nodeCount) (buf : Array UInt32) :
    let cap := buf.size
    let x := fun k => t.get^[k] node
    (∀ k < cap, t.get (x k) = 0 → (∀ j < k, t.get (x j) ≠ 0) →
      ∃ buf', t.trace? node buf = some (.ok k, buf') ∧ buf'.size = cap ∧
        (∀ i ≤ k, buf'[i]? = some (x i)) ∧ (∀ i, k < i → buf'[i]? = buf[i]?) ∧
        (∀ i ≤ k, ∀ j ≤ k, x i = x j → i = j) ∧
        t.path cap node = .ok ((List.range (k + 1)).map x)) ∧
    ((∀ k < cap, t.get (x k) ≠ 0) →
      ∃ fault buf', t.trace? node buf = some (.error fault, buf') ∧
        t.path cap node = .error fault ∧
        fault = if 0 < cap ∧ ∃ i < cap, x i = x cap
          then .loop (Function.minimalPeriod t.get (x cap)) else .tooLong cap) := by
  intro cap x
  have hl := ht.linksInside
  have hcell := ht.lt_size hnode
  constructor
  · intro k hk hroot hlinked
    have hends : t.EndsAfter node k := ⟨hroot, hlinked⟩
    obtain ⟨buf', e, htraced⟩ := Table.trace?_of_ends hl hcell hends hk
    exact ⟨buf', e, htraced.size_eq, fun i hi => htraced.met i (Nat.lt_succ_of_le hi),
      fun i hi => htraced.rest i hi, fun i hi j hj => hends.hop_inj hi hj, hends.path_eq hk⟩
  · intro hendless
    obtain ⟨buf', e, -⟩ := Table.trace?_of_endless hl hcell hendless
    refine ⟨_, buf', e, Table.path_of_endless hendless, ?_⟩
    by_cases hpos : 0 < cap
    · rw [if_pos hpos, Table.faultAt_eq]
      exact if_congr (and_iff_right hpos).symm rfl rfl
    · rw [if_neg hpos, if_neg fun h => hpos h.1, Nat.eq_zero_of_not_pos hpos]

/-- nine cells: node 3 is linked to the root 7, and node 1 leads into a loop of three nodes -/
def Table.looping : Table := ⟨#[0, 5, 6, 7, 0, 2, 5, 0, 0]⟩

theorem Table.inRange_looping : looping.InRange .small := ⟨by decide, by simp [looping]; decide⟩

/-- a path that ends is traced, and one that leads into a loop is reported with the loop's length -/
theorem path_traced_exactly_looping :
    Table.looping.InRange .small ∧
    (∃ buf', Table.looping.trace? 3 #[9, 9, 9, 9] = some (.ok 1, buf') ∧
      buf'[0]? = some 3 ∧ buf'[1]? = some 7 ∧ buf'[2]? = some 9 ∧ buf'[3]? = some 9) ∧
    (∃ buf', Table.looping.trace? 1 #[9, 9, 9, 9] = some (.error (.loop 3), buf')) ∧
    Function.minimalPeriod Table.looping.get 5 = 3 := by
  have hr := Table.inRange_looping
  have hrooted := (path_traced_exactly .small Table.looping hr 3 (by decide) #[9, 9, 9, 9]).1 1
    (by decide) (by decide) (by decide)
  obtain ⟨buf, e, -, hmet, hrest, -⟩ := hrooted
  have hloop := (path_traced_exactly .small Table.looping hr 1 (by decide) #[9, 9, 9, 9]).2
    (by decide)
  obtain ⟨fault, buf', e', hpath, hfault⟩ := hloop
  have hthree : Table.looping.path 4 1 = .error (.loop 3) := by decide
  obtain rfl : .loop 3 = fault := Except.error.inj (hthree.symm.trans hpath)
  rw [if_pos ⟨by decide, 1, by decide, by decide⟩] at hfault
  exact ⟨hr, ⟨buf, e, hmet 0 (by decide), hmet 1 (by decide), hrest 2 (by decide),
    hrest 3 (by decide)⟩, ⟨buf', e'⟩, (PathFault.loop.inj hfault).symm⟩

end CycleMiner
