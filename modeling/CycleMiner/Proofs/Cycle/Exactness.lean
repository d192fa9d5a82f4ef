import CycleMiner.Proofs.Cycle.Walk

/-!
# What the verifier accepts

A list of nonces is a proof if it is long enough, ascends, stays below the easiness, and its edges
form a single closed cycle.  That the edges form a single closed cycle is said here without a walk:

* `Neighbours`       two listed edges with a common node;
* `IsSingleCycle`    every node of a listed edge belongs to exactly two listed edges, and one can
  get from every listed edge to every other over neighbours;
* `closesAfter_iff_isSingleCycle`   the verifier's walk closes exactly on such lists;
* `verify_exact`     the whole check, for any hash in place of the keyed one.

From a closing walk: its places are as many as there are edges, so it meets every edge, and each of
them has a crossing on both sides.  To a closing walk: on a single cycle every crossing is possible,
so the walk goes on until it comes back; then what it has met is closed under neighbours, so it is
everything, and the number of crossings is the number of edges.
-/

namespace CycleMiner

section
variable (ends : UInt32 → Side → UInt32) (ns : List UInt32)

def Neighbours (m n : UInt32) : Prop := m ∈ ns ∧ n ∈ ns ∧ ∃ s, ends m s = ends n s

/-- the edges of the listed nonces form a single closed cycle -/
structure IsSingleCycle : Prop where
  /-- every node that is touched belongs to exactly two edges -/
  two : ∀ n ∈ ns, ∀ s, ns.countP (fun m => ends m s = ends n s) = 2
  /-- all edges hang together -/
  joined : ∀ m ∈ ns, ∀ n ∈ ns, Relation.ReflTransGen (Neighbours ends ns) m n

def column (s : Side) : Array UInt32 := (ns.map (ends · s)).toArray

end

section
variable {ends : UInt32 → Side → UInt32} {ns : List UInt32}

instance : Std.Symm (Neighbours ends ns) :=
  ⟨fun _ _ ⟨hm, hn, s, hs⟩ => ⟨hn, hm, s, hs.symm⟩⟩

theorem size_column (s : Side) : (column ends ns s).size = ns.length := by
  simp [column]

/-! ## places and nonces -/

theorem shares_column {s : Side} {i k : Nat} (hi : i < ns.length) :
    Shares (column ends ns s) i k ↔
      k < ns.length ∧ k ≠ i ∧ ends (ns.getD k 0) s = ends (ns.getD i 0) s := by
  unfold Shares
  rw [size_column]
  refine and_congr_right fun hk => and_congr_right fun _ => ?_
  simp [column, hi, hk]

/-- a node belongs to one edge more than its place has sharers -/
theorem length_sharers (s : Side) {i : Nat} (hi : i < ns.length) :
    (sharers (column ends ns s) i).length + 1
      = ns.countP (fun m => ends m s = ends (ns.getD i 0) s) := by
  let same : Nat → Bool := fun k => (column ends ns s)[k]? == (column ends ns s)[i]?
  have hmem : i ∈ (List.range ns.length).filter same := by simp [same, hi]
  have herase : sharers (column ends ns s) i = ((List.range ns.length).filter same).erase i := by
    rw [(List.nodup_range.filter _).erase_eq_filter, List.filter_filter, sharers, size_column]
  have hcount : ((List.range ns.length).filter same).length
      = ns.countP (fun m => ends m s = ends (ns.getD i 0) s) := by
    rw [← List.countP_eq_length_filter, ← List.map_coe_finRange_eq_range, List.countP_map]
    conv_rhs => rw [← List.map_get_finRange ns, List.countP_map]
    refine List.countP_congr fun k _ => ?_
    simp [same, column, hi]
  rw [herase, List.length_erase_of_mem hmem, hcount]
  have : 0 < ((List.range ns.length).filter same).length := List.length_pos_of_mem hmem
  omega

theorem exists_other_iff (s : Side) {i : Nat} (hi : i < ns.length) :
    (∃ j, other (column ends ns s) i = some j) ↔
      ns.countP (fun m => ends m s = ends (ns.getD i 0) s) = 2 := by
  rw [← length_sharers s hi]
  simp only [other_eq_some_iff_sharers]
  rw [← List.length_eq_one_iff]
  omega

theorem neighbours_of_other {s : Side} {i j : Nat} (hi : i < ns.length)
    (h : other (column ends ns s) i = some j) :
    Neighbours ends ns (ns.getD i 0) (ns.getD j 0) := by
  obtain ⟨hj, -, he⟩ := (shares_column hi).1 (shares_of_other h)
  have mem : ∀ k < ns.length, ns.getD k 0 ∈ ns := fun k hk => by
    rw [List.getD_eq_getElem _ _ hk]
    exact List.getElem_mem hk
  exact ⟨mem i hi, mem j hj, s, he.symm⟩

theorem exists_place {n : UInt32} (hn : n ∈ ns) : ∃ i < ns.length, ns.getD i 0 = n := by
  obtain ⟨i, hi, e⟩ := List.mem_iff_getElem.1 hn
  exact ⟨i, hi, by rw [List.getD_eq_getElem _ _ hi, e]⟩

theorem exists_cross_eq (ends : UInt32 → Side → UInt32) (ns : List UInt32) (s : Side) :
    ∃ q, ∀ i, cross (column ends ns .a) (column ends ns .b) q i = other (column ends ns s) i := by
  cases s with
  | a => exact ⟨1, fun _ => rfl⟩
  | b => exact ⟨0, fun _ => rfl⟩

theorem exists_side (ends : UInt32 → Side → UInt32) (ns : List UInt32) (q : Nat) :
    ∃ s, ∀ i, cross (column ends ns .a) (column ends ns .b) q i = other (column ends ns s) i := by
  by_cases hq : q % 2 = 0
  · exact ⟨.b, fun i => by rw [cross, if_pos hq]⟩
  · exact ⟨.a, fun i => by rw [cross, if_neg hq]⟩

end

/-! ## from a closing walk to a cycle -/

section
variable {ends : UInt32 → Side → UInt32} {ns : List UInt32} {m : Nat} {r : Nat → Nat}
  (hlen : ns.length = 2 * m)
  (w : IsWalk (column ends ns .a) (column ends ns .b) (2 * m) r) (h0 : r 0 = 0)
include hlen w h0

theorem IsWalk.lt_length {k : Nat} (hk : k < 2 * m) : r k < ns.length := by
  cases k with
  | zero => omega
  | succ k =>
    have := cross_lt (by rw [size_column, size_column]) (w k (by omega))
    rwa [size_column] at this

/-- a walk that first comes back after as many crossings as there are edges has met them all -/
theorem IsWalk.covers (hr : ∀ t, 0 < t → t < m → r (2 * t) ≠ 0) {i : Nat} (hi : i < ns.length) :
    ∃ k < 2 * m, r k = i := by
  have hinj : Set.InjOn r (Finset.range (2 * m)) := w.injOn (by rwa [h0])
  have hsub : (Finset.range (2 * m)).image r ⊆ Finset.range (2 * m) := by
    intro x hx
    obtain ⟨k, hk, rfl⟩ := Finset.mem_image.1 hx
    have := w.lt_length hlen h0 (Finset.mem_range.1 hk)
    exact Finset.mem_range.2 (hlen ▸ this)
  have heq := Finset.eq_of_subset_of_card_le hsub (by rw [Finset.card_image_of_injOn hinj])
  have hmem : i ∈ (Finset.range (2 * m)).image r := by
    rw [heq]
    exact Finset.mem_range.2 (hlen ▸ hi)
  obtain ⟨k, hk, e⟩ := Finset.mem_image.1 hmem
  exact ⟨k, Finset.mem_range.1 hk, e⟩

theorem IsWalk.joined_start {k : Nat} (hk : k < 2 * m) :
    Relation.ReflTransGen (Neighbours ends ns) (ns.getD (r 0) 0) (ns.getD (r k) 0) := by
  induction k with
  | zero => exact .refl
  | succ k ih =>
    obtain ⟨s, hs⟩ := exists_side ends ns k
    have step : other (column ends ns s) (r k) = some (r (k + 1)) := by
      rw [← hs, w k (by omega)]
    exact (ih (by omega)).tail (neighbours_of_other (w.lt_length hlen h0 (by omega)) step)

theorem IsWalk.isSingleCycle (hc : r (2 * m) = 0) (hr : ∀ t, 0 < t → t < m → r (2 * t) ≠ 0) :
    IsSingleCycle ends ns where
  two n hn s := by
    obtain ⟨i, hi, rfl⟩ := exists_place hn
    obtain ⟨k, hk, rfl⟩ := w.covers hlen h0 hr hi
    obtain ⟨q, hq⟩ := exists_cross_eq ends ns s
    obtain ⟨l, -, hl⟩ := w.exists_cross (hc.trans h0.symm) hk q
    rw [← exists_other_iff s hi]
    exact ⟨r l, by rw [← hq, hl]⟩
  joined n hn n' hn' := by
    obtain ⟨i, hi, rfl⟩ := exists_place hn
    obtain ⟨j, hj, rfl⟩ := exists_place hn'
    obtain ⟨k, hk, rfl⟩ := w.covers hlen h0 hr hi
    obtain ⟨l, hl, rfl⟩ := w.covers hlen h0 hr hj
    have back := Std.Symm.symm _ _ (w.joined_start hlen h0 hk)
    exact back.trans (w.joined_start hlen h0 hl)

end

/-! ## from a cycle to a closing walk -/

/-- the walk from the first edge, as far as crossings are possible -/
def trail (us vs : Array UInt32) : Nat → Nat
  | 0 => 0
  | k + 1 => (cross us vs k (trail us vs k)).getD 0

theorem isWalk_trail {us vs : Array UInt32} {n : Nat} (hn : 0 < n) (hs : us.size = vs.size)
    (hv : vs.size = n) (h : ∀ i < n, ∀ q, ∃ j, cross us vs q i = some j) (k : Nat) :
    IsWalk us vs k (trail us vs) := by
  have step : ∀ k, trail us vs k < n → cross us vs k (trail us vs k) = some (trail us vs (k + 1)) := by
    intro k hk
    obtain ⟨j, hj⟩ := h _ hk k
    rw [trail, hj, Option.getD_some]
  have bound : ∀ k, trail us vs k < n := by
    intro k
    induction k with
    | zero => exact hn
    | succ k ih => exact hv ▸ cross_lt hs (step k ih)
  exact fun k _ => step k (bound k)

/-- an endless walk that has come back goes on as before -/
theorem periodic_of_isWalk {us vs : Array UInt32} {r : Nat → Nat} (w : ∀ n, IsWalk us vs n r)
    {p : Nat} (hp : r (2 * p) = r 0) : Function.Periodic r (2 * p) := by
  intro k
  induction k with
  | zero => rw [Nat.zero_add, hp]
  | succ k ih =>
    have later := w (k + 2 * p + 1) (k + 2 * p) (by omega)
    rw [ih, cross_congr (show (k + 2 * p) % 2 = k % 2 by omega), w (k + 1) k (by omega)] at later
    rw [show k + 1 + 2 * p = k + 2 * p + 1 by omega]
    exact (Option.some.inj later).symm

theorem exists_return {us vs : Array UInt32} {r : Nat → Nat} (w : ∀ n, IsWalk us vs n r)
    (hs : us.size = vs.size) (h0 : r 0 < vs.size) :
    ∃ p, 0 < p ∧ r (2 * p) = r 0 ∧ ∀ t, 0 < t → t < p → r (2 * t) ≠ r 0 := by
  have bound : ∀ k, r k < vs.size
    | 0 => h0
    | k + 1 => cross_lt hs (w (k + 1) k (by omega))
  obtain ⟨a, b, hne, e⟩ := Finite.exists_ne_map_eq_of_infinite
    (fun t => (⟨r (2 * t), bound _⟩ : Fin vs.size))
  have e' : r (2 * a) = r (2 * b) := congrArg Fin.val e
  have back : ∀ a b, a < b → r (2 * a) = r (2 * b) → ∃ p, 0 < p ∧ r (2 * p) = r 0 := by
    intro a b hab e
    refine ⟨b - a, by omega, ((w (2 * b)).eq_start (b - a) (2 * a) (by omega) ?_).symm⟩
    rw [e]
    congr 1
    omega
  have hex : ∃ p, 0 < p ∧ r (2 * p) = r 0 := by
    rcases Nat.lt_or_gt_of_ne hne with h | h
    · exact back a b h e'
    · exact back b a h e'.symm
  refine ⟨Nat.find hex, (Nat.find_spec hex).1, (Nat.find_spec hex).2, fun t h1 h2 h3 => ?_⟩
  exact Nat.find_min hex h2 ⟨h1, h3⟩

section
variable {ends : UInt32 → Side → UInt32} {ns : List UInt32} (hc : IsSingleCycle ends ns)
include hc

theorem IsSingleCycle.exists_cross {i : Nat} (hi : i < ns.length) (q : Nat) :
    ∃ j, cross (column ends ns .a) (column ends ns .b) q i = some j := by
  obtain ⟨s, hs⟩ := exists_side ends ns q
  rw [hs, exists_other_iff s hi]
  exact hc.two _ (by rw [List.getD_eq_getElem _ _ hi]; exact List.getElem_mem hi) s

/-- what a walk has met when it has come back is everything -/
theorem IsSingleCycle.covered (hnd : ns.Nodup) {r : Nat → Nat} {p : Nat} (hpos : 0 < p)
    (w : ∀ n, IsWalk (column ends ns .a) (column ends ns .b) n r) (h0 : r 0 < ns.length)
    (hp : r (2 * p) = r 0) {i : Nat} (hi : i < ns.length) : ∃ k < 2 * p, r k = i := by
  have hper := periodic_of_isWalk w hp
  have reduce : ∀ k, ∃ l < 2 * p, r l = r k := fun k =>
    ⟨k % (2 * p), Nat.mod_lt _ (by omega), hper.map_mod_nat k⟩
  have bound : ∀ k, r k < ns.length
    | 0 => h0
    | k + 1 => by
      have := cross_lt (by rw [size_column, size_column]) (w (k + 1) k (by omega))
      rwa [size_column] at this
  have at_mem : ∀ k < ns.length, ns.getD k 0 ∈ ns := fun k hk => by
    rw [List.getD_eq_getElem _ _ hk]
    exact List.getElem_mem hk
  -- along neighbours from the first edge no place outside the walk is met
  have met : ∀ n, Relation.ReflTransGen (Neighbours ends ns) (ns.getD (r 0) 0) n →
      ∃ k < 2 * p, ns.getD (r k) 0 = n := by
    intro n hn
    induction hn with
    | refl => exact ⟨0, by omega, rfl⟩
    | tail _ step ih =>
      obtain ⟨k, hk, rfl⟩ := ih
      obtain ⟨-, hn', s, hs⟩ := step
      obtain ⟨j, hj, rfl⟩ := exists_place hn'
      by_cases hjk : j = r k
      · exact ⟨k, hk, by rw [hjk]⟩
      · obtain ⟨q, hq⟩ := exists_cross_eq ends ns s
        obtain ⟨l, hl, hlk⟩ := (w (2 * p)).exists_cross hp hk q
        rw [hq, other_eq_some_iff] at hlk
        have hj' : j = r l := (hlk j).1 ((shares_column (bound k)).2 ⟨hj, hjk, hs.symm⟩)
        exact ⟨l, hl, by rw [hj']⟩
  obtain ⟨k, hk, e⟩ := met (ns.getD i 0) (hc.joined _ (at_mem _ h0) _ (at_mem i hi))
  refine ⟨k, hk, ?_⟩
  rw [List.getD_eq_getElem _ _ (bound k), List.getD_eq_getElem _ _ hi] at e
  exact (hnd.getElem_inj_iff).1 e

/-- on a single cycle the walk comes back when no edge is left -/
theorem IsSingleCycle.closesAfter (hnd : ns.Nodup) {m : Nat} (hm : 0 < m)
    (hlen : ns.length = 2 * m) :
    closesAfter (column ends ns .a) (column ends ns .b) (2 * m) 0 = true := by
  have hs : (column ends ns .a).size = (column ends ns .b).size := by
    rw [size_column, size_column]
  have hpos : 0 < ns.length := by omega
  have w := isWalk_trail hpos hs (size_column .b) fun i hi q => hc.exists_cross hi q
  have h0 : trail (column ends ns .a) (column ends ns .b) 0 = 0 := rfl
  obtain ⟨p, hp0, hp, hmin⟩ := exists_return w hs (by rw [h0, size_column]; omega)
  have hinj := (w (2 * p)).injOn hmin
  have hge : ns.length ≤ 2 * p := by
    have hsub : Finset.range ns.length ⊆ (Finset.range (2 * p)).image
        (trail (column ends ns .a) (column ends ns .b)) := by
      intro i hi
      obtain ⟨k, hk, e⟩ := hc.covered hnd hp0 w (by rw [h0]; omega) hp (Finset.mem_range.1 hi)
      exact Finset.mem_image.2 ⟨k, Finset.mem_range.2 hk, e⟩
    have := (Finset.card_le_card hsub).trans Finset.card_image_le
    rwa [Finset.card_range, Finset.card_range] at this
  have hle : 2 * p ≤ ns.length := by
    have hsub : (Finset.range (2 * p)).image (trail (column ends ns .a) (column ends ns .b))
        ⊆ Finset.range ns.length := by
      intro i hi
      obtain ⟨k, -, rfl⟩ := Finset.mem_image.1 hi
      cases k with
      | zero => exact Finset.mem_range.2 (by rw [h0]; omega)
      | succ k =>
        have := cross_lt hs (w (k + 1) k (by omega))
        rw [size_column] at this
        exact Finset.mem_range.2 this
    have := Finset.card_le_card hsub
    rwa [Finset.card_image_of_injOn hinj, Finset.card_range, Finset.card_range] at this
  obtain rfl : p = m := by omega
  exact closesAfter_iff.2 ⟨hm, _, w _, h0, hp, hmin⟩

end

/-- the verifier's walk closes exactly on single cycles -/
theorem closesAfter_iff_isSingleCycle {ends : UInt32 → Side → UInt32} {ns : List UInt32}
    (hnd : ns.Nodup) {m : Nat} (hm : 0 < m) (hlen : ns.length = 2 * m) :
    closesAfter (column ends ns .a) (column ends ns .b) (2 * m) 0 = true ↔
      IsSingleCycle ends ns := by
  constructor
  · intro h
    obtain ⟨-, r, w, h0, hc, hr⟩ := closesAfter_iff.1 h
    exact w.isSingleCycle hlen h0 hc hr
  · exact fun h => h.closesAfter hnd hm hlen

/-! ## the whole check -/

theorem ascending_iff (ns : List UInt32) : ascending ns = true ↔ ns.Pairwise (· < ·) := by
  rw [← List.isChain_iff_pairwise]
  induction ns with
  | nil => simp [ascending]
  | cons a rest ih =>
    cases rest with
    | nil => simp [ascending]
    | cons b rest => simp [ascending, ih]

/-- the verifier's check, with any function in the place of the endpoints -/
def accepts (p : Params) (ends : UInt32 → Side → UInt32) (easiness : UInt32) (ns : List UInt32) :
    Bool :=
  ns.length == p.proofSize && ascending ns && ns.all (· < easiness) &&
    closesAfter (column ends ns .a) (column ends ns .b) p.proofSize 0

theorem Graph.verify_eq (g : Graph) (easiness : UInt32) (ns : List UInt32) :
    g.verify easiness ns = accepts g.params g.endpoint easiness ns := rfl

theorem accepts_iff (p : Params) (ends : UInt32 → Side → UInt32) (easiness : UInt32)
    (ns : List UInt32) :
    accepts p ends easiness ns = true ↔ ns.length = p.proofSize ∧ ns.Pairwise (· < ·) ∧
      (∀ n ∈ ns, n < easiness) ∧ IsSingleCycle ends ns := by
  have hfour := p.four_le_proofSize
  have heven := p.proofSize_even
  obtain ⟨m, hm⟩ : ∃ m, p.proofSize = 2 * m := ⟨p.proofSize / 2, by omega⟩
  have split : accepts p ends easiness ns = true ↔ ns.length = p.proofSize ∧
      ns.Pairwise (· < ·) ∧ (∀ n ∈ ns, n < easiness) ∧
      closesAfter (column ends ns .a) (column ends ns .b) (2 * m) 0 = true := by
    rw [← ascending_iff, ← hm]
    simp [accepts, and_assoc]
  rw [split]
  refine and_congr_right fun hl => and_congr_right fun ha => and_congr_right fun _ => ?_
  have hnd : ns.Nodup := ha.imp fun h => UInt32.ne_of_lt h
  exact closesAfter_iff_isSingleCycle hnd (by omega) (hl.trans hm)

/-- a list of nonces is a proof in a graph -/
structure Graph.IsProof (g : Graph) (easiness : UInt32) (ns : List UInt32) : Prop where
  length_eq : ns.length = g.params.proofSize
  ascends : ns.Pairwise (· < ·)
  below : ∀ n ∈ ns, n < easiness
  cycle : IsSingleCycle g.endpoint ns

theorem Graph.verify_iff (g : Graph) (easiness : UInt32) (ns : List UInt32) :
    g.verify easiness ns = true ↔ g.IsProof easiness ns := by
  rw [verify_eq, accepts_iff]
  exact ⟨fun ⟨hl, ha, hb, hc⟩ => ⟨hl, ha, hb, hc⟩, fun ⟨hl, ha, hb, hc⟩ => ⟨hl, ha, hb, hc⟩⟩

/-- the check accepts exactly the single cycles of the wanted size, whatever the endpoints are, and
its loop ends on every list -/
theorem verify_exact (p : Params) (ends : UInt32 → Side → UInt32) (easiness : UInt32)
    (ns : List UInt32) :
    (accepts p ends easiness ns = true ↔ ns.length = p.proofSize ∧ ns.Pairwise (· < ·) ∧
      (∀ n ∈ ns, n < easiness) ∧ IsSingleCycle ends ns) ∧
    EndsWith (column ends ns .a) (column ends ns .b) p.proofSize 0
      (closesAfter (column ends ns .a) (column ends ns .b) p.proofSize 0) ∧
    ∀ g : Graph, g.verify easiness ns = accepts g.params g.endpoint easiness ns := by
  refine ⟨accepts_iff p ends easiness ns, endsWith_closesAfter _ _ _ _, ?_⟩
  intro g
  exact g.verify_eq easiness ns

end CycleMiner
