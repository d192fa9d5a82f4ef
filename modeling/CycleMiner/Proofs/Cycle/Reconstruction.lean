import CycleMiner.Proofs.Cycle.Recovered

/-!
# Nonces from any two traces

The traces of a cycle stand in buffers, and others may have spoilt what is there.  Here the recovery
reads the buffers index by index and gives up at one that is outside; it keeps the wanted edges as a
set, looks for the nonces that generate one of them, and takes every edge out of the set when its
first nonce comes.

* `Graph.solution?`    the recovery from two buffers;
* `Names`              an edge that the traces in the buffers name;
* `wanted?_eq`         the set that is collected has just these edges;
* `Graph.sift_eq`      what comes of taking them out again is what `Graph.collect` finds;
* `recovery_exact`     what is recovered, for any graph and whatever the buffers hold.

A trace from the first side has that side's nodes at its even places, one from the second side at
its odd ones.
-/

namespace CycleMiner

/-! ## reading the buffers -/

/-- the edge between places `i` and `i + 1` of a buffer that has the nodes of the side `even` at its
even places -/
def edgeAt? (half : UInt32) (even : Side) (nodes : Array UInt32) (i : Nat) : Option Edge :=
  (nodes[(i + 1) / 2 * 2]?).bind fun x => (nodes[i / 2 * 2 + 1]?).map fun y =>
    match even with
    | .a => ⟨x, y - half⟩
    | .b => ⟨y, x - half⟩

/-- puts the edges between the first `n + 1` nodes of a buffer into a set, the last one first -/
def gather? (half : UInt32) (even : Side) (nodes : Array UInt32) :
    Nat → Finset Edge → Option (Finset Edge)
  | 0, wanted => some wanted
  | n + 1, wanted =>
    (edgeAt? half even nodes n).bind fun e => gather? half even nodes n (insert e wanted)

/-- the closing edge, and those of both traces up to the places `nu` and `nv` -/
def wanted? (half : UInt32) (us : Array UInt32) (nu : Nat) (vs : Array UInt32) (nv : Nat) :
    Option (Finset Edge) :=
  (us[0]?).bind fun u => (vs[0]?).bind fun v =>
    (gather? half .a us nu {⟨u, v - half⟩}).bind fun wanted => gather? half .b vs nv wanted

namespace Graph

/-- of some nonces those whose edge is wanted still; it is not wanted again -/
def sift (g : Graph) : List UInt32 → Finset Edge → List UInt32
  | [], _ => []
  | n :: rest, wanted =>
    if g.edge n ∈ wanted then n :: sift g rest (wanted.erase (g.edge n)) else sift g rest wanted

/-- the nonces of a cycle from two buffers and how far the traces go there; `none` if a place is
outside -/
def solution? (g : Graph) (easiness : UInt32) (us : Array UInt32) (nu : Nat) (vs : Array UInt32)
    (nv : Nat) : Option (Option (List UInt32)) :=
  (wanted? g.params.half us nu vs nv).map fun wanted =>
    let nonces := (List.range easiness.toNat).map UInt32.ofNat
    let found := g.sift (nonces.filter fun n => g.edge n ∈ wanted) wanted
    if found.length = g.params.proofSize then some found else none

end Graph

/-! ## the edges that are named -/

/-- the edges that two traces name: the one between their first nodes, and the ones between
neighbours, with the end on the second side brought down by the size of a side -/
inductive Names (half : UInt32) (us : Array UInt32) (nu : Nat) (vs : Array UInt32) (nv : Nat) :
    Edge → Prop
  | closing {u v : UInt32} (hu : us[0]? = some u) (hv : vs[0]? = some v) :
    Names half us nu vs nv ⟨u, v - half⟩
  | left {i : Nat} {x y : UInt32} (hi : i < nu) (hx : us[i]? = some x) (hy : us[i + 1]? = some y) :
    Names half us nu vs nv (if i % 2 = 0 then ⟨x, y - half⟩ else ⟨y, x - half⟩)
  | right {i : Nat} {x y : UInt32} (hi : i < nv) (hx : vs[i]? = some x) (hy : vs[i + 1]? = some y) :
    Names half us nu vs nv (if i % 2 = 0 then ⟨y, x - half⟩ else ⟨x, y - half⟩)

/-- the edge between two neighbours of a trace, the first of them at an even place or not -/
def edgeOf (half : UInt32) (even : Side) (i : Nat) (x y : UInt32) : Edge :=
  match even with
  | .a => if i % 2 = 0 then ⟨x, y - half⟩ else ⟨y, x - half⟩
  | .b => if i % 2 = 0 then ⟨y, x - half⟩ else ⟨x, y - half⟩

section
variable {half : UInt32} {even : Side} {nodes : Array UInt32}

theorem edgeAt?_eq {i : Nat} {x y : UInt32} (hx : nodes[i]? = some x)
    (hy : nodes[i + 1]? = some y) :
    edgeAt? half even nodes i = some (edgeOf half even i x y) := by
  unfold edgeAt? edgeOf
  by_cases hi : i % 2 = 0
  · have hfirst : (i + 1) / 2 * 2 = i := by omega
    have hsecond : i / 2 * 2 + 1 = i + 1 := by omega
    rw [hfirst, hsecond, hx, hy]
    cases even <;> simp [hi]
  · have hfirst : (i + 1) / 2 * 2 = i + 1 := by omega
    have hsecond : i / 2 * 2 + 1 = i := by omega
    rw [hfirst, hsecond, hx, hy]
    cases even <;> simp [hi]

theorem gather?_eq (half : UInt32) (even : Side) {n : Nat} (hn : n < nodes.size)
    (wanted : Finset Edge) :
    ∃ all, gather? half even nodes n wanted = some all ∧ ∀ e, e ∈ all ↔ e ∈ wanted ∨
      ∃ i x y, i < n ∧ nodes[i]? = some x ∧ nodes[i + 1]? = some y ∧
        e = edgeOf half even i x y := by
  induction n generalizing wanted with
  | zero =>
    refine ⟨wanted, rfl, fun e => (or_iff_left ?_).symm⟩
    rintro ⟨i, x, y, hi, -⟩
    exact Nat.not_lt_zero i hi
  | succ n ih =>
    -- the edge behind place `n` is put in first, and then those before it
    have hx : nodes[n]? = some nodes[n] := Array.getElem?_eq_getElem _
    have hy : nodes[n + 1]? = some nodes[n + 1] := Array.getElem?_eq_getElem _
    obtain ⟨all, hall, hmem⟩ := ih (Nat.lt_of_succ_lt hn)
      (insert (edgeOf half even n nodes[n] nodes[n + 1]) wanted)
    refine ⟨all, ?_, fun e => ?_⟩
    · rw [gather?, edgeAt?_eq hx hy, Option.bind_some, hall]
    · rw [hmem, Finset.mem_insert]
      constructor
      · rintro ((rfl | hw) | ⟨i, x, y, hi, h⟩)
        · exact .inr ⟨n, _, _, Nat.lt_succ_self n, hx, hy, rfl⟩
        · exact .inl hw
        · exact .inr ⟨i, x, y, Nat.lt_succ_of_lt hi, h⟩
      · rintro (hw | ⟨i, x, y, hi, h⟩)
        · exact .inl (.inr hw)
        · rcases Nat.lt_succ_iff_lt_or_eq.1 hi with hi | rfl
          · exact .inr ⟨i, x, y, hi, h⟩
          · obtain ⟨hx', hy', rfl⟩ := h
            obtain rfl := Option.some.inj (hx.symm.trans hx')
            obtain rfl := Option.some.inj (hy.symm.trans hy')
            exact .inl (.inl rfl)

end

section
variable {half : UInt32} {us vs : Array UInt32} {nu nv : Nat}

theorem names_iff {e : Edge} : Names half us nu vs nv e ↔
    (∃ u v, us[0]? = some u ∧ vs[0]? = some v ∧ e = ⟨u, v - half⟩) ∨
    (∃ i x y, i < nu ∧ us[i]? = some x ∧ us[i + 1]? = some y ∧ e = edgeOf half .a i x y) ∨
    (∃ i x y, i < nv ∧ vs[i]? = some x ∧ vs[i + 1]? = some y ∧ e = edgeOf half .b i x y) := by
  constructor
  · rintro (⟨hu, hv⟩ | ⟨hi, hx, hy⟩ | ⟨hi, hx, hy⟩)
    · exact .inl ⟨_, _, hu, hv, rfl⟩
    · exact .inr (.inl ⟨_, _, _, hi, hx, hy, rfl⟩)
    · exact .inr (.inr ⟨_, _, _, hi, hx, hy, rfl⟩)
  · rintro (⟨u, v, hu, hv, rfl⟩ | ⟨i, x, y, hi, hx, hy, rfl⟩ | ⟨i, x, y, hi, hx, hy, rfl⟩)
    · exact .closing hu hv
    · exact .left hi hx hy
    · exact .right hi hx hy

theorem wanted?_eq (half : UInt32) (hu : nu < us.size) (hv : nv < vs.size) :
    ∃ wanted, wanted? half us nu vs nv = some wanted ∧
      ∀ e, e ∈ wanted ↔ Names half us nu vs nv e := by
  have hu0 : us[0]? = some us[0] := Array.getElem?_eq_getElem _
  have hv0 : vs[0]? = some vs[0] := Array.getElem?_eq_getElem _
  obtain ⟨front, hfront, hmem⟩ :=
    gather?_eq half .a hu {⟨us[0], vs[0] - half⟩}
  obtain ⟨all, hall, hmem'⟩ := gather?_eq half .b hv front
  refine ⟨all, ?_, fun e => ?_⟩
  · rw [wanted?, hu0, hv0, Option.bind_some, Option.bind_some, hfront, Option.bind_some, hall]
  · rw [hmem', hmem, Finset.mem_singleton, names_iff, hu0, hv0, or_assoc]
    simp

/-! ## the same edges from lists -/

theorem mem_pathEdges {e : Edge} {onA : Bool} {nodes : List UInt32} :
    e ∈ pathEdges half onA nodes ↔ ∃ i x y, nodes[i]? = some x ∧ nodes[i + 1]? = some y ∧
      e = edgeOf half (if onA then .a else .b) i x y := by
  induction nodes generalizing onA with
  | nil => simp [pathEdges]
  | cons x nodes ih =>
    cases nodes with
    | nil => simp [pathEdges]
    | cons y nodes =>
      rw [pathEdges, List.mem_cons, ih]
      -- one place further on the sides are the other way round
      have hturn : ∀ i x y, edgeOf half (if !onA then .a else .b) i x y
          = edgeOf half (if onA then .a else .b) (i + 1) x y := by
        intro i x y
        cases onA <;> unfold edgeOf <;> rcases Nat.mod_two_eq_zero_or_one i with hi | hi <;>
          simp [hi, Nat.succ_mod_two_eq_zero_iff]
      constructor
      · rintro (rfl | ⟨i, a, b, ha, hb, rfl⟩)
        · exact ⟨0, x, y, rfl, rfl, by cases onA <;> rfl⟩
        · exact ⟨i + 1, a, b, ha, hb, hturn i a b⟩
      · rintro ⟨i, a, b, ha, hb, rfl⟩
        cases i with
        | zero =>
          obtain rfl := Option.some.inj ha
          obtain rfl := Option.some.inj hb
          exact .inl (by cases onA <;> rfl)
        | succ i => exact .inr ⟨i, a, b, ha, hb, (hturn i a b).symm⟩

theorem nodup_eraseDups : ∀ es : List Edge, es.eraseDups.Nodup
  | [] => List.nodup_nil
  | e :: es => by
    rw [List.eraseDups_cons, List.nodup_cons]
    exact ⟨by simp, nodup_eraseDups _⟩
termination_by es => es.length
decreasing_by exact Nat.lt_succ_of_le (List.length_filter_le _ _)

theorem nodup_cycleEdges (us vs : List UInt32) : (cycleEdges half us vs).Nodup :=
  nodup_eraseDups _

theorem neighbours_take {nodes : Array UInt32} {n : Nat} {P : Nat → UInt32 → UInt32 → Prop} :
    (∃ i x y, (nodes.toList.take (n + 1))[i]? = some x ∧
      (nodes.toList.take (n + 1))[i + 1]? = some y ∧ P i x y) ↔
    ∃ i x y, i < n ∧ nodes[i]? = some x ∧ nodes[i + 1]? = some y ∧ P i x y := by
  have hread : ∀ i x, (nodes.toList.take (n + 1))[i]? = some x ↔
      i < n + 1 ∧ nodes[i]? = some x := by
    intro i x
    rw [List.getElem?_take]
    split
    case isTrue h => rw [Array.getElem?_toList, and_iff_right h]
    case isFalse h => exact iff_of_false nofun fun h' => h h'.1
  constructor
  · rintro ⟨i, x, y, hx, hy, hp⟩
    obtain ⟨hi, hy⟩ := (hread _ _).1 hy
    exact ⟨i, x, y, Nat.lt_of_succ_lt_succ hi, ((hread _ _).1 hx).2, hy, hp⟩
  · rintro ⟨i, x, y, hi, hx, hy, hp⟩
    exact ⟨i, x, y, (hread _ _).2 ⟨Nat.lt_succ_of_lt hi, hx⟩,
      (hread _ _).2 ⟨Nat.succ_lt_succ hi, hy⟩, hp⟩

theorem mem_cycleEdges (hu : nu < us.size) (hv : nv < vs.size) {e : Edge} :
    e ∈ cycleEdges half (us.toList.take (nu + 1)) (vs.toList.take (nv + 1)) ↔
      Names half us nu vs nv e := by
  have hfirst : ∀ {nodes : Array UInt32} (n : Nat) (h : 0 < nodes.size),
      (nodes.toList.take (n + 1)).headD 0 = nodes[0] := by
    intro nodes n h
    rw [List.headD_eq_head?_getD, List.head?_take, if_neg (Nat.succ_ne_zero n),
      List.head?_eq_getElem?, Array.getElem?_toList, Array.getElem?_eq_getElem h]
    rfl
  have hu0 : us[0]? = some us[0] := Array.getElem?_eq_getElem _
  have hv0 : vs[0]? = some vs[0] := Array.getElem?_eq_getElem _
  rw [cycleEdges, List.mem_eraseDups, List.cons_append, List.mem_cons, List.mem_append,
    mem_pathEdges, mem_pathEdges, neighbours_take, neighbours_take, hfirst nu (by omega),
    hfirst nv (by omega), names_iff, hu0, hv0]
  simp

end

namespace Graph

section
variable {g : Graph}

theorem sift_filter (nonces : List UInt32) {wanted all : Finset Edge} (h : wanted ⊆ all) :
    g.sift (nonces.filter fun n => g.edge n ∈ all) wanted = g.sift nonces wanted := by
  induction nonces generalizing wanted with
  | nil => rfl
  | cons n nonces ih =>
    rw [List.filter_cons]
    by_cases hall : g.edge n ∈ all
    · rw [if_pos (decide_eq_true hall), sift, sift, ih ((Finset.erase_subset _ _).trans h), ih h]
    · rw [if_neg (by simpa using hall), sift, if_neg fun hw => hall (h hw), ih h]

theorem sift_eq {count : Nat} {start : Nat} {wanted : List Edge} (hw : wanted.Nodup) :
    g.sift ((List.range' start count).map UInt32.ofNat) wanted.toFinset
      = g.collect count (UInt32.ofNat start) wanted := by
  induction count generalizing start wanted with
  | zero => rfl
  | succ count ih =>
    have hnext : UInt32.ofNat start + 1 = UInt32.ofNat (start + 1) := (UInt32.ofNat_add start 1).symm
    rw [List.range'_succ, List.map_cons, sift, collect_succ, hnext]
    by_cases hin : g.edge (UInt32.ofNat start) ∈ wanted
    · -- a list without repetitions loses an edge as its set does
      have herase : wanted.toFinset.erase (g.edge (UInt32.ofNat start))
          = (wanted.erase (g.edge (UInt32.ofNat start))).toFinset := by
        ext e
        rw [Finset.mem_erase, List.mem_toFinset, List.mem_toFinset, hw.mem_erase_iff]
      rw [if_pos (List.mem_toFinset.2 hin), if_pos hin, herase, ih (hw.erase _)]
      rfl
    · rw [if_neg (fun h => hin (List.mem_toFinset.1 h)), if_neg hin, List.erase_of_not_mem hin,
        ih hw]
      rfl

/-- both recoveries come to the same, and look at the named edges only -/
theorem solution?_eq {easiness : UInt32} {us vs : Array UInt32} {nu nv : Nat} (hu : nu < us.size)
    (hv : nv < vs.size) :
    g.solution? easiness us nu vs nv
      = some (g.recover easiness (us.toList.take (nu + 1)) (vs.toList.take (nv + 1))) := by
  obtain ⟨wanted, hwanted, hmem⟩ := wanted?_eq g.params.half hu hv
  have hset : wanted = (cycleEdges g.params.half (us.toList.take (nu + 1))
      (vs.toList.take (nv + 1))).toFinset := by
    ext e
    rw [hmem, List.mem_toFinset, mem_cycleEdges hu hv]
  have hfound : g.sift (((List.range easiness.toNat).map UInt32.ofNat).filter
      fun n => g.edge n ∈ wanted) wanted
      = g.collect easiness.toNat 0 (cycleEdges g.params.half (us.toList.take (nu + 1))
        (vs.toList.take (nv + 1))) := by
    rw [sift_filter _ (Finset.Subset.refl wanted), List.range_eq_range', hset,
      sift_eq (nodup_cycleEdges _ _)]
    rfl
  rw [solution?, hwanted, Option.map_some]
  dsimp only
  rw [hfound]
  rfl

end

end Graph

/-! ## what is recovered -/

/-- the edges found are those that are wanted and that a nonce generates, each found once -/
theorem Graph.edges_collect_all (g : Graph) (easiness : UInt32) {wanted : List Edge}
    (hw : wanted.Nodup) :
    ((g.collect easiness.toNat 0 wanted).map g.edge).Nodup ∧
      ∀ e, e ∈ (g.collect easiness.toNat 0 wanted).map g.edge ↔
        e ∈ wanted ∧ ∃ n < easiness, g.edge n = e := by
  have hmem := g.mem_collect_all easiness hw
  constructor
  · have hnodup : (g.collect easiness.toNat 0 wanted).Nodup :=
      (g.collect_all_ascends easiness hw).imp fun h => UInt32.ne_of_lt h
    exact hnodup.map_on fun m hm n hn =>
      eq_of_first ((hmem m).1 hm).2.2 ((hmem n).1 hn).2.2
  · intro e
    rw [List.mem_map]
    constructor
    · rintro ⟨n, hn, rfl⟩
      obtain ⟨hlt, hin, -⟩ := (hmem n).1 hn
      exact ⟨hin, n, hlt, rfl⟩
    · rintro ⟨hin, n, hn, rfl⟩
      obtain ⟨k, hk, he, hfirst⟩ := exists_first (g := g) hn
      have hedge := Graph.ends_inj.1 he
      refine ⟨k, (hmem k).2 ⟨hk, hedge ▸ hin, fun m hm e => ?_⟩, hedge⟩
      exact hfirst m hm (Graph.ends_inj.2 e)

/-- from any two buffers, read up to any places inside: nothing outside is read; nonces are recovered
exactly if a proof's number of the named edges is generated below the easiness, and then they are the
smallest nonce of each of these edges, ascending, and no two of one edge; and traces that name the
same edges in any other way are recovered alike -/
theorem recovery_exact (g : Graph) (easiness : UInt32) (us vs : Array UInt32) (nu nv : Nat)
    (hu : nu < us.size) (hv : nv < vs.size) :
    let made := {e | Names g.params.half us nu vs nv e ∧ ∃ n < easiness, g.edge n = e}
    let result := g.recover easiness (us.toList.take (nu + 1)) (vs.toList.take (nv + 1))
    g.solution? easiness us nu vs nv = some result ∧
    ((∃ s, result = some s) ↔ made.ncard = g.params.proofSize) ∧
    (∀ s, result = some s → s.Pairwise (· < ·) ∧
      (∀ n, n ∈ s ↔ n < easiness ∧ g.edge n ∈ made ∧ ∀ m < n, g.edge m ≠ g.edge n) ∧
      (s.map g.edge).Nodup ∧ ∀ e, e ∈ s.map g.edge ↔ e ∈ made) ∧
    ∀ (us' vs' : Array UInt32) (nu' nv' : Nat), nu' < us'.size → nv' < vs'.size →
      (∀ e, Names g.params.half us' nu' vs' nv' e ↔ Names g.params.half us nu vs nv e) →
        g.solution? easiness us' nu' vs' nv' = some result := by
  intro made result
  obtain ⟨wanted, hwanted⟩ : ∃ wanted, wanted = cycleEdges g.params.half
    (us.toList.take (nu + 1)) (vs.toList.take (nv + 1)) := ⟨_, rfl⟩
  have hw : wanted.Nodup := hwanted ▸ nodup_cycleEdges _ _
  have hnames : ∀ e, e ∈ wanted ↔ Names g.params.half us nu vs nv e := by
    rw [hwanted]
    exact fun e => mem_cycleEdges hu hv
  obtain ⟨found, hfound⟩ : ∃ found, found = g.collect easiness.toNat 0 wanted := ⟨_, rfl⟩
  have hresult : result = if found.length = g.params.proofSize then some found else none := by
    rw [hfound, hwanted]
    rfl
  obtain ⟨hnodup, hedges⟩ := g.edges_collect_all easiness hw
  rw [← hfound] at hnodup hedges
  have hmade : ∀ e, e ∈ found.map g.edge ↔ e ∈ made := by
    intro e
    rw [hedges, hnames]
    rfl
  have hcount : made.ncard = found.length := by
    have hset : made = ↑(found.map g.edge).toFinset := by
      ext e
      rw [List.coe_toFinset]
      exact (hmade e).symm
    rw [hset, Set.ncard_coe_finset, List.toFinset_card_of_nodup hnodup, List.length_map]
  refine ⟨Graph.solution?_eq hu hv, ?_, fun s hs => ?_, fun us' vs' nu' nv' hu' hv' h => ?_⟩
  · rw [hcount, hresult]
    split
    case isTrue h => exact iff_of_true ⟨found, rfl⟩ h
    case isFalse h => exact iff_of_false (fun ⟨s, e⟩ => nomatch e) h
  · -- what was found is the result only if there is enough of it
    rw [hresult] at hs
    split at hs
    case isFalse => cases hs
    case isTrue =>
      obtain rfl := Option.some.inj hs
      have hascends := g.collect_all_ascends easiness hw
      rw [← hfound] at hascends
      refine ⟨hascends, fun n => ?_, hnodup, hmade⟩
      rw [hfound, g.mem_collect_all easiness hw, hnames]
      refine and_congr_right fun hn => and_congr_left fun _ => ?_
      exact ⟨fun h => ⟨h, n, hn, rfl⟩, fun h => h.1⟩
  · obtain ⟨set, hset, hmem⟩ := wanted?_eq g.params.half hu hv
    obtain ⟨set', hset', hmem'⟩ := wanted?_eq g.params.half hu' hv'
    obtain rfl : set' = set := Finset.ext fun e => by rw [hmem', h, hmem]
    rw [← Graph.solution?_eq hu hv, Graph.solution?, Graph.solution?, hset, hset']

/-- four edges, one of them with two nonces, named by a trace that goes all the way round and by two
that meet halfway -/
theorem recovery_exact_repeated :
    let g := Graph.keyed .small [1, 47]
    g.edge 7 = g.edge 1 ∧ 3 < #[1, 5, 2, 4].size ∧ 0 < #[4].size ∧
    g.solution? 8 #[1, 5, 2, 4] 3 #[4] 0 = some (some [0, 1, 2, 3]) ∧
    {e | Names g.params.half #[1, 5, 2, 4] 3 #[4] 0 e ∧ ∃ n < 8, g.edge n = e}.ncard = 4 := by
  intro g
  have hrecover : g.recover 8 [1, 5, 2, 4] [4] = some [0, 1, 2, 3] := by decide +kernel
  obtain ⟨hsolution, hcount, -⟩ := recovery_exact g 8 #[1, 5, 2, 4] #[4] 3 0 (by decide) (by decide)
  exact ⟨by decide +kernel, by decide, by decide, hsolution.trans (congrArg some hrecover),
    hcount.1 ⟨_, hrecover⟩⟩

end CycleMiner
