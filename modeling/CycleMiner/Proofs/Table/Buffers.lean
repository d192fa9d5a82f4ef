import CycleMiner.Proofs.Table.Plan
import CycleMiner.Proofs.Table.Trace

/-!
# Putting an edge into the table with two buffers

A worker has one buffer for the paths from either side.  It traces both paths, and either goes
through the buffers from the two places that are equally far from the root until they agree, or
writes the nodes of one buffer back into the table, from the root end on, each with the node before
it.  Here that is written index by index; it gives up at a place that is outside.

* `agree?`               the first two places on from two others where the buffers agree;
* `Table.turn?`          links each of the first nodes of a buffer to the one before it, the last one
  first;
* `Table.insertIn?`      what comes of an edge, the table after it, and the buffers after it;
* `Table.Carries`        an outcome in the buffers that is a plan of the edge;
* `Table.insertIn?_eq`   on every table in range the loops carry out the plan, whatever the buffers
  held before;
* `InRange.insert`       an edge keeps a table in range.

That the cells of a path may be written in any order rests on its nodes all being different.
-/

namespace CycleMiner

/-- the first two places on from `i` and `j` where two buffers agree; `none` if they go on apart to
an end of a buffer -/
def agree? (us vs : Array UInt32) (i j : Nat) : Option (Nat × Nat) :=
  if h : i < us.size ∧ j < vs.size then
    if us[i] = vs[j] then some (i, j) else agree? us vs (i + 1) (j + 1)
  else none
termination_by us.size - i

structure Buffers where
  us : Array UInt32
  vs : Array UInt32
  deriving DecidableEq, Repr, Inhabited

/-- both buffers have the length that bounds a path -/
structure Buffers.Sized (s : Buffers) : Prop where
  us : s.us.size = Table.maxPathLength
  vs : s.vs.size = Table.maxPathLength

def Buffers.fresh : Buffers :=
  ⟨Array.replicate Table.maxPathLength 0, Array.replicate Table.maxPathLength 0⟩

theorem Buffers.sized_fresh : Buffers.fresh.Sized := ⟨Array.size_replicate, Array.size_replicate⟩

inductive Upshot where
  /-- it is a link now, or was one before -/
  | settled
  /-- it closes a cycle with the traces in the buffers up to these places -/
  | closed (nu nv : Nat)
  deriving DecidableEq, Repr, Inhabited

namespace Table

/-- links the node at each place of a buffer from `n` down to 1 to the node before it -/
def turn? (buf : Array UInt32) : Nat → Table → Option Table
  | 0, t => some t
  | n + 1, t =>
    (buf[n + 1]?).bind fun x => (buf[n]?).bind fun y => (t.set? x y).bind fun t => turn? buf n t

/-- what comes of the edge between `u` and `v`, and the table and the buffers after it -/
def insertIn? (t : Table) (u v : UInt32) (s : Buffers) :
    Option (Except PathFault Upshot × Table × Buffers) :=
  (t.get? u).bind fun x => (t.get? v).bind fun y =>
    if x = v ∨ y = u then some (.ok .settled, t, s)
    else
      (t.trace? u s.us).bind fun
      | (.error f, us) => some (.error f, t, ⟨us, s.vs⟩)
      | (.ok nu, us) => (t.trace? v s.vs).bind fun
        | (.error f, vs) => some (.error f, t, ⟨us, vs⟩)
        | (.ok nv, vs) => (us[nu]?).bind fun x => (vs[nv]?).bind fun y =>
          if x = y then
            (agree? us vs (nu - min nu nv) (nv - min nu nv)).map fun (nu, nv) =>
              (.ok (.closed nu nv), t, ⟨us, vs⟩)
          else if nu < nv then
            ((t.turn? us nu).bind (·.set? u v)).map fun t => (.ok .settled, t, ⟨us, vs⟩)
          else ((t.turn? vs nv).bind (·.set? v u)).map fun t => (.ok .settled, t, ⟨us, vs⟩)

/-- the outcome in these buffers, with this table after it, is the plan of an edge -/
inductive Carries (t : Table) (s : Buffers) :
    Except PathFault Insertion → Except PathFault Upshot → Table → Prop
  | fault (f : PathFault) : Carries t s (.error f) (.error f) t
  | present : Carries t s (.ok .present) (.ok .settled) t
  | join (path : List UInt32) (partner : UInt32) :
    Carries t s (.ok (.join path partner)) (.ok .settled) (t.relink path partner)
  | close {nu nv : Nat} (hu : nu < s.us.size) (hv : nv < s.vs.size) :
    Carries t s (.ok (.close (s.us.toList.take (nu + 1)) (s.vs.toList.take (nv + 1))))
      (.ok (.closed nu nv)) t

end Table

/-! ## where the buffers agree -/

section
variable {us vs : Array UInt32}

/-- the two loops stop at the same node -/
theorem agree?_eq (us vs : Array UInt32) {r i j : Nat} (hi : i + r < us.size) (hj : j + r < vs.size)
    (hlast : us[i + r] = vs[j + r]) :
    ∃ d ≤ r, agree? us vs i j = some (i + d, j + d) ∧
      apart ((us.toList.drop i).take (r + 1)) ((vs.toList.drop j).take (r + 1)) = d := by
  have hsplit : ∀ {xs : Array UInt32} {i r : Nat} (h : i < xs.size),
      (xs.toList.drop i).take (r + 1) = xs[i] :: (xs.toList.drop (i + 1)).take r := by
    intro xs i r h
    rw [List.drop_eq_getElem_cons (by simpa using h), List.take_succ_cons, Array.getElem_toList]
  -- the places `r` further on agree, so the loop stops there at the latest
  induction r generalizing i j with
  | zero =>
    have hi' : i < us.size := hi
    have hj' : j < vs.size := hj
    have hsame : us[i] = vs[j] := hlast
    rw [hsplit hi', hsplit hj', agree?, dif_pos ⟨hi', hj'⟩, if_pos hsame]
    exact ⟨0, Nat.le_refl 0, rfl, if_pos hsame⟩
  | succ r ih =>
    have hi' : i < us.size := by omega
    have hj' : j < vs.size := by omega
    rw [hsplit hi', hsplit hj', agree?, dif_pos ⟨hi', hj'⟩, apart]
    by_cases hsame : us[i] = vs[j]
    · rw [if_pos hsame, if_pos hsame]
      exact ⟨0, Nat.zero_le _, rfl, rfl⟩
    · have hi1 : i + 1 + r = i + (r + 1) := by omega
      have hj1 : j + 1 + r = j + (r + 1) := by omega
      obtain ⟨d, hd, e, hap⟩ := ih (i := i + 1) (j := j + 1) (by omega) (by omega)
        (by simpa only [hi1, hj1] using hlast)
      refine ⟨d + 1, Nat.succ_le_succ hd, ?_, ?_⟩
      · rw [if_neg hsame, e, Nat.add_right_comm, Nat.add_assoc i, Nat.add_right_comm,
          Nat.add_assoc j]
      · rw [if_neg hsame, hap]

theorem meet_eq {nu nv : Nat} (hu : nu < us.size) (hv : nv < vs.size) (hroot : us[nu] = vs[nv]) :
    ∃ i ≤ nu, ∃ j ≤ nv, agree? us vs (nu - min nu nv) (nv - min nu nv) = some (i, j) ∧
      meet (us.toList.take (nu + 1)) (vs.toList.take (nv + 1))
        = (us.toList.take (i + 1), vs.toList.take (j + 1)) := by
  obtain ⟨r, hr⟩ : ∃ r, r = min nu nv := ⟨_, rfl⟩
  have hru : nu - r + r = nu := by omega
  have hrv : nv - r + r = nv := by omega
  obtain ⟨d, hd, e, hap⟩ := agree?_eq us vs (r := r) (i := nu - r) (j := nv - r) (by omega)
    (by omega) (by simpa only [hru, hrv] using hroot)
  have hlen : ∀ {xs : Array UInt32} {n : Nat}, n < xs.size →
      (xs.toList.take (n + 1)).length = n + 1 := by
    intro xs n h
    rw [List.length_take, Array.length_toList]
    omega
  refine ⟨nu - r + d, by omega, nv - r + d, by omega, hr ▸ e, ?_⟩
  unfold meet
  dsimp only
  rw [hlen hu, hlen hv, show min (nu + 1) (nv + 1) = r + 1 by omega,
    show nu + 1 - (r + 1) = nu - r by omega, show nv + 1 - (r + 1) = nv - r by omega,
    List.drop_take, List.drop_take, show nu + 1 - (nu - r) = r + 1 by omega,
    show nv + 1 - (nv - r) = r + 1 by omega, hap, List.take_take, List.take_take,
    show min (nu - r + (d + 1)) (nu + 1) = nu - r + d + 1 by omega,
    show min (nv - r + (d + 1)) (nv + 1) = nv - r + d + 1 by omega]

end

namespace Table

/-! ## writing a path back -/

section
variable {t : Table} {x y a b : UInt32} {path : List UInt32}

theorem set_comm (h : x ≠ y) : (t.set x a).set y b = (t.set y b).set x a := by
  have hne : x.toNat ≠ y.toNat := fun e => h (UInt32.toNat_inj.1 e)
  rw [set, set, set, set, Array.setIfInBounds_comm a b hne]

/-- the cell of a node off the path may be written before the path or after it -/
theorem relink_set (hx : x ∉ path) (partner : UInt32) :
    (t.set x a).relink path partner = (t.relink path partner).set x a := by
  induction path generalizing t partner with
  | nil => rfl
  | cons y path ih =>
    obtain ⟨hne, hx'⟩ := not_or.1 (fun h => hx (List.mem_cons.2 h))
    rw [relink, relink, set_comm hne, ih hx']

theorem relink_cons (hx : x ∉ path) (partner : UInt32) :
    t.relink (x :: path) partner = (t.relink path x).set x partner :=
  relink_set hx x

theorem relink_concat (t : Table) (path : List UInt32) (y partner : UInt32) :
    t.relink (path ++ [y]) partner = (t.relink path partner).set y (path.getLastD partner) := by
  induction path generalizing t partner with
  | nil => rfl
  | cons z path ih =>
    rw [List.getLastD_cons]
    exact ih (t.set z partner) z

end

section
variable {t : Table} {node : UInt32} {n : Nat} {before after : Array UInt32}

theorem EndsAfter.nodup {k : Nat} (h : t.EndsAfter node k) (hn : n ≤ k + 1) :
    (t.hops node n).Nodup := by
  refine List.nodup_range.map_on fun i hi j hj e => ?_
  rw [List.mem_range] at hi hj
  exact h.hop_inj (by omega) (by omega) e

theorem getLastD_hops (t : Table) (node : UInt32) (n : Nat) :
    (t.hops (t.get node) n).getLastD node = t.hop node n := by
  cases n with
  | zero => rfl
  | succ n => rw [hops_succ, List.getLastD_concat, ← hop_succ']

theorem turn?_eq {t' : Table} (hbuf : ∀ i ≤ n, after[i]? = some (t.hop node i))
    (hcells : ∀ i ≤ n, (t.hop node i).toNat < t'.cells.size) (hnd : (t.hops node (n + 1)).Nodup) :
    t'.turn? after n = some (t'.relink (t.hops (t.get node) n) node) := by
  -- the cell written first is that of the last node, which is none of the other nodes, so it may as
  -- well be written last
  induction n generalizing t' with
  | zero => rfl
  | succ n ih =>
    have hset : t'.set? (t.hop node (n + 1)) (t.hop node n)
        = some (t'.set (t.hop node (n + 1)) (t.hop node n)) :=
      if_pos (hcells (n + 1) (Nat.le_refl _))
    have hnd' : (t.hops node (n + 1) ++ [t.hop node (n + 1)]).Nodup := by
      rw [← hops_succ]
      exact hnd
    obtain ⟨hfront, -, hlast⟩ := List.nodup_append.1 hnd'
    have hnew : t.hop node (n + 1) ∉ t.hops (t.get node) n := by
      intro hmem
      refine hlast _ ?_ _ (List.mem_singleton.2 rfl) rfl
      rw [hops_succ']
      exact List.mem_cons_of_mem node hmem
    rw [turn?, hbuf (n + 1) (Nat.le_refl _), hbuf n (Nat.le_succ n), Option.bind_some,
      Option.bind_some, hset, Option.bind_some, ih (fun i hi => hbuf i (Nat.le_succ_of_le hi))
        (fun i hi => by rw [size_set]; exact hcells i (Nat.le_succ_of_le hi)) hfront,
      relink_set hnew, hops_succ, ← hop_succ', relink_concat, getLastD_hops]

/-- writing the cells of a trace from the root end on, and the first cell at the end, turns the path
round -/
theorem turn?_set?_eq {k : Nat} (hl : t.LinksInside) (hnode : node.toNat < t.cells.size)
    (h : t.EndsAfter node k) (htraced : t.Traced node (k + 1) before after) (partner : UInt32) :
    (t.turn? after k).bind (·.set? node partner)
      = some (t.relink (t.hops node (k + 1)) partner) := by
  have hcells : ∀ i ≤ k, (t.hop node i).toNat < t.cells.size := fun i hi =>
    hop_lt_size hl hnode fun j hj => h.linked j (by omega)
  have hnd := h.nodup (Nat.le_refl (k + 1))
  have hfirst : node ∉ t.hops (t.get node) k := by
    rw [hops_succ'] at hnd
    exact (List.nodup_cons.1 hnd).1
  rw [turn?_eq (fun i hi => htraced.met i (Nat.lt_succ_of_le hi)) hcells hnd, Option.bind_some,
    hops_succ', relink_cons hfirst, set?, if_pos]
  rw [size_relink]
  exact hnode

end

/-! ## carrying out the plan -/

section
variable {t : Table} {node : UInt32} {before : Array UInt32}

theorem trace?_path (hl : t.LinksInside) (hnode : node.toNat < t.cells.size)
    (before : Array UInt32) :
    ∃ after, after.size = before.size ∧
      ((∃ k < before.size, t.EndsAfter node k ∧ t.Traced node (k + 1) before after ∧
          t.trace? node before = some (.ok k, after) ∧
          t.path before.size node = .ok (t.hops node (k + 1))) ∨
        ∃ f, t.trace? node before = some (.error f, after) ∧
          t.path before.size node = .error f) := by
  rcases t.endsAfter_or node before.size with ⟨k, hk, hends⟩ | hendless
  · obtain ⟨after, e, htraced⟩ := trace?_of_ends hl hnode hends hk
    exact ⟨after, htraced.size_eq, .inl ⟨k, hk, hends, htraced, e, hends.path_eq hk⟩⟩
  · obtain ⟨after, e, htraced⟩ := trace?_of_endless hl hnode hendless
    exact ⟨after, htraced.size_eq, .inr ⟨_, e, path_of_endless hendless⟩⟩

theorem getLast?_hops (k : Nat) : (t.hops node (k + 1)).getLast? = some (t.hop node k) := by
  rw [hops_succ, List.getLast?_concat]

section
variable {u v : UInt32} {s : Buffers} (hl : t.LinksInside) (hu : u.toNat < t.cells.size)
  (hv : v.toNat < t.cells.size)
include hl hu hv

theorem insertIn?_of_ends {nu nv : Nat} {us vs : Array UInt32} (hus : us.size = maxPathLength)
    (hvs : vs.size = maxPathLength) (hpresent : ¬ (t.get u = v ∨ t.get v = u))
    (hu' : nu < maxPathLength ∧ t.EndsAfter u nu ∧ t.Traced u (nu + 1) s.us us ∧
      t.trace? u s.us = some (.ok nu, us))
    (hv' : nv < maxPathLength ∧ t.EndsAfter v nv ∧ t.Traced v (nv + 1) s.vs vs ∧
      t.trace? v s.vs = some (.ok nv, vs)) :
    ∃ outcome t', t.insertIn? u v s = some (outcome, t', ⟨us, vs⟩) ∧
      Carries t ⟨us, vs⟩ (t.plan maxPathLength u v) outcome t' := by
  obtain ⟨hnu, huends, hut, htrace⟩ := hu'
  obtain ⟨hnv, hvends, hvt, htrace'⟩ := hv'
  have hru : us[nu]? = some (t.hop u nu) := hut.met nu (Nat.lt_succ_self nu)
  have hrv : vs[nv]? = some (t.hop v nv) := hvt.met nv (Nat.lt_succ_self nv)
  rw [insertIn?, get?_eq hu, get?_eq hv, Option.bind_some, Option.bind_some, if_neg hpresent,
    htrace, Option.bind_some]
  dsimp only
  rw [htrace', Option.bind_some]
  dsimp only
  rw [hru, hrv, Option.bind_some, Option.bind_some, plan, if_neg hpresent, huends.path_eq hnu,
    hvends.path_eq hnv]
  dsimp only
  rw [getLast?_hops, getLast?_hops, length_hops, length_hops]
  by_cases hroot : t.hop u nu = t.hop v nv
  · -- one root: both traces are cut off where the buffers agree
    rw [if_pos hroot, if_pos (congrArg some hroot)]
    have hget : us[nu] = vs[nv] := by
      rw [Array.getElem?_eq_getElem (hus ▸ hnu)] at hru
      rw [Array.getElem?_eq_getElem (hvs ▸ hnv)] at hrv
      rw [Option.some.inj hru, Option.some.inj hrv, hroot]
    obtain ⟨i, hi, j, hj, e, hmeet⟩ := meet_eq (hus ▸ hnu) (hvs ▸ hnv) hget
    rw [hut.take_eq, hvt.take_eq] at hmeet
    rw [e, hmeet]
    exact ⟨_, t, rfl, .close (Nat.lt_of_le_of_lt hi (hus ▸ hnu)) (Nat.lt_of_le_of_lt hj (hvs ▸ hnv))⟩
  · -- two roots: the shorter trace is written back
    rw [if_neg hroot, if_neg fun h => hroot (Option.some.inj h)]
    by_cases hshort : nu < nv
    · rw [if_pos hshort, if_pos (Nat.succ_lt_succ hshort), turn?_set?_eq hl hu huends hut]
      exact ⟨_, _, rfl, .join _ _⟩
    · rw [if_neg hshort, if_neg (fun h => hshort (Nat.lt_of_succ_lt_succ h)),
        turn?_set?_eq hl hv hvends hvt]
      exact ⟨_, _, rfl, .join _ _⟩

/-- on every table in range the loops carry out the plan, and no place outside is looked at -/
theorem insertIn?_eq (hs : s.Sized) :
    ∃ outcome t' s', t.insertIn? u v s = some (outcome, t', s') ∧ s'.Sized ∧
      Carries t s' (t.plan maxPathLength u v) outcome t' := by
  by_cases hpresent : t.get u = v ∨ t.get v = u
  · refine ⟨.ok .settled, t, s, ?_, hs, ?_⟩
    · rw [insertIn?, get?_eq hu, get?_eq hv, Option.bind_some, Option.bind_some, if_pos hpresent]
    · rw [plan, if_pos hpresent]
      exact .present
  obtain ⟨us, hus, hu'⟩ := trace?_path hl hu s.us
  rw [hs.us] at hus hu'
  obtain ⟨vs, hvs, hv'⟩ := trace?_path hl hv s.vs
  rw [hs.vs] at hvs hv'
  rcases hu' with ⟨nu, hnu, huends, hut, htrace, hpath⟩ | ⟨f, htrace, hpath⟩
  · rcases hv' with ⟨nv, hnv, hvends, hvt, htrace', -⟩ | ⟨f, htrace', hpath'⟩
    · obtain ⟨outcome, t', e, hcarries⟩ := insertIn?_of_ends hl hu hv hus hvs hpresent
        ⟨hnu, huends, hut, htrace⟩ ⟨hnv, hvends, hvt, htrace'⟩
      exact ⟨outcome, t', ⟨us, vs⟩, e, ⟨hus, hvs⟩, hcarries⟩
    · -- the first buffer has been written into all the same
      refine ⟨.error f, t, ⟨us, vs⟩, ?_, ⟨hus, hvs⟩, ?_⟩
      · rw [insertIn?, get?_eq hu, get?_eq hv, Option.bind_some, Option.bind_some,
          if_neg hpresent, htrace, Option.bind_some]
        dsimp only
        rw [htrace']
        rfl
      · rw [plan, if_neg hpresent, hpath, hpath']
        exact .fault f
  · refine ⟨.error f, t, ⟨us, s.vs⟩, ?_, ⟨hus, hs.vs⟩, ?_⟩
    · rw [insertIn?, get?_eq hu, get?_eq hv, Option.bind_some, Option.bind_some, if_neg hpresent,
        htrace]
      rfl
    · rw [plan, if_neg hpresent, hpath]
      exact .fault f

end

end

/-! ## staying in range -/

theorem path_of_join {t : Table} {bound : Nat} {u v partner : UInt32} {path : List UInt32}
    (h : t.plan bound u v = .ok (.join path partner)) :
    (partner = v ∧ t.path bound u = .ok path) ∨ (partner = u ∧ t.path bound v = .ok path) := by
  unfold plan at h
  split at h
  case isTrue => cases h
  case isFalse =>
    cases hus : t.path bound u with
    | error f =>
      rw [hus] at h
      cases h
    | ok us =>
      cases hvs : t.path bound v with
      | error f =>
        rw [hus, hvs] at h
        cases h
      | ok vs =>
        rw [hus, hvs] at h
        dsimp only at h
        split at h
        · cases h
        · split at h
          · cases h
            exact .inl ⟨rfl, rfl⟩
          · cases h
            exact .inr ⟨rfl, rfl⟩

theorem inRange_empty (p : Params) : (empty p).InRange p where
  size_eq := Array.size_replicate
  cells_le x hx := by
    rw [(Array.mem_replicate.1 hx).2]
    exact UInt32.zero_le

section
variable {p : Params} {t : Table} (h : t.InRange p)
include h

theorem InRange.set {y : UInt32} (x : UInt32) (hy : y ≤ p.nodeCount) : (t.set x y).InRange p where
  size_eq := by rw [size_set, h.size_eq]
  cells_le z hz := by
    rcases Array.mem_or_eq_of_mem_setIfInBounds hz with hz | rfl
    · exact h.cells_le z hz
    · exact hy

theorem InRange.relink {path : List UInt32} {partner : UInt32} (hpartner : partner ≤ p.nodeCount)
    (hpath : ∀ x ∈ path, x ≤ p.nodeCount) : (t.relink path partner).InRange p := by
  induction path generalizing t partner with
  | nil => exact h
  | cons x path ih =>
    obtain ⟨hx, hrest⟩ := List.forall_mem_cons.1 hpath
    exact ih (h.set x hpartner) hx hrest

theorem InRange.forall_mem_path {bound : Nat} {node : UInt32} {path : List UInt32}
    (hnode : node ≤ p.nodeCount) (hpath : t.path bound node = .ok path) :
    ∀ x ∈ path, x ≤ p.nodeCount := by
  obtain ⟨q, rfl, hq, -⟩ := isPath_of_path hpath
  exact hq.forall_mem hnode fun y z hl => hl.1 ▸ h.get_le y

theorem InRange.insert {u v : UInt32} (hu : u ≤ p.nodeCount) (hv : v ≤ p.nodeCount) :
    (t.insert u v).InRange p := by
  unfold Table.insert
  cases hplan : t.plan maxPathLength u v with
  | error f => exact h
  | ok plan =>
    cases plan with
    | present => exact h
    | close us vs => exact h
    | join path partner =>
      rcases path_of_join hplan with ⟨rfl, hpath⟩ | ⟨rfl, hpath⟩
      · exact h.relink hv (h.forall_mem_path hu hpath)
      · exact h.relink hu (h.forall_mem_path hv hpath)

end

end Table

end CycleMiner
