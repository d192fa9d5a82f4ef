import CycleMiner.Proofs.Job.Buffers
import CycleMiner.Proofs.Job.Completeness
import CycleMiner.Proofs.Table.Reversal

/-!
# A nonce that joins two trees

A worker joins two trees by turning round the shorter of the two paths to their roots.

* `Table.plan_of_paths`   what comes of an edge between two trees, read off its two paths;
* `Table.rehung_of_paths`   and what has become of the table then;
* `relinking_reverses_shorter_path`   so it is with a nonce, with two buffers and without.
-/

namespace CycleMiner

namespace Table

section
variable {t : Table} {bound : Nat} {u v : UInt32} {us vs : List UInt32}
  (hus : t.path bound u = .ok us) (hvs : t.path bound v = .ok vs)
  (hroots : us.getLast? ≠ vs.getLast?)
include hus hvs hroots

/-- an edge between two trees turns round the shorter path, the second one if they are equally
long -/
theorem plan_of_paths (hnew : ¬ (t.get u = v ∨ t.get v = u)) :
    t.plan bound u v
      = if us.length < vs.length then .ok (.join us v) else .ok (.join vs u) := by
  rw [plan, if_neg hnew, hus, hvs]
  exact if_neg hroots

theorem rehung_of_paths (hl : t.LinksInside) (hac : t.Acyclic) (hu : u ≠ 0) (hv : v ≠ 0)
    (hub : u.toNat < t.cells.size) (hvb : v.toNat < t.cells.size) :
    ∃ root root', us.getLast? = some root ∧ vs.getLast? = some root' ∧
      (us.length < vs.length → Rehung t (t.relink us v) us u v root' root) ∧
      (¬ us.length < vs.length → Rehung t (t.relink vs u) vs u v root root') := by
  obtain ⟨p, rfl, hp, -⟩ := isPath_of_path hus
  obtain ⟨q, rfl, hq, -⟩ := isPath_of_path hvs
  have hd := hp.disjoint hq hroots
  obtain ⟨root, hroot⟩ := hp.hasRoot
  obtain ⟨root', hroot'⟩ := hq.hasRoot
  refine ⟨root, root', hp.hasRoot_iff.1 hroot, hq.hasRoot_iff.1 hroot', fun _ => ?_, fun _ => ?_⟩
  · -- the first path hangs under the second end
    have hangs : t.Hangs u p v := ⟨hp, q, hq, hd⟩
    exact hangs.rehung hu (hp.forall_mem hub hl) hac hv hroot' hroot
  · -- and the other way round
    have hangs : t.Hangs v q u := ⟨hq, p, hp, List.disjoint_symm hd⟩
    exact (hangs.rehung hv (hq.forall_mem hvb hl) hac hu hroot hroot').symm

end

end Table

theorem insertNonce_of_join {job : Job} {n : UInt32} {b : Board} {path : List UInt32}
    {partner : UInt32} (h : job.arena.plan b.table n = .ok (.join path partner)) :
    insertNonce job n b = (.nothing, { b with table := b.table.relink path partner }) := by
  rw [Arena.plan] at h
  simp only [insertNonce, h]

/-- in every acyclic table in range: the edge of a nonce whose first end is not node 0 and that is
no link yet, between nodes with paths to different roots, changes the cells of the nodes on the
shorter path, on the second one if they are equally long, and no others; the links are then the old
ones and the edge, without their direction; the table is acyclic again; the nodes of both trees have
the root of the path that was left alone, and all others keep theirs; nothing but the table changes,
and with two buffers, whatever they hold, the same comes of it -/
theorem relinking_reverses_shorter_path (job : Job) (n : UInt32) (b : Board)
    (hb : b.table.InRange job.arena.graph.params) (hac : b.table.Acyclic) (us vs : List UInt32) :
    let t := b.table
    let u := job.arena.graph.address n .a
    let v := job.arena.graph.address n .b
    u ≠ 0 → ¬ (t.get u = v ∨ t.get v = u) → t.path Table.maxPathLength u = .ok us →
    t.path Table.maxPathLength v = .ok vs → us.getLast? ≠ vs.getLast? →
    let short := if us.length < vs.length then us else vs
    let long := if us.length < vs.length then vs else us
    let t' := (insertNonce job n b).2.table
    short.Nodup ∧ short.length = min us.length vs.length ∧
    (∃ left turned, long.getLast? = some left ∧ short.getLast? = some turned ∧
      Table.Rehung t t' short u v left turned) ∧
    insertNonce job n b = (.nothing, { b with table := t' }) ∧
    ∀ s : Buffers, s.Sized → ∃ s', insertNonceIn? job n b s = some (insertNonce job n b, s') := by
  intro t u v hu hnew hus hvs hroots short long t'
  obtain ⟨root, root', hroot, hroot', hleft, hright⟩ := Table.rehung_of_paths hus hvs hroots
    hb.linksInside hac hu (job.arena.graph.address_b_ne_zero n)
    (hb.lt_size (UInt32.le_of_lt (job.arena.graph.address_lt n .a)))
    (hb.lt_size (UInt32.le_of_lt (job.arena.graph.address_lt n .b)))
  have hplan : job.arena.plan t n
      = if us.length < vs.length then .ok (.join us v) else .ok (.join vs u) :=
    Table.plan_of_paths hus hvs hroots hnew
  have hbuffers : ∀ s : Buffers, s.Sized →
      ∃ s', insertNonceIn? job n b s = some (insertNonce job n b, s') := fun s hs => by
    obtain ⟨s', e, -⟩ := insertNonceIn?_eq hb hs n
    exact ⟨s', e⟩
  -- a path without repetitions has as many cells as nodes
  obtain ⟨p, rfl, hp, -⟩ := Table.isPath_of_path hus
  obtain ⟨q, rfl, hq, -⟩ := Table.isPath_of_path hvs
  by_cases hshort : (u :: p).length < (v :: q).length
  · rw [if_pos hshort] at hplan
    have hinsert := insertNonce_of_join hplan
    have ht' : t' = t.relink (u :: p) v := congrArg (·.2.table) hinsert
    simp only [short, long, if_pos hshort, ht']
    exact ⟨hp.nodup, (Nat.min_eq_left (Nat.le_of_lt hshort)).symm,
      ⟨root', root, hroot', hroot, hleft hshort⟩, hinsert, hbuffers⟩
  · rw [if_neg hshort] at hplan
    have hinsert := insertNonce_of_join hplan
    have ht' : t' = t.relink (v :: q) u := congrArg (·.2.table) hinsert
    simp only [short, long, if_neg hshort, ht']
    exact ⟨hq.nodup, (Nat.min_eq_right (Nat.not_lt.1 hshort)).symm,
      ⟨root, root', hroot, hroot', hright hshort⟩, hinsert, hbuffers⟩

/-- two trees: one of the path 1, 6 and one of the path 5, 2, 7 -/
def Table.twoTrees : Table := (((Table.empty .small).set 1 6).set 5 2).set 2 7

theorem Table.inRange_twoTrees : twoTrees.InRange .small :=
  (((inRange_empty .small).set 1 (by decide)).set 5 (by decide)).set 2 (by decide)

theorem Table.isPath_twoTrees : twoTrees.IsPath [1, 6] ∧ twoTrees.IsPath [5, 2, 7] :=
  ⟨⟨⟨rfl, by decide⟩, rfl⟩, ⟨rfl, by decide⟩, ⟨rfl, by decide⟩, rfl⟩

theorem Table.acyclic_twoTrees : twoTrees.Acyclic := by
  intro x
  obtain ⟨hone, hfive⟩ := isPath_twoTrees
  by_cases h1 : x = 1
  · exact ⟨[6], h1 ▸ hone⟩
  by_cases h5 : x = 5
  · exact ⟨[2, 7], h5 ▸ hfive⟩
  by_cases h2 : x = 2
  · exact ⟨[7], h2 ▸ hfive.2⟩
  refine ⟨[], ?_⟩
  show twoTrees.get x = 0
  rw [twoTrees, get_set_other _ _ _ _ h2, get_set_other _ _ _ _ h5, get_set_other _ _ _ _ h1,
    get_empty]

/-- the first edge of the square joins the two trees over the path from node 1, also with the
buffers that a worker starts with -/
theorem relinking_reverses_shorter_path_twoTrees :
    let b : Board := ⟨Table.twoTrees, false, .zero, []⟩
    Table.twoTrees.path Table.maxPathLength 1 = .ok [1, 6] ∧
    Table.twoTrees.path Table.maxPathLength 5 = .ok [5, 2, 7] ∧
    ∃ left turned, [(5 : UInt32), 2, 7].getLast? = some left ∧
      [(1 : UInt32), 6].getLast? = some turned ∧
      Table.Rehung Table.twoTrees (insertNonce Job.square 0 b).2.table [1, 6]
        (Graph.square.address 0 .a) (Graph.square.address 0 .b) left turned ∧
      ∃ s, insertNonceIn? Job.square 0 b .fresh = some (insertNonce Job.square 0 b, s) := by
  intro b
  obtain ⟨hone, hfive⟩ := Table.isPath_twoTrees
  obtain ⟨hu, hv⟩ := address_square
  have hus : Table.twoTrees.path Table.maxPathLength 1 = .ok [1, 6] := Table.path_of_isPath hone _
  have hvs : Table.twoTrees.path Table.maxPathLength 5 = .ok [5, 2, 7] :=
    Table.path_of_isPath hfive _
  have hne : Graph.square.address 0 .a ≠ 0 := by
    rw [hu]
    decide
  have hnew : ¬ (Table.twoTrees.get (Graph.square.address 0 .a) = Graph.square.address 0 .b ∨
      Table.twoTrees.get (Graph.square.address 0 .b) = Graph.square.address 0 .a) := by
    rw [hu, hv]
    decide
  obtain ⟨-, -, ⟨left, turned, hleft, hturned, hrehung⟩, -, hbuffers⟩ :=
    relinking_reverses_shorter_path Job.square 0 b Table.inRange_twoTrees Table.acyclic_twoTrees
      [1, 6] [5, 2, 7] hne hnew (hu ▸ hus) (hv ▸ hvs) (by decide)
  exact ⟨hus, hvs, left, turned, hleft, hturned, hrehung, hbuffers _ Buffers.sized_fresh⟩

end CycleMiner
