import CycleMiner.Table
import Mathlib.Data.List.Nodup

/-!
# Paths of a table

The path of a node goes along links to a node without one.  A node has at most one path, so no node
stands on a path twice; in an acyclic table it has exactly one.

* `Table.Link`              a cell that holds a link;
* `Table.IsPath`            the nodes of a path, its root last;
* `IsPath.unique`           a node has at most one path;
* `IsPath.disjoint`         paths to different roots have no node in common;
* `Table.Acyclic`           every node has a path;
* `Table.path_of_isPath`    following links finds the path of a node if it is short enough, and
  never takes it for a loop.

Only the first node of a path may be 0: a link to 0 is no link.
-/

namespace CycleMiner

namespace Table

/-- the cell of `x` holds a link to `y` -/
def Link (t : Table) (x y : UInt32) : Prop := t.get x = y ∧ y ≠ 0

/-- the nodes of a path, its root last -/
def IsPath (t : Table) : List UInt32 → Prop
  | [] => False
  | [x] => t.get x = 0
  | x :: y :: rest => t.Link x y ∧ IsPath t (y :: rest)

/-- every node has a path -/
def Acyclic (t : Table) : Prop := ∀ x, ∃ p, t.IsPath (x :: p)

section
variable {t : Table} {x y : UInt32} {p q us vs : List UInt32}

theorem Link.right_unique {z : UInt32} (hy : t.Link x y) (hz : t.Link x z) : y = z :=
  hy.1.symm.trans hz.1

theorem link_get (h : t.get x ≠ 0) : t.Link x (t.get x) := ⟨rfl, h⟩

/-! ## paths -/

/-- the path of a linked node is that of its partner with the node in front -/
theorem IsPath.of_link (h : t.Link x y) (hp : t.IsPath (x :: p)) :
    ∃ q, p = y :: q ∧ t.IsPath (y :: q) := by
  cases p with
  | nil =>
    obtain ⟨he, hne⟩ := h
    exact absurd (he.symm.trans hp) hne
  | cons z q =>
    obtain ⟨hz, hq⟩ := hp
    obtain rfl := h.right_unique hz
    exact ⟨q, rfl, hq⟩

theorem IsPath.unique (hp : t.IsPath (x :: p)) (hq : t.IsPath (x :: q)) : p = q := by
  induction p generalizing x q with
  | nil =>
    cases q with
    | nil => rfl
    | cons y q =>
      obtain ⟨⟨he, hne⟩, -⟩ := hq
      exact absurd (he.symm.trans hp) hne
  | cons y p ih =>
    obtain ⟨hl, hp⟩ := hp
    obtain ⟨q, rfl, hq'⟩ := hq.of_link hl
    rw [ih hp hq']

/-- what is left of a path from one of its nodes on is that node's path -/
theorem IsPath.suffix {as : List UInt32} (h : t.IsPath (as ++ x :: p)) : t.IsPath (x :: p) := by
  induction as with
  | nil => exact h
  | cons a as ih =>
    apply ih
    cases as with
    | nil => exact h.2
    | cons b as => exact h.2

theorem IsPath.nodup (h : t.IsPath p) : p.Nodup := by
  induction p with
  | nil => exact List.nodup_nil
  | cons x p ih =>
    cases p with
    | nil => exact List.nodup_singleton x
    | cons y p =>
      refine List.nodup_cons.2 ⟨fun hmem => ?_, ih h.2⟩
      obtain ⟨as, bs, e⟩ := List.append_of_mem hmem
      have later : t.IsPath (x :: bs) := IsPath.suffix (e ▸ h.2)
      have hlen := congrArg List.length (h.unique later)
      have hsplit := congrArg List.length e
      rw [List.length_append, List.length_cons, List.length_cons] at hsplit
      rw [List.length_cons] at hlen
      omega

/-- a node of a path is its root or linked to another node of it -/
theorem IsPath.link_mem (h : t.IsPath p) (hx : x ∈ p) (hl : t.Link x y) :
    ∃ as bs, p = as ++ x :: y :: bs := by
  obtain ⟨as, bs, rfl⟩ := List.append_of_mem hx
  obtain ⟨q, rfl, -⟩ := h.suffix.of_link hl
  exact ⟨as, q, rfl⟩

/-- every node of a path but the first is linked to -/
theorem IsPath.link_of_mem_tail (h : t.IsPath (x :: p)) (hy : y ∈ p) :
    ∃ z ∈ x :: p, t.Link z y := by
  induction p generalizing x with
  | nil => cases hy
  | cons z p ih =>
    rcases List.mem_cons.1 hy with rfl | hy
    · exact ⟨x, List.mem_cons_self, h.1⟩
    · obtain ⟨w, hw, hl⟩ := ih h.2 hy
      exact ⟨w, List.mem_cons_of_mem x hw, hl⟩

/-- a property of the first node that links hand on holds along the path -/
theorem IsPath.forall_mem {P : UInt32 → Prop} (h : t.IsPath (x :: p)) (hx : P x)
    (hl : ∀ y z, t.Link y z → P z) : ∀ y ∈ x :: p, P y := by
  intro y hy
  rcases List.mem_cons.1 hy with rfl | hy
  · exact hx
  · obtain ⟨z, -, hz⟩ := h.link_of_mem_tail hy
    exact hl z y hz

theorem IsPath.getLast?_eq (hu : t.IsPath us) (hv : t.IsPath vs) (hxu : x ∈ us) (hxv : x ∈ vs) :
    us.getLast? = vs.getLast? := by
  obtain ⟨as, p, rfl⟩ := List.append_of_mem hxu
  obtain ⟨bs, q, rfl⟩ := List.append_of_mem hxv
  rw [hu.suffix.unique hv.suffix, List.getLast?_append_of_ne_nil _ (List.cons_ne_nil x q),
    List.getLast?_append_of_ne_nil _ (List.cons_ne_nil x q)]

theorem IsPath.disjoint (hu : t.IsPath us) (hv : t.IsPath vs)
    (h : us.getLast? ≠ vs.getLast?) : us.Disjoint vs :=
  fun _ hxu hxv => h (hu.getLast?_eq hv hxu hxv)

theorem IsPath.congr {t' : Table} (h : t.IsPath p) (he : ∀ x ∈ p, t'.get x = t.get x) :
    t'.IsPath p := by
  induction p with
  | nil => exact h
  | cons x p ih =>
    cases p with
    | nil => exact (he x List.mem_cons_self).trans h
    | cons y p =>
      have hx : t'.get x = y := (he x List.mem_cons_self).trans h.1.1
      exact ⟨⟨hx, h.1.2⟩, ih h.2 fun z hz => he z (List.mem_cons_of_mem x hz)⟩

/-! ## following links -/

/-- following links finds the rest of a path if there is room for it -/
theorem follow_of_isPath {bound room : Nat} {node : UInt32} {seen : List UInt32}
    (h : t.IsPath (node :: p)) (hnd : (seen.reverse ++ p).Nodup) :
    follow t bound room node seen
      = if p.length ≤ room then .ok (seen.reverse ++ p) else .error (.tooLong bound) := by
  induction p generalizing room node seen with
  | nil =>
    have hroot : t.get node = 0 := h
    unfold follow
    simp [hroot]
  | cons y p ih =>
    obtain ⟨⟨hy, hne⟩, hp⟩ := h
    unfold follow
    dsimp only
    rw [hy, if_neg hne]
    cases room with
    | zero =>
      have hnew : y ∉ seen := by
        intro hmem
        exact (List.nodup_append.1 hnd).2.2 y (List.mem_reverse.2 hmem) y List.mem_cons_self rfl
      dsimp only
      rw [List.idxOf?_eq_none_iff.2 hnew, if_neg (by simp)]
    | succ room =>
      have hshift : (y :: seen).reverse ++ p = seen.reverse ++ y :: p := by simp
      dsimp only
      rw [ih hp (hshift ▸ hnd), hshift]
      simp only [List.length_cons, Nat.add_le_add_iff_right]

/-- a path that is short enough is found, and a longer one is not taken for a loop -/
theorem path_of_isPath {node : UInt32} (h : t.IsPath (node :: p)) (bound : Nat) :
    t.path bound node
      = if p.length < bound then .ok (node :: p) else .error (.tooLong bound) := by
  unfold path
  cases bound with
  | zero => rfl
  | succ room =>
    dsimp only
    have hnd : ([node].reverse ++ p).Nodup := h.nodup
    rw [follow_of_isPath h hnd]
    simp only [Nat.lt_succ_iff]
    rfl

theorem Acyclic.path_ne_loop (h : t.Acyclic) (bound : Nat) (node : UInt32) (n : Nat) :
    t.path bound node ≠ .error (.loop n) := by
  obtain ⟨p, hp⟩ := h node
  rw [path_of_isPath hp]
  split <;> simp

theorem acyclic_empty (params : Params) : (empty params).Acyclic :=
  fun x => ⟨[], get_empty params x⟩

end

end Table

end CycleMiner
