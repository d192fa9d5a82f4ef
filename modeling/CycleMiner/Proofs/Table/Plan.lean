import CycleMiner.Proofs.Table.Relink

/-!
# What an edge does to an acyclic table

* `Table.Together`     where the paths of two nodes run together;
* `meet_append`        `meet` cuts both paths there;
* `Table.Hangs`        a path that may be turned round and hung under a node of another tree;
* `Table.plan_cases`   an edge is passed over, finds a path too long, closes a cycle where the paths
  of its ends run together, or hangs one path under the other end;
* `Table.insert`       the table after an edge, whatever comes of it;
* `Acyclic.insert`     it is acyclic again.

Two paths to one root run together at the first node of the one that stands on the other as well:
from there on both are that node's only path.
-/

namespace CycleMiner

/-! ## where two paths meet -/

section
variable {as bs m : List UInt32} {x : UInt32}

theorem apart_append (hl : as.length = bs.length) (hd : as.Disjoint bs) :
    apart (as ++ x :: m) (bs ++ x :: m) = as.length := by
  induction as generalizing bs with
  | nil =>
    cases bs with
    | nil => simp [apart]
    | cons b bs => cases hl
  | cons a as ih =>
    cases bs with
    | nil => cases hl
    | cons b bs =>
      obtain ⟨hb, hd'⟩ := List.disjoint_cons_left.1 hd
      have hne : a ≠ b := fun e => hb (e ▸ List.mem_cons_self)
      have hrest : as.Disjoint bs := fun y hy hy' => hd' hy (List.mem_cons_of_mem b hy')
      show (if a = b then 0 else apart (as ++ x :: m) (bs ++ x :: m) + 1) = as.length + 1
      rw [if_neg hne, ih (Nat.succ.inj hl) hrest]

/-- the part behind the longer front of two lists with a common end -/
theorem drop_append_common (k : Nat) :
    (as ++ x :: m).drop ((as ++ x :: m).length - (k + (x :: m).length))
      = as.drop (as.length - k) ++ x :: m := by
  rw [List.length_append, Nat.add_sub_add_right, List.drop_append_of_le_length (Nat.sub_le _ _)]

theorem take_append_common (k : Nat) (hk : k ≤ as.length) :
    (as ++ x :: m).take ((as ++ x :: m).length - (k + (x :: m).length) + (k + 1))
      = as ++ [x] := by
  have hlen : (as ++ x :: m).length - (k + (x :: m).length) + (k + 1) = as.length + 1 := by
    rw [List.length_append]
    omega
  rw [hlen, List.take_length_add_append]
  rfl

/-- two paths are cut where they run together -/
theorem meet_append (hd : as.Disjoint bs) :
    meet (as ++ x :: m) (bs ++ x :: m) = (as ++ [x], bs ++ [x]) := by
  obtain ⟨k, hk⟩ : ∃ k, k = min as.length bs.length := ⟨_, rfl⟩
  have hka : k ≤ as.length := by omega
  have hkb : k ≤ bs.length := by omega
  have hshort : min (as ++ x :: m).length (bs ++ x :: m).length = k + (x :: m).length := by
    rw [List.length_append, List.length_append]
    omega
  have hd' : (as.drop (as.length - k)).Disjoint (bs.drop (bs.length - k)) :=
    fun y hy hy' => hd (List.mem_of_mem_drop hy) (List.mem_of_mem_drop hy')
  have hlen : (as.drop (as.length - k)).length = k := by
    rw [List.length_drop]
    omega
  have hlen' : (bs.drop (bs.length - k)).length = k := by
    rw [List.length_drop]
    omega
  unfold meet
  dsimp only
  rw [hshort, drop_append_common k, drop_append_common k,
    apart_append (hlen.trans hlen'.symm) hd', hlen, take_append_common k hka,
    take_append_common k hkb]

end

namespace Table

/-- the paths of `u` and `v` go their own ways over `as` and `bs` and then run together from `x` -/
structure Together (t : Table) (u v : UInt32) (as bs : List UInt32) (x : UInt32)
    (m : List UInt32) : Prop where
  left : t.IsPath (as ++ x :: m)
  right : t.IsPath (bs ++ x :: m)
  head_left : (as ++ x :: m).head? = some u
  head_right : (bs ++ x :: m).head? = some v
  disjoint : as.Disjoint bs

/-- `x :: p` is a path that may be turned round and hung under `y` -/
structure Hangs (t : Table) (x : UInt32) (p : List UInt32) (y : UInt32) : Prop where
  path : t.IsPath (x :: p)
  under : ∃ q, t.IsPath (y :: q) ∧ (x :: p).Disjoint (y :: q)

section
variable {t : Table} {u v : UInt32} {p q : List UInt32}

/-- two paths to one root run together -/
theorem exists_together (hu : t.IsPath (u :: p)) (hv : t.IsPath (v :: q))
    (h : (u :: p).getLast? = (v :: q).getLast?) :
    ∃ as bs x m, u :: p = as ++ x :: m ∧ v :: q = bs ++ x :: m ∧ as.Disjoint bs := by
  induction p generalizing u with
  | nil =>
    have hroot : u ∈ v :: q := List.mem_of_getLast? h.symm
    obtain ⟨bs, m, e⟩ := List.append_of_mem hroot
    obtain rfl : m = [] := (IsPath.suffix (e ▸ hv)).unique hu
    exact ⟨[], bs, u, [], rfl, e, List.disjoint_nil_left bs⟩
  | cons y p ih =>
    by_cases hmem : u ∈ v :: q
    · obtain ⟨bs, m, e⟩ := List.append_of_mem hmem
      obtain rfl : m = y :: p := (IsPath.suffix (e ▸ hv)).unique hu
      exact ⟨[], bs, u, y :: p, rfl, e, List.disjoint_nil_left bs⟩
    · rw [List.getLast?_cons_cons] at h
      obtain ⟨as, bs, x, m, e, e', hd⟩ := ih hu.2 h
      refine ⟨u :: as, bs, x, m, congrArg (u :: ·) e, e', List.disjoint_cons_left.2 ⟨?_, hd⟩⟩
      intro hub
      apply hmem
      rw [e']
      exact List.mem_append_left _ hub

/-- everything that an edge can do to an acyclic table -/
theorem plan_cases (h : t.Acyclic) (bound : Nat) (u v : UInt32) :
    (t.plan bound u v = .ok .present ∧ (t.get u = v ∨ t.get v = u)) ∨
    (t.plan bound u v = .error (.tooLong bound) ∧
      ∃ x p, (x = u ∨ x = v) ∧ t.IsPath (x :: p) ∧ bound ≤ p.length) ∨
    (¬ (t.get u = v ∨ t.get v = u) ∧ ∃ as bs x m, t.Together u v as bs x m ∧
      t.plan bound u v = .ok (.close (as ++ [x]) (bs ++ [x]))) ∨
    (∃ x p y, t.Hangs x p y ∧ ((x = u ∧ y = v) ∨ (x = v ∧ y = u)) ∧
      t.plan bound u v = .ok (.join (x :: p) y)) := by
  obtain ⟨p, hp⟩ := h u
  obtain ⟨q, hq⟩ := h v
  by_cases hpresent : t.get u = v ∨ t.get v = u
  · left
    exact ⟨by rw [plan, if_pos hpresent], hpresent⟩
  right
  by_cases hlong : bound ≤ p.length
  · left
    refine ⟨?_, u, p, .inl rfl, hp, hlong⟩
    rw [plan, if_neg hpresent, path_of_isPath hp, if_neg (Nat.not_lt.2 hlong)]
  by_cases hlong' : bound ≤ q.length
  · left
    refine ⟨?_, v, q, .inr rfl, hq, hlong'⟩
    rw [plan, if_neg hpresent, path_of_isPath hp, path_of_isPath hq,
      if_pos (Nat.not_le.1 hlong), if_neg (Nat.not_lt.2 hlong')]
  right
  have hplan : t.plan bound u v = if (u :: p).getLast? = (v :: q).getLast?
      then .ok (.close (meet (u :: p) (v :: q)).1 (meet (u :: p) (v :: q)).2)
      else if (u :: p).length < (v :: q).length then .ok (.join (u :: p) v)
      else .ok (.join (v :: q) u) := by
    rw [plan, if_neg hpresent, path_of_isPath hp, path_of_isPath hq,
      if_pos (Nat.not_le.1 hlong), if_pos (Nat.not_le.1 hlong')]
  by_cases hroot : (u :: p).getLast? = (v :: q).getLast?
  · left
    obtain ⟨as, bs, x, m, e, e', hd⟩ := exists_together hp hq hroot
    refine ⟨hpresent, as, bs, x, m, ⟨e ▸ hp, e' ▸ hq, by rw [← e]; rfl, by rw [← e']; rfl, hd⟩, ?_⟩
    rw [hplan, if_pos hroot, e, e', meet_append hd]
  · right
    have hd := hp.disjoint hq hroot
    by_cases hshort : (u :: p).length < (v :: q).length
    · exact ⟨u, p, v, ⟨hp, q, hq, hd⟩, .inl ⟨rfl, rfl⟩, by rw [hplan, if_neg hroot, if_pos hshort]⟩
    · exact ⟨v, q, u, ⟨hq, p, hp, List.disjoint_symm hd⟩, .inr ⟨rfl, rfl⟩,
        by rw [hplan, if_neg hroot, if_neg hshort]⟩

end

/-! ## the table after an edge -/

/-- the table after the edge between `u` and `v`; an anomaly leaves it alone -/
def insert (t : Table) (u v : UInt32) : Table :=
  match t.plan maxPathLength u v with
  | .ok p => t.apply p
  | .error _ => t

section
variable {t : Table}

theorem insert_of_plan {u v : UInt32} {p : Insertion} (e : t.plan maxPathLength u v = .ok p) :
    t.insert u v = t.apply p := by
  rw [insert, e]

/-- an edge leaves an acyclic table alone, or hangs the path of one end under the other -/
theorem insert_cases (h : t.Acyclic) (u v : UInt32) :
    t.insert u v = t ∨ ∃ x p y, t.Hangs x p y ∧ ((x = u ∧ y = v) ∨ (x = v ∧ y = u)) ∧
      t.insert u v = t.relink (x :: p) y := by
  rcases plan_cases h maxPathLength u v with
    ⟨e, -⟩ | ⟨e, -⟩ | ⟨-, as, bs, x, m, -, e⟩ | ⟨x, p, y, hh, hxy, e⟩
  · exact .inl (insert_of_plan e)
  · exact .inl (by rw [insert, e])
  · exact .inl (insert_of_plan e)
  · exact .inr ⟨x, p, y, hh, hxy, insert_of_plan e⟩

theorem size_insert (t : Table) (u v : UInt32) : (t.insert u v).cells.size = t.cells.size := by
  unfold insert
  cases t.plan maxPathLength u v with
  | error f => rfl
  | ok p => cases p <;> simp [apply]

/-- all links lead to cells of the table -/
def LinksInside (t : Table) : Prop := ∀ x y, t.Link x y → y.toNat < t.cells.size

variable {u v : UInt32} (h : t.Acyclic) (hl : t.LinksInside) (hu : u.toNat < t.cells.size)
  (hv : v.toNat < t.cells.size)

section
include hl hu hv

/-- the path that an edge between nodes of the table turns round stays in the table -/
theorem Hangs.forall_mem_lt {x y : UInt32} {p : List UInt32} (hh : t.Hangs x p y)
    (hxy : (x = u ∧ y = v) ∨ (x = v ∧ y = u)) : ∀ z ∈ x :: p, z.toNat < t.cells.size := by
  have hx : x.toNat < t.cells.size := by
    rcases hxy with ⟨rfl, -⟩ | ⟨rfl, -⟩
    · exact hu
    · exact hv
  exact hh.path.forall_mem hx hl

end

include h hl hu hv

theorem Acyclic.insert : (t.insert u v).Acyclic := by
  rcases insert_cases h u v with e | ⟨x, p, y, hh, hxy, e⟩
  · rw [e]
    exact h
  · rw [e]
    obtain ⟨q, hq, hd⟩ := hh.under
    exact Acyclic.relink hh.path hq hd (hh.forall_mem_lt hl hu hv hxy) h

/-- every link of the table after is the edge, or an old link in one direction or the other -/
theorem insert_link {x y : UInt32} (hxy : (t.insert u v).Link x y) :
    (x = u ∧ y = v) ∨ (x = v ∧ y = u) ∨ t.Link y x ∨ t.Link x y := by
  rcases insert_cases h u v with e | ⟨z, p, w, hh, hzw, e⟩
  · rw [e] at hxy
    exact .inr (.inr (.inr hxy))
  · rw [e] at hxy
    rcases relink_link hh.path (hh.forall_mem_lt hl hu hv hzw) hxy with ⟨rfl, rfl⟩ | hold
    · rcases hzw with hzw | hzw
      · exact .inl hzw
      · exact .inr (.inl hzw)
    · exact .inr (.inr hold)

end

end Table

end CycleMiner
