import CycleMiner.Proofs.Cycle.Reconstruction
import CycleMiner.Proofs.Graph.Edges
import CycleMiner.Proofs.Job.Sequence
import CycleMiner.Proofs.Table.Buffers

/-!
# A worker with its two buffers

A worker has two buffers and uses them for one nonce after the other.  Whatever a nonce leaves in
them, also one that is skipped halfway, is still there when the next one comes.

* `insertNonceIn?`    what a worker does with one nonce and its buffers, index by index;
* `Worker.takeIn?`    one turn, and `Worker.followIn?` so many;
* `Keeps`             others who keep the table in range;
* `insertNonceIn?_eq`, `Worker.takeIn?_eq`, `Worker.followIn?_eq`   on tables in range no place
  outside is looked at, and it all comes out as without buffers.
-/

namespace CycleMiner

/-- what a worker does with what has been recovered from a closed cycle of the wanted size -/
def judge (job : Job) (found : Option Solution) (b : Board) : Attempt × Board :=
  match found with
  | none => (.nothing, b)
  | some s =>
    let b := b.count .addSolution
    if job.arena.graph.verify job.arena.easiness s then
      if job.work.isMetBy s then
        (.solved s, { b with stopped := true, found := b.found ++ [job.candidate s] })
      else (.nothing, b.count .addError)
    else (.nothing, b.count .addError)

/-- puts the edge of a nonce into the table; a cycle is recovered from slices of the buffers -/
def insertNonceIn? (job : Job) (nonce : UInt32) (b : Board) (s : Buffers) :
    Option ((Attempt × Board) × Buffers) :=
  let g := job.arena.graph
  (b.table.insertIn? (g.address nonce .a) (g.address nonce .b) s).bind fun
  | (.error _, t, s) => some ((.nothing, { b with table := t }.count .addError), s)
  | (.ok .settled, t, s) => some ((.nothing, { b with table := t }), s)
  | (.ok (.closed nu nv), t, s) =>
    let b := { b with table := t }.count .addCycle
    if nu + nv + 1 = g.params.proofSize ∧ !b.stopped then
      (g.solution? job.arena.easiness (s.us.extract 0 (nu + 1)) nu (s.vs.extract 0 (nv + 1)) nv).map
        fun found => (judge job found b, s)
    else some ((.nothing, b), s)

namespace Worker

def takeIn? (job : Job) (nonce : Option UInt32) (w : Worker) (b : Board) (s : Buffers) :
    Option ((Worker × Board) × Buffers) :=
  if w.exit.isSome then some ((w, b), s)
  else if b.stopped then some (w.finish .stopped b, s)
  else
    match nonce with
    | none => some (w.finish .exhausted b, s)
    | some n => (insertNonceIn? job n b s).map fun
      | ((.solved solution, b), s) => ((onward job w).finish (.solved solution) b, s)
      | ((.nothing, b), s) => ((onward job w).tally b, s)

/-- a worker, the board and the buffers after so many turns over a sequence of nonces -/
def followIn? (job : Job) (others : Nat → Board → Board) (nonces : Nat → Option UInt32)
    (w : Worker) (b : Board) (s : Buffers) : Nat → Option ((Worker × Board) × Buffers)
  | 0 => some ((w, b), s)
  | k + 1 => (followIn? job others nonces w b s k).bind fun ((w, b), s) =>
    takeIn? job (nonces k) w (others k b) s

end Worker

/-- what others do keeps a table in range -/
def Keeps (p : Params) (others : Nat → Board → Board) : Prop :=
  ∀ i b, b.table.InRange p → (others i b).table.InRange p

theorem keeps_alone (p : Params) : Keeps p alone := fun _ _ h => h

theorem keeps_inOne {p : Params} {others : Nat → Board → Board} (h : Keeps p others) (k : Nat) :
    Keeps p (inOne k others) := by
  intro i b ht
  unfold inOne leaveOut
  split
  · exact h (k + 1) _ (h k b ht)
  · split <;> exact h _ b ht

/-! ## one nonce -/

section
variable {job : Job} {b : Board} {s : Buffers}

theorem offer_eq_judge (us vs : List UInt32) : offer job us vs b
    = judge job (job.arena.graph.recover job.arena.easiness us vs) b := rfl

theorem cycleLength_take {us vs : Array UInt32} {nu nv : Nat} (hu : nu < us.size)
    (hv : nv < vs.size) :
    Insertion.cycleLength (us.toList.take (nu + 1)) (vs.toList.take (nv + 1)) = nu + nv + 1 := by
  rw [Insertion.cycleLength, List.length_take, List.length_take, Array.length_toList,
    Array.length_toList]
  omega

theorem take_toList_extract {xs : Array UInt32} (n : Nat) :
    (xs.extract 0 n).toList.take n = xs.toList.take n := by
  rw [Array.toList_extract, List.extract_eq_take_drop, Nat.sub_zero, List.drop_zero, List.take_take,
    Nat.min_self]

theorem solution?_extract (g : Graph) (easiness : UInt32) {us vs : Array UInt32} {nu nv : Nat}
    (hu : nu < us.size) (hv : nv < vs.size) :
    g.solution? easiness (us.extract 0 (nu + 1)) nu (vs.extract 0 (nv + 1)) nv
      = some (g.recover easiness (us.toList.take (nu + 1)) (vs.toList.take (nv + 1))) := by
  have hu' : nu < (us.extract 0 (nu + 1)).size := by
    rw [Array.size_extract]
    omega
  have hv' : nv < (vs.extract 0 (nv + 1)).size := by
    rw [Array.size_extract]
    omega
  rw [g.solution?_eq hu' hv', take_toList_extract, take_toList_extract]

theorem insertNonceIn?_eq (ht : b.table.InRange job.arena.graph.params) (hs : s.Sized)
    (n : UInt32) :
    ∃ s', insertNonceIn? job n b s = some (insertNonce job n b, s') ∧ s'.Sized := by
  have hcell : ∀ side, (job.arena.graph.address n side).toNat < b.table.cells.size := fun side =>
    ht.lt_size (UInt32.le_of_lt (job.arena.graph.address_lt n side))
  obtain ⟨outcome, t, s', e, hs', hcarries⟩ :=
    Table.insertIn?_eq ht.linksInside (hcell .a) (hcell .b) hs
  refine ⟨s', ?_, hs'⟩
  unfold insertNonceIn? insertNonce
  dsimp only
  rw [e]
  generalize b.table.plan Table.maxPathLength _ _ = plan at hcarries ⊢
  cases hcarries with
  | fault f => rfl
  | present => rfl
  | join path partner => rfl
  | @close nu nv hu hv =>
    -- the slices hold the traces up to where they meet
    dsimp only [Option.bind_some]
    rw [closeCycle, cycleLength_take hu hv, solution?_extract _ _ hu hv]
    split
    · rw [offer_eq_judge]
      rfl
    · rfl

theorem inRange_insertNonce (ht : b.table.InRange job.arena.graph.params) (n : UInt32) :
    (insertNonce job n b).2.table.InRange job.arena.graph.params := by
  rw [insertNonce_table]
  exact ht.insert (UInt32.le_of_lt (job.arena.graph.address_lt n .a))
    (UInt32.le_of_lt (job.arena.graph.address_lt n .b))

end

/-! ## turns -/

namespace Worker

section
variable {job : Job} {others : Nat → Board → Board} {nonces : Nat → Option UInt32} {w : Worker}
  {b : Board} {s : Buffers}

theorem take_table (job : Job) (nonce : Option UInt32) (w : Worker) (b : Board) :
    (take job nonce w b).2.table = b.table ∨
      ∃ n, (take job nonce w b).2.table = (insertNonce job n b).2.table := by
  unfold take
  split
  · exact .inl rfl
  · split
    · exact .inl rfl
    · cases nonce with
      | none => exact .inl rfl
      | some n =>
        refine .inr ⟨n, ?_⟩
        dsimp only
        split <;> rename_i e <;> simp [e]

theorem inRange_take (ht : b.table.InRange job.arena.graph.params) (nonce : Option UInt32) :
    (take job nonce w b).2.table.InRange job.arena.graph.params := by
  rcases take_table job nonce w b with e | ⟨n, e⟩
  · rw [e]
    exact ht
  · rw [e]
    exact inRange_insertNonce ht n

theorem takeIn?_eq (ht : b.table.InRange job.arena.graph.params) (hs : s.Sized) (w : Worker)
    (nonce : Option UInt32) :
    ∃ s', takeIn? job nonce w b s = some (take job nonce w b, s') ∧ s'.Sized := by
  unfold takeIn? take
  split
  · exact ⟨s, rfl, hs⟩
  · split
    · exact ⟨s, rfl, hs⟩
    · cases nonce with
      | none => exact ⟨s, rfl, hs⟩
      | some n =>
        obtain ⟨s', e, hs'⟩ := insertNonceIn?_eq ht hs n
        refine ⟨s', ?_, hs'⟩
        dsimp only
        rw [e]
        generalize insertNonce job n b = x
        obtain ⟨attempt, b'⟩ := x
        cases attempt <;> rfl

/-- however the buffers are left by one nonce, the next ones come out as without them -/
theorem followIn?_eq (hothers : Keeps job.arena.graph.params others)
    (ht : b.table.InRange job.arena.graph.params) (hs : s.Sized) (k : Nat) :
    ∃ s', followIn? job others nonces w b s k = some (follow job others nonces w b k, s') ∧
      s'.Sized ∧
      (follow job others nonces w b k).2.table.InRange job.arena.graph.params := by
  induction k with
  | zero => exact ⟨s, rfl, hs, ht⟩
  | succ k ih =>
    -- the next turn is taken with the buffers that the turns before have left
    obtain ⟨s', e, hs', ht'⟩ := ih
    have hmet := hothers k _ ht'
    obtain ⟨s'', e', hs''⟩ := takeIn?_eq hmet hs' (follow job others nonces w b k).1 (nonces k)
    refine ⟨s'', ?_, hs'', inRange_take hmet _⟩
    rw [followIn?, e, Option.bind_some]
    exact e'

end

end Worker

end CycleMiner
