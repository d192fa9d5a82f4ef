import CycleMiner.Proofs.Job.Completeness
import CycleMiner.Proofs.Job.Counting
import Mathlib.Data.List.Nodup

/-!
# Every nonce once

The workers of a job share out the nonces: the share of a worker are the nonces with the remainder
that is its index.  Whatever the table holds, a worker tries the nonces of its share one after the
other until one of them solves the job.

* `Worker.trials_cases`         no trial but the last solves the job;
* `Worker.stopped_of_exit`      who stops a worker;
* `Worker.share_of_run`         what a worker tries;
* `Worker.tried_of_exhausted`   a whole share;
* `Worker.triedAll`, `Worker.triedAll_of_exhausted`   the shares of workers one after the other;
* `Worker.triedAll_perm`        all shares;
* `workers_cover_nonces`        each nonce is tried once, and the counts balance.
-/

namespace CycleMiner

namespace Worker

/-! ## one share -/

/-- only the last trial of a worker can solve the job, and it does exactly if the worker ends so -/
theorem trials_cases (job : Job) (index : UInt64) (b : Board) (k : Nat) :
    (∃ (s : Solution) (before : List Trial) (x : Trial),
      (turns job alone (start index) b k).1.exit = some (.solved s) ∧
      trials job (start index) b k = before ++ [x] ∧ x.attempt = .solved s ∧
      ∀ y ∈ before, y.attempt = .nothing) ∨
    ((∀ s, (turns job alone (start index) b k).1.exit ≠ some (.solved s)) ∧
      ∀ y ∈ trials job (start index) b k, y.attempt = .nothing) := by
  induction k with
  | zero => exact .inr ⟨nofun, fun y hy => (List.not_mem_nil hy).elim⟩
  | succ k ih =>
    rw [turns_alone_step, trials, trial?]
    generalize turns job alone (start index) b k = now at ih ⊢
    obtain ⟨w, b'⟩ := now
    dsimp only at ih ⊢
    cases hn : nonce? job w b' with
    | none =>
      rw [Option.map_none, Option.toList_none, List.append_nil]
      rcases ih with ⟨s, before, x, hexit, rest⟩ | ⟨hno, hall⟩
      · rw [step_of_exit (Option.isSome_of_eq_some hexit)]
        exact .inl ⟨s, before, x, hexit, rest⟩
      · refine .inr ⟨fun s h => ?_, hall⟩
        cases hexit : w.exit with
        | some e =>
          rw [step_of_exit (Option.isSome_of_eq_some hexit)] at h
          exact hno s h
        | none =>
          rcases step_exit_of_no_nonce hn hexit with ⟨-, hx⟩ | ⟨-, -, hx⟩ <;>
            · rw [hx] at h
              cases h
    | some n =>
      obtain ⟨hexit, -⟩ := nonce?_eq_some.1 hn
      have hall : ∀ y ∈ trials job (start index) b k, y.attempt = .nothing := by
        rcases ih with ⟨s, -, -, hx, -⟩ | ⟨-, hall⟩
        · rw [hexit] at hx
          cases hx
        · exact hall
      rcases step_exit_of_nonce hn with ⟨s, ha, hx⟩ | ⟨ha, hx, -⟩
      · exact .inl ⟨s, _, _, hx, rfl, ha, hall⟩
      · refine .inr ⟨fun s h => ?_, fun y hy => ?_⟩
        · rw [hx] at h
          cases h
        · rcases List.mem_append.1 hy with hy | hy
          · exact hall y hy
          · obtain rfl := List.mem_singleton.1 hy
            exact ha

section
variable {job : Job} {b : Board}

/-- a worker is stopped only if the job was stopped before its first turn -/
theorem stopped_of_exit {index : UInt64} {k : Nat}
    (h : (turns job alone (start index) b k).1.exit = some .stopped) : b.stopped = true := by
  induction k with
  | zero => cases h
  | succ k ih =>
    rw [turns_alone_step] at h
    cases hexit : (turns job alone (start index) b k).1.exit with
    | some e =>
      rw [step_of_exit (Option.isSome_of_eq_some hexit)] at h
      exact ih h
    | none =>
      cases hn : nonce? job (turns job alone (start index) b k).1
        (turns job alone (start index) b k).2 with
      | none =>
        rcases step_exit_of_no_nonce hn hexit with ⟨hstop, -⟩ | ⟨-, -, hx⟩
        · obtain ⟨s, hs, -⟩ | ⟨-, hsame, -⟩ := turns_cases job index b k
          · rw [hexit] at hs
            cases hs
          · exact hsame.symm.trans hstop
        · rw [hx] at h
          cases h
      | some n =>
        rcases step_exit_of_nonce hn with ⟨s, -, hx⟩ | ⟨-, hx, -⟩ <;>
          · rw [hx] at h
            cases h

/-- a worker of a job that is not stopped tries its share from the first nonce on, until one of
them solves the job or there are no more -/
theorem share_of_run (hpos : 1 ≤ job.arena.stride.toNat)
    (hstride : job.arena.stride.toNat + 2 ^ 32 < 2 ^ 64) (hlow : b.stopped = false)
    (index : UInt64) :
    let ended := run job index b
    let xs := trials job (start index) b (job.arena.easiness.toNat + 1)
    ∃ m, xs.map (·.nonce.toNat)
        = (List.range m).map (fun j => index.toNat + j * job.arena.stride.toNat) ∧
      (∀ j < m, index.toNat + j * job.arena.stride.toNat < job.arena.easiness.toNat) ∧
      ((ended.1.exit = some .exhausted ∧
          job.arena.easiness.toNat ≤ index.toNat + m * job.arena.stride.toNat ∧
          ∀ x ∈ xs, x.attempt = .nothing) ∨
        ∃ (s : Solution) (before : List Trial) (last : Trial),
          ended.1.exit = some (.solved s) ∧ xs = before ++ [last] ∧
          last.attempt = .solved s ∧ ∀ x ∈ before, x.attempt = .nothing) := by
  intro ended xs
  have hrun : ended = turns job alone (start index) b (job.arena.easiness.toNat + 1) :=
    run_eq_turns hpos index b
  obtain ⟨m, hall, hbelow, hlast⟩ :=
    tried_of_turns hstride index b (job.arena.easiness.toNat + 1)
  refine ⟨m, ?_, hbelow, ?_⟩
  · have hnonces : xs.map (·.nonce) = _ := (map_nonce_trials _).trans hall
    have hsplit : xs.map (·.nonce.toNat) = (xs.map (·.nonce)).map (·.toNat) := by
      rw [List.map_map]
      rfl
    rw [hsplit, hnonces, List.map_map]
    refine List.map_congr_left fun j hj => ?_
    exact UInt32.toNat_ofNat_of_lt' (Nat.lt_trans (hbelow j (List.mem_range.1 hj))
      job.arena.easiness.toNat_lt)
  · rw [hrun]
    rcases trials_cases job index b (job.arena.easiness.toNat + 1) with
      hsolved | ⟨hno, hnothing⟩
    · exact .inr hsolved
    · left
      have hended := exit_isSome_turns hpos alone index b
      obtain ⟨exit, hexit⟩ := Option.isSome_iff_exists.1 hended
      cases exit with
      | solved s => exact absurd hexit (hno s)
      | stopped =>
        rw [stopped_of_exit hexit] at hlow
        cases hlow
      | exhausted => exact ⟨hexit, hlast hexit, hnothing⟩

/-- a worker that runs out of nonces tries those of its share, and each of them once -/
theorem tried_of_exhausted (hpos : 1 ≤ job.arena.stride.toNat)
    (hstride : job.arena.stride.toNat + 2 ^ 32 < 2 ^ 64) {index : UInt64}
    (hindex : index.toNat < job.arena.stride.toNat)
    (h : (run job index b).1.exit = some .exhausted) :
    (tried job alone (start index) b (job.arena.easiness.toNat + 1)).Nodup ∧
      ∀ n, n ∈ tried job alone (start index) b (job.arena.easiness.toNat + 1) ↔
        n < job.arena.easiness ∧ n.toNat % job.arena.stride.toNat = index.toNat := by
  rw [run_eq_turns hpos] at h
  obtain ⟨m, hall, hbelow, -⟩ := tried_of_turns hstride index b (job.arena.easiness.toNat + 1)
  have hbound := job.arena.easiness.toNat_lt
  have hnat : ∀ j < m, (UInt32.ofNat (index.toNat + j * job.arena.stride.toNat)).toNat
      = index.toNat + j * job.arena.stride.toNat := fun j hj =>
    UInt32.toNat_ofNat_of_lt' (Nat.lt_trans (hbelow j hj) hbound)
  refine ⟨?_, fun n => ⟨fun hn => ?_, fun ⟨hn, hshare⟩ =>
    mem_tried_of_exhausted hstride h hn hshare⟩⟩
  · rw [hall]
    refine List.Nodup.map_on (fun i hi j hj hij => ?_) List.nodup_range
    have hsum := congrArg UInt32.toNat hij
    rw [hnat i (List.mem_range.1 hi), hnat j (List.mem_range.1 hj)] at hsum
    exact Nat.eq_of_mul_eq_mul_right hpos (Nat.add_left_cancel hsum)
  · rw [hall] at hn
    obtain ⟨j, hj, rfl⟩ := List.mem_map.1 hn
    have hj := List.mem_range.1 hj
    rw [UInt32.lt_iff_toNat_lt, hnat j hj]
    exact ⟨hbelow j hj, by rw [Nat.add_mul_mod_self_right, Nat.mod_eq_of_lt hindex]⟩

theorem edges_of_exhausted (hpos : 1 ≤ job.arena.stride.toNat) {index : UInt64}
    (h : (run job index b).1.exit = some .exhausted) :
    (run job index b).2.counters.edges = b.counters.edges +
      UInt64.ofNat (tried job alone (start index) b (job.arena.easiness.toNat + 1)).length := by
  have hzero : (run job index b).1.hits = 0 := by rw [hits, h]
  have halone : ∀ i b, (alone i b).counters = b.counters := fun _ _ => rfl
  rw [run_eq_turns hpos] at hzero ⊢
  have hgain := (ended_balanced halone hpos index b).edges
  rw [hzero, Nat.add_zero, ← trials_eq_trialsAmong] at hgain
  rw [← map_nonce_trials, List.length_map, ← hgain, Counters.gain, UInt64.ofNat_toNat,
    UInt64.add_comm, UInt64.sub_add_cancel]

/-! ## all shares -/

/-- the nonces tried by workers that are run to their end one after the other -/
def triedAll (job : Job) : List UInt64 → Board → List UInt32
  | [], _ => []
  | index :: rest, b =>
    tried job alone (start index) b (job.arena.easiness.toNat + 1) ++
      triedAll job rest (run job index b).2

/-- workers of different shares that all run out of nonces try the nonces of their shares, each of
them once, and count one edge for each -/
theorem triedAll_of_exhausted (hpos : 1 ≤ job.arena.stride.toNat)
    (hstride : job.arena.stride.toNat + 2 ^ 32 < 2 ^ 64) {order : List UInt64}
    (horder : order.Nodup) (hindex : ∀ index ∈ order, index.toNat < job.arena.stride.toNat)
    (h : (runAll job order b).1 = order.map fun _ => some .exhausted) :
    (triedAll job order b).Nodup ∧
      (∀ n, n ∈ triedAll job order b ↔ n < job.arena.easiness ∧
        ∃ index ∈ order, n.toNat % job.arena.stride.toNat = index.toNat) ∧
      (runAll job order b).2.counters.edges
        = b.counters.edges + UInt64.ofNat (triedAll job order b).length := by
  induction order generalizing b with
  | nil =>
    refine ⟨List.nodup_nil, fun n => ⟨fun hn => (List.not_mem_nil hn).elim, ?_⟩, ?_⟩
    · rintro ⟨-, index, hi, -⟩
      exact (List.not_mem_nil hi).elim
    · exact (UInt64.add_zero _).symm
  | cons index rest ih =>
    obtain ⟨hnew, hrest⟩ := List.nodup_cons.1 horder
    rw [runAll, List.map_cons, List.cons.injEq] at h
    obtain ⟨hfirst, hothers⟩ := h
    obtain ⟨hnodup, hmem⟩ := tried_of_exhausted hpos hstride
      (hindex index List.mem_cons_self) hfirst
    obtain ⟨hnodup', hmem', hedges⟩ := ih hrest
      (fun i hi => hindex i (List.mem_cons_of_mem _ hi)) hothers
    refine ⟨List.nodup_append'.2 ⟨hnodup, hnodup', fun n hn hn' => ?_⟩, fun n => ?_, ?_⟩
    · -- two shares have different remainders
      obtain ⟨-, hshare⟩ := (hmem n).1 hn
      obtain ⟨-, i, hi, hshare'⟩ := (hmem' n).1 hn'
      have hsame : index = i := UInt64.toNat_inj.1 (hshare.symm.trans hshare')
      exact hnew (hsame ▸ hi)
    · rw [triedAll, List.mem_append, hmem, hmem']
      simp only [List.mem_cons, exists_eq_or_imp, ← and_or_left]
    · show (runAll job rest (run job index b).2).2.counters.edges = _
      rw [hedges, edges_of_exhausted hpos hfirst, triedAll, List.length_append, UInt64.ofNat_add,
        UInt64.add_assoc]

/-- workers of all indices that run out of nonces try every nonce once -/
theorem triedAll_perm (hpos : 1 ≤ job.arena.stride.toNat)
    (hstride : job.arena.stride.toNat + 2 ^ 32 < 2 ^ 64) {order : List UInt64}
    (horder : order.Perm ((List.range job.arena.stride.toNat).map UInt64.ofNat))
    (h : (runAll job order b).1 = order.map fun _ => some .exhausted) :
    ((triedAll job order b).map (·.toNat)).Perm (List.range job.arena.easiness.toNat) ∧
      (runAll job order b).2.counters.edges
        = b.counters.edges + job.arena.easiness.toUInt64 := by
  have hnat : ∀ i < job.arena.stride.toNat, (UInt64.ofNat i).toNat = i := fun i hi =>
    UInt64.toNat_ofNat_of_lt' (show i < 2 ^ 64 by omega)
  have hnodup : order.Nodup := by
    rw [horder.nodup_iff]
    refine List.Nodup.map_on (fun i hi j hj hij => ?_) List.nodup_range
    rw [← hnat i (List.mem_range.1 hi), ← hnat j (List.mem_range.1 hj), hij]
  have hindex : ∀ index ∈ order, index.toNat < job.arena.stride.toNat := by
    intro index hmem
    obtain ⟨i, hi, rfl⟩ := List.mem_map.1 (horder.subset hmem)
    rw [hnat i (List.mem_range.1 hi)]
    exact List.mem_range.1 hi
  obtain ⟨honce, hmem, hedges⟩ := triedAll_of_exhausted hpos hstride hnodup hindex h
  have hperm : ((triedAll job order b).map (·.toNat)).Perm
      (List.range job.arena.easiness.toNat) := by
    rw [List.perm_ext_iff_of_nodup (honce.map fun _ _ => UInt32.toNat_inj.1) List.nodup_range]
    intro n
    rw [List.mem_map, List.mem_range]
    constructor
    · rintro ⟨n, hn, rfl⟩
      exact UInt32.lt_iff_toNat_lt.1 ((hmem n).1 hn).1
    · intro hn
      have hword : (UInt32.ofNat n).toNat = n :=
        UInt32.toNat_ofNat_of_lt' (Nat.lt_trans hn job.arena.easiness.toNat_lt)
      have hshare : n % job.arena.stride.toNat < job.arena.stride.toNat := Nat.mod_lt _ hpos
      refine ⟨UInt32.ofNat n, (hmem _).2
        ⟨?_, UInt64.ofNat (n % job.arena.stride.toNat), ?_, ?_⟩, hword⟩
      · rw [UInt32.lt_iff_toNat_lt, hword]
        exact hn
      · exact horder.symm.subset (List.mem_map_of_mem (List.mem_range.2 hshare))
      · rw [hword, hnat _ hshare]
  refine ⟨hperm, ?_⟩
  have hlen := hperm.length_eq
  rw [List.length_map, List.length_range] at hlen
  rw [hedges, hlen, UInt64.ofNat_uInt32ToNat]

end

end Worker

theorem Arena.toNat_stride {threads : Nat} (hpos : 1 ≤ threads) (hfits : threads < 2 ^ 64)
    (params : Params) (header : Bytes) (easiness : UInt32) :
    (Arena.keyed params header easiness (UInt64.ofNat threads)).stride.toNat = threads := by
  have hnat : (UInt64.ofNat threads).toNat = threads := UInt64.toNat_ofNat_of_lt' hfits
  show (if UInt64.ofNat threads ≤ 1 then 1 else UInt64.ofNat threads).toNat = threads
  split
  case isTrue hle =>
    rw [UInt64.le_iff_toNat_le, hnat, UInt64.toNat_one] at hle
    rw [UInt64.toNat_one]
    omega
  case isFalse => exact hnat

/-- whatever the table holds: a worker that nobody interferes with tries its index and every nonce
one stride further on, each once, until one of them solves the job or they have run out; workers of
all indices that run out of nonces, one after the other in any order, try every nonce below the
easiness once and count an edge for each; and however a worker ends, and whatever others do to the
table and the flag in between, an edge is counted for each nonce tried, but for one that solves the
job, an error for each anomaly and for each solution but that one, and no more solutions than
cycles -/
theorem workers_cover_nonces (params : Params) (header : Bytes) (easiness : UInt32) (work : Work)
    (headerNonce : UInt32) {threads : Nat} (hpos : 1 ≤ threads) (hfits : threads + 2 ^ 32 < 2 ^ 64)
    (b : Board) :
    let job : Job :=
      ⟨work, headerNonce, Arena.keyed params header easiness (UInt64.ofNat threads)⟩
    (∀ index : UInt64,
      let ended := Worker.run job index b
      let xs := Worker.trials job (.start index) b (easiness.toNat + 1)
      ended = Worker.turns job alone (.start index) b (easiness.toNat + 1) ∧
      (b.stopped = false → ∃ m,
        xs.map (·.nonce.toNat) = (List.range m).map (fun j => index.toNat + j * threads) ∧
        (∀ j < m, index.toNat + j * threads < easiness.toNat) ∧
        ((ended.1.exit = some .exhausted ∧ easiness.toNat ≤ index.toNat + m * threads ∧
            ∀ x ∈ xs, x.attempt = .nothing) ∨
          ∃ (s : Solution) (before : List Trial) (last : Trial),
            ended.1.exit = some (.solved s) ∧ xs = before ++ [last] ∧
            last.attempt = .solved s ∧ ∀ x ∈ before, x.attempt = .nothing))) ∧
    (∀ order : List UInt64, order.Perm ((List.range threads).map UInt64.ofNat) →
      (Worker.runAll job order b).1 = order.map (fun _ => some .exhausted) →
      ((Worker.triedAll job order b).map (·.toNat)).Perm (List.range easiness.toNat) ∧
      (Worker.runAll job order b).2.counters.edges = b.counters.edges + easiness.toUInt64) ∧
    ∀ (others : Nat → Board → Board) (index : UInt64),
      (∀ i b, (others i b).counters = b.counters) →
      let ended := Worker.turns job others (.start index) b (easiness.toNat + 1)
      let xs := Worker.trialsAmong job others (.start index) b (easiness.toNat + 1)
      ended.1.exit.isSome = true ∧
      xs.map (·.nonce) = Worker.tried job others (.start index) b (easiness.toNat + 1) ∧
      Balanced xs.length (xs.countP (·.isAnomaly)) ended.1.hits
        (b.counters.gain ended.2.counters) := by
  intro job
  have hthreads : job.arena.stride.toNat = threads :=
    Arena.toNat_stride hpos (by omega) params header easiness
  have hone : 1 ≤ job.arena.stride.toNat := by rwa [hthreads]
  have hstride : job.arena.stride.toNat + 2 ^ 32 < 2 ^ 64 := by rwa [hthreads]
  refine ⟨fun index => ⟨Worker.run_eq_turns hone index b, fun hlow => ?_⟩,
    fun order horder hexits => ?_, fun others index hothers => ?_⟩
  · have hshare := Worker.share_of_run hone hstride hlow index
    rwa [hthreads] at hshare
  · rw [← hthreads] at horder
    exact Worker.triedAll_perm hone hstride horder hexits
  · exact ⟨Worker.exit_isSome_turns hone others index b, Worker.map_nonce_trialsAmong ..,
      Worker.ended_balanced hothers hone index b⟩

/-- the first three edges of a square, for two workers -/
def Job.path : Job := ⟨Work.blank, 0, Arena.keyed .small [1, 47] 3 (UInt64.ofNat 2)⟩

/-- the second worker first: both run out of nonces, and three edges are counted -/
theorem workers_cover_nonces_path :
    1 ≤ 2 ∧ 2 + 2 ^ 32 < 2 ^ 64 ∧
    ((Worker.triedAll Job.path [1, 0] (Board.fresh .small .zero)).map (·.toNat)).Perm
      (List.range 3) ∧
    (Worker.runAll Job.path [1, 0] (Board.fresh .small .zero)).2.counters.edges = 0 + 3 ∧
    ∃ m, (Worker.trials Job.path (.start 1) (Board.fresh .small .zero) 4).map (·.nonce.toNat)
      = (List.range m).map (fun j => 1 + j * 2) := by
  obtain ⟨hone, hall, -⟩ := workers_cover_nonces .small [1, 47] 3 Work.blank 0
    (show 1 ≤ 2 by decide) (by decide) (Board.fresh .small .zero)
  have hexits : (Worker.runAll Job.path [1, 0] (Board.fresh .small .zero)).1
      = [some .exhausted, some .exhausted] := by
    decide +kernel
  obtain ⟨hperm, hedges⟩ := hall [1, 0] (by decide) hexits
  obtain ⟨m, hshare, -⟩ := (hone 1).2 rfl
  exact ⟨by decide, by decide, hperm, hedges, m, hshare⟩

end CycleMiner
