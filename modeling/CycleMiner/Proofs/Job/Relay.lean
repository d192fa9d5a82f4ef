import CycleMiner.Proofs.Job.Turns
import CycleMiner.Proofs.Table.Forest

/-!
# Workers one after another on one table

A relay begins with an empty table.  Then workers of any index are run to their end one at a time,
the job is told to stop, or the next job begins on the same table.

* `Act`, `Relay.act`         what is done, and what comes of it;
* `Relay.tried`              the nonces tried so far;
* `Arena.Keeps`              what the edge of every nonce preserves of the nonces tried and the table;
* `Worker.turns_keep`, `Relay.acts_keep`   turns preserve it, and so does whatever is done;
* `Relay.Holds`              what holds before and after whatever is done;
* `table_between_insertions` what therefore holds of the table before each turn of each worker.
-/

namespace CycleMiner

inductive Act where
  /-- a worker is run to its end -/
  | run (index : UInt64)
  /-- the job is told to stop -/
  | stop
  /-- the next job begins, on the same table -/
  | begin (work : Work) (headerNonce : UInt32)

/-- workers one after another on one table -/
structure Relay where
  job : Job
  board : Board
  /-- the nonces tried so far, the first one first -/
  tried : List UInt32

namespace Relay

def start (job : Job) (counters : Counters) : Relay :=
  ⟨job, Board.fresh job.arena.graph.params counters, []⟩

def act (s : Relay) : Act → Relay
  | .run index =>
    let turns := s.job.arena.easiness.toNat + 1
    { s with
      board := (Worker.run s.job index s.board).2
      tried := s.tried ++ Worker.tried s.job alone (Worker.start index) s.board turns }
  | .stop => { s with board := s.board.stop }
  | .begin work headerNonce =>
    ⟨⟨work, headerNonce, s.job.arena⟩, { s.board with stopped := false }, s.tried⟩

end Relay

def Arena.Keeps (a : Arena) (P : List UInt32 → Table → Prop) : Prop :=
  ∀ tried t n, n < a.easiness → P tried t →
    P (tried ++ [n]) (t.insert (a.graph.address n .a) (a.graph.address n .b))

namespace Worker

section
variable {job : Job} {w : Worker} {b : Board}

theorem step_table_of_nonce {n : UInt32} (h : nonce? job w b = some n) :
    (step job w b).2.table
      = b.table.insert (job.arena.graph.address n .a) (job.arena.graph.address n .b) := by
  rw [(step_board_of_nonce h).1, insertNonce_table]

theorem turns_keep {P : List UInt32 → Table → Prop} (hP : job.arena.Keeps P)
    {before : List UInt32} (h : P before b.table) (k : Nat) :
    P (before ++ tried job alone w b k) (turns job alone w b k).2.table := by
  induction k with
  | zero =>
    rw [tried, List.append_nil]
    exact h
  | succ k ih =>
    rw [tried_alone_step, turns_alone_step, ← List.append_assoc]
    cases hn : nonce? job (turns job alone w b k).1 (turns job alone w b k).2 with
    | none =>
      rw [(step_board_of_no_nonce hn).1, Option.toList_none, List.append_nil]
      exact ih
    | some n =>
      rw [step_table_of_nonce hn]
      exact hP _ _ n (lt_of_nonce? hn) ih

end

end Worker

namespace Relay

section
variable {a : Arena} {s : Relay} {P : List UInt32 → Table → Prop}

theorem act_keep (hP : a.Keeps P) (ha : s.job.arena = a) (h : P s.tried s.board.table)
    (what : Act) : (s.act what).job.arena = a ∧ P (s.act what).tried (s.act what).board.table := by
  subst ha
  cases what with
  | run index =>
    refine ⟨rfl, ?_⟩
    show P _ (Worker.run s.job index s.board).2.table
    rw [Worker.run_table]
    exact Worker.turns_keep hP h _
  | stop => exact ⟨rfl, h⟩
  | begin work headerNonce => exact ⟨rfl, h⟩

theorem acts_keep (hP : a.Keeps P) (ha : s.job.arena = a) (h : P s.tried s.board.table)
    (acts : List Act) :
    (acts.foldl act s).job.arena = a ∧
      P (acts.foldl act s).tried (acts.foldl act s).board.table := by
  induction acts generalizing s with
  | nil => exact ⟨ha, h⟩
  | cons what acts ih =>
    obtain ⟨ha', h'⟩ := act_keep hP ha h what
    exact ih ha' h'

/-- the table of a relay is a forest of the nonces tried, all of them below the easiness -/
structure Holds (a : Arena) (s : Relay) : Prop where
  arena_eq : s.job.arena = a
  isForest : IsForest a.graph {n | n ∈ s.tried} s.board.table
  lt_easiness : ∀ n ∈ s.tried, n < a.easiness

theorem holds_start (job : Job) (counters : Counters) :
    Holds job.arena (start job counters) where
  arena_eq := rfl
  isForest := by
    show IsForest job.arena.graph {n | n ∈ []} (Table.empty job.arena.graph.params)
    refine (IsForest.empty _).mono ?_
    exact Set.empty_subset _
  lt_easiness n hn := by cases hn

/-- a nonce below the easiness makes a forest of one nonce more -/
theorem keeps_isForest (a : Arena) : a.Keeps fun tried t =>
    IsForest a.graph {n | n ∈ tried} t ∧ ∀ n ∈ tried, n < a.easiness := by
  rintro tried t n hn ⟨hf, hlt⟩
  constructor
  · refine (hf.insert n).mono fun m hm => ?_
    rcases hm with rfl | hm
    · exact List.mem_append_right _ (List.mem_singleton.2 rfl)
    · exact List.mem_append_left _ hm
  · intro m hm
    rcases List.mem_append.1 hm with hm | hm
    · exact hlt m hm
    · exact List.mem_singleton.1 hm ▸ hn

theorem Holds.turns (h : Holds a s) (index : UInt64) (k : Nat) :
    IsForest a.graph
        {n | n ∈ s.tried ++ Worker.tried s.job alone (Worker.start index) s.board k}
        (Worker.turns s.job alone (Worker.start index) s.board k).2.table ∧
      ∀ n ∈ s.tried ++ Worker.tried s.job alone (Worker.start index) s.board k,
        n < a.easiness := by
  obtain ⟨rfl, hf, hlt⟩ := h
  exact Worker.turns_keep (keeps_isForest _) ⟨hf, hlt⟩ k

theorem Holds.acts (h : Holds a s) (acts : List Act) : Holds a (acts.foldl Relay.act s) := by
  obtain ⟨ha, hf, hlt⟩ := acts_keep (keeps_isForest a) h.arena_eq ⟨h.isForest, h.lt_easiness⟩ acts
  exact ⟨ha, hf, hlt⟩

end

end Relay

/-- whatever has been done in a relay, before each turn of each worker: all links run to roots,
they are edges of nonces tried before, and no cell outside the table is touched -/
theorem table_between_insertions (params : Params) (header : Bytes) (easiness : UInt32)
    (threads : UInt64) (work : Work) (headerNonce : UInt32) (counters : Counters)
    (acts : List Act) (index : UInt64) (k : Nat) :
    let g := Graph.keyed params header
    let job : Job := ⟨work, headerNonce, Arena.keyed params header easiness threads⟩
    let s := acts.foldl Relay.act (Relay.start job counters)
    let b := (Worker.turns s.job alone (Worker.start index) s.board k).2
    let tried := s.tried ++ Worker.tried s.job alone (Worker.start index) s.board k
    (∀ x, (∃ p, b.table.IsPath (x :: p) ∧ p.length < params.nodeCount.toNat) ∧
      ∀ bound n, b.table.path bound x ≠ .error (.loop n)) ∧
    (∀ x y, b.table.Link x y → ∃ n ∈ tried, n < easiness ∧
      g.address n .a < params.half ∧ params.half ≤ g.address n .b ∧
      g.address n .b < params.nodeCount ∧
      ((x = g.address n .a ∧ y = g.address n .b) ∨ (x = g.address n .b ∧ y = g.address n .a))) ∧
    b.table.cells.size = params.nodeCount.toNat + 1 ∧
    b.table.get params.nodeCount = 0 ∧
    (∀ bound, ∀ x ≤ params.nodeCount, b.table.path? bound x = some (b.table.path bound x)) ∧
    ∀ n, b.table.insert? (g.address n .a) (g.address n .b)
      = some (insertNonce s.job n b).2.table := by
  intro g job s b tried
  have hs : s.Holds job.arena := (Relay.holds_start job counters).acts acts
  obtain ⟨hf, hlt⟩ := hs.turns index k
  have hf : IsForest g {n | n ∈ tried} b.table := hf
  refine ⟨fun x => ⟨?_, fun bound => hf.acyclic.path_ne_loop bound x⟩, fun x y hxy => ?_,
    hf.size_eq, hf.spare, fun bound x hx => ?_, fun n => ?_⟩
  · obtain ⟨p, hp⟩ := hf.acyclic x
    exact ⟨p, hp, hf.length_lt hp⟩
  · obtain ⟨n, hn, hxy⟩ := hf.joins x y hxy
    exact ⟨n, hn, hlt n hn, g.address_a_lt n, g.le_address_b n, g.address_b_lt n, hxy⟩
  · exact Table.path?_eq hf.linksInside bound (hf.lt_size hx)
  · rw [insertNonce_table, hs.arena_eq]
    exact Table.insert?_eq hf.linksInside (hf.address_lt_size n .a) (hf.address_lt_size n .b)
      hf.acyclic

end CycleMiner
