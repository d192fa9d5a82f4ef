import CycleMiner.Graph

/-!
# From a closed cycle back to its nonces

The table knows nodes, not nonces.  When an edge closes a cycle, the two paths from its ends to
where they meet name the edges of the cycle; running once more through all nonces tells which of
them generate these edges.

* `pathEdges`       the edges between neighbours on a path, whose nodes lie on the sides in turn;
* `cycleEdges`      the closing edge and those of both paths, without repetitions;
* `Graph.recover`   the smallest nonce of each edge, ascending, if they are as many as a proof has.

A path from the first side starts there, so its nodes at even places lie on the first side; on a
path from the second side it is the other way round.  Addresses on the second side come down by
the size of a side, and wrap: what a damaged table names may not be an edge, but it is never out of
range, and then some edge is not generated and nothing is recovered.
-/

namespace CycleMiner

/-- the edges between neighbours on a path; `onA` tells whether its first node lies on the first
side -/
def pathEdges (half : UInt32) (onA : Bool) : List UInt32 → List Edge
  | x :: y :: rest =>
    (if onA then ⟨x, y - half⟩ else ⟨y, x - half⟩) :: pathEdges half (!onA) (y :: rest)
  | _ => []

/-- the edges of the cycle that is closed by an edge between the first nodes of two paths -/
def cycleEdges (half : UInt32) (us vs : List UInt32) : List Edge :=
  (⟨us.headD 0, vs.headD 0 - half⟩ :: pathEdges half true us ++ pathEdges half false vs).eraseDups

namespace Graph

/-- whether the edge of a nonce is wanted; its end on the second side is looked for only if that on
the first side fits an edge -/
def isWanted (g : Graph) (wanted : List Edge) (nonce : UInt32) : Bool :=
  let u := g.endpoint nonce .a
  wanted.any (fun w => w.u == u) && wanted.contains ⟨u, g.endpoint nonce .b⟩

theorem isWanted_eq (g : Graph) (wanted : List Edge) (nonce : UInt32) :
    g.isWanted wanted nonce = wanted.contains (g.edge nonce) := by
  have fits : g.edge nonce ∈ wanted → ∃ w ∈ wanted, w.u = g.endpoint nonce .a :=
    fun h => ⟨g.edge nonce, h, rfl⟩
  rw [Bool.eq_iff_iff]
  simpa [isWanted, edge] using fits

/-- the nonces from `nonce` on, `count` of them, that generate one of the wanted edges first -/
def collect (g : Graph) : Nat → UInt32 → List Edge → List UInt32
  | 0, _, _ => []
  | count + 1, nonce, wanted =>
    if g.isWanted wanted nonce then
      nonce :: collect g count (nonce + 1) (wanted.erase (g.edge nonce))
    else collect g count (nonce + 1) wanted

/-- the nonces of a closed cycle, given by the two paths that its closing edge joins -/
def recover (g : Graph) (easiness : UInt32) (us vs : List UInt32) : Option (List UInt32) :=
  let found := g.collect easiness.toNat 0 (cycleEdges g.params.half us vs)
  if found.length = g.params.proofSize then some found else none

end Graph

end CycleMiner
