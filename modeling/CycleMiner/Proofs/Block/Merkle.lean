import CycleMiner.Proofs.Block.Reading
import Mathlib.Data.Nat.Log

/-!
# A merkle root stands for its list

Lists of the same length have different roots, unless two different strings that are hashed for
them have the same hash.  That is never ruled out here: it is told which strings these are.

* `Collision`                  two strings with the same hash;
* `Merkle.inputs`, `Merkle.hashed`   the strings hashed on one level, and on the way to the root;
* `Merkle.level_inj`, `Merkle.root_inj`   a level stands for the one below it, and the root for all;
* `Merkle.iterate_level`, `Merkle.lt_length_iterate`   the root is what is left after as many levels
  as it takes to halve the list down to one;
* `Work.ids`                   the ids under the root of some work;
* `TemplateTransaction.Alike`  what transactions of templates have in common if their ids are the
  same;
* `root_binds_transactions`    the header of some work stands for the transactions of its template.

Lengths have to be the same: where a level is odd its last digest is hashed with itself, so a list
that ends with a copy of its last digest may have the root of the list without the copy.
-/

namespace CycleMiner

def Collision (x y : Bytes) : Prop := x ≠ y ∧ doubleSha256 x = doubleSha256 y

theorem eq_or_exists_collision {xs ys : List Bytes}
    (h : xs.map doubleSha256 = ys.map doubleSha256) :
    xs = ys ∨ ∃ x ∈ xs, ∃ y ∈ ys, Collision x y := by
  induction xs generalizing ys with
  | nil => exact .inl (List.map_eq_nil_iff.1 h.symm).symm
  | cons x xs ih =>
    obtain ⟨y, ys, rfl, hxy, hrest⟩ := List.map_eq_cons_iff.1 h.symm
    by_cases e : x = y
    · obtain rfl | ⟨x', hx', y', hy', hc⟩ := ih hrest.symm
      · exact .inl (by rw [e])
      · exact .inr ⟨x', List.mem_cons_of_mem x hx', y', List.mem_cons_of_mem y hy', hc⟩
    · exact .inr ⟨x, List.mem_cons_self, y, List.mem_cons_self, e, hxy.symm⟩

namespace Merkle

/-! ## what is hashed -/

def inputs : List Digest → List Bytes
  | a :: b :: rest => (a.bytes ++ b.bytes) :: inputs rest
  | [a] => [a.bytes ++ a.bytes]
  | [] => []

def hashed : List Digest → List Bytes
  | a :: b :: rest => inputs (a :: b :: rest) ++ hashed (level (a :: b :: rest))
  | _ => []
termination_by ds => ds.length
decreasing_by
  simp only [length_level, List.length_cons]
  omega

/-- two different strings of 64 bytes, hashed on the way to the roots of two lists, have the same
hash -/
def Collide (ds es : List Digest) : Prop :=
  ∃ x ∈ hashed ds, ∃ y ∈ hashed es, x.length = 64 ∧ y.length = 64 ∧ Collision x y

theorem level_eq (ds : List Digest) : level ds = (inputs ds).map doubleSha256 := by
  fun_induction inputs ds with
  | case1 a b rest ih => rw [level, ih]; rfl
  | case2 a => rfl
  | case3 => rfl

theorem length_of_mem_inputs {ds : List Digest} {x : Bytes} (h : x ∈ inputs ds) :
    x.length = 64 := by
  have hpair (a b : Digest) : (a.bytes ++ b.bytes).length = 64 := by
    rw [List.length_append, a.length_bytes, b.length_bytes]
  fun_induction inputs ds with
  | case1 a b rest ih =>
    obtain rfl | hrest := List.mem_cons.1 h
    · exact hpair a b
    · exact ih hrest
  | case2 a =>
    obtain rfl := List.mem_singleton.1 h
    exact hpair a a
  | case3 => cases h

/-! ## one level -/

theorem pair_inj {a b c d : Digest} (h : a.bytes ++ b.bytes = c.bytes ++ d.bytes) :
    a = c ∧ b = d := by
  obtain ⟨hl, hr⟩ := List.append_inj h (by rw [a.length_bytes, c.length_bytes])
  exact ⟨Digest.ext hl, Digest.ext hr⟩

/-- of lists of one length the strings show the digests, also where the last one is doubled -/
theorem inputs_inj {ds es : List Digest} (hlen : ds.length = es.length)
    (h : inputs ds = inputs es) : ds = es := by
  fun_induction inputs ds generalizing es with
  | case1 a b rest ih =>
    match es, hlen with
    | c :: d :: rest', hlen =>
      obtain ⟨hfirst, hrest⟩ := List.cons.inj h
      obtain ⟨rfl, rfl⟩ := pair_inj hfirst
      rw [ih (by simpa using hlen) hrest]
  | case2 a =>
    match es, hlen with
    | [c], _ =>
      obtain ⟨rfl, -⟩ := pair_inj (List.singleton_inj.1 h)
      rfl
  | case3 => exact (List.eq_nil_of_length_eq_zero hlen.symm).symm

theorem level_inj {ds es : List Digest} (hlen : ds.length = es.length) (h : level ds = level es) :
    ds = es ∨ ∃ x ∈ inputs ds, ∃ y ∈ inputs es, Collision x y := by
  rw [level_eq, level_eq] at h
  exact (eq_or_exists_collision h).imp_left (inputs_inj hlen)

/-! ## all levels -/

/-- by the recursion of the root: equal roots above equal levels, or a collision above, else equal
levels above equal lists, or a collision on this level -/
theorem root_inj {ds es : List Digest} (hlen : ds.length = es.length) (h : root ds = root es) :
    ds = es ∨ Collide ds es := by
  induction ds using root.induct generalizing es with
  | case1 => exact .inl (List.eq_nil_of_length_eq_zero hlen.symm).symm
  | case2 a =>
    match es, hlen with
    | [c], _ =>
      rw [root, root] at h
      exact .inl (by rw [h])
  | case3 a b rest ih =>
    match es, hlen with
    | c :: d :: rest', hlen =>
      rw [root, root] at h
      have hlevels : (level (a :: b :: rest)).length = (level (c :: d :: rest')).length := by
        rw [length_level, length_level, hlen]
      rw [Collide, hashed, hashed]
      obtain hsame | ⟨x, hx, y, hy, hc⟩ := ih hlevels h
      -- the levels above agree, so the strings that collide are those of this one
      · refine (level_inj hlen hsame).imp_right ?_
        rintro ⟨x, hx, y, hy, hc⟩
        exact ⟨x, List.mem_append_left _ hx, y, List.mem_append_left _ hy,
          length_of_mem_inputs hx, length_of_mem_inputs hy, hc⟩
      · exact .inr ⟨x, List.mem_append_right _ hx, y, List.mem_append_right _ hy, hc⟩

/-- the root does not tell the list from one with its last digest doubled -/
example (a b c : Digest) : root [a, b, c] = root [a, b, c, c] := by
  simp only [root, level]

theorem iterate_level {ds : List Digest} (h : ds ≠ []) :
    level^[Nat.clog 2 ds.length] ds = [root ds] := by
  induction ds using root.induct with
  | case1 => exact absurd rfl h
  | case2 a => rw [List.length_singleton, Nat.clog_one_right, root]; rfl
  | case3 a b rest ih =>
    have hstep : Nat.clog 2 (a :: b :: rest).length
        = Nat.clog 2 (level (a :: b :: rest)).length + 1 := by
      rw [length_level]
      exact Nat.clog_of_two_le (by decide) (by simp)
    rw [hstep, Function.iterate_succ_apply, root]
    exact ih (by rw [level]; exact List.cons_ne_nil _ _)

theorem lt_length_iterate (ds : List Digest) (k : Nat) :
    1 < (level^[k] ds).length ↔ k < Nat.clog 2 ds.length := by
  rw [Nat.lt_clog_iff_pow_lt (by decide)]
  induction k generalizing ds with
  | zero => rfl
  | succ k ih =>
    rw [Function.iterate_succ_apply, ih, length_level, pow_succ]
    omega

end Merkle

/-! ## templates -/

theorem HeaderPrefix.bytes_inj {h h' : HeaderPrefix} (e : h.bytes = h'.bytes) : h = h' := by
  have hread := (h.reads_header 0).whole_eq
  rw [header, e] at hread
  exact (Prod.mk.inj (Option.some.inj (hread.symm.trans (h'.reads_header 0).whole_eq))).1

theorem Digest.IsShownAs.unique {d d' : Digest} {text : String} (h : d.IsShownAs text)
    (h' : d'.IsShownAs text) : d = d' := by
  obtain ⟨bs, hbs, e⟩ := h
  obtain ⟨bs', hbs', e'⟩ := h'
  obtain rfl := Except.ok.inj (hbs.symm.trans hbs')
  exact Digest.ext (e.trans e'.symm)

/-- the ids under the root of some work: that of its coinbase, then those that its template shows -/
def Work.ids (w : Work) : List Digest :=
  w.coinbase.txid :: (txidsOf w.template.transactions).toOption.getD []

namespace TemplateTransaction

/-- a transaction of a template has these bytes, and is shown under their hash -/
def IsOf (tx : TemplateTransaction) (bs : Bytes) : Prop :=
  Hex.decode tx.data = .ok bs ∧ (doubleSha256 bs).IsShownAs tx.hash

/-- two transactions have the same id; if it is the hash of their bytes, these are the same, or they
collide -/
structure Alike (tx tx' : TemplateTransaction) : Prop where
  id : ∃ d : Digest, d.IsShownAs tx.hash ∧ d.IsShownAs tx'.hash
  data : ∀ bs bs', tx.IsOf bs → tx'.IsOf bs' → bs = bs' ∨ Collision bs bs'

theorem alike_of_isShownAs {tx tx' : TemplateTransaction} {d : Digest} (h : d.IsShownAs tx.hash)
    (h' : d.IsShownAs tx'.hash) : tx.Alike tx' := by
  refine ⟨⟨d, h, h'⟩, fun bs bs' hbs hbs' => ?_⟩
  have hhash : doubleSha256 bs = doubleSha256 bs' := (hbs.2.unique h).trans (h'.unique hbs'.2)
  by_cases e : bs = bs'
  · exact .inl e
  · exact .inr ⟨e, hhash⟩

theorem alike_of_forall₂ {txs txs' : List TemplateTransaction} {ds : List Digest}
    (h : List.Forall₂ (fun tx d => Digest.IsShownAs d tx.hash) txs ds)
    (h' : List.Forall₂ (fun tx d => Digest.IsShownAs d tx.hash) txs' ds) :
    List.Forall₂ Alike txs txs' := by
  induction h generalizing txs' with
  | nil =>
    cases h'
    exact .nil
  | cons hd _ ih =>
    cases h' with
    | cons hd' hrest' => exact .cons (alike_of_isShownAs hd hd') (ih hrest')

end TemplateTransaction

theorem Work.exists_ids {t : Template} {prefs : Preferences} {w : Work}
    (hw : ofTemplate t prefs = .ok w) : ∃ txids, w.ids = w.coinbase.txid :: txids ∧
      List.Forall₂ (fun tx d => Digest.IsShownAs d tx.hash) t.transactions txids ∧
      w.headerPrefix.root = Merkle.root w.ids := by
  obtain ⟨rfl, -, -, txids, htxids, hheader⟩ := ofTemplate_eq_ok.1 hw
  have hids : w.ids = w.coinbase.txid :: txids := by
    rw [ids, htxids]
    rfl
  obtain ⟨-, -, -, hroot, -⟩ := HeaderPrefix.ofTemplate_eq_ok.1 hheader
  exact ⟨txids, hids, isShownAs_of_txidsOf htxids, by rw [hids, hroot]⟩

/-- lists of one length with the same root are the same, or two strings hashed for them collide; the
root is what is left when the list has been halved often enough; and templates with as many
transactions whose work has the same header have the same transactions in the same places, and the
same coinbase, or two strings hashed for them collide -/
theorem root_binds_transactions :
    (∀ ds es : List Digest, ds.length = es.length → Merkle.root ds = Merkle.root es →
      ds = es ∨ Merkle.Collide ds es) ∧
    (∀ ds : List Digest,
      (∀ k, 1 < (Merkle.level^[k] ds).length ↔ k < Nat.clog 2 ds.length) ∧
      (ds ≠ [] → Merkle.level^[Nat.clog 2 ds.length] ds = [Merkle.root ds])) ∧
    ∀ (t t' : Template) (prefs prefs' : Preferences) (w w' : Work),
      Work.ofTemplate t prefs = .ok w → Work.ofTemplate t' prefs' = .ok w' →
      t.transactions.length = t'.transactions.length →
      w.headerPrefix.bytes = w'.headerPrefix.bytes →
      (w.coinbase.txid = w'.coinbase.txid ∧
        List.Forall₂ TemplateTransaction.Alike t.transactions t'.transactions) ∨
      Merkle.Collide w.ids w'.ids := by
  refine ⟨fun ds es => Merkle.root_inj,
    fun ds => ⟨Merkle.lt_length_iterate ds, Merkle.iterate_level⟩, ?_⟩
  intro t t' prefs prefs' w w' hw hw' hlen hbytes
  obtain ⟨txids, hids, hshown, hroot⟩ := Work.exists_ids hw
  obtain ⟨txids', hids', hshown', hroot'⟩ := Work.exists_ids hw'
  have hroots : Merkle.root w.ids = Merkle.root w'.ids := by
    rw [← hroot, ← hroot', HeaderPrefix.bytes_inj hbytes]
  have hlengths : w.ids.length = w'.ids.length := by
    rw [hids, hids', List.length_cons, List.length_cons, ← hshown.length_eq, hlen,
      hshown'.length_eq]
  refine (Merkle.root_inj hlengths hroots).imp_left fun hsame => ?_
  rw [hids, hids'] at hsame
  obtain ⟨hcoinbase, rfl⟩ := List.cons.inj hsame
  exact ⟨hcoinbase, TemplateTransaction.alike_of_forall₂ hshown hshown'⟩

end CycleMiner
