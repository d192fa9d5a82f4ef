import CycleMiner.Json.Decoding
import Mathlib.Data.List.Forall2
import Mathlib.Data.List.Nodup

/-!
# Members of an object

An object that is read as a record is brought into the order of its keys first, and every member
with the key of a field is looked at.  Of members with different keys nothing is lost by this.

* `Json.sorted_perm`        members with different keys stay the same in the order of their keys;
* `Record.checkMembers_eq_ok`, `Record.checkMembers_eq_error`   all members are right, or only one
  is not;
* `Record.value?_members`, `Record.value?_members_eq_none`      the value of a key;
* `Json.readAll_of_forall₂`, `Json.readAll_modify_of_error`     items that can all be read, or all
  but one.
-/

namespace CycleMiner

namespace Json

/-! ## the order of keys -/

def keys (members : List (String × Json)) : List String := members.map (·.1)

section
variable {key : String} {v : Json} {ms : List (String × Json)}

theorem mem_keys_of_mem (h : (key, v) ∈ ms) : key ∈ keys ms := List.mem_map.2 ⟨(key, v), h, rfl⟩

theorem exists_mem_of_mem_keys (h : key ∈ keys ms) : ∃ v, (key, v) ∈ ms := by
  obtain ⟨⟨k, v⟩, hm, rfl⟩ := List.mem_map.1 h
  exact ⟨v, hm⟩

/-- a key has only one value -/
theorem value_unique {w : Json} (h : (keys ms).Nodup) (hv : (key, v) ∈ ms) (hw : (key, w) ∈ ms) :
    v = w :=
  congrArg Prod.snd (List.inj_on_of_nodup_map h hv hw rfl)

theorem insert_perm (h : key ∉ keys ms) : (insert key v ms).Perm ((key, v) :: ms) := by
  induction ms with
  | nil => exact .refl _
  | cons m ms ih =>
    obtain ⟨hne, h'⟩ := not_or.1 (fun hm => h (List.mem_cons.2 hm))
    obtain ⟨k, w⟩ := m
    by_cases hlt : key < k
    · rw [insert, if_pos hlt]
    · rw [insert, if_neg hlt, if_neg hne]
      exact ((ih h').cons (k, w)).trans (.swap (key, v) (k, w) ms)

theorem sorted_perm (h : (keys ms).Nodup) : (sorted ms).Perm ms := by
  suffices hfold : ∀ done, (keys (ms ++ done)).Nodup →
      (ms.foldl (fun done m => insert m.1 m.2 done) done).Perm (ms ++ done) by
    have := hfold [] (by rwa [List.append_nil])
    rwa [List.append_nil] at this
  clear h
  induction ms with
  | nil => exact fun done _ => .refl done
  | cons m ms ih =>
    intro done hnd
    have hmid : (m :: ms ++ done).Perm (ms ++ m :: done) := List.perm_middle.symm
    obtain ⟨hnew, -⟩ := List.nodup_cons.1 hnd
    have hinsert : (insert m.1 m.2 done).Perm (m :: done) :=
      insert_perm fun hm => hnew (List.map_subset _ (List.subset_append_right ms done) hm)
    have hnd' : (keys (ms ++ insert m.1 m.2 done)).Nodup :=
      ((hmid.trans (hinsert.symm.append_left ms)).map _).nodup_iff.1 hnd
    exact (ih _ hnd').trans ((hinsert.append_left ms).trans hmid.symm)

end

/-! ## items -/

section
variable {α : Type} {read : Json → Except DecodeFault α} {as : List α} {vs : List Json}

theorem readAll_of_forall₂ (h : List.Forall₂ (fun a v => read v = .ok a) as vs) :
    readAll read vs = .ok as := by
  induction h with
  | nil => rfl
  | cons hv _ ih => rw [readAll, hv, ih]

/-- the fault of the only item that cannot be read -/
theorem readAll_modify_of_error {f : Json → Json} {e : DecodeFault} {i : Nat}
    (h : List.Forall₂ (fun a v => read v = .ok a ∧ read (f v) = .error e) as vs)
    (hi : i < as.length) : readAll read (vs.modify i f) = .error e := by
  induction h generalizing i with
  | nil => exact absurd hi (Nat.not_lt_zero i)
  | cons hv _ ih =>
    cases i with
    | zero => rw [List.modify_zero_cons, readAll, hv.2]
    | succ i =>
      rw [List.modify_succ_cons, readAll, hv.1, ih (Nat.lt_of_succ_lt_succ hi)]

theorem forall₂_modify {β : Type} {R : α → β → Prop} {f : α → α} {g : β → β} {bs : List β}
    (h : List.Forall₂ R as bs) (hfg : ∀ a b, R a b → R (f a) (g b)) (i : Nat) :
    List.Forall₂ R (as.modify i f) (bs.modify i g) := by
  induction h generalizing i with
  | nil =>
    rw [List.modify_nil, List.modify_nil]
    exact .nil
  | @cons a b as bs hab hrest ih =>
    cases i with
    | zero => exact .cons (hfg a b hab) hrest
    | succ i => exact .cons hab (ih i)

end

end Json

namespace Record
open Json

variable {shape : RecordShape} {ms : List (String × Json)} {key : String} {v : Json}

/-! ## looking at members -/

/-- what is wrong with a member, if its key is that of a field -/
def checkMember (shape : RecordShape) (m : String × Json) : Except DecodeFault Unit :=
  match shape.fields.find? fun f => f.1 == m.1 with
  | none => .ok ()
  | some f => f.2 m.2

theorem checkMembers_cons (m : String × Json) :
    checkMembers shape (m :: ms) = (checkMember shape m).bind fun _ => checkMembers shape ms := by
  obtain ⟨k, v⟩ := m
  rw [checkMembers, checkMember]
  cases shape.fields.find? fun f => f.1 == k with
  | none => rfl
  | some f => cases hf : f.2 v <;> simp only [hf] <;> rfl

theorem checkMembers_eq_ok (h : ∀ m ∈ ms, checkMember shape m = .ok ()) :
    checkMembers shape ms = .ok () := by
  induction ms with
  | nil => rfl
  | cons m ms ih =>
    obtain ⟨hm, hms⟩ := List.forall_mem_cons.1 h
    rw [checkMembers_cons, hm]
    exact ih hms

theorem checkMembers_eq_error {e : DecodeFault}
    (h : ∀ m ∈ ms, checkMember shape m = .ok () ∨ checkMember shape m = .error e)
    (he : ∃ m ∈ ms, checkMember shape m = .error e) : checkMembers shape ms = .error e := by
  induction ms with
  | nil =>
    obtain ⟨m, hm, -⟩ := he
    cases hm
  | cons m ms ih =>
    obtain ⟨hm, hms⟩ := List.forall_mem_cons.1 h
    rw [checkMembers_cons]
    rcases hm with hm | hm
    · rw [hm]
      obtain ⟨m', hm', he'⟩ := he
      rcases List.mem_cons.1 hm' with rfl | hm'
      · rw [hm] at he'
        cases he'
      · exact ih hms ⟨m', hm', he'⟩
    · rw [hm]
      rfl

/-! ## the value of a key -/

theorem value?_members (h : (keys ms).Nodup) (hv : (key, v) ∈ ms) (place : Nat) :
    (members ms).value? place key = some v := by
  have hfind : ms.find? (fun m => m.1 == key) = some (key, v) := by
    rw [List.find?_eq_some_iff_append]
    obtain ⟨as, bs, rfl⟩ := List.append_of_mem hv
    refine ⟨by simp, as, bs, rfl, fun m hm => ?_⟩
    rw [keys, List.map_append, List.map_cons, List.nodup_middle, List.nodup_cons] at h
    have hne : m.1 ≠ key := fun e =>
      h.1 (List.mem_append_left _ (List.mem_map.2 ⟨m, hm, e⟩))
    simpa using hne
  rw [value?, hfind]
  rfl

theorem value?_members_eq_none (h : key ∉ keys ms) (place : Nat) :
    (members ms).value? place key = none := by
  rw [value?, Option.map_eq_none_iff, List.find?_eq_none]
  intro m hm e
  exact h (List.mem_map.2 ⟨m, hm, by simpa using e⟩)

end Record

end CycleMiner
