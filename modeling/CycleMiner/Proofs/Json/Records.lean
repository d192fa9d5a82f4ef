import CycleMiner.Proofs.Json.Members
import CycleMiner.Proofs.Outcome

/-!
# Records in JSON objects

What an object has to say to be read as a record: a member for every field, in any order, among any
others.  A field with a default may be left out if the record holds the default there.

* `RecordForm`                  a kind of record: its fields, those without a default, and a record
  with defaults in the place of others;
* `RecordForm.Shows`, `RecordForm.ShownBy`   members, or an object, that show a record;
* `RecordForm.IsReadBy`         a reader for such objects;
* `IsReadBy.read_eq`            it reads the record;
* `IsReadBy.read_without`       and without one member a record with the default there, or nothing
  if there is none;
* `IsListField.read_without_nested`   the same of a member of an item, in a list of other records.
-/

namespace CycleMiner
open Json

/-! ## changing a value -/

namespace Json

def without (key : String) : Json → Json
  | object ms => object (ms.filter fun m => m.1 != key)
  | v => v

/-- a member whose value is changed if it has this key -/
def changed (key : String) (f : Json → Json) (m : String × Json) : String × Json :=
  if m.1 = key then (m.1, f m.2) else m

def onMember (key : String) (f : Json → Json) : Json → Json
  | object ms => object (ms.map (changed key f))
  | v => v

def onItem (i : Nat) (f : Json → Json) : Json → Json
  | array vs => array (vs.modify i f)
  | v => v

section
variable {key key' : String} {f : Json → Json} {v : Json} {ms : List (String × Json)}

theorem mem_without :
    (key', v) ∈ ms.filter (fun m => m.1 != key) ↔ (key', v) ∈ ms ∧ key' ≠ key := by
  rw [List.mem_filter, bne_iff_ne]

theorem mem_keys_without :
    key' ∈ keys (ms.filter fun m => m.1 != key) ↔ key' ∈ keys ms ∧ key' ≠ key := by
  simp only [keys, List.mem_map, List.mem_filter, bne_iff_ne]
  constructor
  · rintro ⟨m, ⟨hm, hne⟩, rfl⟩
    exact ⟨⟨m, hm, rfl⟩, hne⟩
  · rintro ⟨⟨m, hm, rfl⟩, hne⟩
    exact ⟨m, ⟨hm, hne⟩, rfl⟩

theorem nodup_keys_without (h : (keys ms).Nodup) :
    (keys (ms.filter fun m => m.1 != key)).Nodup :=
  h.sublist (List.filter_sublist.map _)

theorem keys_changed : keys (ms.map (changed key f)) = keys ms := by
  rw [keys, keys, List.map_map]
  refine List.map_congr_left fun m _ => ?_
  show (changed key f m).1 = m.1
  unfold changed
  split <;> rfl

theorem mem_changed (h : (key', v) ∈ ms.map (changed key f)) :
    ((key', v) ∈ ms ∧ key' ≠ key) ∨ ∃ w, (key, w) ∈ ms ∧ key' = key ∧ v = f w := by
  obtain ⟨⟨k, w⟩, hm, e⟩ := List.mem_map.1 h
  unfold changed at e
  split at e
  case isTrue hk =>
    obtain ⟨rfl, rfl⟩ := Prod.mk.inj e
    exact .inr ⟨w, hk ▸ hm, hk, rfl⟩
  case isFalse hk =>
    obtain ⟨rfl, rfl⟩ := Prod.mk.inj e
    exact .inl ⟨hm, hk⟩

theorem changed_mem (h : (key, v) ∈ ms) : (key, f v) ∈ ms.map (changed key f) :=
  List.mem_map.2 ⟨(key, v), h, if_pos rfl⟩

end

end Json

/-! ## forms of records -/

/-- a kind of record, as an object shows it -/
structure RecordForm (α : Type) where
  /-- the key of each field, and what its value has to be -/
  fields : List (String × (α → Json → Prop))
  /-- the keys of the fields without a default -/
  required : List String
  /-- the record with the default in the place of every field that is not kept -/
  keeping : (String → Bool) → α → α
  keeping_keeping : ∀ p q a, keeping p (keeping q a) = keeping (fun key => p key && q key) a
  shows_keeping : ∀ f ∈ fields, ∀ p a v, p f.1 = true → f.2 a v → f.2 (keeping p a) v

namespace RecordForm

variable {α β : Type} {F : RecordForm α} {a b : α} {ms : List (String × Json)} {key : String}
  {v : Json}

/-- members with different keys, each of which shows what the record has for its key -/
structure Agrees (F : RecordForm α) (a : α) (ms : List (String × Json)) : Prop where
  nodup : (keys ms).Nodup
  shows : ∀ f ∈ F.fields, ∀ v, (f.1, v) ∈ ms → f.2 a v

/-- such members of which none is missing but those of fields that hold their default -/
structure Shows (F : RecordForm α) (a : α) (ms : List (String × Json)) : Prop
    extends F.Agrees a ms where
  required : ∀ key ∈ F.required, key ∈ keys ms
  defaults : F.keeping (fun key => key ∈ keys ms) a = a

def ShownBy (F : RecordForm α) (a : α) (v : Json) : Prop := ∃ ms, v = .object ms ∧ F.Shows a ms

/-- the record without one field: its default stands there -/
def leaving (F : RecordForm α) (key : String) (a : α) : α := F.keeping (fun k => k != key) a

theorem Agrees.without (h : F.Agrees a ms) (key : String) :
    F.Agrees a (ms.filter fun m => m.1 != key) where
  nodup := nodup_keys_without h.nodup
  shows f hf v hv := h.shows f hf v (mem_without.1 hv).1

theorem Shows.keeping_without (h : F.Shows a ms) (key : String) :
    F.keeping (fun k => k ∈ keys (ms.filter fun m => m.1 != key)) a = F.leaving key a := by
  have hkeys : (fun k => decide (k ∈ keys (ms.filter fun m => m.1 != key)))
      = fun k => (k != key) && decide (k ∈ keys ms) := by
    funext k
    rw [Bool.eq_iff_iff, decide_eq_true_iff, mem_keys_without, Bool.and_eq_true, bne_iff_ne,
      decide_eq_true_iff, and_comm]
  rw [hkeys, ← F.keeping_keeping, h.defaults, leaving]

/-- the members without one show the record without that field -/
theorem Shows.without (h : F.Shows a ms) (hkey : key ∉ F.required) :
    F.Shows (F.leaving key a) (ms.filter fun m => m.1 != key) where
  nodup := nodup_keys_without h.nodup
  shows f hf v hv := by
    obtain ⟨hv, hne⟩ := mem_without.1 hv
    exact F.shows_keeping f hf _ a v (bne_iff_ne.2 hne) (h.shows f hf v hv)
  required k hk := mem_keys_without.2 ⟨h.required k hk, fun e => hkey (e ▸ hk)⟩
  defaults := by
    rw [← h.keeping_without key, F.keeping_keeping]
    simp only [Bool.and_self]

theorem ShownBy.without (h : F.ShownBy a v) (hkey : key ∉ F.required) :
    F.ShownBy (F.leaving key a) (v.without key) := by
  obtain ⟨ms, rfl, hms⟩ := h
  exact ⟨_, rfl, hms.without hkey⟩

/-- an object that has every field, in the order of the fields -/
theorem shownBy_of_all (h : List.Forall₂ (fun f m => f.1 = m.1 ∧ f.2 a m.2) F.fields ms)
    (hnodup : (F.fields.map (·.1)).Nodup) (hrequired : F.required ⊆ F.fields.map (·.1))
    (hkeeping : F.keeping (fun key => key ∈ F.fields.map (·.1)) a = a) :
    F.ShownBy a (.object ms) := by
  have hkeys : F.fields.map (·.1) = keys ms := by
    rw [keys, ← List.forall₂_eq_eq_eq, List.forall₂_map_left_iff, List.forall₂_map_right_iff]
    exact h.imp fun _ _ hfm => hfm.1
  rw [hkeys] at hrequired hkeeping
  refine ⟨ms, rfl, ⟨hkeys ▸ hnodup, fun f hf v hv => ?_⟩, fun _ hkey => hrequired hkey, hkeeping⟩
  obtain ⟨g, hg, e, hshows⟩ := exists_of_mem_right h (f.1, v) hv
  rwa [List.inj_on_of_nodup_map hnodup hf hg e.symm]

/-! ## reading -/

/-- a result, unless one of these keys is missing; then the first one that is -/
def demand (ms : List (String × Json)) (x : Except DecodeFault α) :
    List String → Except DecodeFault α
  | [] => x
  | key :: rest => if key ∈ keys ms then demand ms x rest else .error (.missing key)

theorem demand_eq {x : Except DecodeFault α} {required : List String}
    (h : ∀ key ∈ required, key ∈ keys ms) : demand ms x required = x := by
  induction required with
  | nil => rfl
  | cons k rest ih =>
    obtain ⟨hk, hrest⟩ := List.forall_mem_cons.1 h
    rw [demand, if_pos hk, ih hrest]

theorem demand_eq_error {x : Except DecodeFault α} {required : List String} (hkey : key ∈ required)
    (h : ∀ k ∈ required, k ∈ keys ms ↔ k ≠ key) :
    demand ms x required = .error (.missing key) := by
  induction required with
  | nil => cases hkey
  | cons k rest ih =>
    obtain ⟨hk, hrest⟩ := List.forall_mem_cons.1 h
    by_cases e : k = key
    · rw [demand, if_neg fun hmem => hk.1 hmem e, e]
    · rw [demand, if_pos (hk.2 e)]
      exact ih ((List.mem_cons.1 hkey).resolve_left (Ne.symm e)) hrest

/-- a reader that looks at all members first and then takes the fields, each without a default to be
there -/
structure IsReadBy (F : RecordForm α) (shape : RecordShape) (read : Json → Except DecodeFault α) :
    Prop where
  checks : List.Forall₂ (fun f c => f.1 = c.1 ∧ ∀ a v, f.2 a v → c.2 v = .ok ())
    F.fields shape.fields
  opens : ∀ v e, Record.open? shape v = .error e → read v = .error e
  reads : ∀ a ms, F.Agrees a ms → Record.open? shape (.object ms) = .ok (.members (sorted ms)) →
    read (.object ms) = demand ms (.ok (F.keeping (fun key => key ∈ keys ms) a)) F.required

theorem Agrees.value? (h : F.Agrees a ms) (hv : (key, v) ∈ ms) (place : Nat) :
    (Record.members (sorted ms)).value? place key = some v := by
  have hperm := sorted_perm h.nodup
  exact Record.value?_members ((hperm.map _).nodup_iff.2 h.nodup) (hperm.mem_iff.2 hv) place

theorem Agrees.value?_eq_none (h : F.Agrees a ms) (hkey : key ∉ keys ms) (place : Nat) :
    (Record.members (sorted ms)).value? place key = none := by
  refine Record.value?_members_eq_none (fun hmem => hkey ?_) place
  exact ((sorted_perm h.nodup).map _).mem_iff.1 hmem

section
variable {γ : Type} {read : Json → Except DecodeFault γ} {c : γ} {shows : α → Json → Prop}
  (place : Nat) (h : F.Agrees a ms) (hf : F.fields[place]? = some (key, shows))
  (hread : ∀ v, shows a v → read v = .ok c)
include h hf hread

theorem Agrees.field : (Record.members (sorted ms)).field place key read
    = if key ∈ keys ms then .ok c else .error (.missing key) := by
  by_cases hkey : key ∈ keys ms
  · obtain ⟨v, hv⟩ := exists_mem_of_mem_keys hkey
    rw [Record.field, h.value? hv, if_pos hkey]
    exact hread v (h.shows _ (List.mem_of_getElem? hf) v hv)
  · rw [Record.field, h.value?_eq_none hkey, if_neg hkey]
    rfl

theorem Agrees.fieldOr (default : γ) :
    (Record.members (sorted ms)).fieldOr place key read default
      = .ok (if key ∈ keys ms then c else default) := by
  by_cases hkey : key ∈ keys ms
  · obtain ⟨v, hv⟩ := exists_mem_of_mem_keys hkey
    rw [Record.fieldOr, h.value? hv, if_pos hkey]
    exact hread v (h.shows _ (List.mem_of_getElem? hf) v hv)
  · rw [Record.fieldOr, h.value?_eq_none hkey, if_neg hkey]

end

namespace IsReadBy

variable {shape : RecordShape} {read : Json → Except DecodeFault α} (hr : F.IsReadBy shape read)
include hr

theorem checkMember_eq_ok (h : F.Agrees a ms) {m : String × Json} (hm : m ∈ ms) :
    Record.checkMember shape m = .ok () := by
  rw [Record.checkMember]
  cases hfind : shape.fields.find? fun c => c.1 == m.1 with
  | none => rfl
  | some c =>
    obtain ⟨f, hf, e, hshows⟩ := exists_of_mem_right hr.checks c (List.mem_of_find?_eq_some hfind)
    have hkey : c.1 = m.1 := by simpa using List.find?_some hfind
    refine hshows a m.2 (h.shows f hf m.2 ?_)
    rw [e, hkey]
    exact hm

theorem open?_eq (h : F.Agrees a ms) :
    Record.open? shape (.object ms) = .ok (.members (sorted ms)) := by
  have hcheck : Record.checkMembers shape (sorted ms) = .ok () :=
    Record.checkMembers_eq_ok fun m hm =>
      hr.checkMember_eq_ok h ((sorted_perm h.nodup).mem_iff.1 hm)
  rw [Record.open?, hcheck]
  rfl

/-- an object that shows a record is read as this record -/
theorem read_eq (h : F.ShownBy a v) : read v = .ok a := by
  obtain ⟨ms, rfl, hms⟩ := h
  rw [hr.reads a ms hms.toAgrees (hr.open?_eq hms.toAgrees), demand_eq hms.required, hms.defaults]

/-- without one member it is read with the default there, and if there is none it is not read -/
theorem read_without (h : F.ShownBy a v) (key : String) :
    read (v.without key)
      = if key ∈ F.required then .error (.missing key) else .ok (F.leaving key a) := by
  split
  case isTrue hkey =>
    obtain ⟨ms, rfl, hms⟩ := h
    have hag := hms.toAgrees.without key
    rw [Json.without, hr.reads a _ hag (hr.open?_eq hag)]
    refine demand_eq_error hkey fun k hk => ?_
    rw [mem_keys_without, and_iff_right (hms.required k hk)]
  case isFalse hkey => exact hr.read_eq (h.without hkey)

/-- a changed member that is not what it has to be -/
theorem read_onMember_of_error {f : Json → Json} {e : DecodeFault} (h : F.Agrees a ms)
    (hv : (key, v) ∈ ms) (he : Record.checkMember shape (key, f v) = .error e) :
    read ((Json.object ms).onMember key f) = .error e := by
  have hnd : (keys (ms.map (changed key f))).Nodup := by
    rw [keys_changed]
    exact h.nodup
  have hperm := sorted_perm hnd
  have hcheck : Record.checkMembers shape (sorted (ms.map (changed key f))) = .error e := by
    refine Record.checkMembers_eq_error (fun m hm => ?_)
      ⟨(key, f v), hperm.mem_iff.2 (changed_mem hv), he⟩
    obtain ⟨k, w⟩ := m
    rcases mem_changed (hperm.mem_iff.1 hm) with ⟨hw, -⟩ | ⟨w', hw', rfl, rfl⟩
    · exact .inl (hr.checkMember_eq_ok h hw)
    · rw [value_unique h.nodup hw' hv]
      exact .inr he
  apply hr.opens
  rw [Json.onMember, Record.open?, hcheck]
  rfl

end IsReadBy

/-! ## lists of records -/

/-- an array of objects that show records, one after the other -/
def IsListOf (F : RecordForm α) (as : List α) (v : Json) : Prop :=
  ∃ items, v = .array items ∧ List.Forall₂ F.ShownBy as items

theorem isListOf_map {write : α → Json} (h : ∀ a, F.ShownBy a (write a)) (as : List α) :
    F.IsListOf as (.array (as.map write)) := by
  refine ⟨_, rfl, ?_⟩
  rw [List.forall₂_map_right_iff, List.forall₂_same]
  exact fun a _ => h a

theorem IsReadBy.readList_eq {shape : RecordShape} {read : Json → Except DecodeFault α}
    (hr : F.IsReadBy shape read) {as : List α} (h : F.IsListOf as v) :
    readList read v = .ok as := by
  obtain ⟨items, rfl, hitems⟩ := h
  exact readAll_of_forall₂ (hitems.imp fun _ _ => hr.read_eq)

/-- the records of a list that is one field of another record -/
structure IsListField (F : RecordForm α) (G : RecordForm β) (key : String) (list : α → List β)
    (put : List β → α → α) : Prop where
  mem : (key, fun a v => G.IsListOf (list a) v) ∈ F.fields
  put_shows : ∀ f ∈ F.fields, ∀ bs a v, (f.1 = key → G.IsListOf bs v) →
    (f.1 ≠ key → f.2 a v) → f.2 (put bs a) v
  list_keeping : ∀ p a, list (F.keeping p a) = if p key then list a else []
  keeping_put : ∀ p bs a,
    F.keeping p (put bs a) = put (if p key then bs else []) (F.keeping p a)

namespace IsListField

variable {G : RecordForm β} {list : α → List β} {put : List β → α → α}
  (hl : F.IsListField G key list put)
include hl

/-- unless the list is empty it is there -/
theorem exists_items (h : F.Shows a ms) {i : Nat} (hi : i < (list a).length) :
    ∃ vs, (key, .array vs) ∈ ms ∧ List.Forall₂ G.ShownBy (list a) vs := by
  by_cases hkey : key ∈ keys ms
  · obtain ⟨v, hv⟩ := exists_mem_of_mem_keys hkey
    obtain ⟨vs, rfl, hvs⟩ := h.shows _ hl.mem v hv
    exact ⟨vs, hv, hvs⟩
  · have hempty := congrArg list h.defaults
    rw [hl.list_keeping, if_neg fun hmem => hkey (of_decide_eq_true hmem)] at hempty
    rw [← hempty] at hi
    exact absurd hi (Nat.not_lt_zero i)

/-- members of which this one is changed show the record with another list -/
theorem shows_changed {f : Json → Json} {bs : List β} (h : F.Shows a ms) (hkey : key ∈ keys ms)
    (hf : ∀ v, (key, v) ∈ ms → G.IsListOf bs (f v)) :
    F.Shows (put bs a) (ms.map (changed key f)) where
  nodup := by
    rw [keys_changed]
    exact h.nodup
  shows g hg v hv := by
    rcases mem_changed hv with ⟨hv, hne⟩ | ⟨w, hw, e, rfl⟩
    · exact hl.put_shows g hg bs a v (fun e => absurd e hne) fun _ => h.shows g hg v hv
    · exact hl.put_shows g hg bs a (f w) (fun _ => hf w hw) fun hne => absurd e hne
  required k hk := by
    rw [keys_changed]
    exact h.required k hk
  defaults := by
    rw [keys_changed, hl.keeping_put, h.defaults, if_pos (decide_eq_true hkey)]

/-- without a member of an item the record is read without this field of the item, or not at all if
the item is not -/
theorem read_without_nested {shape shape' : RecordShape} {read : Json → Except DecodeFault α}
    {read' : Json → Except DecodeFault β} (hr : F.IsReadBy shape read)
    (hg : G.IsReadBy shape' read')
    (hcheck : ∀ w, Record.checkMember shape (key, w) = ignoring (readList read') w)
    (h : F.ShownBy a v) {i : Nat} (hi : i < (list a).length) (field : String) :
    read (v.onMember key (onItem i (Json.without field)))
      = if field ∈ G.required then .error (.missing field)
        else .ok (put ((list a).modify i (G.leaving field)) a) := by
  obtain ⟨ms, rfl, hms⟩ := h
  obtain ⟨vs, hv, hvs⟩ := hl.exists_items hms hi
  split
  case isTrue hfield =>
    refine hr.read_onMember_of_error hms.toAgrees hv ?_
    have hitems : List.Forall₂ (fun b v => read' v = .ok b ∧
        read' (v.without field) = .error (.missing field)) (list a) vs :=
      hvs.imp fun b v hbv => ⟨hg.read_eq hbv, by rw [hg.read_without hbv, if_pos hfield]⟩
    rw [hcheck, ignoring, onItem, readList, readAll_modify_of_error hitems hi]
    rfl
  case isFalse hfield =>
    refine hr.read_eq ⟨_, rfl, hl.shows_changed hms (mem_keys_of_mem hv) fun w hw => ?_⟩
    rw [value_unique hms.nodup hw hv]
    exact ⟨_, rfl, forall₂_modify hvs (fun _ _ hbv => hbv.without hfield) i⟩

end IsListField

end RecordForm

end CycleMiner
