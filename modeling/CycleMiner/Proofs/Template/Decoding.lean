import CycleMiner.Proofs.Json.Records
import CycleMiner.Template.Reader
import CycleMiner.Template.Writer

/-!
# Templates are read as they are written

A template is read from an object that has a member for each of its fields.  Members may come in any
order and stand among others, in the template as in each of its transactions and payments; a field
with a default may be left out if it holds this default.

* `Template.isReadBy`, `TemplateTransaction.isReadBy`, `Payment.isReadBy`   what the readers accept;
* `Template.shownBy_toJson`   the JSON value of a template shows it;
* `Template.Place`            where a member can be missing;
* `template_read_back`        a template is read back, and what is read when a member is missing.
-/

namespace CycleMiner
open Json

/-! ## values of fields -/

namespace Json

theorem readNat_nat {n bound : Nat} (h : n < bound) (expected : String) :
    readNat bound expected (nat n) = .ok n := by
  have hn : (0 : Int) ≤ n ∧ (n : Int) < bound := ⟨Int.natCast_nonneg n, Int.ofNat_lt.2 h⟩
  rw [nat, readNat, if_pos hn]
  rfl

section
variable {v : Json}

theorem readUInt32_of_eq {w : UInt32} (h : v = nat w.toNat) : readUInt32 v = .ok w := by
  rw [h, readUInt32, readNat_nat w.toNat_lt]
  exact congrArg Except.ok UInt32.ofNat_toNat

theorem readUInt64_of_eq {w : UInt64} (h : v = nat w.toNat) : readUInt64 v = .ok w := by
  rw [h, readUInt64, readNat_nat w.toNat_lt]
  exact congrArg Except.ok UInt64.ofNat_toNat

theorem readString_of_eq {s : String} (h : v = .string s) : readString v = .ok s := by
  rw [h, readString]

theorem readString?_of_eq {s : Option String} (h : v = ofString? s) : readString? v = .ok s := by
  rw [h]
  cases s <;> rfl

theorem readBool_of_eq {b : Bool} (h : v = .bool b) : readBool v = .ok b := by
  rw [h, readBool]

theorem ignoring_of_eq {α : Type} {read : Json → Except DecodeFault α} {a : α}
    (h : read v = .ok a) : ignoring read v = .ok () := by
  rw [ignoring, h]
  rfl

end

end Json

/-! ## transactions and payments -/

namespace TemplateTransaction

def form : RecordForm TemplateTransaction where
  fields := [("data", fun t v => v = .string t.data), ("hash", fun t v => v = .string t.hash),
    ("fee", fun t v => v = .nat t.fee.toNat)]
  required := ["data", "hash"]
  keeping p t := { t with fee := if p "fee" then t.fee else 0 }
  keeping_keeping p q t := by
    simp only [Bool.and_eq_true, ite_and]
  shows_keeping := by
    simp only [List.forall_mem_cons, List.not_mem_nil, false_implies, implies_true, and_true]
    refine ⟨fun _ _ _ _ h => h, fun _ _ _ _ h => h, fun p t v hp h => ?_⟩
    rw [if_pos hp]
    exact h

theorem isReadBy : form.IsReadBy shape ofJson where
  checks :=
    .cons ⟨rfl, fun _ _ h => ignoring_of_eq (readString_of_eq h)⟩ <|
    .cons ⟨rfl, fun _ _ h => ignoring_of_eq (readString_of_eq h)⟩ <|
    .cons ⟨rfl, fun _ _ h => ignoring_of_eq (readUInt64_of_eq h)⟩ .nil
  opens v e h := by
    rw [ofJson, h]
    rfl
  reads t ms h hopen := by
    have hdata := h.field 0 rfl fun _ => readString_of_eq
    have hhash := h.field 1 rfl fun _ => readString_of_eq
    have hfee := h.fieldOr 2 rfl (fun _ => readUInt64_of_eq) 0
    simp only [ofJson, hopen, hdata, hhash, hfee, ok_bind, ite_bind, form, RecordForm.demand,
      decide_eq_true_eq]
    rfl

theorem shownBy_toJson (t : TemplateTransaction) : form.ShownBy t t.toJson :=
  RecordForm.shownBy_of_all (.cons ⟨rfl, rfl⟩ <| .cons ⟨rfl, rfl⟩ <| .cons ⟨rfl, rfl⟩ .nil)
    (by decide) (by decide) rfl

end TemplateTransaction

namespace Payment

def form : RecordForm Payment where
  fields := [("payee", fun p v => v = .string p.payee), ("script", fun p v => v = .string p.script),
    ("amount", fun p v => v = .nat p.amount.toNat)]
  required := ["script", "amount"]
  keeping q p := { p with payee := if q "payee" then p.payee else "" }
  keeping_keeping p q t := by
    simp only [Bool.and_eq_true, ite_and]
  shows_keeping := by
    simp only [List.forall_mem_cons, List.not_mem_nil, false_implies, implies_true, and_true]
    refine ⟨fun q p v hq h => ?_, fun _ _ _ _ h => h, fun _ _ _ _ h => h⟩
    rw [if_pos hq]
    exact h

theorem isReadBy : form.IsReadBy shape ofJson where
  checks :=
    .cons ⟨rfl, fun _ _ h => ignoring_of_eq (readString_of_eq h)⟩ <|
    .cons ⟨rfl, fun _ _ h => ignoring_of_eq (readString_of_eq h)⟩ <|
    .cons ⟨rfl, fun _ _ h => ignoring_of_eq (readUInt64_of_eq h)⟩ .nil
  opens v e h := by
    rw [ofJson, h]
    rfl
  reads p ms h hopen := by
    have hpayee := h.fieldOr 0 rfl (fun _ => readString_of_eq) ""
    have hscript := h.field 1 rfl fun _ => readString_of_eq
    have hamount := h.field 2 rfl fun _ => readUInt64_of_eq
    simp only [ofJson, hopen, hpayee, hscript, hamount, ok_bind, ite_bind, form, RecordForm.demand,
      decide_eq_true_eq]
    rfl

theorem shownBy_toJson (p : Payment) : form.ShownBy p p.toJson :=
  RecordForm.shownBy_of_all (.cons ⟨rfl, rfl⟩ <| .cons ⟨rfl, rfl⟩ <| .cons ⟨rfl, rfl⟩ .nil)
    (by decide) (by decide) rfl

end Payment

/-! ## templates -/

namespace Template

def form : RecordForm Template where
  fields :=
    [("version", fun t v => v = .nat t.version.toNat),
     ("previousblockhash", fun t v => v = .string t.previousHash),
     ("transactions", fun t v => TemplateTransaction.form.IsListOf t.transactions v),
     ("coinbasevalue", fun t v => v = .nat t.coinbaseValue.toNat),
     ("longpollid", fun t v => v = .ofString? t.longPollId),
     ("curtime", fun t v => v = .nat t.time.toNat),
     ("bits", fun t v => v = .string t.bits),
     ("height", fun t v => v = .nat t.height.toNat),
     ("masternode", fun t v => Payment.form.IsListOf t.payments v),
     ("masternode_payments_started", fun t v => v = .bool t.paymentsStarted),
     ("coinbase_payload", fun t v => v = .ofString? t.payload)]
  required := ["version", "previousblockhash", "coinbasevalue", "curtime", "bits", "height"]
  keeping p t :=
    { t with
      transactions := if p "transactions" then t.transactions else []
      longPollId := if p "longpollid" then t.longPollId else none
      payments := if p "masternode" then t.payments else []
      paymentsStarted := if p "masternode_payments_started" then t.paymentsStarted else false
      payload := if p "coinbase_payload" then t.payload else none }
  keeping_keeping p q t := by
    simp only [Bool.and_eq_true, ite_and]
  shows_keeping := by
    simp only [List.forall_mem_cons, List.not_mem_nil, false_implies, implies_true, and_true]
    refine ⟨fun _ _ _ _ h => h, fun _ _ _ _ h => h, fun p t v hp h => ?_, fun _ _ _ _ h => h,
      fun p t v hp h => ?_, fun _ _ _ _ h => h, fun _ _ _ _ h => h, fun _ _ _ _ h => h,
      fun p t v hp h => ?_, fun p t v hp h => ?_, fun p t v hp h => ?_⟩
    all_goals
      rw [if_pos hp]
      exact h

theorem isReadBy : form.IsReadBy shape ofJson where
  checks :=
    .cons ⟨rfl, fun _ _ h => ignoring_of_eq (readUInt32_of_eq h)⟩ <|
    .cons ⟨rfl, fun _ _ h => ignoring_of_eq (readString_of_eq h)⟩ <|
    .cons ⟨rfl, fun _ _ h => ignoring_of_eq (TemplateTransaction.isReadBy.readList_eq h)⟩ <|
    .cons ⟨rfl, fun _ _ h => ignoring_of_eq (readUInt64_of_eq h)⟩ <|
    .cons ⟨rfl, fun _ _ h => ignoring_of_eq (readString?_of_eq h)⟩ <|
    .cons ⟨rfl, fun _ _ h => ignoring_of_eq (readUInt32_of_eq h)⟩ <|
    .cons ⟨rfl, fun _ _ h => ignoring_of_eq (readString_of_eq h)⟩ <|
    .cons ⟨rfl, fun _ _ h => ignoring_of_eq (readUInt64_of_eq h)⟩ <|
    .cons ⟨rfl, fun _ _ h => ignoring_of_eq (Payment.isReadBy.readList_eq h)⟩ <|
    .cons ⟨rfl, fun _ _ h => ignoring_of_eq (readBool_of_eq h)⟩ <|
    .cons ⟨rfl, fun _ _ h => ignoring_of_eq (readString?_of_eq h)⟩ .nil
  opens v e h := by
    rw [ofJson, h]
    rfl
  reads t ms h hopen := by
    have hversion := h.field 0 rfl fun _ => readUInt32_of_eq
    have hprevious := h.field 1 rfl fun _ => readString_of_eq
    have htransactions := h.fieldOr 2 rfl
      (fun _ => TemplateTransaction.isReadBy.readList_eq) []
    have hvalue := h.field 3 rfl fun _ => readUInt64_of_eq
    have hlongPoll := h.fieldOr 4 rfl (fun _ => readString?_of_eq) none
    have htime := h.field 5 rfl fun _ => readUInt32_of_eq
    have hbits := h.field 6 rfl fun _ => readString_of_eq
    have hheight := h.field 7 rfl fun _ => readUInt64_of_eq
    have hpayments := h.fieldOr 8 rfl
      (fun _ => Payment.isReadBy.readList_eq) []
    have hstarted := h.fieldOr 9 rfl (fun _ => readBool_of_eq) false
    have hpayload := h.fieldOr 10 rfl (fun _ => readString?_of_eq) none
    simp only [ofJson, hopen, hversion, hprevious, htransactions, hvalue, hlongPoll, htime, hbits,
      hheight, hpayments, hstarted, hpayload, ok_bind, ite_bind, form, RecordForm.demand,
      decide_eq_true_eq]
    rfl

theorem shownBy_toJson (t : Template) : form.ShownBy t t.toJson :=
  RecordForm.shownBy_of_all
    (.cons ⟨rfl, rfl⟩ <| .cons ⟨rfl, rfl⟩ <|
      .cons ⟨rfl, RecordForm.isListOf_map TemplateTransaction.shownBy_toJson t.transactions⟩ <|
      .cons ⟨rfl, rfl⟩ <| .cons ⟨rfl, rfl⟩ <| .cons ⟨rfl, rfl⟩ <| .cons ⟨rfl, rfl⟩ <|
      .cons ⟨rfl, rfl⟩ <| .cons ⟨rfl, RecordForm.isListOf_map Payment.shownBy_toJson t.payments⟩ <|
      .cons ⟨rfl, rfl⟩ <| .cons ⟨rfl, rfl⟩ .nil)
    (by decide) (by decide) rfl

/-! ## missing members -/

/-- an object inside a template -/
inductive Place where
  | template
  | transaction (i : Nat)
  | payment (i : Nat)
  deriving DecidableEq, Repr

namespace Place

/-- the template has an object there -/
def IsOf (t : Template) : Place → Prop
  | template => True
  | transaction i => i < t.transactions.length
  | payment i => i < t.payments.length

/-- the JSON value of a template without a member of this object -/
def drop (key : String) : Place → Json → Json
  | template, v => v.without key
  | transaction i, v => v.onMember "transactions" (onItem i (without key))
  | payment i, v => v.onMember "masternode" (onItem i (without key))

/-- the members of this object without a default -/
def required : Place → List String
  | template => form.required
  | transaction _ => TemplateTransaction.form.required
  | payment _ => Payment.form.required

/-- the template with the default of this member -/
def leaving (key : String) (t : Template) : Place → Template
  | template => form.leaving key t
  | transaction i =>
    { t with transactions := t.transactions.modify i (TemplateTransaction.form.leaving key) }
  | payment i => { t with payments := t.payments.modify i (Payment.form.leaving key) }

end Place

theorem transactions_isListField :
    form.IsListField TemplateTransaction.form "transactions" transactions
      fun ts t => { t with transactions := ts } where
  mem := List.mem_of_getElem? (i := 2) rfl
  put_shows := by simp [form]
  list_keeping _ _ := rfl
  keeping_put _ _ _ := rfl

theorem payments_isListField :
    form.IsListField Payment.form "masternode" payments fun ps t => { t with payments := ps } where
  mem := List.mem_of_getElem? (i := 8) rfl
  put_shows := by simp [form]
  list_keeping _ _ := rfl
  keeping_put _ _ _ := rfl

theorem ofJson_drop {t : Template} {v : Json} (h : form.ShownBy t v) {place : Place}
    (hplace : place.IsOf t) (key : String) : ofJson (place.drop key v)
      = if key ∈ place.required then .error (.missing key) else .ok (place.leaving key t) := by
  cases place with
  | template => exact isReadBy.read_without h key
  | transaction i =>
    exact transactions_isListField.read_without_nested isReadBy TemplateTransaction.isReadBy
      (fun _ => rfl) h hplace key
  | payment i =>
    exact payments_isListField.read_without_nested isReadBy Payment.isReadBy (fun _ => rfl) h
      hplace key

end Template

/-- The JSON value of a template shows it, and every object that does is read as the template: its
members may come in any order and among others, and fields that hold their default may be left out.
Without one more member, of the template or of an object in it, another template is read, the one
with the default there; if there is none, nothing is read. -/
theorem template_read_back (t : Template) :
    Template.ofJson t.toJson = .ok t ∧ Template.form.ShownBy t t.toJson
      ∧ ∀ v, Template.form.ShownBy t v → Template.ofJson v = .ok t
        ∧ ∀ place : Template.Place, place.IsOf t → ∀ key,
          Template.ofJson (place.drop key v)
            = if key ∈ place.required then .error (.missing key)
              else .ok (place.leaving key t) :=
  have hread : ∀ v, Template.form.ShownBy t v → Template.ofJson v = .ok t :=
    fun _ h => Template.isReadBy.read_eq h
  ⟨hread _ t.shownBy_toJson, t.shownBy_toJson, fun v h =>
    ⟨hread v h, fun _ hplace key => Template.ofJson_drop h hplace key⟩⟩

/-- members in another order, with an unknown one in the template and in its transaction and without
the fields that hold their default -/
theorem template_read_back_rearranged :
    let t : Template := ⟨536870912, "ab", [⟨"01", "cd", 0⟩], 500000000, none, 1538654400,
      "207fffff", 42, [], false, none⟩
    let v := Json.object
      [("height", .nat 42), ("rules", .array []), ("bits", .string "207fffff"),
       ("curtime", .nat 1538654400), ("coinbasevalue", .nat 500000000),
       ("transactions",
        .array [.object [("hash", .string "cd"), ("depends", .null), ("data", .string "01")]]),
       ("previousblockhash", .string "ab"), ("version", .nat 536870912)]
    Template.form.ShownBy t v ∧ Template.ofJson v = .ok t
      ∧ Template.ofJson (Template.Place.drop "hash" (.transaction 0) v)
        = .error (.missing "hash") := by
  intro t v
  have htransaction : TemplateTransaction.form.ShownBy ⟨"01", "cd", 0⟩
      (.object [("hash", .string "cd"), ("depends", .null), ("data", .string "01")]) :=
    ⟨_, rfl, ⟨by decide, by simp [TemplateTransaction.form]⟩, by decide, rfl⟩
  have hshown : Template.form.ShownBy t v := by
    refine ⟨_, rfl, ⟨by decide, ?_⟩, by decide, rfl⟩
    simp [Template.form, RecordForm.IsListOf, t, htransaction]
  obtain ⟨-, -, hread⟩ := template_read_back t
  exact ⟨hshown, (hread v hshown).1, (hread v hshown).2 (.transaction 0) Nat.one_pos "hash"⟩

end CycleMiner
