import CycleMiner.Block.Coinbase
import CycleMiner.Proofs.Block.HeightPush
import CycleMiner.Proofs.Hex

/-!
# What a coinbase is made of

A coinbase can be made if its input script is not too long and every text that it needs is
hexadecimal; amounts play no part.

* `Coinbase.ofTemplate_eq_ok`      what a coinbase is made of;
* `Coinbase.outputsOf_eq_ok`, `Coinbase.payloadOf_eq_ok`   the outputs of payments, and the payload;
* `Coinbase.exists_ofTemplate_iff`, `Coinbase.ofTemplate_of_long`   when one can be made, and what
  is wrong if the input script is too long;
* `Coinbase.inputScriptOf_eq`, `Coinbase.length_inputScriptOf`   the input script, piece by piece,
  and its length.
-/

namespace CycleMiner

theorem InputFault.ofHex_eq_ok {text : String} {bs : Bytes} :
    ofHex text = .ok bs ↔ Hex.decode text = .ok bs := mapError_eq_ok

theorem InputFault.ofHex_eq_error {text : String} {f : InputFault} :
    ofHex text = .error f ↔ ∃ fault, Hex.decode text = .error fault ∧ hex fault = f :=
  mapError_eq_error

/-! ## the parts of a coinbase -/

namespace Coinbase

theorem mem_of_due {t : Template} {p : Payment} (h : p ∈ duePayments t) : p ∈ t.payments := by
  unfold duePayments at h
  split at h
  case isTrue => exact h
  case isFalse => cases h

/-- an output makes a payment -/
def Makes (p : Payment) (o : Output) : Prop :=
  o.value = p.amount ∧ Hex.decode p.script = .ok o.script

def outputOf (p : Payment) : Except InputFault Output :=
  (InputFault.ofHex p.script).map (⟨p.amount, ·⟩)

theorem outputOf_eq_ok {p : Payment} {o : Output} : outputOf p = .ok o ↔ Makes p o := by
  rw [outputOf, map_eq_ok]
  constructor
  · rintro ⟨script, h, rfl⟩
    exact ⟨rfl, InputFault.ofHex_eq_ok.1 h⟩
  · rintro ⟨hv, h⟩
    exact ⟨o.script, InputFault.ofHex_eq_ok.2 h, by rw [← hv]⟩

theorem outputsOf_eq (ps : List Payment) : outputsOf ps = ps.mapM outputOf := by
  induction ps with
  | nil => rfl
  | cons p ps ih =>
    rw [outputsOf]
    cases hp : InputFault.ofHex p.script with
    | error f =>
      have hone : outputOf p = .error f := map_eq_error.2 hp
      rw [mapM_cons_of_error hone]
    | ok script =>
      have hone : outputOf p = .ok ⟨p.amount, script⟩ := map_eq_ok.2 ⟨script, hp, rfl⟩
      rw [mapM_cons_of_ok hone, ← ih]
      cases outputsOf ps with
      | error f => rfl
      | ok os => rfl

theorem outputsOf_eq_ok {ps : List Payment} {os : List Output} :
    outputsOf ps = .ok os ↔ List.Forall₂ Makes ps os := by
  rw [outputsOf_eq, mapM_eq_ok]
  exact ⟨.imp fun p o => outputOf_eq_ok.1, .imp fun p o => outputOf_eq_ok.2⟩

theorem ofTemplate_eq_ok {t : Template} {prefs : Preferences} {c : Coinbase} :
    ofTemplate t prefs = .ok c ↔
      c.inputScript = inputScriptOf t.height prefs.extraScript ∧ c.inputScript.length ≤ 100 ∧
        payloadOf t = .ok c.payload ∧
        ∃ payments, outputsOf (duePayments t) = .ok payments ∧
          c.outputs = ⟨remainder t.coinbaseValue (Output.total payments), prefs.payoutScript⟩
            :: payments := by
  unfold ofTemplate
  dsimp only
  obtain ⟨script, outputs, payload⟩ := c
  by_cases hl : 100 < (inputScriptOf t.height prefs.extraScript).length
  · rw [if_pos hl]
    simp only [reduceCtorEq, false_iff]
    rintro ⟨rfl, h, -⟩
    omega
  · rw [if_neg hl]
    cases outputsOf (duePayments t) with
    | error f => simp
    | ok payments =>
      cases payloadOf t with
      | error f => simp
      | ok payload' =>
        simp only [Except.ok.injEq, Coinbase.mk.injEq]
        constructor
        · rintro ⟨rfl, rfl, rfl⟩
          exact ⟨rfl, Nat.not_lt.1 hl, rfl, payments, rfl, rfl⟩
        · rintro ⟨rfl, -, rfl, _, rfl, rfl⟩
          exact ⟨rfl, rfl, rfl⟩

theorem payloadOf_eq_ok {t : Template} {payload : Option Bytes} (h : payloadOf t = .ok payload) :
    (t.payload = none ∨ t.payload = some "") ∧ payload = none ∨
      ∃ text p, t.payload = some text ∧ text ≠ "" ∧ Hex.decode text = .ok p ∧ payload = some p := by
  unfold payloadOf at h
  cases ht : t.payload with
  | none =>
    rw [ht] at h
    exact .inl ⟨.inl rfl, (Except.ok.inj h).symm⟩
  | some text =>
    rw [ht] at h
    by_cases he : text = ""
    · simp only [he, if_true] at h
      exact .inl ⟨.inr (by rw [he]), (Except.ok.inj h).symm⟩
    · simp only [he, if_false] at h
      obtain ⟨p, hp, rfl⟩ := map_eq_ok.1 h
      exact .inr ⟨text, p, rfl, he, InputFault.ofHex_eq_ok.1 hp, rfl⟩

theorem ofTemplate_of_long {t : Template} {prefs : Preferences}
    (h : 100 < (inputScriptOf t.height prefs.extraScript).length) :
    ofTemplate t prefs
      = .error (.scriptLength (inputScriptOf t.height prefs.extraScript).length) := if_pos h

theorem exists_ofTemplate_iff {t : Template} {prefs : Preferences} :
    (∃ c, ofTemplate t prefs = .ok c) ↔
      (inputScriptOf t.height prefs.extraScript).length ≤ 100 ∧
        (∃ payments, outputsOf (duePayments t) = .ok payments) ∧
        ∃ payload, payloadOf t = .ok payload := by
  constructor
  · rintro ⟨c, h⟩
    obtain ⟨hscript, hle, hpayload, payments, hpay, -⟩ := ofTemplate_eq_ok.1 h
    exact ⟨hscript ▸ hle, ⟨payments, hpay⟩, _, hpayload⟩
  · rintro ⟨hle, ⟨payments, hpay⟩, payload, hpayload⟩
    exact ⟨⟨_, _, payload⟩, ofTemplate_eq_ok.2 ⟨rfl, hle, hpayload, payments, hpay, rfl⟩⟩

/-! ## the input script -/

/-- what stands behind a script of less than two bytes -/
def padding (script : Bytes) : Bytes := if script.length < 2 then [0] else []

theorem inputScriptOf_eq (height : UInt64) (extra : Bytes) : inputScriptOf height extra =
    Block.heightPush height ++ extra ++ padding (Block.heightPush height ++ extra) := by
  unfold inputScriptOf padding
  dsimp only
  split
  case isTrue => rfl
  case isFalse => exact (List.append_nil _).symm

theorem length_inputScriptOf (height : UInt64) (extra : Bytes) :
    (inputScriptOf height extra).length
      = max 2 ((Block.heightPush height).length + extra.length) := by
  have hpos := Block.length_heightPush_pos height
  rw [inputScriptOf_eq, padding, List.length_append, List.length_append]
  split
  case isTrue h =>
    rw [List.length_singleton]
    omega
  case isFalse h =>
    rw [List.length_nil]
    omega

end Coinbase

/-! ## what examples are made of -/

def Preferences.plain (payoutScript : Bytes) : Preferences := ⟨payoutScript, [], []⟩

/-- a template that asks for one payment and a payload -/
def Template.paying (height value amount : UInt64) : Template where
  version := 1
  previousHash := "0000000000000000000000000000000000000000000000000000000000000000"
  transactions := []
  coinbaseValue := value
  longPollId := none
  time := 0
  bits := "2100ffff"
  height := height
  payments := [⟨"", "51", amount⟩]
  paymentsStarted := true
  payload := some "beef"

theorem Coinbase.ofTemplate_paying (height value amount : UInt64) (payoutScript : Bytes) :
    ofTemplate (.paying height value amount) (.plain payoutScript) = .ok
      { inputScript := inputScriptOf height []
        outputs := [⟨remainder value amount, payoutScript⟩, ⟨amount, [0x51]⟩]
        payload := some [0xbe, 0xef] } := by
  have hpayload : Hex.decode "beef" = .ok [0xbe, 0xef] := by decide +kernel
  have hscript : Hex.decode "51" = .ok [0x51] := by decide +kernel
  have hpayments : outputsOf [⟨"", "51", amount⟩] = .ok [⟨amount, [0x51]⟩] :=
    outputsOf_eq_ok.2 (.cons ⟨rfl, hscript⟩ .nil)
  have hlength : (inputScriptOf height []).length ≤ 100 := by
    have hle := Block.length_heightPush_le height
    rw [length_inputScriptOf, List.length_nil]
    omega
  refine ofTemplate_eq_ok.2 ⟨rfl, hlength, ?_, _, hpayments, ?_⟩
  · show (InputFault.ofHex "beef").map some = _
    rw [InputFault.ofHex_eq_ok.2 hpayload]
    rfl
  · show [_, _] = [(⟨remainder value (0 + amount), payoutScript⟩ : Output), _]
    rw [UInt64.zero_add]

end CycleMiner
