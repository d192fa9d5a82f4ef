import CycleMiner.Proofs.Coinbase.Reading

/-!
# What a coinbase pays out

Payments are taken out of a template's value, and the miner gets the rest.  The rest is never less
than nothing, so payments that exceed the value are made all the same, and no amount is refused.

* `Output.sum`, `Template.due`     what outputs pay, and what has to be paid, as exact sums;
* `Output.toNat_total`             the sum that the rest is taken from is exact up to multiples of
  `2 ^ 64`;
* `Coinbase.sum_outputs`           what a coinbase pays out;
* `payout_eq_value_iff`            it is the template's value if and only if the payments do not
  exceed it, and never less;
* `overdue_payout_exceeds_value`   a coinbase that creates value.
-/

namespace CycleMiner

namespace Output

def sum (os : List Output) : Nat := (os.map (·.value.toNat)).sum

theorem sum_cons (o : Output) (os : List Output) : sum (o :: os) = o.value.toNat + sum os := rfl

theorem toNat_foldl_add (os : List Output) (start : UInt64) :
    (os.foldl (fun total o => total + o.value) start).toNat = (start.toNat + sum os) % 2 ^ 64 := by
  induction os generalizing start with
  | nil => exact (Nat.mod_eq_of_lt start.toNat_lt).symm
  | cons o os ih =>
    rw [List.foldl_cons, ih, UInt64.toNat_add, sum_cons, Nat.mod_add_mod, Nat.add_assoc]

theorem toNat_total (os : List Output) : (total os).toNat = sum os % 2 ^ 64 := by
  rw [total, toNat_foldl_add, UInt64.toNat_zero, Nat.zero_add]

end Output

def Template.due (t : Template) : Nat := ((Coinbase.duePayments t).map (·.amount.toNat)).sum

namespace Coinbase

theorem toNat_remainder (value paid : UInt64) :
    (remainder value paid).toNat = value.toNat - paid.toNat := by
  unfold remainder
  split
  case isTrue h => exact UInt64.toNat_sub_of_le _ _ h
  case isFalse h =>
    have hlt : value.toNat < paid.toNat := UInt64.lt_iff_toNat_lt.1 (UInt64.not_le.1 h)
    rw [UInt64.toNat_zero]
    omega

theorem sum_of_makes {ps : List Payment} {os : List Output} (h : List.Forall₂ Makes ps os) :
    Output.sum os = (ps.map (·.amount.toNat)).sum := by
  induction h with
  | nil => rfl
  | cons hone _ ih => rw [Output.sum_cons, ih, hone.1, List.map_cons, List.sum_cons]

variable {t : Template} {prefs : Preferences} {c : Coinbase}

/-- the rest is taken from a sum of 64 bits, the payments are made in full -/
theorem sum_outputs (h : ofTemplate t prefs = .ok c) :
    Output.sum c.outputs = (t.coinbaseValue.toNat - t.due % 2 ^ 64) + t.due := by
  obtain ⟨-, -, -, payments, hpay, hout⟩ := ofTemplate_eq_ok.1 h
  have hdue : Output.sum payments = t.due := sum_of_makes (outputsOf_eq_ok.1 hpay)
  rw [hout, Output.sum_cons, toNat_remainder, Output.toNat_total, hdue]

end Coinbase

/-- a coinbase pays out its template's value if and only if the payments do not exceed it, and never
less; it is read back with the outputs that pay; and no value is too small for one -/
theorem payout_eq_value_iff {t : Template} {prefs : Preferences} {c : Coinbase}
    (h : Coinbase.ofTemplate t prefs = .ok c) :
    (Output.sum c.outputs = t.coinbaseValue.toNat ↔ t.due ≤ t.coinbaseValue.toNat) ∧
      t.coinbaseValue.toNat ≤ Output.sum c.outputs ∧
      (t.InMemory → prefs.InMemory →
        ∃ tx, Transaction.ofBytes? c.bytes = some tx ∧ tx.outputs = c.outputs) ∧
      ∀ value, ∃ c', Coinbase.ofTemplate { t with coinbaseValue := value } prefs = .ok c' := by
  have hsum := Coinbase.sum_outputs h
  have hvalue : t.coinbaseValue.toNat < 2 ^ 64 := t.coinbaseValue.toNat_lt
  have hmod : t.due % 2 ^ 64 ≤ t.due := Nat.mod_le _ _
  refine ⟨⟨fun e => ?_, fun hle => ?_⟩, ?_, fun ht hp => ?_, fun value => ?_⟩
  · omega
  · have hexact : t.due % 2 ^ 64 = t.due := Nat.mod_eq_of_lt (Nat.lt_of_le_of_lt hle hvalue)
    omega
  · omega
  · exact ⟨c.transaction, Coinbase.ofBytes?_bytes h ht hp, rfl⟩
  · have hparts := Coinbase.exists_ofTemplate_iff.1 ⟨c, h⟩
    exact Coinbase.exists_ofTemplate_iff.2 hparts

theorem paying_payout_eq_value :
    ∃ c, Coinbase.ofTemplate (.paying 5 1000 300) (.plain [0x52]) = .ok c ∧
      (Template.paying 5 1000 300).due ≤ 1000 ∧ Output.sum c.outputs = 1000 ∧
      ∃ tx, Transaction.ofBytes? c.bytes = some tx ∧ tx.outputs = c.outputs := by
  have h := Coinbase.ofTemplate_paying 5 1000 300 [0x52]
  have ht := Template.inMemory_paying 5 1000 300
  have hp : (Preferences.plain [0x52]).InMemory := Preferences.inMemory_plain (by decide)
  have hdue : (Template.paying 5 1000 300).due ≤ 1000 := by decide
  obtain ⟨hpays, -, hreads, -⟩ := payout_eq_value_iff h
  exact ⟨_, h, hdue, hpays.2 hdue, hreads ht hp⟩

/-- a payment of 2 out of a value of 1 makes a coinbase that pays 2 -/
theorem overdue_payout_exceeds_value :
    ∃ c tx, Coinbase.ofTemplate (.paying 5 1 2) (.plain [0x52]) = .ok c ∧
      Transaction.ofBytes? c.bytes = some tx ∧
      Output.sum tx.outputs = 2 ∧ (Template.paying 5 1 2).coinbaseValue.toNat = 1 := by
  have h := Coinbase.ofTemplate_paying 5 1 2 [0x52]
  have ht := Template.inMemory_paying 5 1 2
  have hp : (Preferences.plain [0x52]).InMemory := Preferences.inMemory_plain (by decide)
  exact ⟨_, _, h, Coinbase.ofBytes?_bytes h ht hp, rfl, rfl⟩

end CycleMiner
