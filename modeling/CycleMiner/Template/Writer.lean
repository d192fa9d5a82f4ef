import CycleMiner.Json
import CycleMiner.Template

/-!
# Writing templates

A template as a JSON value with a member for every field, in the order of the fields.  An optional
text that is absent is written as `null`.

* `Template.toJson`   the JSON value of a template.
-/

namespace CycleMiner

def Json.ofString? : Option String → Json
  | some s => .string s
  | none => .null

def TemplateTransaction.toJson (t : TemplateTransaction) : Json :=
  .object [("data", .string t.data), ("hash", .string t.hash), ("fee", .nat t.fee.toNat)]

def Payment.toJson (p : Payment) : Json :=
  .object [("payee", .string p.payee), ("script", .string p.script),
    ("amount", .nat p.amount.toNat)]

def Template.toJson (t : Template) : Json :=
  .object
    [("version", .nat t.version.toNat),
     ("previousblockhash", .string t.previousHash),
     ("transactions", .array (t.transactions.map TemplateTransaction.toJson)),
     ("coinbasevalue", .nat t.coinbaseValue.toNat),
     ("longpollid", .ofString? t.longPollId),
     ("curtime", .nat t.time.toNat),
     ("bits", .string t.bits),
     ("height", .nat t.height.toNat),
     ("masternode", .array (t.payments.map Payment.toJson)),
     ("masternode_payments_started", .bool t.paymentsStarted),
     ("coinbase_payload", .ofString? t.payload)]

end CycleMiner
