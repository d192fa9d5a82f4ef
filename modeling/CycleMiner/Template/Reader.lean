import CycleMiner.Json.Decoding
import CycleMiner.Template

/-!
# Reading templates

The fields of a template, of its transactions and of its payments under the names a node gives
them.  Transactions, long-poll id, payments, whether they have started and the payload may be left
out, and so may the fee of a transaction and the payee of a payment.

* `Template.ofJson`   the template in a JSON value, or the first fault.
-/

namespace CycleMiner

namespace TemplateTransaction

def shape : RecordShape :=
  ⟨"TemplateTransaction",
    [("data", ignoring Json.readString), ("hash", ignoring Json.readString),
     ("fee", ignoring Json.readUInt64)]⟩

def ofJson (v : Json) : Except DecodeFault TemplateTransaction := do
  let r ← Record.open? shape v
  let data ← r.field 0 "data" Json.readString
  let hash ← r.field 1 "hash" Json.readString
  let fee ← r.fieldOr 2 "fee" Json.readUInt64 0
  r.close ⟨data, hash, fee⟩

end TemplateTransaction

namespace Payment

def shape : RecordShape :=
  ⟨"Masternode",
    [("payee", ignoring Json.readString), ("script", ignoring Json.readString),
     ("amount", ignoring Json.readUInt64)]⟩

/-- a payment in a JSON value; what every field has to be is known once its own is -/
def ofJson (v : Json) : Except DecodeFault Payment := do
  let r ← Record.open? shape v
  let payee ← r.fieldOr 0 "payee" Json.readString ""
  let script ← r.field 1 "script" Json.readString
  let amount ← r.field 2 "amount" Json.readUInt64
  r.close ⟨payee, script, amount⟩

end Payment

namespace Template

def shape : RecordShape :=
  ⟨"BlockTemplate",
    [("version", ignoring Json.readUInt32), ("previousblockhash", ignoring Json.readString),
     ("transactions", ignoring (Json.readList TemplateTransaction.ofJson)),
     ("coinbasevalue", ignoring Json.readUInt64), ("longpollid", ignoring Json.readString?),
     ("curtime", ignoring Json.readUInt32), ("bits", ignoring Json.readString),
     ("height", ignoring Json.readUInt64),
     ("masternode", ignoring (Json.readList Payment.ofJson)),
     ("masternode_payments_started", ignoring Json.readBool),
     ("coinbase_payload", ignoring Json.readString?)]⟩

def ofJson (v : Json) : Except DecodeFault Template := do
  let r ← Record.open? shape v
  let version ← r.field 0 "version" Json.readUInt32
  let previousHash ← r.field 1 "previousblockhash" Json.readString
  let transactions ← r.fieldOr 2 "transactions" (Json.readList TemplateTransaction.ofJson) []
  let coinbaseValue ← r.field 3 "coinbasevalue" Json.readUInt64
  let longPollId ← r.fieldOr 4 "longpollid" Json.readString? none
  let time ← r.field 5 "curtime" Json.readUInt32
  let bits ← r.field 6 "bits" Json.readString
  let height ← r.field 7 "height" Json.readUInt64
  let payments ← r.fieldOr 8 "masternode" (Json.readList Payment.ofJson) []
  let paymentsStarted ← r.fieldOr 9 "masternode_payments_started" Json.readBool false
  let payload ← r.fieldOr 10 "coinbase_payload" Json.readString? none
  r.close ⟨version, previousHash, transactions, coinbaseValue, longPollId, time, bits, height,
    payments, paymentsStarted, payload⟩

end Template

end CycleMiner
