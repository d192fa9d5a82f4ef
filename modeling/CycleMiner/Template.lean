/-!
# Block templates

What a node hands out for mining: the block to build on, the transactions to take in, the value to
pay out, and the compact target.  Hashes, scripts and the target are still texts; a template may be
malformed in any of them, and that only shows when it is made into work.
-/

namespace CycleMiner

structure TemplateTransaction where
  /-- the raw bytes in hexadecimal -/
  data : String
  /-- the hash as it is shown, in hexadecimal -/
  hash : String
  fee : UInt64
  deriving DecidableEq, Repr, Inhabited

/-- a payment that has to be made out of the block's value -/
structure Payment where
  payee : String
  /-- the output script in hexadecimal -/
  script : String
  amount : UInt64
  deriving DecidableEq, Repr, Inhabited

structure Template where
  version : UInt32
  /-- the hash of the block before, as it is shown -/
  previousHash : String
  transactions : List TemplateTransaction
  /-- what the coinbase pays out in all -/
  coinbaseValue : UInt64
  longPollId : Option String
  time : UInt32
  /-- the compact target in hexadecimal -/
  bits : String
  height : UInt64
  payments : List Payment
  paymentsStarted : Bool
  /-- the extra payload of the coinbase in hexadecimal -/
  payload : Option String
  deriving DecidableEq, Repr, Inhabited

end CycleMiner
