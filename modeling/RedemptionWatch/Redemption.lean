import RedemptionWatch.MessageId
import RedemptionWatch.Status
import RedemptionWatch.Timestamp

/-!
# Redemptions

A redemption is the transaction that makes a bridged message take effect on its destination chain.
A `Candidate` is one observation of it, a `Record` is a candidate as it is stored.
-/

namespace RedemptionWatch

/-- A redemption as it is seen on its destination chain. -/
structure Candidate where
  messageId : MessageId
  chainId : ChainId
  method : String
  txHash : String
  sender : String
  target : String
  blockNumber : UInt64
  timestamp : Timestamp
  status : Status
  deriving DecidableEq, Repr, Inhabited

/-- A candidate with the time at which it was written. -/
structure Record extends Candidate where
  updatedAt : Timestamp
  deriving DecidableEq, Repr, Inhabited

/-- The candidate as a record of this time. -/
def Candidate.at (c : Candidate) (updatedAt : Timestamp) : Record :=
  { c with updatedAt }

end RedemptionWatch
