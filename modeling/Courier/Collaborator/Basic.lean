/-!
# What collaborators answer

The job pipeline talks to a store of records, two lookup services, a gateway that delivers, and a
broker. Each of them fails in its own ways, and what is told about a failure is one text.

## Main definitions

* `Claim`: the store's answer to a claim.
* `LookupError`, `DeliveryError`, `StoreError`, `BrokerError`, each with its `text`.
-/

namespace Courier

/-- The store's answer to whoever claims a job. -/
inductive Claim where
  /-- There was no record of the job, and now there is one: the job is the claimant's. -/
  | claimed
  /-- There was a record: the job has been taken care of, or is just now. -/
  | alreadyPresent
  deriving DecidableEq, Repr

/-- A lookup that failed. Trying again may help with any of them. -/
inductive LookupError where
  /-- There was no answer. -/
  | unreachable (reason : String)
  /-- The answer's status is not one of success. -/
  | status (code : Nat)
  /-- The answer is no envelope, or that of a failure. -/
  | envelope (reason : String)
  /-- The data of the answer does not fit its schema. -/
  | payload (reason : String)
  deriving DecidableEq, Repr

/-- The words for an error. -/
def LookupError.text : LookupError → String
  | unreachable reason => "Service unreachable: " ++ reason
  | status code => "Service returned status " ++ toString code
  | envelope reason => "Invalid response envelope: " ++ reason
  | payload reason => "Response payload does not match expected schema: " ++ reason

/-- A delivery that failed. -/
inductive DeliveryError where
  /-- The gateway was not reached. -/
  | transport (reason : String)
  /-- The gateway's answer is not one of success. -/
  | rejected (code : Nat) (body : String)
  /-- There is no access token. -/
  | auth (reason : String)
  /-- There was no answer in time. -/
  | timeout
  deriving DecidableEq, Repr

/-- The words for an error. -/
def DeliveryError.text : DeliveryError → String
  | transport reason => "Push transport error: " ++ reason
  | rejected code body =>
    "Push gateway rejected the request with status " ++ toString code ++ ": " ++ body
  | auth reason => "Push gateway authentication failed: " ++ reason
  | timeout => "Push delivery timed out"

/-- A call of the record store that failed. -/
inductive StoreError where
  /-- The store answered with an error. -/
  | server (reason : String)
  /-- There was no answer in time. -/
  | timeout
  deriving DecidableEq, Repr

/-- The words for an error. -/
def StoreError.text : StoreError → String
  | server reason => "Redis error: " ++ reason
  | timeout => "Redis call timed out"

/-- A message that the broker did not take. -/
inductive BrokerError where
  /-- The channel to the broker failed. -/
  | channel (reason : String)
  /-- The broker refused it. -/
  | nacked
  /-- There was no answer in time. -/
  | timeout
  /-- It could not be written down. -/
  | unwritable (reason : String)
  deriving DecidableEq, Repr

/-- The words for an error. -/
def BrokerError.text : BrokerError → String
  | channel reason => "RabbitMQ error: " ++ reason
  | nacked => "Broker negatively acknowledged the publish"
  | timeout => "Broker call timed out"
  | unwritable reason => "Failed to serialize message: " ++ reason

/-- The words for a job that could not be sent around again. -/
def BrokerError.resubmissionText (e : BrokerError) : String :=
  "Failed to publish job for resubmission: " ++ e.text

end Courier
