import CaseResolution.Lib.Machine
import CaseResolution.Policies.Impl.Service

/-!
This module contains policy governance as a machine: managers issue commands in any order and at any
instant, and each command reads and writes at once.
-/

namespace CaseResolution

inductive PolicyCommand where
  | createPolicy (actor : ActorContext) (creation : PolicyCreation)
  | request (now : Instant) (actor : ActorContext) (policyId : String) (request : PolicyRequest)

variable [Digest]

namespace PolicyBook

def answerRequest (b : PolicyBook) (now : Instant) (actor : ActorContext) (policyId : String)
    (request : PolicyRequest) : Except Error (PolicyBook × Policy) := do
  let plan ← b.plan now actor policyId request
  b.write now plan

def perform (b : PolicyBook) : PolicyCommand → Except Error (PolicyBook × Policy)
  | .createPolicy actor creation => b.createPolicy actor creation
  | .request now actor policyId request => b.answerRequest now actor policyId request

end PolicyBook

def policyService : Machine PolicyBook PolicyCommand Error Policy where
  step := PolicyBook.perform

end CaseResolution
