import CaseResolution.Domain.Policies

/-!
This module contains the filters of policy retrieval: which versions may be cited for a case at an
instant.
-/

namespace CaseResolution

def dimensionMatch (column values : List String) : Bool :=
  "all" ∈ column ∨ ∃ value ∈ values, value ∈ column

/--
What a search for retrieval candidates is given. Its values are texts; a search for a case takes them
from the case.
-/
structure PolicySearch where
  caseCategory : String
  products : List String
  region : String
  channel : String
  customerTier : String
  asOf : Instant
deriving DecidableEq

/--
The version passes the active filters of the search.
-/
def PolicyVersion.isActive (v : PolicyVersion) (search : PolicySearch) : Bool :=
  v.isLive
    && (dimensionMatch v.applicability.caseCategories [search.caseCategory]
      && dimensionMatch v.applicability.products search.products
      && dimensionMatch v.applicability.regions [search.region]
      && dimensionMatch v.applicability.channels [search.channel]
      && dimensionMatch v.applicability.customerTiers [search.customerTier])
    && v.covers search.asOf

def PolicyApplicability.applies (applicability : PolicyApplicability)
    (context : CaseRetrievalContext) : Bool :=
  dimensionMatch applicability.caseCategories [context.category.value]
    && dimensionMatch applicability.products context.products
    && dimensionMatch applicability.regions [context.region]
    && dimensionMatch applicability.channels [context.channel.value]
    && dimensionMatch applicability.customerTiers [context.tier.value]

/--
Retrieval finds the version for the case at `asOf`.
-/
def PolicyVersion.isRetrievable (v : PolicyVersion) (context : CaseRetrievalContext)
    (asOf : Instant) : Bool :=
  v.isLive && v.applicability.applies context && v.covers asOf

def CaseRetrievalContext.search (context : CaseRetrievalContext) (asOf : Instant) : PolicySearch where
  caseCategory := context.category.value
  products := context.products
  region := context.region
  channel := context.channel.value
  customerTier := context.tier.value
  asOf := asOf

theorem PolicyVersion.isRetrievable_eq (v : PolicyVersion) (context : CaseRetrievalContext)
    (asOf : Instant) : v.isRetrievable context asOf = v.isActive (context.search asOf) := by
  rfl

end CaseResolution
