import CaseResolution.Domain.Error
import CaseResolution.Domain.Policies
import CaseResolution.Lib.Guard
import CaseResolution.Lib.Lines

/-!
This module contains the parser that cuts the source text of a policy into clauses.
-/

namespace CaseResolution

open Guard

namespace PolicyParser

abbrev Text := List Char

/--
The characters `str.strip` removes.
-/
def isSpace (c : Char) : Bool :=
  c.toNat ∈ [0x20, 0x85, 0xA0, 0x1680, 0x2028, 0x2029, 0x202F, 0x205F, 0x3000]
    ∨ (0x09 ≤ c.toNat ∧ c.toNat ≤ 0x0D) ∨ (0x1C ≤ c.toNat ∧ c.toNat ≤ 0x1F)
    ∨ (0x2000 ≤ c.toNat ∧ c.toNat ≤ 0x200A)

def strip (text : Text) : Text :=
  Lines.trim isSpace text

def unifyNewlines : Text → Text
  | '\r' :: '\n' :: rest => '\n' :: unifyNewlines rest
  | '\r' :: rest => '\n' :: unifyNewlines rest
  | c :: rest => c :: unifyNewlines rest
  | [] => []

def joined (values : List String) : String :=
  ", ".intercalate values

def applicabilityLabel (applicability : PolicyApplicability) : String :=
  "Scope " ++ applicability.decisionScope
    ++ "; categories " ++ joined applicability.caseCategories
    ++ "; products " ++ joined applicability.products
    ++ "; regions " ++ joined applicability.regions
    ++ "; channels " ++ joined applicability.channels
    ++ "; customer tiers " ++ joined applicability.customerTiers ++ "."

/--
What stops the parser: a refusal of its own, or a clause with a field out of its bounds.
-/
inductive Failure where
  | policySourceParseError (message : String)
  | validationError (field : String)
deriving DecidableEq

def Failure.message : Failure → String
  | .policySourceParseError message => message
  | .validationError field => "ParsedPolicyClause." ++ field

def Failure.toError : Failure → Error
  | .policySourceParseError message => .policySourceParseError message
  | .validationError field => .valueError ("ParsedPolicyClause." ++ field)

/--
The checks of the fields of a `ParsedPolicyClause`.
-/
def newClause (heading text appliesWhen : String) : Except Failure ParsedPolicyClause := do
  ensure (1 ≤ heading.length ∧ heading.length ≤ 300) (.validationError "heading")
  ensure (20 ≤ text.length) (.validationError "text")
  ensure (1 ≤ appliesWhen.length) (.validationError "applies_when")
  pure { heading, text, appliesWhen }

/--
The clauses found so far, the heading in force and the lines under it.
-/
structure State where
  clauses : List ParsedPolicyClause
  heading : Text
  body : List Text

def State.start : State where
  clauses := []
  heading := "Policy clause".toList
  body := []

def State.flush (state : State) (applicability : PolicyApplicability) : Except Failure State := do
  let text := strip (List.intercalate ['\n'] state.body)
  if text = [] then
    pure { state with body := [] }
  else
    ensure (20 ≤ text.length) <| .policySourceParseError
      ("Clause '" ++ String.ofList state.heading ++ "' is too short to use as evidence.")
    let clause ← newClause (String.ofList state.heading) (String.ofList text)
      (applicabilityLabel applicability)
    pure { state with clauses := state.clauses ++ [clause], body := [] }

def State.readLine (applicability : PolicyApplicability) (state : State) (line : Text)
    : Except Failure State := do
  let stripped := strip line
  if stripped.head? = some '#' then
    let flushed ← state.flush applicability
    let parsedHeading := strip (stripped.dropWhile (· = '#'))
    ensure (parsedHeading ≠ []) (.policySourceParseError "Policy heading cannot be blank.")
    pure { flushed with heading := parsedHeading.take 300 }
  else if stripped = [] then
    -- one blank line is kept between two blocks of text
    if state.body.getLast?.any (· ≠ []) then
      pure { state with body := state.body ++ [[]] }
    else
      pure state
  else
    pure { state with body := state.body ++ [stripped] }

/--
The clauses of a source text.
-/
def parse (sourceText : String) (applicability : PolicyApplicability)
    : Except Failure (List ParsedPolicyClause) := do
  let normalized := strip (unifyNewlines sourceText.toList)
  ensure (20 ≤ normalized.length)
    (.policySourceParseError "Policy source text is too short to parse safely.")
  let read ← (normalized.splitOn '\n').foldlM (State.readLine applicability) State.start
  let final ← read.flush applicability
  ensure (final.clauses ≠ [])
    (.policySourceParseError "Policy source contains no usable clauses.")
  ensure (final.clauses.length ≤ 100)
    (.policySourceParseError "Policy source contains more than 100 clauses.")
  pure final.clauses

end PolicyParser

def parsePolicySource (sourceText : String) (applicability : PolicyApplicability)
    : Except Error (List ParsedPolicyClause) :=
  (PolicyParser.parse sourceText applicability).mapError PolicyParser.Failure.toError

end CaseResolution
