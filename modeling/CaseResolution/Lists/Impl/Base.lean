import CaseResolution.Cases.Impl.Queue
import CaseResolution.Cursors.Impl.Codec

/-!
This module contains the keyset pages that the lists of the repositories share: rows in the order of a time
and a public id, one page of them, and the cursor of the page that follows.
-/

namespace CaseResolution

open Unicode

inductive ListFailure where
  | cursor (failure : CursorFailure)
  | unicodeEncodeError
  | overflowError
deriving DecidableEq

/--
How the database takes `lower` of a text and how Python does.
-/
class LowerCase where
  lower : String → String

/--
`query.strip().lower()`, or nothing for a missing and an empty query.
-/
def normalizedQuery [LowerCase] (query : Option String) : Option String :=
  query.bind fun query =>
    if query = "" then none
    else some (LowerCase.lower (String.ofList (PolicyParser.strip query.toList)))

/--
A condition on a column that is only made for a parameter that is not empty.
-/
def givenEq (parameter : Option String) (column : String) : Bool :=
  parameter.all fun value => value = "" || column = value

/--
A column matches the pattern. Where no text is left of the query there is no pattern.
-/
def likeAny [LowerCase] [TextCollation] (query : Option String) (columns : List String) : Bool :=
  query.all fun query =>
    query = "" || columns.any fun column => TextCollation.contains query (LowerCase.lower column)

/--
The text that is sent to the database. Surrogates that stand alone have no encoding.
-/
def sendText (text : Codes) : Except ListFailure String :=
  if text.all fun code => code.isValidChar then
    .ok (String.ofList (text.map Char.ofNat))
  else
    .error .unicodeEncodeError

structure KeysetPage (Row : Type) where
  items : List Row
  nextCursor : Option String
  total : Nat

/--
In what the lists differ: the codec of their cursors, and the time and the id their rows are ordered by. The
ids of one time are compared as `Tie`, which is the dual order where they descend.
-/
structure KeysetList (Row Tie : Type) where
  cursors : CursorList
  time : Row → CivilTime
  publicId : Row → String
  tie : String → Tie

namespace KeysetList

variable {Row Tie : Type} [LinearOrder Tie] (l : KeysetList Row Tie)

def isBehind (cursorTime : CivilTime) (cursorId : String) (row : Row) : Bool :=
  l.time row < cursorTime ∨ (l.time row = cursorTime ∧ l.tie cursorId < l.tie (l.publicId row))

def orderedBy (a b : Row) : Prop :=
  l.time b < l.time a ∨ (l.time a = l.time b ∧ l.tie (l.publicId a) ≤ l.tie (l.publicId b))

instance : DecidableRel l.orderedBy := fun _ _ =>
  inferInstanceAs (Decidable (_ ∨ _))

def found (selected : List Row) : Option (CivilTime × String) → List Row
  | none => selected
  | some (cursorTime, cursorId) => selected.filter (l.isBehind cursorTime cursorId)

variable [IsoFormat] [Interpreter]

/--
The time and the id a cursor holds. An empty cursor is none.
-/
def cursorValues (filterFingerprint : String) (cursor : Option String)
    : Except ListFailure (Option (CivilTime × String)) :=
  match cursor with
  | none => pure none
  | some text =>
    if text = "" then
      pure none
    else do
      let (cursorTime, codes) ← (l.cursors.codec.decodeCursor text filterFingerprint).mapError .cursor
      let cursorId ← sendText codes
      pure (some (cursorTime, cursorId))

/--
The times the database returns are written in UTC.
-/
def encodeCursor (filterFingerprint : String) (last : Row) : Option String :=
  l.cursors.codec.encodeCursor (l.time last) UtcOffset.zero (l.publicId last) filterFingerprint

/--
One page of the rows that the filters of a list select. The total counts them without the cursor.
-/
def page (selected : List Row) (filterFingerprint : String) (cursor : Option String) (limit : Nat)
    : Except ListFailure (KeysetPage Row) := do
  let values ← l.cursorValues filterFingerprint cursor
  let rows := ((l.found selected values).insertionSort l.orderedBy).take (limit + 1)
  let visible := rows.take limit
  pure {
    items := visible
    nextCursor := if limit < rows.length then visible.getLast?.bind (l.encodeCursor filterFingerprint) else none
    total := selected.length }

end KeysetList

end CaseResolution
