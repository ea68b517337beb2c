import Mathlib

/-!
This module contains the values every part of the service shares: instants, the JSON documents that
are fingerprinted, and the digest that fingerprints them.
-/

namespace CaseResolution

/--
An instant in microseconds since the epoch.
-/
abbrev Instant := Int

-- The order is named so that what compares instants stays computable under every import.
instance : Preorder Instant := Int.instLinearOrder.toPreorder

def seconds (n : Nat) : Int := n * 1000000

def minutes (n : Nat) : Int := seconds (60 * n)

def hours (n : Nat) : Int := minutes (60 * n)

/--
A dictionary from names to texts, its entries sorted by name.
-/
abbrev Dict := List (String × String)

def truncate (length : Nat) (text : String) : String :=
  String.ofList (text.toList.take length)

/--
The documents given to `_hash`. An instant stands for its ISO 8601 text.
-/
inductive Value where
  | null
  | bool (value : Bool)
  | num (value : Int)
  | str (value : String)
  | time (value : Instant)
  | arr (items : List Value)
  | obj (fields : List (String × Value))

namespace Value

def ofOption {α : Type} (f : α → Value) (o : Option α) : Value :=
  match o with
  | some a => f a
  | none => .null

def ofDict (dict : Dict) : Value :=
  .obj (dict.map fun (name, text) => (name, .str text))

end Value

/--
The SHA-256 hex digest of a text, its first 16 digits in capitals, and the digest of the canonical
JSON text of a document.
-/
class Digest where
  text : String → String
  short : String → String
  hash : Value → String

namespace Digest

/--
A checksum to evaluate the model with.
-/
def mixText (h : Nat) (text : String) : Nat :=
  text.toList.foldl (fun h c => (h * 1000003 + c.toNat + 1) % 2305843009213693951) h

mutual

def mix (h : Nat) : Value → Nat
  | .null => h * 7 + 1
  | .bool value => h * 7 + 2 + value.toNat
  | .num value => mixText (h * 7 + 4) (toString value)
  | .str value => mixText (h * 7 + 5) value
  | .time value => mixText (h * 7 + 6) (toString value)
  | .arr items => mixItems (h * 11 + 1) items
  | .obj fields => mixFields (h * 11 + 2) fields

def mixItems (h : Nat) : List Value → Nat
  | [] => h * 11 + 3
  | item :: items => mixItems (mix h item) items

def mixFields (h : Nat) : List (String × Value) → Nat
  | [] => h * 11 + 4
  | (name, value) :: fields => mixFields (mix (mixText h name) value) fields

end

@[reducible]
def checksum : Digest where
  text := fun t => toString (mixText 1 t)
  short := fun t => toString (mixText 2 t)
  hash := fun v => toString (mix 3 v)

end Digest

/--
The names of rows that are derived from what they stand for.
-/
def stablePublicId [Digest] (kind : String) (parts : List String) : String :=
  kind ++ "-" ++ Digest.short ("|".intercalate parts)

end CaseResolution
