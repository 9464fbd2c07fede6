/- digest: How two values compare: as instants, as numbers, and as text. -/

import Assay.Instant.Read
import Assay.Json.Render
import Assay.Number.Decimal
import Assay.Text.Casing

set_option autoImplicit false
set_option relaxedAutoImplicit false

namespace Assay.Compare

/-- The number of a value: of a number, or of text that spells a finite one. -/
def number? : Json → Option Double
  | .number n => n.toDouble?
  | .string s => Decimal.read? (Text.trim s)
  | _ => none

def instant? : Json → Option Instant
  | .string s => Instant.read? s
  | _ => none

/-- The bounds in a list of exactly two numbers. -/
def range? : Json → Option (Double × Double)
  | .array [low, high] =>
    match number? low, number? high with
    | some a, some b => some (a, b)
    | _, _ => none
  | _ => none

/-- Equality: identical values, else the same instant, else the same number, else the same text. -/
def equal (a b : Json) : Bool :=
  if a.same b then true
  else match instant? a, instant? b with
    | some x, some y => x == y
    | _, _ =>
      match number? a, number? b with
      | some x, some y => x.same y
      | _, _ => a.plainText == b.plainText

def equalIgnoringCase (a b : Json) : Bool :=
  equal a b || Text.lower a.plainText == Text.lower b.plainText

def orderInstants (a b : Instant) : Ordering :=
  if a.before b then .lt else if a = b then .eq else .gt

def orderNumbers (a b : Double) : Ordering :=
  if a.less b then .lt else if a.same b then .eq else .gt

def order? (a b : Json) : Option Ordering :=
  match instant? a, instant? b with
  | some x, some y => some (orderInstants x y)
  | _, _ =>
    match number? a, number? b with
    | some x, some y => some (orderNumbers x y)
    | _, _ => none

/-- Whether a list has an item, an object a key, or a text a part, in any case. -/
def holds (container item : Json) : Bool :=
  match container with
  | .array items => items.any fun v => equalIgnoringCase v item
  | .object members =>
    let key := Text.lower item.plainText
    members.any fun e => Text.lower e.1 == key
  | other => Text.contains (Text.lower other.plainText) (Text.lower item.plainText)

/-- The number of characters, items or members. -/
def size : Json → Nat
  | .string s => s.length
  | .array items => items.length
  | .object members => members.length
  | _ => 0

def isSized : Json → Bool
  | .string _ => true
  | .array _ => true
  | .object _ => true
  | _ => false

/-- Whether there is a value: neither null nor empty text. -/
def isPresent : Json → Bool
  | .null => false
  | .string s => !s.isEmpty
  | _ => true

end Assay.Compare
