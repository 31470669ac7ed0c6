import CloudVinyl.Lib.Strings

set_option relaxedAutoImplicit false
set_option autoImplicit false

/-!
# Transaction groups of the shared memory log

The data `internal/tracer/vsl` hands to the span builder: one transaction group with the
records logged under it and its nested groups, and the lookups the span builder makes in it
(`internal/tracer/vsl/vsl.go`).

A timestamp record holds its epoch as fractional seconds. `strconv.ParseFloat`, `math.Modf`
and `time.Unix` turn it into a time; the three together are the parameter `epoch` of the
development, from the text of the field to a time in nanoseconds or a parse error. No result
depends on its values.

## Main definitions

* `Vsl.Record`, `Vsl.Tx` — a log record and a transaction group.
* `Vsl.Tx.first`, `Vsl.Tx.last`, `Vsl.Tx.timestamp`, `Vsl.Tx.header` — the lookups.
-/

namespace CloudVinyl.Vsl

/-- A time, in nanoseconds. -/
abbrev Time := ℤ

/-- One log line's tag and payload, stripped of its marker and depth prefix. -/
structure Record where
  tag : Text
  payload : Text
  deriving DecidableEq, Repr

/-- One transaction group: its type and number, the records logged directly under it, and the
groups nested in it. -/
inductive Tx where
  | mk (type : Text) (vxid : ℕ) (records : List Record) (children : List Tx)
  deriving Repr

/-- Epochs that are written as whole seconds. -/
def wholeSeconds (t : Text) : Option Time := (Text.parseUint t).map Int.ofNat

namespace Tx

/-- The group's type, such as `Request` or `BeReq`. -/
def type : Tx → Text
  | mk t _ _ _ => t

/-- The group's transaction number. -/
def vxid : Tx → ℕ
  | mk _ v _ _ => v

/-- The records logged directly under the group. -/
def records : Tx → List Record
  | mk _ _ r _ => r

/-- The groups nested in the group. -/
def children : Tx → List Tx
  | mk _ _ _ c => c

/-- The payload of the first record with the given tag. -/
def first (tx : Tx) (tag : Text) : Option Text :=
  (tx.records.find? (·.tag = tag)).map (·.payload)

/-- Whether the group has a record with the given tag. -/
def has (tx : Tx) (tag : Text) : Bool := (tx.first tag).isSome

/-- The payload of the last record with the given tag. -/
def last (tx : Tx) (tag : Text) : Option Text :=
  (tx.records.reverse.find? (·.tag = tag)).map (·.payload)

/-- The time of the first `Timestamp <label>: <epoch> …` record. A first matching record whose
epoch is missing or unreadable is not skipped: there is no time then. -/
def timestamp (epoch : Text → Option Time) (tx : Tx) (label : Text) : Option Time :=
  let pre : Text := label ++ ": "
  match tx.records.find? fun r => r.tag == ("Timestamp" : Text) && r.payload.hasPrefix pre with
  | none => none
  | some r =>
    match Text.fields (r.payload.drop pre.length) with
    | [] => none
    | f :: _ => epoch f

/-- The value of the last `<tag> <name>: <value>` record, the name compared without regard to
case. -/
def header (tx : Tx) (tag name : Text) : Option Text :=
  tx.records.foldl (fun value r =>
    if r.tag = tag then
      match r.payload.cut ':' with
      | some (k, v) =>
        if Text.equalFold (Text.trimSpace k) name then some (Text.trimSpace v) else value
      | none => value
    else value) none

end Tx

end CloudVinyl.Vsl
