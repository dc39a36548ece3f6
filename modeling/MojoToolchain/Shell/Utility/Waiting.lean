import MojoToolchain.Decimal.Quantity
import MojoToolchain.Shell.Signal

/-!
# Waiting

A `Duration` is a time to wait.  `sleep` waits that long.
-/

namespace MojoToolchain.Shell

/-- A time to wait. -/
inductive Duration where
  /-- So many millionths of a second. -/
  | lasting (n : Nat)
  | endless
  deriving DecidableEq, Repr

namespace Duration

/-- How many seconds a unit has. -/
def unit? : Bytes → Option Nat
  | [] => some 1
  | ['s'] => some 1
  | ['m'] => some 60
  | ['h'] => some 3600
  | ['d'] => some 86400
  | _ => none

/-- The duration that a text writes, with a letter for its unit; a part of a millionth counts as a
whole one. -/
def ofText? (text : Bytes) : Option Duration :=
  match Quantity.read? text with
  | some (.ratio negative num den, rest) =>
    if negative && num != 0 then none
    else (unit? rest).map fun seconds => lasting ((num * seconds * 1000000 + (den - 1)) / den)
  | some (.infinite negative, rest) =>
    if negative then none else (unit? rest).map fun _ => endless
  | _ => none

/-- Two durations one after the other. -/
def add : Duration → Duration → Duration
  | lasting m, lasting n => lasting (m + n)
  | _, _ => endless

end Duration

/-- Waits. -/
def sleep : Utility :=
  withOptions 1 { flags := "", valued := "", names := [] } fun call s =>
    let bad := call.operands.filter fun text => (Duration.ofText? text).isNone
    match call.operands, bad.map fun text => "invalid time interval " ++ Quoting.plain text with
    | [], _ => misused 1 "missing operand" s
    | operands, [] =>
      match (operands.filterMap Duration.ofText?).foldl Duration.add (.lasting 0) with
      | .lasting n => (s.passUntil (s.clock + n)).withStatus 0
      | .endless => s.neverEnd
    | _, reasons => misused 1 (("\n" ++ s.program ++ ": ").intercalate reasons) s

end MojoToolchain.Shell
