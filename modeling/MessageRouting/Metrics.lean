import MessageRouting.Binary64

/-!
# Metrics

What is counted while messages are routed: runs by outcome with their durations, evaluated
conditions by tag and result, and transforms by success. `Metrics.samples` shows the counts under
the names by which they are exported.
-/

namespace MessageRouting

/-- Something that is counted. -/
inductive Measurement where
  /-- A run that took some seconds. -/
  | run (matched : Bool) (seconds : Binary64)
  /-- A condition that was evaluated. -/
  | condition (tag : String) (result : Bool)
  /-- A transform that was tried. -/
  | transform (success : Bool)
deriving DecidableEq, Repr

/-- The measurements so far, in their order. -/
structure Metrics where
  /-- Whether anything is counted. -/
  enabled : Bool
  /-- What was counted. -/
  measured : List Measurement

namespace Metrics

/-- No measurements yet. -/
def start (enabled : Bool) : Metrics := ⟨enabled, []⟩

/-- Counts a measurement, unless counting is off. -/
def record (m : Metrics) (x : Measurement) : Metrics :=
  if m.enabled then { m with measured := m.measured ++ [x] } else m

/-- The number of runs with an outcome. -/
def runs (m : Metrics) (matched : Bool) : Nat :=
  m.measured.countP fun x => match x with
    | .run b _ => b = matched
    | _ => false

/-- The number of conditions of a tag that had a result. -/
def conditions (m : Metrics) (tag : String) (result : Bool) : Nat :=
  m.measured.count (.condition tag result)

/-- The number of transforms that succeeded, or did not. -/
def transforms (m : Metrics) (success : Bool) : Nat := m.measured.count (.transform success)

/-- The number of runs that were timed. -/
def durations (m : Metrics) : Nat :=
  m.measured.countP fun x => match x with
    | .run .. => true
    | _ => false

/-- The number of runs that took at most some seconds. -/
def durationsUpTo (m : Metrics) (bound : Binary64) : Nat :=
  m.measured.countP fun x => match x with
    | .run _ s => s.compare? bound = some .lt || s.compare? bound = some .eq
    | _ => false

/-- The tags of the conditions that were evaluated. -/
def tags (m : Metrics) : List String :=
  (m.measured.filterMap fun x => match x with
    | .condition tag _ => some tag
    | _ => none).eraseDups

/-- A bound in decimal digits. -/
def bound (digits width : Nat) (exponent : Int) : Binary64 :=
  Binary64.ofDecimal false digits width exponent

/-- The bounds of the durations that are told apart, in seconds. -/
def bounds : List (String × Binary64) := [
  ("0.0005", bound 5 1 (-4)), ("0.001", bound 1 1 (-3)), ("0.005", bound 5 1 (-3)),
  ("0.01", bound 1 1 (-2)), ("0.05", bound 5 1 (-2)), ("0.1", bound 1 1 (-1)),
  ("0.5", bound 5 1 (-1)), ("1.0", bound 1 1 0), ("5.0", bound 5 1 0),
  ("+Inf", Binary64.infinity false)]

/-- The name of a sample, with a label and its value. -/
def labelled (name label value : String) : String :=
  name ++ "\x7b" ++ label ++ "=" ++ value ++ "\x7d"

/-- The samples of the durations that are told apart. -/
def bucketSamples (m : Metrics) : List (String × Nat) :=
  bounds.map fun (name, b) =>
    (labelled "openhqm_rm_simulation_duration_seconds_bucket" "le" name, m.durationsUpTo b)

/-- A truth value as a label. -/
def truthLabel (b : Bool) : String := if b then "true" else "false"

/-- The samples of all counts but those of durations that are told apart. -/
def countSamples (m : Metrics) : List (String × Nat) :=
  [true, false].map (fun b =>
    (labelled "openhqm_rm_simulations_total" "outcome" (if b then "matched" else "unmatched"),
      m.runs b)) ++
  (m.tags.flatMap fun tag => [true, false].map fun b =>
    (labelled "openhqm_rm_condition_evaluations_total" "result" (truthLabel b ++ ",type=" ++ tag),
      m.conditions tag b)) ++
  [true, false].map (fun b =>
    (labelled "openhqm_rm_transforms_total" "status" (if b then "success" else "failure"),
      m.transforms b)) ++
  [("openhqm_rm_simulation_duration_seconds_count\x7b\x7d", m.durations)]

/-- The samples that are not zero. -/
def samples (m : Metrics) (buckets : Bool) : List (String × Nat) :=
  (m.countSamples ++ if buckets then m.bucketSamples else []).filter fun s => s.2 ≠ 0

end Metrics

end MessageRouting
