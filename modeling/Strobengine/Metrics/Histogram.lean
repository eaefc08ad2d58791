import Mathlib.Algebra.Order.Ring.Rat

/-!
# HDR histograms and the fixed latency buckets

An HDR histogram is represented by the values recorded into it; the statistics of the
`hdrhistogram` crate are a parameter.
-/

namespace Strobengine.Metrics

def microsPerMilli : ℚ := 1000

abbrev Histogram := List Nat

/-- The statistics that the histogram crate computes from the recorded values.
`iterRecorded` lists the recorded equivalence classes by their highest value,
together with the number of values recorded in each. -/
structure HdrStatistics where
  valueAtQuantile : Histogram → ℚ → Nat
  minimum : Histogram → Nat
  maximum : Histogram → Nat
  mean : Histogram → ℚ
  stdev : Histogram → ℚ
  iterRecorded : Histogram → List (Nat × Nat)

def HdrStatistics.sample : HdrStatistics :=
  { valueAtQuantile := fun _ _ => 0
    minimum := fun _ => 0
    maximum := fun _ => 0
    mean := fun _ => 0
    stdev := fun _ => 0
    iterRecorded := fun _ => [] }

def saturatingRecord (highestTrackable : Nat) (histogram : Histogram) (value : Nat) : Histogram :=
  histogram ++ [min value highestTrackable]

def histogramBucketOrder : List String :=
  ["<1ms", "1-5ms", "5-10ms", "10-25ms", "25-50ms", "50-100ms", "100-250ms",
    "250-500ms", "500-1000ms", ">1000ms"]

/-- The bounds between the buckets, in milliseconds. -/
def bucketLimits : List Nat :=
  [1, 5, 10, 25, 50, 100, 250, 500, 1000]

def bucketKey (ms : ℚ) : String :=
  if ms < 1 then "<1ms"
  else if ms < 5 then "1-5ms"
  else if ms < 10 then "5-10ms"
  else if ms < 25 then "10-25ms"
  else if ms < 50 then "25-50ms"
  else if ms < 100 then "50-100ms"
  else if ms < 250 then "100-250ms"
  else if ms < 500 then "250-500ms"
  else if ms < 1000 then "500-1000ms"
  else ">1000ms"

def calculateHistogramFromHdr (hdr : HdrStatistics) (histogram : Histogram) (key : String) : Nat :=
  (hdr.iterRecorded histogram).foldl
    (fun count entry =>
      if bucketKey ((entry.1 : ℚ) / microsPerMilli) = key then count + entry.2 else count)
    0

def histogramBuckets (hdr : HdrStatistics) (histogram : Histogram) : List Nat :=
  histogramBucketOrder.map (calculateHistogramFromHdr hdr histogram)

end Strobengine.Metrics
