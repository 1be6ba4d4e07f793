import Intermediary.Text.Numeral

/-!
# Metrics

What is measured is a sequence of recordings.  The report sums them up: a
counter adds what was recorded, a gauge keeps the last value or the balance,
and a histogram is reported by the number of its recordings.
-/

namespace Intermediary

open Text

inductive LookupResult where
  | hit
  | miss
  | expired
  deriving DecidableEq, Repr

inductive TunnelOutcome where
  | closed
  | idleTimeout
  | failed
  deriving DecidableEq, Repr

inductive Measure where
  /-- A connection was answered. -/
  | request (method : String) (status : Nat)
  /-- The cache was asked. -/
  | lookup (result : LookupResult)
  /-- The cache now has this many entries. -/
  | entries (count : Nat)
  /-- A tunnel ended after relaying this many bytes. -/
  | tunnel (outcome : TunnelOutcome) (toOrigin toClient : Nat)
  /-- A blocked host was asked for. -/
  | blocked
  /-- A connection began. -/
  | opened
  /-- A connection ended. -/
  | closed
  deriving DecidableEq, Repr

def LookupResult.label : LookupResult -> String
  | .hit => "hit"
  | .miss => "miss"
  | .expired => "expired"

def TunnelOutcome.label : TunnelOutcome -> String
  | .closed => "closed"
  | .idleTimeout => "idle_timeout"
  | .failed => "failed"

/-- What is reported under one name and one set of labels. -/
inductive Metric where
  | requests (method : String) (status : Nat)
  | durations (method : String)
  | lookups (result : LookupResult)
  | entries
  | tunnels (outcome : TunnelOutcome)
  | bytesToOrigin
  | bytesToClient
  | blocked
  | active
  deriving DecidableEq, Repr

inductive MetricKind where
  | counter
  | gauge
  | histogram
  deriving DecidableEq, Repr

namespace Metric

/-- The name of a metric, without its labels. -/
def name : Metric -> String
  | .requests _ _ => "proxy_requests_total"
  | .durations _ => "proxy_request_duration_seconds"
  | .lookups _ => "proxy_cache_lookups_total"
  | .entries => "proxy_cache_entries"
  | .tunnels _ => "proxy_tunnels_total"
  | .bytesToOrigin | .bytesToClient => "proxy_tunnel_bytes_total"
  | .blocked => "proxy_blocked_total"
  | .active => "proxy_active_connections"

/-- The labels of a metric, in the order of their names. -/
def labels : Metric -> List (String × String)
  | .requests method status =>
      [("method", method), ("status", decimal status)]
  | .durations method => [("method", method)]
  | .lookups result => [("result", result.label)]
  | .tunnels outcome => [("outcome", outcome.label)]
  | .bytesToOrigin => [("direction", "client_to_origin")]
  | .bytesToClient => [("direction", "origin_to_client")]
  | .entries | .blocked | .active => []

def kind : Metric -> MetricKind
  | .entries | .active => .gauge
  | .durations _ => .histogram
  | _ => .counter

/-- The labels as they are written, given how the value of a label is. -/
def labelText (value : String -> String) (metric : Metric) : String :=
  match metric.labels with
  | [] => ""
  | labels =>
      let written := labels.map fun (key, label) => key ++ "=" ++ value label
      "\x7b" ++ ",".intercalate written ++ "\x7d"

def text (metric : Metric) : String :=
  metric.name ++ metric.labelText id

end Metric

namespace Metrics

/-- Metrics and their values, in the order of the first recording of each. -/
abbrev Report := List (Metric × Int)

/-- The value of a metric, which starts at zero. -/
def value (report : Report) (metric : Metric) : Int :=
  match report with
  | [] => 0
  | (other, count) :: rest =>
      if other = metric then count else value rest metric

def update (metric : Metric) (change : Int -> Int) : Report -> Report
  | [] => [(metric, change 0)]
  | (other, value) :: rest =>
      if other = metric then (metric, change value) :: rest
      else (other, value) :: update metric change rest

def record (report : Report) : Measure -> Report
  | .request method status =>
      update (.durations method) (· + 1)
        (update (.requests method status) (· + 1) report)
  | .lookup result => update (.lookups result) (· + 1) report
  | .entries count => update .entries (fun _ => count) report
  | .tunnel outcome toOrigin toClient =>
      update .bytesToClient (· + toClient)
        (update .bytesToOrigin (· + toOrigin)
          (update (.tunnels outcome) (· + 1) report))
  | .blocked => update .blocked (· + 1) report
  | .opened => update .active (· + 1) report
  | .closed => update .active (· - 1) report

def report (measures : List Measure) : Report :=
  measures.foldl record []

end Metrics

end Intermediary
