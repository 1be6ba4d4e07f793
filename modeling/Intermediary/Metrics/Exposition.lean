import Intermediary.Metrics

/-!
# Metrics in the form in which they are fetched

Each metric is a line with its name, its labels and its value; what is known of
a histogram is the number of its recordings.  Before the first line of a name
stands what kind of metric it is.
-/

namespace Intermediary

open Text

def MetricKind.name : MetricKind -> String
  | .counter => "counter"
  | .gauge => "gauge"
  | .histogram => "histogram"

namespace Metrics

def labelChar (c : Char) : List Char :=
  if c = '\n' then ['\\', 'n']
  else if c = '"' || c = '\\' then ['\\', c]
  else [c]

def labelValue (value : String) : String :=
  String.ofList (['"'] ++ value.toList.flatMap labelChar ++ ['"'])

def valueText (value : Int) : String :=
  if value < 0 then "-" ++ decimal value.natAbs else decimal value.natAbs

def nameEnd : MetricKind -> String
  | .histogram => "_count"
  | .counter | .gauge => ""

def line (metric : Metric) (value : Int) : String :=
  metric.name ++ nameEnd metric.kind ++ metric.labelText labelValue ++ " " ++
    valueText value ++ "\n"

def kindLine (metric : Metric) : String :=
  "# TYPE " ++ metric.name ++ " " ++ metric.kind.name ++ "\n"

/-- The metrics of one name, below a line that tells their kind. -/
def family (report : Report) (metric : Metric) : String :=
  let members := report.filter fun (other, _) => other.name == metric.name
  kindLine metric ++ String.join (members.map fun (other, value) => line other value)

def leaders (report : Report) : List Metric :=
  report.foldl
    (fun found (metric, _) =>
      if found.any (·.name == metric.name) then found else found ++ [metric])
    []

def exposition (report : Report) : String :=
  String.join ((leaders report).map (family report))

end Metrics

end Intermediary
