import CachingProxy.Telemetry

namespace CachingProxy.Exposition

/-- Numbers are written without an exponent, and whole ones without a point. -/
def number : Decimal.Layout := ⟨none, none, false⟩

def escape (c : Char) : List Char :=
  if c = '\\' then ['\\', '\\']
  else if c = '\n' then ['\\', 'n']
  else if c = '"' then ['\\', '"']
  else [c]

abbrev Labels := List (String × String)

def label (l : String × String) : String :=
  l.1 ++ "=\"" ++ String.ofList (l.2.toList.flatMap escape) ++ "\""

def sample (name : String) (ls : Labels) (value : String) : String :=
  name ++ "\x7b" ++ ",".intercalate (ls.map label) ++ "\x7d " ++ value

/-- A metric, and for the labels of each of its series the lines that give its values. -/
structure Family where
  name : String
  help : String
  kind : String
  series : List (Labels × List String)

def noLater (a b : Labels) : Bool := !decide (b.map Prod.snd < a.map Prod.snd)

def Family.lines (f : Family) : List String :=
  if f.series = [] then []
  else
    ["# HELP " ++ f.name ++ " " ++ f.help, "# TYPE " ++ f.name ++ " " ++ f.kind] ++
      (f.series.mergeSort fun a b => noLater a.1 b.1).flatMap Prod.snd

def counter (name help : String) (series : List (Labels × Nat)) : Family :=
  ⟨name, help, "counter", series.map fun (ls, n) => (ls, [sample name ls (toString n)])⟩

def statusText (s : Status) : String := toString s.code

def timingLines (name : String) (ls : Labels) (t : Timing) : List String :=
  let bucket (bound : String) (n : Nat) :=
    sample (name ++ "_bucket") (ls ++ [("le", bound)]) (toString n)
  (t.within.zip Timing.bounds).map (fun (n, b) => bucket b.label n) ++
    [bucket "+Inf" t.count, sample (name ++ "_sum") ls (number.render t.sum),
      sample (name ++ "_count") ls (toString t.count)]

def histogram (name help : String) (series : List (Labels × Timing)) : Family :=
  ⟨name, help, "histogram", series.map fun (ls, t) => (ls, timingLines name ls t)⟩

def families (t : Telemetry) : List Family :=
  [counter "ringcache_coalesced_waiters_total"
      "Requests served by replaying another request's fetch"
      (t.coalesced.entries.map fun (h, n) => ([("host", h)], n)),
    counter "ringcache_origin_requests_total" "Total requests sent upstream"
      (t.fetches.entries.map fun ((h, s), n) => ([("host", h), ("status", statusText s)], n)),
    histogram "ringcache_request_duration_seconds"
      "Time until the response head was ready, in seconds"
      (t.timings.entries.map fun ((h, p), x) => ([("cache_status", p.text), ("host", h)], x)),
    counter "ringcache_requests_total" "Total number of proxied requests"
      (t.requests.entries.map fun ((h, s, p), n) =>
        ([("cache_status", p.text), ("host", h), ("status", statusText s)], n))]

def lines (t : Telemetry) : List String := (families t).flatMap Family.lines

/-- The exposition format 0.0.4: families by name, in each the series by their label values, in each
series the labels by name. A family without series is left out, and every line ends with a line feed. -/
def text (t : Telemetry) : String := String.join ((lines t).map fun l => l ++ "\n")

end CachingProxy.Exposition
