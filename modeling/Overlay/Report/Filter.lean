import Overlay.Duration
import Overlay.Net.Ipv4

/-!
# Which sources are due

A source address is reported when it is seen, but not again before an interval has passed. The filter
remembers when each address was last reported. Times are nanoseconds after some start; a time before
the remembered one counts as no time after it.
-/

namespace Overlay

/-- A point in time, in nanoseconds after some start. -/
abbrev Moment := Nat

/-- The last report of each address. -/
structure ReportFilter where
  /-- How long an address is not reported again. -/
  interval : Duration
  /-- The addresses with the times of their last reports, each address once. -/
  sent : List (Ipv4 × Moment) := []

namespace ReportFilter

/-- Has the interval not yet passed since the given time? -/
def fresh (f : ReportFilter) (now sent : Moment) : Bool := now - sent < f.interval.nanos

/-- When the address was last reported. -/
def last? (f : ReportFilter) (a : Ipv4) : Option Moment :=
  (f.sent.find? (fun e => e.1 = a)).map (·.2)

/-- Is the address to be reported now? -/
def isDue (f : ReportFilter) (a : Ipv4) (now : Moment) : Bool :=
  match f.last? a with
  | some t => !f.fresh now t
  | none => true

/-- Forgets an address. -/
def forget (f : ReportFilter) (a : Ipv4) : ReportFilter :=
  { f with sent := f.sent.filter (fun e => e.1 ≠ a) }

/-- Remembers a report. -/
def remember (f : ReportFilter) (a : Ipv4) (now : Moment) : ReportFilter :=
  { f with sent := (a, now) :: (f.forget a).sent }

/-- Is the address due? If so, its report is remembered. -/
def see (f : ReportFilter) (a : Ipv4) (now : Moment) : Bool × ReportFilter :=
  if f.isDue a now then (true, f.remember a now) else (false, f)

/-- Forgets all addresses whose interval has passed. -/
def prune (f : ReportFilter) (now : Moment) : ReportFilter :=
  { f with sent := f.sent.filter fun e => f.fresh now e.2 }

/-- The number of remembered addresses. -/
def size (f : ReportFilter) : Nat := f.sent.length

end ReportFilter

end Overlay
