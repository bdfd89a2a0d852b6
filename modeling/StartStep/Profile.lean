import StartStep.Json
import StartStep.Resolver

/-!
# Counting resolutions

Counters of completed resolutions, kept as 64-bit words that wrap. A failed
resolution is not counted.
-/

namespace StartStep

structure Profile where
  byId : UInt64
  byIndex : UInt64
  fullScan : UInt64
  /-- Elements read. -/
  candidates : UInt64
  /-- Elements read and not kept. -/
  rejected : UInt64
deriving DecidableEq

namespace Profile

def zero : Profile := ⟨0, 0, 0, 0, 0⟩

/-- Counts a completed resolution. -/
def record (p : Profile) (r : Resolution) : Profile :=
  let p := match r.path with
    | .byId _ => { p with byId := p.byId + 1 }
    | .byIndex _ => { p with byIndex := p.byIndex + 1 }
    | .fullScan => { p with fullScan := p.fullScan + 1 }
  { p with
    candidates := p.candidates + UInt64.ofNat r.candidates
    rejected := p.rejected + UInt64.ofNat (r.candidates - r.elements.length) }

/-- Counts an attempt at a resolution. -/
def recordRun (p : Profile) (r : Except Failure Resolution) : Profile :=
  match r with
  | .ok r => p.record r
  | .error _ => p

def json (p : Profile) : Json :=
  .object [("by_id", .natural p.byId.toNat), ("by_index", .natural p.byIndex.toNat),
    ("full_scan", .natural p.fullScan.toNat), ("candidates", .natural p.candidates.toNat),
    ("rejected", .natural p.rejected.toNat)]

end Profile

end StartStep
