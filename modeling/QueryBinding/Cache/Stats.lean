import QueryBinding.Text.Tenths

/-! Counters of a cache and the rates made of them. Evictions are no
operations of their own. -/

namespace QueryBinding

structure Stats where
  hits : Nat := 0
  misses : Nat := 0
  evictions : Nat := 0
  operations : Nat := 0
  deriving DecidableEq, Repr

namespace Stats

def hit (s : Stats) : Stats := { s with hits := s.hits + 1, operations := s.operations + 1 }

def miss (s : Stats) : Stats := { s with misses := s.misses + 1, operations := s.operations + 1 }

def evict (s : Stats) : Stats := { s with evictions := s.evictions + 1 }

inductive Event where
  | hit
  | miss
  | evict
  | reset
  deriving DecidableEq, Repr

def record (s : Stats) : Event → Stats
  | .hit => s.hit
  | .miss => s.miss
  | .evict => s.evict
  | .reset => {}

/-- The percentage of hits; none count as zero. -/
def hitRate (s : Stats) : Float :=
  let total := s.hits + s.misses
  if total = 0 then 0 else s.hits.toFloat / total.toFloat * 100

def missRate (s : Stats) : Float := 100 - s.hitRate

def shown (s : Stats) : String :=
  "CacheStats(hit_rate=" ++ Tenths.text s.hitRate ++ "%, hits=" ++ toString s.hits ++
    ", misses=" ++ toString s.misses ++ ", evictions=" ++ toString s.evictions ++
    ", ops=" ++ toString s.operations ++ ")"

end Stats

end QueryBinding
