import PageWatch.Extraction.Item

/-!
# What becomes of the sites in a tick
-/

set_option autoImplicit false

namespace PageWatch

inductive Outcome where
  | notified (i : Item)
  | unchanged
  | stale
  deriving DecidableEq

structure Summary where
  total : Nat
  notified : Nat := 0
  unchanged : Nat := 0
  stale : Nat := 0
  failures : Nat := 0
  deriving Repr, DecidableEq

namespace Summary

def add {ε : Type} (s : Summary) : Except ε Outcome → Summary
  | .ok (.notified _) => { s with notified := s.notified + 1 }
  | .ok .unchanged => { s with unchanged := s.unchanged + 1 }
  | .ok .stale => { s with stale := s.stale + 1 }
  | .error _ => { s with failures := s.failures + 1 }

end Summary

end PageWatch
