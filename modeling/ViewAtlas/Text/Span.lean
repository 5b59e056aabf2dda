import ViewAtlas.Text.Basic
/-!
# Spans

A span is a half-open range of offsets into a text.
-/
namespace ViewAtlas

/-- **A half-open range** of offsets. -/
structure Span where
  start : Nat
  stop : Nat
  deriving DecidableEq, Repr, Inhabited

namespace Span

def holds (r : Span) (i : Nat) : Bool := r.start ≤ i && i < r.stop

def slice (r : Span) (s : Text) : Text := Text.slice r.start r.stop s

def message (r : Span) : Text :=
  "SourceSpan(start=".toList ++ Text.ofNat r.start ++ ", end=".toList ++ Text.ofNat r.stop ++ ")".toList

end Span
end ViewAtlas
