/-!
Spans of code points, in which tables of character properties are written.
-/
set_option autoImplicit false

namespace HostEngine

/-- A span of code points, both ends included. -/
abbrev Span := Nat × Nat

namespace Span

def holds (span : Span) (n : Nat) : Bool := span.1 ≤ n && n ≤ span.2

def anyHolds (spans : List Span) (n : Nat) : Bool := spans.any fun span => span.holds n

end Span

end HostEngine
