/-!
Reference paths: the storage a reference leads into, from a root name through names, elements and
view calls. The boundary is the length of the longest prefix that ends at resizable storage.
-/

namespace RefStability

inductive Segment where
  | name (text : String)
  | index
  | call (text : String)
deriving DecidableEq, Repr

/-- Elements and view calls lead into storage that a resize may move. -/
def Segment.isIndirection : Segment → Bool
  | .name _ => false
  | .index => true
  | .call _ => true

def Segment.isCall : Segment → Bool
  | .call _ => true
  | _ => false

@[ext]
structure Path where
  segments : List Segment
  boundary : Nat
  isScoped : Bool
  boundary_le : boundary ≤ segments.length
deriving DecidableEq, Repr

namespace Path

/-- A path with its boundary cut to its length. -/
def ofSegments (segments : List Segment) (boundary : Nat) (isScoped : Bool) : Path where
  segments := segments
  boundary := min boundary segments.length
  isScoped := isScoped
  boundary_le := Nat.min_le_right _ _

/-- The path of what cannot be traced. -/
def unrepresentable : Path := ofSegments [] 0 false

def length (path : Path) : Nat := path.segments.length

def isEmpty (path : Path) : Bool := path.segments.isEmpty

def isRepresentable (path : Path) : Bool := !path.isEmpty

def root? (path : Path) : Option Segment := path.segments.head?

/-- The segments before the first view call. -/
def explicit (path : Path) : List Segment := path.segments.takeWhile fun segment => !segment.isCall

def explicitLength (path : Path) : Nat := path.explicit.length

/-- The path ends exactly at resizable storage. -/
def isAnchor (path : Path) : Bool := path.isRepresentable && path.boundary == path.length

def crossesResizable (path : Path) : Bool := 0 < path.boundary

end Path

def Segment.render (isRoot : Bool) : Segment → String
  | .name text => if isRoot then text else "." ++ text
  | .index => "[]"
  | .call text => (if isRoot then text else "." ++ text) ++ "()"

/-- Renders segments that start at `position`, with a mark after the one that ends the boundary. -/
def Path.renderFrom (boundary : Nat) : Nat → List Segment → String
  | _, [] => ""
  | position, segment :: rest =>
    segment.render (position == 0) ++
      (if position + 1 = boundary then "!" else "") ++
      renderFrom boundary (position + 1) rest

def Path.render (path : Path) : String :=
  if path.isEmpty then "<unrepresentable>" else Path.renderFrom path.boundary 0 path.segments

namespace Path

theorem explicitLength_le_length (path : Path) : path.explicitLength ≤ path.length :=
  (List.takeWhile_sublist _).length_le

theorem isRepresentable_iff (path : Path) : path.isRepresentable = true ↔ path.segments ≠ [] := by
  simp [isRepresentable, isEmpty]

theorem isAnchor_iff (path : Path) :
    path.isAnchor = true ↔ path.segments ≠ [] ∧ path.boundary = path.length := by
  simp [isAnchor, isRepresentable_iff]

end Path

end RefStability
