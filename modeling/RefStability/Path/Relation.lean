import RefStability.Path.Basic

/-!
How two paths stand to each other, judged by the segments before their first view calls, and what
follows for a resize through one of them.
-/

namespace RefStability

inductive PathRelation where
  | unrelated
  | sibling
  | parent
  | same
  | child
deriving DecidableEq, Repr

def PathRelation.name : PathRelation → String
  | .unrelated => "unrelated"
  | .sibling => "sibling"
  | .parent => "parent"
  | .same => "same"
  | .child => "child"

namespace Path

/-- `parent` means that the left path leads to something that holds what the right one leads to. -/
def relation (left right : Path) : PathRelation :=
  match left.root?, right.root? with
  | some leftRoot, some rightRoot =>
    if leftRoot ≠ rightRoot then .unrelated
    else if left.explicit = right.explicit then .same
    else if left.explicit.isPrefixOf right.explicit then .parent
    else if right.explicit.isPrefixOf left.explicit then .child
    else .sibling
  | _, _ => .unrelated

/-- Whether the path goes through an element or a view call at or after `start`, and no later than
one step past its boundary. -/
def resizableAccessSince (path : Path) (start : Nat) : Bool :=
  ((path.segments.take (path.boundary + 1)).drop start).any Segment.isIndirection

/-- A resize of what `mutator` leads to may move what `victim` leads to. -/
def canInvalidate (mutator victim : Path) : Bool :=
  mutator.isAnchor &&
    match mutator.relation victim with
    | .parent => victim.resizableAccessSince mutator.explicitLength
    | .same => victim.resizableAccessSince mutator.explicitLength
    | _ => false

/-- Passing both paths by reference may give access to the same resizable storage. -/
def canAlias (left right : Path) : Bool :=
  (left.isAnchor || right.isAnchor) &&
    match left.relation right with
    | .parent => right.isAnchor || right.resizableAccessSince left.explicitLength
    | .same => left.explicitLength ≤ left.boundary || right.explicitLength ≤ right.boundary
    | .child => left.isAnchor
    | _ => false

end Path

end RefStability
