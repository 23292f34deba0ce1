import RefStability.Proofs.WithinBounds

/-!
# The order of paths

How two paths stand to each other can be told from their roots, from whether their explicit segments
agree as far as both go, and from how far each goes. A path stands above another one if it begins
like the other and goes no further. What can invalidate a path can invalidate every longer path, and
what stands above a mutator can invalidate whatever the mutator can.
-/

namespace RefStability

namespace Path

variable {left right outer middle inner : Path}

/-! ### Relations by roots and lengths -/

/-- Both paths lead somewhere, and from the same root. -/
def SameRoot (left right : Path) : Prop := left.segments ≠ [] ∧ left.root? = right.root?

/-- The explicit segments are the same as far as both paths have some. -/
def Agrees (left right : Path) : Prop :=
  left.explicit.take (min left.explicitLength right.explicitLength) =
    right.explicit.take (min left.explicitLength right.explicitLength)

instance (left right : Path) : Decidable (left.Agrees right) :=
  inferInstanceAs (Decidable (_ = _))

theorem root?_eq_none_iff (path : Path) : path.root? = none ↔ path.segments = [] :=
  List.head?_eq_none_iff

theorem Agrees.symm (hagrees : left.Agrees right) : right.Agrees left := by
  unfold Agrees at hagrees ⊢
  rw [Nat.min_comm]
  exact Eq.symm hagrees

theorem SameRoot.symm (hroot : left.SameRoot right) : right.SameRoot left := by
  obtain ⟨hnonempty, hroot⟩ := hroot
  refine ⟨?_, hroot.symm⟩
  rwa [ne_eq, ← root?_eq_none_iff, ← hroot, root?_eq_none_iff]

theorem relation_of_sameRoot (hroot : left.SameRoot right) :
    left.relation right =
      if left.Agrees right then .ofLengths left.explicitLength right.explicitLength
      else .sibling := by
  obtain ⟨hnonempty, hroot⟩ := hroot
  obtain ⟨root, rest, hsegments⟩ := List.exists_cons_of_ne_nil hnonempty
  have hleft : left.root? = some root := by
    rw [root?, hsegments, List.head?_cons]
  have hright : right.root? = some root := hroot ▸ hleft
  unfold relation
  rw [hleft, hright]
  simp only [ne_eq, not_true_eq_false, if_false]
  exact (PathRelation.ofLengths_eq left.explicit right.explicit).symm

theorem relation_of_not_sameRoot (hroot : ¬left.SameRoot right) :
    left.relation right = .unrelated := by
  unfold relation
  cases hleft : left.root? with
  | none => rfl
  | some leftRoot =>
      cases hright : right.root? with
      | none => rfl
      | some rightRoot =>
          have hne : leftRoot ≠ rightRoot := by
            rintro rfl
            apply hroot
            refine ⟨?_, hleft.trans hright.symm⟩
            rw [ne_eq, ← root?_eq_none_iff, hleft]
            exact Option.some_ne_none _
          simp only [hne, ne_eq, not_false_eq_true, if_true]

/-! ### Standing above -/

/-- The outer path begins like the inner one and goes no further before its first view call. -/
structure Above (outer inner : Path) : Prop where
  sameRoot : outer.SameRoot inner
  explicit : outer.explicit <+: inner.explicit

theorem agrees_and_le_iff :
    left.Agrees right ∧ left.explicitLength ≤ right.explicitLength ↔
      left.explicit <+: right.explicit := by
  constructor
  · rintro ⟨hagrees, hle⟩
    rw [Agrees, Nat.min_eq_left hle, explicitLength, List.take_length] at hagrees
    exact List.prefix_iff_eq_take.mpr hagrees
  · intro hexplicit
    have hle : left.explicitLength ≤ right.explicitLength := hexplicit.length_le
    refine ⟨?_, hle⟩
    rw [Agrees, Nat.min_eq_left hle, explicitLength, List.take_length]
    exact List.prefix_iff_eq_take.mp hexplicit

theorem above_iff :
    outer.Above inner ↔ outer.relation inner = .parent ∨ outer.relation inner = .same := by
  constructor
  · rintro ⟨hroot, hexplicit⟩
    obtain ⟨hagrees, hle⟩ := agrees_and_le_iff.mpr hexplicit
    rw [relation_of_sameRoot hroot, if_pos hagrees, PathRelation.ofLengths]
    split
    · exact .inl rfl
    · rw [if_neg (Nat.not_lt.mpr hle)]
      exact .inr rfl
  · intro hrelation
    have hroot : outer.SameRoot inner := by
      by_contra hroot
      rw [relation_of_not_sameRoot hroot] at hrelation
      simp at hrelation
    refine ⟨hroot, agrees_and_le_iff.mp ?_⟩
    rw [relation_of_sameRoot hroot, PathRelation.ofLengths] at hrelation
    by_cases hagrees : outer.Agrees inner
    · refine ⟨hagrees, Nat.le_of_not_lt fun hlt => ?_⟩
      simp [hagrees, hlt, Nat.lt_asymm hlt] at hrelation
    · simp [hagrees] at hrelation

theorem Above.trans (houter : outer.Above middle) (hinner : middle.Above inner) :
    outer.Above inner where
  sameRoot := ⟨houter.sameRoot.1, houter.sameRoot.2.trans hinner.sameRoot.2⟩
  explicit := houter.explicit.trans hinner.explicit

/-- A path that begins with all segments of another one has the explicit segments of the other
one. -/
theorem above_of_segments (hnonempty : outer.segments ≠ [])
    (hsegments : outer.segments <+: inner.segments) : outer.Above inner := by
  obtain ⟨rest, hrest⟩ := hsegments
  refine ⟨⟨hnonempty, ?_⟩, ?_⟩
  · rw [root?, root?, ← hrest, List.head?_append_of_ne_nil _ hnonempty]
  · rw [Path.explicit, Path.explicit, ← hrest, List.takeWhile_append]
    -- Either the outer path has no view call and the inner one may go on, or both stop at it.
    split
    · rename_i hall
      rw [(List.takeWhile_prefix _).eq_of_length hall]
      exact List.prefix_append _ _
    · exact List.prefix_refl _

/-! ### Resizable accesses -/

theorem resizableAccessSince_iff (path : Path) (start : Nat) :
    path.resizableAccessSince start = true ↔ ∃ index segment, start ≤ index ∧
      index ≤ path.boundary ∧ path.segments[index]? = some segment ∧
      segment.isIndirection = true := by
  rw [resizableAccessSince, List.any_eq_true]
  simp only [List.mem_iff_getElem?, List.getElem?_drop, List.getElem?_take,
    Option.ite_none_right_eq_some]
  constructor
  · rintro ⟨segment, ⟨offset, hlt, hsegment⟩, hindirection⟩
    exact ⟨start + offset, segment, Nat.le_add_right _ _, Nat.le_of_lt_succ hlt, hsegment,
      hindirection⟩
  · rintro ⟨index, segment, hstart, hboundary, hsegment, hindirection⟩
    refine ⟨segment, ⟨index - start, ?_, ?_⟩, hindirection⟩
    · omega
    · rwa [Nat.add_sub_cancel' hstart]

theorem resizableAccessSince_of_le {path : Path} {start earlier : Nat} (hle : earlier ≤ start)
    (haccess : path.resizableAccessSince start = true) :
    path.resizableAccessSince earlier = true := by
  rw [resizableAccessSince_iff] at haccess ⊢
  obtain ⟨index, segment, hstart, hrest⟩ := haccess
  exact ⟨index, segment, Nat.le_trans hle hstart, hrest⟩

theorem resizableAccessSince_of_segments {path longer : Path} {start : Nat}
    (hsegments : path.segments <+: longer.segments) (hboundary : path.boundary ≤ longer.boundary)
    (haccess : path.resizableAccessSince start = true) :
    longer.resizableAccessSince start = true := by
  rw [resizableAccessSince_iff] at haccess ⊢
  obtain ⟨index, segment, hstart, hindex, hsegment, hindirection⟩ := haccess
  refine ⟨index, segment, hstart, Nat.le_trans hindex hboundary, ?_, hindirection⟩
  obtain ⟨rest, hrest⟩ := hsegments
  obtain ⟨hlt, _⟩ := List.getElem?_eq_some_iff.mp hsegment
  rw [← hrest, List.getElem?_append_left hlt, hsegment]

/-! ### What can be invalidated -/

theorem canInvalidate_iff {mutator victim : Path} :
    mutator.canInvalidate victim = true ↔ mutator.isAnchor = true ∧ mutator.Above victim ∧
      victim.resizableAccessSince mutator.explicitLength = true := by
  rw [canInvalidate, Bool.and_eq_true_iff, above_iff]
  refine and_congr_right fun _ => ?_
  cases mutator.relation victim <;> simp

end Path

/-- A path that can be invalidated stays so when it goes further and its boundary does not move
back; and what stands above a mutator can invalidate what the mutator can, if it is resizable
itself. -/
theorem canInvalidate_monotone :
    (∀ mutator victim longer : Path, mutator.canInvalidate victim = true →
      victim.segments <+: longer.segments → victim.boundary ≤ longer.boundary →
        mutator.canInvalidate longer = true) ∧
    ∀ outer mutator victim : Path, mutator.canInvalidate victim = true → outer.isAnchor = true →
      (outer.relation mutator = .parent ∨ outer.relation mutator = .same) →
        outer.canInvalidate victim = true := by
  constructor
  · intro mutator victim longer hinvalidate hsegments hboundary
    obtain ⟨hanchor, habove, haccess⟩ := Path.canInvalidate_iff.mp hinvalidate
    have hlonger : victim.Above longer := Path.above_of_segments habove.sameRoot.symm.1 hsegments
    exact Path.canInvalidate_iff.mpr ⟨hanchor, habove.trans hlonger,
      Path.resizableAccessSince_of_segments hsegments hboundary haccess⟩
  · intro outer mutator victim hinvalidate hanchor hrelation
    obtain ⟨_, habove, haccess⟩ := Path.canInvalidate_iff.mp hinvalidate
    have houter : outer.Above mutator := Path.above_iff.mpr hrelation
    have hle : outer.explicitLength ≤ mutator.explicitLength := houter.explicit.length_le
    exact Path.canInvalidate_iff.mpr ⟨hanchor, houter.trans habove,
      Path.resizableAccessSince_of_le hle haccess⟩

/-- A resize of a buffer invalidates a field of an element of its view, and so does a resize of the
pool that holds the buffer. -/
theorem canInvalidate_monotone_view :
    (Path.ofSegments [.name "pool", .name "buffer"] 2 false).canInvalidate
        (.ofSegments [.name "pool", .name "buffer", .call "AsSpan"] 2 false) = true ∧
      (Path.ofSegments [.name "pool", .name "buffer"] 2 false).canInvalidate
        (.ofSegments [.name "pool", .name "buffer", .call "AsSpan", .index, .name "size"] 2 false) =
          true ∧
      (Path.ofSegments [.name "pool"] 1 false).canInvalidate
        (.ofSegments [.name "pool", .name "buffer", .call "AsSpan", .index, .name "size"] 2 false) =
          true := by
  have hview : (Path.ofSegments [.name "pool", .name "buffer"] 2 false).canInvalidate
      (.ofSegments [.name "pool", .name "buffer", .call "AsSpan"] 2 false) = true := by
    decide
  have hfield := canInvalidate_monotone.1 _ _
    (.ofSegments [.name "pool", .name "buffer", .call "AsSpan", .index, .name "size"] 2 false)
    hview (by decide) (by decide)
  exact ⟨hview, hfield, canInvalidate_monotone.2 (.ofSegments [.name "pool"] 1 false) _ _ hfield
    (by decide) (.inl (by decide))⟩

end RefStability
