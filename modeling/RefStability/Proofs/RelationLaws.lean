import RefStability.Proofs.PathOrder

/-!
# The laws of the relation of paths

Two paths from one root are siblings if neither begins like the other. Seen from the other path,
parents are children and nothing else changes. To stand above is a preorder whose two-sided part is
to be the same, and nothing that compares paths tells apart two that are the same. What diverges
from a path diverges from all that lies below it.
-/

namespace RefStability

/-- The relation of two paths as seen from the other one. -/
def PathRelation.mirror : PathRelation → PathRelation
  | .parent => .child
  | .child => .parent
  | relation => relation

theorem PathRelation.mirror_ofLengths (left right : Nat) :
    (ofLengths left right).mirror = ofLengths right left := by
  unfold ofLengths
  rcases Nat.lt_trichotomy left right with hlt | rfl | hgt
  · rw [if_pos hlt, if_neg (Nat.lt_asymm hlt), if_pos hlt, mirror]
  · rw [if_neg (Nat.lt_irrefl _), if_neg (Nat.lt_irrefl _)]
    rfl
  · rw [if_neg (Nat.lt_asymm hgt), if_pos hgt, if_pos hgt, mirror]

namespace Path

variable {left right other outer middle inner : Path}

theorem sameRoot_self (hnonempty : left.segments ≠ []) : left.SameRoot left :=
  ⟨hnonempty, rfl⟩

theorem SameRoot.trans (hleft : outer.SameRoot middle) (hright : middle.SameRoot inner) :
    outer.SameRoot inner :=
  ⟨hleft.1, hleft.2.trans hright.2⟩

theorem relation_mirror (left right : Path) :
    right.relation left = (left.relation right).mirror := by
  by_cases hroot : left.SameRoot right
  · rw [relation_of_sameRoot hroot, relation_of_sameRoot hroot.symm]
    by_cases hagrees : left.Agrees right
    · rw [if_pos hagrees, if_pos hagrees.symm, PathRelation.mirror_ofLengths]
    · rw [if_neg hagrees, if_neg (mt Agrees.symm hagrees)]
      rfl
  · rw [relation_of_not_sameRoot hroot, relation_of_not_sameRoot (mt SameRoot.symm hroot)]
    rfl

/-! ### Paths that are the same -/

theorem relation_eq_same_iff :
    left.relation right = .same ↔ left.SameRoot right ∧ left.explicit = right.explicit := by
  constructor
  · intro hrelation
    have hback : right.relation left = .same := by
      rw [relation_mirror, hrelation]
      rfl
    -- Each of the two stands above the other one.
    obtain ⟨hroot, hforth⟩ := above_iff.mpr (.inr hrelation)
    exact ⟨hroot, hforth.eq_of_length_le (above_iff.mpr (.inr hback)).explicit.length_le⟩
  · rintro ⟨hroot, hexplicit⟩
    have hagrees : left.Agrees right := by
      rw [Agrees, hexplicit]
    rw [relation_of_sameRoot hroot, if_pos hagrees, explicitLength, explicitLength, hexplicit,
      PathRelation.ofLengths, if_neg (Nat.lt_irrefl _), if_neg (Nat.lt_irrefl _)]

/-- Only the root and the explicit segments of a path are compared. -/
theorem relation_congr_left (hrelation : left.relation right = .same) (other : Path) :
    left.relation other = right.relation other := by
  obtain ⟨⟨_, hroot⟩, hexplicit⟩ := relation_eq_same_iff.mp hrelation
  unfold relation
  rw [hroot, hexplicit]

theorem relation_congr_right (hrelation : left.relation right = .same) (other : Path) :
    other.relation left = other.relation right := by
  rw [relation_mirror left, relation_mirror right, relation_congr_left hrelation]

theorem same_equivalence :
    Equivalence fun left right : { path : Path // path.segments ≠ [] } =>
      left.val.relation right.val = .same where
  refl path := relation_eq_same_iff.mpr ⟨sameRoot_self path.property, rfl⟩
  symm := fun {left right} hrelation => by
    rw [relation_mirror left.val, hrelation]
    rfl
  trans := fun {left right other} hleft hright => by
    rw [relation_congr_left hleft, hright]

/-! ### Paths below each other -/

theorem Above.relation_eq (habove : outer.Above inner) :
    outer.relation inner =
      if outer.explicitLength < inner.explicitLength then .parent else .same := by
  obtain ⟨hagrees, hle⟩ := agrees_and_le_iff.mpr habove.explicit
  rw [relation_of_sameRoot habove.sameRoot, if_pos hagrees, PathRelation.ofLengths,
    if_neg (Nat.not_lt.mpr hle)]

theorem Above.relation_eq_same_iff (habove : outer.Above inner) :
    outer.relation inner = .same ↔ outer.explicitLength = inner.explicitLength := by
  have hle : outer.explicitLength ≤ inner.explicitLength := habove.explicit.length_le
  rw [habove.relation_eq, Nat.le_antisymm_iff, and_iff_right hle]
  split
  · rename_i hlt
    exact iff_of_false (by simp) (Nat.not_le.mpr hlt)
  · rename_i hnot
    exact iff_of_true rfl (Nat.not_lt.mp hnot)

/-- Three paths one above the other: the first and the last are the same only if all are. -/
theorem Above.relation_trans (houter : outer.Above middle) (hinner : middle.Above inner) :
    outer.relation inner =
      if outer.relation middle = .same ∧ middle.relation inner = .same then .same
      else .parent := by
  have htrans := houter.trans hinner
  have hfirst : outer.explicitLength ≤ middle.explicitLength := houter.explicit.length_le
  have hsecond : middle.explicitLength ≤ inner.explicitLength := hinner.explicit.length_le
  have hsame : (outer.relation middle = .same ∧ middle.relation inner = .same) ↔
      ¬outer.explicitLength < inner.explicitLength := by
    rw [houter.relation_eq_same_iff, hinner.relation_eq_same_iff]
    omega
  rw [htrans.relation_eq]
  by_cases hlt : outer.explicitLength < inner.explicitLength
  · rw [if_pos hlt, if_neg fun hboth => hsame.mp hboth hlt]
  · rw [if_neg hlt, if_pos (hsame.mpr hlt)]

/-! ### Paths that diverge -/

theorem agrees_iff :
    left.Agrees right ↔
      left.explicit <+: right.explicit ∨ right.explicit <+: left.explicit := by
  constructor
  · intro hagrees
    rcases Nat.le_total left.explicitLength right.explicitLength with hle | hle
    · exact .inl (agrees_and_le_iff.mp ⟨hagrees, hle⟩)
    · exact .inr (agrees_and_le_iff.mp ⟨hagrees.symm, hle⟩)
  · rintro (hforth | hback)
    · exact (agrees_and_le_iff.mpr hforth).1
    · exact (agrees_and_le_iff.mpr hback).1.symm

theorem relation_eq_sibling_iff :
    left.relation right = .sibling ↔ left.SameRoot right ∧ ¬left.Agrees right := by
  by_cases hroot : left.SameRoot right
  · rw [relation_of_sameRoot hroot, and_iff_right hroot, PathRelation.ofLengths]
    split
    · rename_i hagrees
      refine iff_of_false ?_ (not_not_intro hagrees)
      split
      · simp
      · split <;> simp
    · rename_i hagrees
      exact iff_of_true rfl hagrees
  · rw [relation_of_not_sameRoot hroot]
    exact iff_of_false (by simp) (fun hsibling => hroot hsibling.1)

/-- Two beginnings of one path agree, so that what diverges from a path does not agree with what
lies below it. -/
theorem sibling_of_above (hsibling : other.relation outer = .sibling)
    (habove : outer.Above inner) : other.relation inner = .sibling := by
  obtain ⟨hroot, hdiverges⟩ := relation_eq_sibling_iff.mp hsibling
  refine relation_eq_sibling_iff.mpr ⟨hroot.trans habove.sameRoot, fun hagrees => hdiverges ?_⟩
  rcases agrees_iff.mp hagrees with hforth | hback
  · exact agrees_iff.mpr (List.prefix_or_prefix_of_prefix hforth habove.explicit)
  · exact agrees_iff.mpr (.inr (habove.explicit.trans hback))

end Path

/-- The relation of paths is a coherent order: it is mirrored when the paths are exchanged; a path
that leads somewhere is the same as itself; parents and what is the same compose; to be the same is
an equivalence that both sides of the relation respect; a sibling of a path is one of all below it;
and a path that leads nowhere is unrelated to all. -/
theorem relation_coherent :
    (∀ left right : Path, right.relation left = (left.relation right).mirror) ∧
    (∀ path : Path, path.segments ≠ [] → path.relation path = .same) ∧
    (∀ outer middle inner : Path,
      (outer.relation middle = .parent ∨ outer.relation middle = .same) →
      (middle.relation inner = .parent ∨ middle.relation inner = .same) →
        outer.relation inner =
          if outer.relation middle = .same ∧ middle.relation inner = .same then .same
          else .parent) ∧
    (Equivalence fun left right : { path : Path // path.segments ≠ [] } =>
      left.val.relation right.val = .same) ∧
    (∀ left right other : Path, left.relation right = .same →
      left.relation other = right.relation other ∧ other.relation left = other.relation right) ∧
    (∀ other outer inner : Path, other.relation outer = .sibling →
      (outer.relation inner = .parent ∨ outer.relation inner = .same) →
        other.relation inner = .sibling) ∧
    ∀ path : Path, Path.unrepresentable.relation path = .unrelated ∧
      path.relation .unrepresentable = .unrelated := by
  refine ⟨Path.relation_mirror, ?_, ?_, Path.same_equivalence, ?_, ?_,
    Path.relation_unrepresentable⟩
  · intro path hnonempty
    exact Path.same_equivalence.refl ⟨path, hnonempty⟩
  · intro outer middle inner houter hinner
    exact (Path.above_iff.mpr houter).relation_trans (Path.above_iff.mpr hinner)
  · intro left right other hrelation
    exact ⟨Path.relation_congr_left hrelation other, Path.relation_congr_right hrelation other⟩
  · intro other outer inner hsibling habove
    exact Path.sibling_of_above hsibling (Path.above_iff.mpr habove)

/-- A list and a view of it are the same, since only what comes before the call counts. What holds
the list stands above both, and another field of the holder is a sibling of both. -/
theorem relation_coherent_view :
    ∃ holder list view field : Path,
      holder.segments = [.name "pool"] ∧ list.segments = [.name "pool", .name "list"] ∧
      view.segments = [.name "pool", .name "list", .call "AsSpan", .index] ∧
      field.segments = [.name "pool", .name "size"] ∧
      holder.relation list = .parent ∧ list.relation view = .same ∧
      holder.relation view = .parent ∧ view.relation holder = .child ∧
      view.relation view = .same ∧ list.relation field = view.relation field ∧
      field.relation list = .sibling ∧ field.relation view = .sibling := by
  obtain ⟨hmirror, hself, htrans, _, hcongr, hsibling, _⟩ := relation_coherent
  have hparent : (Path.ofSegments [.name "pool"] 0 false).relation
      (.ofSegments [.name "pool", .name "list"] 2 false) = .parent := by
    decide
  have hsame : (Path.ofSegments [.name "pool", .name "list"] 2 false).relation
      (.ofSegments [.name "pool", .name "list", .call "AsSpan", .index] 2 false) = .same := by
    decide
  have hbeside : (Path.ofSegments [.name "pool", .name "size"] 0 false).relation
      (.ofSegments [.name "pool", .name "list"] 2 false) = .sibling := by
    decide
  have hbelow := htrans _ _ _ (.inl hparent) (.inr hsame)
  rw [hparent, if_neg (by simp)] at hbelow
  have hchild := (hmirror _ _).trans (congrArg PathRelation.mirror hbelow)
  exact ⟨_, _, _, _, rfl, rfl, rfl, rfl, hparent, hsame, hbelow, hchild, hself _ (by decide),
    (hcongr _ _ _ hsame).1, hbeside, hsibling _ _ _ hbeside (.inr hsame)⟩

end RefStability
