import RefStability.Proofs.Independence

/-!
# Two ways to look a method up

A call is resolved among the declarations of its document: to the method with that signature, or
else to the only one with that name. Templates and commands look a method up in the program: the
first with that signature, or else the first with that name. The two agree wherever both have an
answer, and differ only at a name that several methods share.
-/

namespace RefStability

variable {Label : Type}

section Keyed

variable {α : Type} {items : List α} {key : α → String} {text : String}

theorem findIdx?_key_eq_none_iff :
    (items.findIdx? fun item => key item == text) = none ↔ text ∉ items.map key := by
  simp [List.findIdx?_eq_none_iff]

/-- What is found by its key has the key, and nothing before it has. -/
theorem key_of_findIdx? {id : Nat}
    (hid : (items.findIdx? fun item => key item == text) = some id) :
    (items[id]?).map key = some text ∧
      ∀ earlier < id, (items[earlier]?).map key ≠ some text := by
  obtain ⟨hlt, hkey, hfirst⟩ := List.findIdx?_eq_some_iff_getElem.mp hid
  constructor
  · rw [List.getElem?_eq_getElem hlt, Option.map_some, eq_of_beq hkey]
  · intro earlier hearlier hsame
    rw [List.getElem?_eq_getElem (Nat.lt_trans hearlier hlt), Option.map_some,
      Option.some.injEq] at hsame
    exact hfirst earlier hearlier (beq_iff_eq.mpr hsame)

end Keyed

namespace Document.Program

variable {document : Program} {program : RefStability.Program Site}

/-- The text is no method's signature, and the name of several methods. -/
def IsAmbiguous (document : Program) (text : String) : Prop :=
  text ∉ document.methods.map (·.effectiveSignature) ∧
    2 ≤ (document.methods.map (·.name)).count text

section Lowered

variable (hlower : document.lower = .ok program)
include hlower

/-- A program is searched as its document would be. -/
theorem methodNamed?_of_lower (text : String) :
    program.methodNamed? text =
      (document.methods.findIdx? fun method => method.effectiveSignature == text).or
        (document.methods.findIdx? fun method => method.name == text) := by
  have hmethods : program.headers.methods = document.methods.map (·.withBody none) :=
    congrArg RefStability.Program.methods (headers_of_lower hlower)
  rw [← RefStability.Program.methodNamed?_headers, RefStability.Program.methodNamed?, hmethods,
    List.findIdx?_map, List.findIdx?_map]
  rfl

theorem methodNamed?_signature {id : MethodId} {method : RefStability.Method Site}
    (hmethod : program.methods[id]? = some method) :
    program.methodNamed? method.signature = some id := by
  have hnodup := signatures_nodup_of_lower hlower
  obtain ⟨hlt, rfl⟩ := List.getElem?_eq_some_iff.mp hmethod
  have hindex : (program.methods.findIdx? fun other =>
      other.signature == program.methods[id].signature) = some id := by
    refine List.findIdx?_eq_some_iff_getElem.mpr ⟨hlt, beq_self_eq_true _, ?_⟩
    intro earlier hearlier hsame
    have hother := List.getElem?_eq_getElem (Nat.lt_trans hearlier hlt)
    have hsignature : (program.methods[earlier]?).map (·.signature) =
        some program.methods[id].signature := by
      rw [hother, Option.map_some, eq_of_beq hsame]
    exact Nat.ne_of_lt hearlier
      (eq_of_getElem?_map hnodup hsignature (by rw [hmethod, Option.map_some]))
  rw [RefStability.Program.methodNamed?, hindex, Option.some_or]

/-- The body of a method is found by the signature of the method. -/
theorem bodyNamed?_signature {id : MethodId} {method : RefStability.Method Site} {body : Body Site}
    (hmethod : program.methods[id]? = some method) (hbody : method.body = some body) :
    program.bodyNamed? method.signature = some body := by
  simp only [RefStability.Program.bodyNamed?, methodNamed?_signature hlower hmethod,
    Option.bind_eq_bind, Option.bind_some, hmethod, hbody]

end Lowered

end Document.Program

section Lookup

variable {document : Document.Program} {program : Program Site}
  (hlower : document.lower = .ok program) {scope : Scope}
  (hscope : scope.methods = document.methods) {text : String}
include hlower hscope

theorem methodNamed?_of_methodId {id : MethodId} (hid : scope.methodId text = .ok id) :
    program.methodNamed? text = some id := by
  rw [Document.Program.methodNamed?_of_lower hlower]
  unfold Scope.methodId at hid
  rw [hscope] at hid
  split at hid
  · rename_i found hsignature
    cases hid
    rw [hsignature, Option.some_or]
  · rename_i hsignature
    split at hid
    · rename_i method found hfilter
      cases hid
      rw [hsignature, Option.none_or]
      exact findIdx?_of_filter_zipIdx hfilter
    · cases hid

/-- A text by which no call can be resolved is searched for as a name. It is no signature, and not
the name of exactly one method. -/
theorem methodNamed?_of_methodId_error {error : LowerError}
    (herror : scope.methodId text = .error error) :
    program.methodNamed? text = (document.methods.findIdx? fun method => method.name == text) ∧
      text ∉ document.methods.map (·.effectiveSignature) ∧
      (document.methods.map (·.name)).count text ≠ 1 := by
  have hnone : ¬scope.HasMethod text := by
    rw [← Scope.exists_methodId_iff]
    rintro ⟨id, hid⟩
    cases herror.symm.trans hid
  rw [Scope.HasMethod, hscope, not_or] at hnone
  refine ⟨?_, hnone⟩
  rw [Document.Program.methodNamed?_of_lower hlower, findIdx?_key_eq_none_iff.mpr hnone.1,
    Option.none_or]

end Lookup

/-- Wherever a call can be resolved, looking the method up in the program gives the same method.
Where it cannot, nothing is found, unless the text is a name that several methods share; then the
first of them is. -/
theorem methodNamed_agrees_methodId {document : Document.Program} {program : Program Site}
    (hlower : document.lower = .ok program) {scope : Scope}
    (hscope : scope.methods = document.methods) (text : String) :
    (∀ id, scope.methodId text = .ok id → program.methodNamed? text = some id) ∧
    ∀ error, scope.methodId text = .error error →
      (¬document.IsAmbiguous text → program.methodNamed? text = none) ∧
      (document.IsAmbiguous text → ∃ id, program.methodNamed? text = some id ∧
        (document.methods[id]?).map (·.name) = some text ∧
        ∀ earlier < id, (document.methods[earlier]?).map (·.name) ≠ some text) := by
  refine ⟨fun id => methodNamed?_of_methodId hlower hscope, fun error herror => ?_⟩
  obtain ⟨hnamed, hunsigned, hcount⟩ := methodNamed?_of_methodId_error hlower hscope herror
  rw [hnamed]
  cases hsearch : document.methods.findIdx? fun method => method.name == text with
  | none =>
      have hzero : (document.methods.map (·.name)).count text = 0 :=
        List.count_eq_zero.mpr (findIdx?_key_eq_none_iff.mp hsearch)
      refine ⟨fun _ => rfl, fun hambiguous => ?_⟩
      have hseveral := hambiguous.2
      omega
  | some id =>
      obtain ⟨hname, hfirst⟩ := key_of_findIdx? hsearch
      have hmem : text ∈ document.methods.map (·.name) := by
        rw [← List.getElem?_map] at hname
        exact List.mem_of_getElem? hname
      have hpositive : 0 < (document.methods.map (·.name)).count text :=
        List.count_pos_iff.mpr hmem
      exact ⟨fun hunambiguous => absurd ⟨hunsigned, by omega⟩ hunambiguous,
        fun _ => ⟨id, rfl, hname, hfirst⟩⟩

/-- Two methods share a name, and the signature of a third is not its name. -/
def overloadDocument : Document.Program where
  file := 0
  types := []
  methods :=
    [{ name := "Put", signature := some "Put(int)", params := [], kind := .plain, path := none
       returnsRef := false, locals := [], body := none },
     { name := "Put", signature := some "Put(text)", params := [], kind := .plain, path := none
       returnsRef := false, locals := [], body := none },
     { name := "Len", signature := some "Len()", params := [], kind := .plain, path := none
       returnsRef := false, locals := [], body := none },
     { name := "run", signature := none, params := [], kind := .plain, path := none
       returnsRef := false, locals := [], body := some [] }]

/-- A signature and the name of one method are found both ways, an undeclared name neither way, and
the name of two methods only in the program. -/
theorem methodNamed_agrees_methodId_overload : ∃ (program : Program Site) (scope : Scope),
    overloadDocument.lower = .ok program ∧ scope.methods = overloadDocument.methods ∧
      scope.methodId "Put(text)" = .ok 1 ∧ program.methodNamed? "Put(text)" = some 1 ∧
      scope.methodId "Len" = .ok 2 ∧ program.methodNamed? "Len" = some 2 ∧
      scope.methodId "Get" = .error (.unknownMethod "Get") ∧ program.methodNamed? "Get" = none ∧
      scope.methodId "Put" = .error (.unknownMethod "Put") ∧
      ∃ id, program.methodNamed? "Put" = some id ∧
        ∀ earlier < id, (overloadDocument.methods[earlier]?).map (·.name) ≠ some "Put" := by
  have hany : overloadDocument.anyBody (fun _ _ => true) = true := by decide +kernel
  obtain ⟨program, _, hlower, _⟩ := Document.Program.exists_of_anyBody hany
  let scope : Scope := ⟨[], overloadDocument.methods, "run", [], []⟩
  have hagrees := @methodNamed_agrees_methodId _ _ hlower scope rfl
  have hambiguous : overloadDocument.IsAmbiguous "Put" := ⟨by decide, by decide⟩
  have hunambiguous : ¬overloadDocument.IsAmbiguous "Get" := fun h => absurd h.2 (by decide)
  obtain ⟨id, hid, _, hfirst⟩ := ((hagrees "Put").2 _ rfl).2 hambiguous
  exact ⟨program, scope, hlower, rfl, rfl, (hagrees "Put(text)").1 1 rfl, rfl,
    (hagrees "Len").1 2 rfl, rfl, ((hagrees "Get").2 _ rfl).1 hunambiguous, rfl, id, hid, hfirst⟩

end RefStability
