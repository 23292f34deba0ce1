/-!
Symbol tables: texts numbered in the order in which they were first met.
-/

namespace RefStability

structure SymbolTable where
  texts : List String
  nodup : texts.Nodup

def SymbolTable.empty : SymbolTable := ⟨[], List.nodup_nil⟩

def SymbolTable.size (table : SymbolTable) : Nat := table.texts.length

def SymbolTable.find? (table : SymbolTable) (text : String) : Option Nat :=
  table.texts.idxOf? text

def SymbolTable.text? (table : SymbolTable) (symbol : Nat) : Option String :=
  table.texts[symbol]?

/-- Numbers a text, adding it to the table if it is new. -/
def SymbolTable.intern (table : SymbolTable) (text : String) : Nat × SymbolTable :=
  match h : table.find? text with
  | some symbol => (symbol, table)
  | none =>
    (table.size, {
      texts := table.texts ++ [text]
      nodup := by
        have hnew : text ∉ table.texts := by simpa [find?] using h
        rw [List.nodup_append]
        exact ⟨table.nodup, by simp, by rintro a ha b hb rfl; simp_all⟩ })

def SymbolTable.ofTexts (texts : List String) : SymbolTable :=
  texts.foldl (fun table text => (table.intern text).2) .empty

def SymbolTable.render (table : SymbolTable) : String :=
  s!"Interner \x7b symbols: {table.size} \x7d"

theorem SymbolTable.mem_texts_intern (table : SymbolTable) (text other : String) :
    other ∈ (table.intern text).2.texts ↔ other ∈ table.texts ∨ other = text := by
  unfold intern
  split
  · rename_i symbol h
    have hmem : text ∈ table.texts := by
      have := List.isSome_idxOf?.mp (Option.isSome_of_eq_some h)
      exact this
    exact ⟨.inl, fun hor => hor.elim id (fun heq => heq ▸ hmem)⟩
  · simp

end RefStability
