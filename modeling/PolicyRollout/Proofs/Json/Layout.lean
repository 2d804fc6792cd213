import PolicyRollout.Proofs.Json.Numerals
import PolicyRollout.Proofs.Json.Strings
/-!
The text of a value in any layout.  Values are written on one line or indented;
both are one way of writing that leaves open where blanks stand.
-/
namespace PolicyRollout.Json

open Text (Symbol)

/-- Where blanks stand in the text of a value. -/
structure Layout where
  /-- Before an item, a member or a closing bracket of a level. -/
  newline : Nat → List Char
  /-- After the colon of a member. -/
  gap : List Char
  newline_blank : ∀ level, ∀ c ∈ newline level, isSpace (.char c) = true
  gap_blank : ∀ c ∈ gap, isSpace (.char c) = true

/-- No blanks. -/
def Layout.compact : Layout :=
  ⟨fun _ => [], [], by simp, by simp⟩

/-- Every item and member on a line of its own. -/
def Layout.indented : Layout where
  newline := Json.newline
  gap := [' ']
  newline_blank := by
    intro level c hc
    rcases List.mem_cons.mp hc with rfl | hblank
    · rfl
    · rw [(List.mem_replicate.mp hblank).2]
      rfl
  gap_blank := by simp [isSpace]

mutual

def Value.write (l : Layout) (level : Nat) : Value → List Char
  | .null => "null".toList
  | .bool true => "true".toList
  | .bool false => "false".toList
  | .number n => n.render
  | .string s => renderString s
  | .array [] => ['[', ']']
  | .array (item :: items) =>
    '[' :: (l.newline (level + 1) ++ (item.write l (level + 1) ++ writeItems l level items))
  | .object [] => ['\x7b', '\x7d']
  | .object ((key, value) :: entries) =>
    '\x7b' :: (l.newline (level + 1) ++ (renderString key ++
      ':' :: (l.gap ++ (value.write l (level + 1) ++ writeEntries l level entries))))

/-- Items after the first, and the closing bracket. -/
def writeItems (l : Layout) (level : Nat) : List Value → List Char
  | [] => l.newline level ++ [']']
  | item :: items =>
    ',' :: (l.newline (level + 1) ++ (item.write l (level + 1) ++ writeItems l level items))

/-- Members after the first, and the closing brace. -/
def writeEntries (l : Layout) (level : Nat) : List (String × Value) → List Char
  | [] => l.newline level ++ ['\x7d']
  | (key, value) :: entries =>
    ',' :: (l.newline (level + 1) ++ (renderString key ++
      ':' :: (l.gap ++ (value.write l (level + 1) ++ writeEntries l level entries))))

end

section Compact

@[simp]
theorem compact_newline (level : Nat) : Layout.compact.newline level = [] := rfl

@[simp]
theorem compact_gap : Layout.compact.gap = [] := rfl

mutual

theorem render_eq_write (level : Nat) : (v : Value) → v.render = v.write .compact level
  | .null => by rw [Value.render, Value.write]
  | .bool true => by rw [Value.render, Value.write]
  | .bool false => by rw [Value.render, Value.write]
  | .number n => by rw [Value.render, Value.write]
  | .string s => by rw [Value.render, Value.write]
  | .array [] => by rw [Value.render, Value.write]
  | .array (item :: items) => by
      simp [Value.render, Value.write, render_eq_write (level + 1) item,
        ← renderItems_eq_writeItems level items]
  | .object [] => by rw [Value.render, Value.write]
  | .object ((key, value) :: entries) => by
      simp [Value.render, Value.write, render_eq_write (level + 1) value,
        ← renderEntries_eq_writeEntries level entries]

theorem renderItems_eq_writeItems (level : Nat) : (items : List Value) →
    renderItems items ++ [']'] = writeItems .compact level items
  | [] => by simp [renderItems, writeItems]
  | item :: items => by
      simp [renderItems, writeItems, render_eq_write (level + 1) item,
        ← renderItems_eq_writeItems level items]

theorem renderEntries_eq_writeEntries (level : Nat) : (entries : List (String × Value)) →
    renderEntries entries ++ ['\x7d'] = writeEntries .compact level entries
  | [] => by simp [renderEntries, writeEntries]
  | (key, value) :: entries => by
      simp [renderEntries, writeEntries, render_eq_write (level + 1) value,
        ← renderEntries_eq_writeEntries level entries]

end

end Compact

section Indented

@[simp]
theorem indented_newline (level : Nat) : Layout.indented.newline level = newline level := rfl

@[simp]
theorem indented_gap : Layout.indented.gap = [' '] := rfl

mutual

theorem renderPretty_eq_write (level : Nat) :
    (v : Value) → v.renderPretty level = v.write .indented level
  | .null => by rw [Value.renderPretty, Value.write]
  | .bool true => by rw [Value.renderPretty, Value.write]
  | .bool false => by rw [Value.renderPretty, Value.write]
  | .number n => by rw [Value.renderPretty, Value.write]
  | .string s => by rw [Value.renderPretty, Value.write]
  | .array [] => by rw [Value.renderPretty, Value.write]
  | .array (item :: items) => by
      simp [Value.renderPretty, Value.write, renderPretty_eq_write (level + 1) item,
        ← renderItemsPretty_eq_writeItems level items]
  | .object [] => by rw [Value.renderPretty, Value.write]
  | .object ((key, value) :: entries) => by
      simp [Value.renderPretty, Value.write, renderPretty_eq_write (level + 1) value,
        ← renderEntriesPretty_eq_writeEntries level entries]

theorem renderItemsPretty_eq_writeItems (level : Nat) : (items : List Value) →
    renderItemsPretty (level + 1) items ++ (newline level ++ [']']) =
      writeItems .indented level items
  | [] => by simp [renderItemsPretty, writeItems]
  | item :: items => by
      simp [renderItemsPretty, writeItems, renderPretty_eq_write (level + 1) item,
        ← renderItemsPretty_eq_writeItems level items]

theorem renderEntriesPretty_eq_writeEntries (level : Nat) : (entries : List (String × Value)) →
    renderEntriesPretty (level + 1) entries ++ (newline level ++ ['\x7d']) =
      writeEntries .indented level entries
  | [] => by simp [renderEntriesPretty, writeEntries]
  | (key, value) :: entries => by
      simp [renderEntriesPretty, writeEntries, renderPretty_eq_write (level + 1) value,
        ← renderEntriesPretty_eq_writeEntries level entries]

end

end Indented

end PolicyRollout.Json
