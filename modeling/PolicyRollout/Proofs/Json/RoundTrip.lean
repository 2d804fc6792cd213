import PolicyRollout.Proofs.Json.Layout
/-!
Values are read back from their text.  The induction is on the fuel of the
reader; three steps for every character are more than it takes.
-/
namespace PolicyRollout.Json

open Text (Symbol)
open Document (Node)

/-- Every number in a value is an integer of 64 bits. -/
inductive Value.Exact : Value → Prop
  | null : Exact .null
  | bool (b : Bool) : Exact (.bool b)
  | number {n : Number} (hn : n.Exact) : Exact (.number n)
  | string (s : String) : Exact (.string s)
  | array {items : List Value} (hitems : ∀ v ∈ items, Exact v) : Exact (.array items)
  | object {entries : List (String × Value)} (hentries : ∀ e ∈ entries, Exact e.2) :
      Exact (.object entries)

section Blanks

variable {blanks : List Char}

theorem skipSpace_append (hblanks : ∀ c ∈ blanks, isSpace (.char c) = true)
    (symbols : List Symbol) : skipSpace (blanks.map .char ++ symbols) = skipSpace symbols := by
  unfold skipSpace
  apply List.dropWhile_append_of_pos
  intro symbol hsymbol
  obtain ⟨c, hc, rfl⟩ := List.mem_map.mp hsymbol
  exact hblanks c hc

theorem skipSpace_cons {c : Char} (hc : isSpace (.char c) = false) (rest : List Symbol) :
    skipSpace (.char c :: rest) = .char c :: rest := by
  simp [skipSpace, hc]

theorem readValue_append (hblanks : ∀ c ∈ blanks, isSpace (.char c) = true) (fuel : Nat)
    (symbols : List Symbol) :
    readValue fuel (blanks.map .char ++ symbols) = readValue fuel symbols := by
  cases fuel with
  | zero => rw [readValue, readValue]
  | succ fuel => rw [readValue, readValue, skipSpace_append hblanks]

theorem apart_of_isSpace {c : Char} (hc : isSpace (.char c) = true) (rest : List Symbol) :
    Apart (.char c :: rest) := by
  simp only [isSpace, Bool.or_eq_true, decide_eq_true_eq] at hc
  rcases hc with ((rfl | rfl) | rfl) | rfl <;> simp [Apart]

/-- What follows blanks and a character that is no part of a number stands apart. -/
theorem apart_append (hblanks : ∀ c ∈ blanks, isSpace (.char c) = true) {rest : List Symbol}
    (hrest : Apart rest) : Apart (blanks.map .char ++ rest) := by
  cases blanks with
  | nil => exact hrest
  | cons c blanks => exact apart_of_isSpace (hblanks c List.mem_cons_self) _

end Blanks

variable {l : Layout}

theorem writeItems_apart (level : Nat) (items : List Value) (rest : List Symbol) :
    Apart ((writeItems l level items).map .char ++ rest) := by
  cases items with
  | nil =>
      rw [writeItems, List.map_append, List.append_assoc]
      exact apart_append (l.newline_blank level) (by simp [Apart])
  | cons item items => simp [writeItems, Apart]

theorem writeItems_length_pos (l : Layout) (level : Nat) (items : List Value) :
    0 < (writeItems l level items).length := by
  cases items <;> simp [writeItems]

theorem writeEntries_apart (level : Nat) (entries : List (String × Value)) (rest : List Symbol) :
    Apart ((writeEntries l level entries).map .char ++ rest) := by
  cases entries with
  | nil =>
      rw [writeEntries, List.map_append, List.append_assoc]
      exact apart_append (l.newline_blank level) (by simp [Apart])
  | cons entry entries => simp [writeEntries, Apart]

theorem writeEntries_length_pos (l : Layout) (level : Nat) (entries : List (String × Value)) :
    0 < (writeEntries l level entries).length := by
  cases entries <;> simp [writeEntries]

/-- A character with which the text of a value begins. -/
def Opens (c : Char) : Prop :=
  isSpace (.char c) = false ∧ c ≠ ',' ∧ c ≠ ']'

theorem opens_of_isDigit {c : Char} (hc : c.isDigit = true) : Opens c := by
  refine ⟨?_, ?_, ?_⟩
  · cases hspace : isSpace (.char c) with
    | false => rfl
    | true =>
        have hapart := (apart_of_isSpace hspace []).1
        simp [hc] at hapart
  · rintro rfl
    contradiction
  · rintro rfl
    contradiction

theorem Value.Exact.write_head {v : Value} (hv : v.Exact) (l : Layout) (level : Nat) :
    ∃ c tail, v.write l level = c :: tail ∧ Opens c := by
  cases hv with
  | null => exact ⟨'n', _, by rw [Value.write]; rfl, by simp [Opens, isSpace]⟩
  | bool b =>
      cases b with
      | true => exact ⟨'t', _, by rw [Value.write]; rfl, by simp [Opens, isSpace]⟩
      | false => exact ⟨'f', _, by rw [Value.write]; rfl, by simp [Opens, isSpace]⟩
  | @number n hn =>
      cases n with
      | natural n =>
          obtain ⟨c, tail, htail⟩ := List.exists_cons_of_ne_nil (Text.decimal_ne_nil n)
          refine ⟨c, tail, by rw [Value.write, Number.render, htail], ?_⟩
          exact opens_of_isDigit (Text.isDigit_of_mem_decimal (by rw [htail]; simp))
      | negative n =>
          exact ⟨'-', _, by rw [Value.write, Number.render], by simp [Opens, isSpace]⟩
      | float x => exact absurd hn (by simp [Number.Exact])
  | string s => exact ⟨'"', _, by rw [Value.write]; rfl, by simp [Opens, isSpace]⟩
  | @array items =>
      cases items with
      | nil => exact ⟨'[', _, by rw [Value.write], by simp [Opens, isSpace]⟩
      | cons item items => exact ⟨'[', _, by rw [Value.write], by simp [Opens, isSpace]⟩
  | @object entries =>
      cases entries with
      | nil => exact ⟨'\x7b', _, by rw [Value.write], by simp [Opens, isSpace]⟩
      | cons entry entries => exact ⟨'\x7b', _, by rw [Value.write], by simp [Opens, isSpace]⟩

theorem Value.Exact.write_length_pos {v : Value} (hv : v.Exact) (l : Layout) (level : Nat) :
    0 < (v.write l level).length := by
  obtain ⟨c, tail, htail, _⟩ := hv.write_head l level
  rw [htail]
  exact Nat.succ_pos _

/-- What the reader makes of the texts that are written, with this much fuel. -/
structure Reads (l : Layout) (fuel : Nat) : Prop where
  value : ∀ {v : Value} (level : Nat) {rest : List Symbol}, v.Exact → Apart rest →
    3 * (v.write l level).length < fuel →
    readValue fuel ((v.write l level).map .char ++ rest) = (.ofValue v, some rest)
  items : ∀ {items : List Value} (level : Nat) (rest : List Symbol), (∀ v ∈ items, v.Exact) →
    3 * (writeItems l level items).length < fuel →
    readItems fuel false ((writeItems l level items).map .char ++ rest) =
      (Node.ofItems items, .ok rest)
  item : ∀ {item : Value} {items : List Value} (level : Nat) (rest : List Symbol),
    item.Exact → (∀ v ∈ items, v.Exact) →
    3 * (item.write l (level + 1) ++ writeItems l level items).length ≤ fuel →
    readItem fuel ((item.write l (level + 1) ++ writeItems l level items).map .char ++ rest) =
      (Node.ofItems (item :: items), .ok rest)
  firstItem : ∀ {item : Value} {items : List Value} (level : Nat) (rest : List Symbol),
    item.Exact → (∀ v ∈ items, v.Exact) →
    3 * (item.write l (level + 1) ++ writeItems l level items).length < fuel →
    readItems fuel true ((l.newline (level + 1) ++
        (item.write l (level + 1) ++ writeItems l level items)).map .char ++ rest) =
      (Node.ofItems (item :: items), .ok rest)
  entries : ∀ {entries : List (String × Value)} (level : Nat) (rest : List Symbol),
    (∀ e ∈ entries, e.2.Exact) → 3 * (writeEntries l level entries).length < fuel →
    readEntries fuel false ((writeEntries l level entries).map .char ++ rest) =
      (Node.ofEntries entries, .ok rest)
  entry : ∀ (key : String) {value : Value} {entries : List (String × Value)} (level : Nat)
    (rest : List Symbol), value.Exact → (∀ e ∈ entries, e.2.Exact) →
    3 * (value.write l (level + 1) ++ writeEntries l level entries).length ≤ fuel →
    readEntry fuel ((key.toList.flatMap escapeChar ++ '"' :: ':' :: (l.gap ++
        (value.write l (level + 1) ++ writeEntries l level entries))).map .char ++ rest) =
      (Node.ofEntries ((key, value) :: entries), .ok rest)

  firstEntry : ∀ (key : String) {value : Value} {entries : List (String × Value)} (level : Nat)
    (rest : List Symbol), value.Exact → (∀ e ∈ entries, e.2.Exact) →
    3 * (value.write l (level + 1) ++ writeEntries l level entries).length < fuel →
    readEntries fuel true ((l.newline (level + 1) ++ (renderString key ++ ':' :: (l.gap ++
        (value.write l (level + 1) ++ writeEntries l level entries)))).map .char ++ rest) =
      (Node.ofEntries ((key, value) :: entries), .ok rest)

namespace Reads

variable {fuel : Nat}

theorem item_succ (hreads : Reads l fuel) {item : Value} {items : List Value} (level : Nat)
    (rest : List Symbol) (hitem : item.Exact) (hitems : ∀ v ∈ items, v.Exact)
    (hfuel : 3 * (item.write l (level + 1) ++ writeItems l level items).length ≤ fuel + 1) :
    readItem (fuel + 1)
      ((item.write l (level + 1) ++ writeItems l level items).map .char ++ rest) =
        (Node.ofItems (item :: items), .ok rest) := by
  have hfirst := hitem.write_length_pos l (level + 1)
  have hlast := writeItems_length_pos l level items
  rw [List.length_append] at hfuel
  rw [readItem, List.map_append, List.append_assoc,
    hreads.value (level + 1) hitem (writeItems_apart level items rest) (by omega)]
  simp only
  rw [hreads.items level rest hitems (by omega), Node.ofItems]

theorem items_succ (hreads : Reads l fuel) {items : List Value} (level : Nat)
    (rest : List Symbol) (hitems : ∀ v ∈ items, v.Exact)
    (hfuel : 3 * (writeItems l level items).length < fuel + 1) :
    readItems (fuel + 1) false ((writeItems l level items).map .char ++ rest) =
      (Node.ofItems items, .ok rest) := by
  cases items with
  | nil =>
      rw [writeItems, List.map_append, List.append_assoc, readItems,
        skipSpace_append (l.newline_blank level)]
      rfl
  | cons item items =>
      have hitem := hitems item List.mem_cons_self
      have hmore : ∀ v ∈ items, v.Exact := fun v hv => hitems v (List.mem_cons_of_mem item hv)
      obtain ⟨c, tail, htail, hspace, _, hbracket⟩ := hitem.write_head l (level + 1)
      have hread := hreads.item level rest hitem hmore (by
        simp [writeItems] at hfuel ⊢
        omega)
      rw [writeItems, List.map_cons, List.cons_append, readItems, skipSpace_cons (by rfl)]
      simp only [Bool.false_eq_true, if_false]
      rw [List.map_append, List.append_assoc, skipSpace_append (l.newline_blank (level + 1))]
      rw [htail] at hread ⊢
      simp only [List.cons_append, List.map_cons] at hread ⊢
      rw [skipSpace_cons hspace]
      split
      · simp_all
      · exact hread

theorem firstItem_succ (hreads : Reads l fuel) {item : Value} {items : List Value} (level : Nat)
    (rest : List Symbol) (hitem : item.Exact) (hitems : ∀ v ∈ items, v.Exact)
    (hfuel : 3 * (item.write l (level + 1) ++ writeItems l level items).length < fuel + 1) :
    readItems (fuel + 1) true ((l.newline (level + 1) ++
        (item.write l (level + 1) ++ writeItems l level items)).map .char ++ rest) =
      (Node.ofItems (item :: items), .ok rest) := by
  have hread := hreads.item level rest hitem hitems (Nat.le_of_lt_succ hfuel)
  obtain ⟨c, tail, htail, hspace, hcomma, hbracket⟩ := hitem.write_head l (level + 1)
  rw [List.map_append, List.append_assoc, readItems, skipSpace_append (l.newline_blank _)]
  rw [htail] at hread ⊢
  simp only [List.cons_append, List.map_cons] at hread ⊢
  rw [skipSpace_cons hspace]
  split
  · contradiction
  · simp_all
  · simp_all
  · exact hread

theorem entry_succ (hreads : Reads l fuel) (key : String) {value : Value}
    {entries : List (String × Value)} (level : Nat) (rest : List Symbol) (hvalue : value.Exact)
    (hentries : ∀ e ∈ entries, e.2.Exact)
    (hfuel : 3 * (value.write l (level + 1) ++ writeEntries l level entries).length ≤ fuel + 1) :
    readEntry (fuel + 1) ((key.toList.flatMap escapeChar ++ '"' :: ':' :: (l.gap ++
        (value.write l (level + 1) ++ writeEntries l level entries))).map .char ++ rest) =
      (Node.ofEntries ((key, value) :: entries), .ok rest) := by
  have hfirst := hvalue.write_length_pos l (level + 1)
  have hlast := writeEntries_length_pos l level entries
  rw [List.length_append] at hfuel
  rw [readEntry, List.map_append, List.append_assoc, List.map_cons, List.cons_append,
    readString_escaped]
  simp only
  rw [List.map_cons, List.cons_append, skipSpace_cons (by rfl)]
  simp only
  rw [List.map_append, List.append_assoc, readValue_append l.gap_blank, List.map_append,
    List.append_assoc,
    hreads.value (level + 1) hvalue (writeEntries_apart level entries rest) (by omega)]
  simp only
  rw [hreads.entries level rest hentries (by omega), Node.ofEntries]
  simp [Draft.node]

theorem entries_succ (hreads : Reads l fuel) {entries : List (String × Value)} (level : Nat)
    (rest : List Symbol) (hentries : ∀ e ∈ entries, e.2.Exact)
    (hfuel : 3 * (writeEntries l level entries).length < fuel + 1) :
    readEntries (fuel + 1) false ((writeEntries l level entries).map .char ++ rest) =
      (Node.ofEntries entries, .ok rest) := by
  cases entries with
  | nil =>
      rw [writeEntries, List.map_append, List.append_assoc, readEntries,
        skipSpace_append (l.newline_blank level)]
      rfl
  | cons entry entries =>
      obtain ⟨key, value⟩ := entry
      have hvalue : value.Exact := hentries _ List.mem_cons_self
      have hmore : ∀ e ∈ entries, e.2.Exact := fun e he => hentries e (List.mem_cons_of_mem _ he)
      have hread := hreads.entry key level rest hvalue hmore (by
        simp [writeEntries] at hfuel ⊢
        omega)
      rw [writeEntries, renderString]
      simp only [List.map_cons, List.cons_append, List.map_append, List.append_assoc] at hread ⊢
      rw [readEntries, skipSpace_cons (by rfl)]
      simp only [Char.reduceEq, Bool.false_eq_true, if_false, if_true]
      rw [skipSpace_append (l.newline_blank (level + 1)), skipSpace_cons (by rfl)]
      simpa using hread

theorem firstEntry_succ (hreads : Reads l fuel) (key : String) {value : Value}
    {entries : List (String × Value)} (level : Nat) (rest : List Symbol) (hvalue : value.Exact)
    (hentries : ∀ e ∈ entries, e.2.Exact)
    (hfuel : 3 * (value.write l (level + 1) ++ writeEntries l level entries).length < fuel + 1) :
    readEntries (fuel + 1) true ((l.newline (level + 1) ++ (renderString key ++ ':' :: (l.gap ++
        (value.write l (level + 1) ++ writeEntries l level entries)))).map .char ++ rest) =
      (Node.ofEntries ((key, value) :: entries), .ok rest) := by
  have hread := hreads.entry key level rest hvalue hentries (Nat.le_of_lt_succ hfuel)
  rw [renderString]
  simp only [List.map_cons, List.cons_append, List.map_append, List.append_assoc] at hread ⊢
  rw [readEntries, skipSpace_append (l.newline_blank (level + 1)), skipSpace_cons (by rfl)]
  simpa using hread

theorem readValue_of_isDigit {c : Char} (hc : c.isDigit = true) (rest : List Symbol) :
    readValue (fuel + 1) (.char c :: rest) = readNumber false (.char c :: rest) := by
  have hne : ∀ other : Char, other.isDigit = false → c ≠ other := by
    rintro other hother rfl
    simp [hc] at hother
  rw [readValue, skipSpace_cons (opens_of_isDigit hc).1]
  simp [hc, hne '"' rfl, hne '[' rfl, hne '\x7b' rfl, hne 'n' rfl, hne 't' rfl, hne 'f' rfl,
    hne '-' rfl]

theorem value_succ (hreads : Reads l fuel) {v : Value} (level : Nat) {rest : List Symbol}
    (hv : v.Exact) (hrest : Apart rest) (hfuel : 3 * (v.write l level).length < fuel + 1) :
    readValue (fuel + 1) ((v.write l level).map .char ++ rest) = (.ofValue v, some rest) := by
  cases hv with
  | null =>
      rw [Value.write, readValue]
      rfl
  | bool b =>
      cases b with
      | true =>
          rw [Value.write, readValue]
          rfl
      | false =>
          rw [Value.write, readValue]
          rfl
  | string s =>
      rw [Value.write, renderString, List.cons_append, List.map_cons, List.cons_append, readValue,
        skipSpace_cons (by rfl), List.map_append, List.append_assoc]
      simp [readString_escaped, Draft.node, Node.ofValue]
  | @number n hn =>
      rw [Value.write]
      cases n with
      | natural n =>
          obtain ⟨c, tail, htail⟩ := List.exists_cons_of_ne_nil (Text.decimal_ne_nil n)
          have hread := readNumber_natural hn hrest
          have hc : c.isDigit = true := Text.isDigit_of_mem_decimal (by rw [htail]; simp)
          rw [Number.render]
          rw [htail, List.map_cons, List.cons_append] at hread ⊢
          rw [readValue_of_isDigit hc, hread]
      | negative n =>
          rw [Number.render, List.map_cons, List.cons_append, readValue, skipSpace_cons (by rfl)]
          exact readNumber_negative hn.1 hn.2 hrest
      | float x => exact absurd hn (by simp [Number.Exact])
  | @array items hitems =>
      cases items with
      | nil =>
          rw [Value.write] at hfuel ⊢
          cases fuel with
          | zero => simp at hfuel
          | succ fuel => rfl
      | cons item items =>
          rw [Value.write] at hfuel ⊢
          have hmore : ∀ v ∈ items, v.Exact := fun v hv => hitems v (List.mem_cons_of_mem item hv)
          have hread := hreads.firstItem level rest (hitems item List.mem_cons_self) hmore (by
            simp at hfuel ⊢
            omega)
          rw [List.map_cons, List.cons_append, readValue, skipSpace_cons (by rfl)]
          simp only [Char.reduceEq, if_false, if_true, hread, Node.ofValue]
  | @object entries hentries =>
      cases entries with
      | nil =>
          rw [Value.write] at hfuel ⊢
          cases fuel with
          | zero => simp at hfuel
          | succ fuel => rfl
      | cons entry entries =>
          obtain ⟨key, value⟩ := entry
          rw [Value.write] at hfuel ⊢
          have hvalue : value.Exact := hentries _ List.mem_cons_self
          have hmore : ∀ e ∈ entries, e.2.Exact := fun e he =>
            hentries e (List.mem_cons_of_mem _ he)
          have hread := hreads.firstEntry key level rest hvalue hmore (by
            simp at hfuel ⊢
            omega)
          rw [List.map_cons, List.cons_append, readValue, skipSpace_cons (by rfl)]
          simp only [Char.reduceEq, if_false, if_true, hread, Node.ofValue]

end Reads

/-- The reader takes every text that is written, if its fuel lasts. -/
theorem reads (l : Layout) (fuel : Nat) : Reads l fuel := by
  induction fuel with
  | zero =>
      constructor
      case value => intros; contradiction
      case items => intros; contradiction
      case firstItem => intros; contradiction
      case entries => intros; contradiction
      case firstEntry => intros; contradiction
      case item =>
        intro item items level rest hitem _ hfuel
        have hlength := hitem.write_length_pos l (level + 1)
        rw [List.length_append] at hfuel
        omega
      case entry =>
        intro key value entries level rest hvalue _ hfuel
        have hlength := hvalue.write_length_pos l (level + 1)
        rw [List.length_append] at hfuel
        omega
  | succ fuel hreads =>
      constructor
      case value => exact hreads.value_succ
      case items => exact hreads.items_succ
      case item => exact hreads.item_succ
      case firstItem => exact hreads.firstItem_succ
      case entries => exact hreads.entries_succ
      case entry => exact hreads.entry_succ
      case firstEntry => exact hreads.firstEntry_succ

/-- The text of a value in any layout is the document of that value. -/
theorem read_write {v : Value} (hv : v.Exact) (l : Layout) (level : Nat) :
    read ((v.write l level).map .char) = ⟨.ofValue v, [], none⟩ := by
  have hread := (reads l (3 * (v.write l level).length + 3)).value level hv
    (show Apart [] from trivial) (by omega)
  rw [List.append_nil] at hread
  rw [read, List.length_map, hread]
  rfl

theorem read_text {v : Value} (hv : v.Exact) :
    read (Text.symbolsOfText v.text) = ⟨.ofValue v, [], none⟩ := by
  rw [Text.symbolsOfText, Value.text, String.toList_ofList, render_eq_write 0]
  exact read_write hv .compact 0

theorem read_prettyText {v : Value} (hv : v.Exact) :
    read (Text.symbolsOfText v.prettyText) = ⟨.ofValue v, [], none⟩ := by
  rw [Text.symbolsOfText, Value.prettyText, String.toList_ofList, renderPretty_eq_write 0]
  exact read_write hv .indented 0

end PolicyRollout.Json
