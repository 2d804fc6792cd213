import PolicyRollout.Proofs.Network.Hosts
/-!
Lists of sources.  A list passes exactly when every item between its commas is a source once the
blanks around it are gone, and a list that does not pass is refused for its first item that is no
source.  So lists may be put together, reordered and spaced at will.
-/
namespace PolicyRollout

namespace Text

variable {left right cs : List Char}

theorem dropWhile_isBlank_eq_nil (hblank : ∀ c ∈ cs, isBlank c = true) :
    cs.dropWhile isBlank = [] := by
  simpa using hblank

theorem trimChars_prepend (hleft : ∀ c ∈ left, isBlank c = true) :
    trimChars (left ++ cs) = trimChars cs := by
  rw [trimChars, List.dropWhile_append_of_pos hleft, trimChars]

theorem trimChars_append (hright : ∀ c ∈ right, isBlank c = true) :
    trimChars (cs ++ right) = trimChars cs := by
  have hback : ∀ c ∈ right.reverse, isBlank c = true := by simpa using hright
  rw [trimChars, trimChars, List.dropWhile_append]
  cases hrest : cs.dropWhile isBlank with
  | nil => rw [List.isEmpty_nil, if_pos rfl, dropWhile_isBlank_eq_nil hright]
  | cons c rest =>
      rw [List.isEmpty_cons, if_neg Bool.false_ne_true, List.reverse_append,
        List.dropWhile_append_of_pos hback]

/-- The comma is not a blank. -/
theorem comma_not_mem_of_blank (hblank : ∀ c ∈ cs, isBlank c = true) : ',' ∉ cs := by
  intro hcomma
  exact absurd (hblank ',' hcomma) (by decide)

end Text

namespace Network

section Splitting

variable {cs left right : List Char}

theorem exists_splitCommas_eq_cons (cs : List Char) :
    ∃ part parts, splitCommas cs = part :: parts := by
  cases cs with
  | nil => exact ⟨[], [], rfl⟩
  | cons c rest =>
      by_cases hc : c = ','
      · exact ⟨[], splitCommas rest, by rw [splitCommas, if_pos hc]⟩
      · rw [splitCommas, if_neg hc]
        split
        · exact ⟨[c], [], rfl⟩
        · rename_i part parts _
          exact ⟨c :: part, parts, rfl⟩

theorem splitCommas_cons_of_ne {c : Char} (hc : c ≠ ',') {part : List Char}
    {parts : List (List Char)} (hrest : splitCommas cs = part :: parts) :
    splitCommas (c :: cs) = (c :: part) :: parts := by
  rw [splitCommas, if_neg hc, hrest]

/-- A comma between two texts separates their parts. -/
theorem splitCommas_append (first second : List Char) :
    splitCommas (first ++ ',' :: second) = splitCommas first ++ splitCommas second := by
  induction first with
  | nil => rfl
  | cons c rest ih =>
      by_cases hc : c = ','
      · rw [List.cons_append, splitCommas, if_pos hc, ih, splitCommas, if_pos hc, List.cons_append]
      · obtain ⟨part, parts, hrest⟩ := exists_splitCommas_eq_cons rest
        rw [hrest, List.cons_append] at ih
        rw [List.cons_append, splitCommas_cons_of_ne hc ih, splitCommas_cons_of_ne hc hrest,
          List.cons_append]

/-- What is put before a text without a comma in between joins its first part. -/
theorem splitCommas_prepend (hleft : ',' ∉ left) {part : List Char} {parts : List (List Char)}
    (hcs : splitCommas cs = part :: parts) :
    splitCommas (left ++ cs) = (left ++ part) :: parts := by
  induction left with
  | nil => exact hcs
  | cons c rest ih =>
      obtain ⟨hc, hrest⟩ := List.ne_and_not_mem_of_not_mem_cons hleft
      exact splitCommas_cons_of_ne (Ne.symm hc) (ih hrest)

theorem splitCommas_of_not_mem (hcs : ',' ∉ cs) : splitCommas cs = [cs] := by
  have hnil : splitCommas [] = [[]] := rfl
  simpa using splitCommas_prepend hcs hnil

/-- What is put behind a text without a comma in between joins its last part. -/
theorem exists_splitCommas_append (hright : ',' ∉ right) (cs : List Char) :
    ∃ front last, splitCommas cs = front ++ [last] ∧
      splitCommas (cs ++ right) = front ++ [last ++ right] := by
  induction cs with
  | nil => exact ⟨[], [], rfl, splitCommas_of_not_mem hright⟩
  | cons c rest ih =>
      obtain ⟨front, last, hshort, hlong⟩ := ih
      by_cases hc : c = ','
      · refine ⟨[] :: front, last, ?_, ?_⟩
        · rw [splitCommas, if_pos hc, hshort, List.cons_append]
        · rw [List.cons_append, splitCommas, if_pos hc, hlong, List.cons_append]
      · cases front with
        | nil =>
            exact ⟨[], c :: last, splitCommas_cons_of_ne hc hshort,
              splitCommas_cons_of_ne hc hlong⟩
        | cons part front =>
            exact ⟨(c :: part) :: front, last, splitCommas_cons_of_ne hc hshort,
              splitCommas_cons_of_ne hc hlong⟩

end Splitting

/-- An item without the blanks around it. -/
def sourceItem (item : List Char) : String := String.ofList (Text.trimChars item)

/-- What stands between the commas of a text, without the blanks around it. -/
def sourceItems (s : String) : List String := (splitCommas s.toList).map sourceItem

/-- An item that is a source: a network if there is a slash in it, else a host. -/
def IsSource (item : String) : Prop :=
  if '/' ∈ item.toList then IsNetwork item else IsHost item

/-- What is wrong with an item that is no source. -/
def SourceRefused (item : String) (e : NetworkError) : Prop :=
  if '/' ∈ item.toList then Cidr.parse item = .error e else parseHost item = .error e

section Items

variable {s left right : String}

theorem sourceItems_append (first second : String) :
    sourceItems (first ++ "," ++ second) = sourceItems first ++ sourceItems second := by
  have hchars : (first ++ "," ++ second).toList = first.toList ++ ',' :: second.toList := by
    simp
  rw [sourceItems, hchars, splitCommas_append, List.map_append]
  rfl

/-- Blanks before the first item do not matter. -/
theorem sourceItems_prepend (hleft : Text.isBlankText left = true) :
    sourceItems (left ++ s) = sourceItems s := by
  have hblank : ∀ c ∈ left.toList, Text.isBlank c = true := by
    simpa [Text.isBlankText] using hleft
  obtain ⟨part, parts, hs⟩ := exists_splitCommas_eq_cons s.toList
  rw [sourceItems, sourceItems, String.toList_append,
    splitCommas_prepend (Text.comma_not_mem_of_blank hblank) hs, hs, List.map_cons, List.map_cons,
    sourceItem, sourceItem, Text.trimChars_prepend hblank]

/-- Blanks behind the last item do not matter. -/
theorem sourceItems_append_blank (hright : Text.isBlankText right = true) :
    sourceItems (s ++ right) = sourceItems s := by
  have hblank : ∀ c ∈ right.toList, Text.isBlank c = true := by
    simpa [Text.isBlankText] using hright
  obtain ⟨front, last, hshort, hlong⟩ :=
    exists_splitCommas_append (Text.comma_not_mem_of_blank hblank) s.toList
  rw [sourceItems, sourceItems, String.toList_append, hlong, hshort, List.map_append,
    List.map_append, List.map_singleton, List.map_singleton, sourceItem, sourceItem,
    Text.trimChars_append hblank]

/-- A blank text has one item, which is empty. -/
theorem sourceItems_of_blank (hs : Text.isBlankText s = true) : sourceItems s = [""] := by
  have hempty : sourceItems "" = [""] := rfl
  have hpad : sourceItems (s ++ "") = sourceItems "" := sourceItems_prepend hs
  rwa [String.append_empty, hempty] at hpad

end Items

section Checking

variable {s : String} {e : NetworkError} {item : List Char} {items : List (List Char)}

theorem checkSource_eq_ok_iff :
    checkSource item = .ok () ↔ IsSource (sourceItem item) := by
  rw [checkSource, IsSource, IsNetwork, IsHost, Accepts, Accepts]
  by_cases hslash : '/' ∈ (sourceItem item).toList
  · rw [if_pos hslash, ← sourceItem, if_pos hslash]
    cases Cidr.parse (sourceItem item) <;> simp [Except.map]
  · rw [if_neg hslash, ← sourceItem, if_neg hslash]
    cases parseHost (sourceItem item) <;> simp [Except.map]

theorem checkSource_eq_error_iff :
    checkSource item = .error e ↔ SourceRefused (sourceItem item) e := by
  rw [checkSource, SourceRefused]
  by_cases hslash : '/' ∈ (sourceItem item).toList
  · rw [if_pos hslash, ← sourceItem, if_pos hslash]
    cases Cidr.parse (sourceItem item) <;> simp [Except.map]
  · rw [if_neg hslash, ← sourceItem, if_neg hslash]
    cases parseHost (sourceItem item) <;> simp [Except.map]

theorem checkSources_cons_of_ok (hitem : checkSource item = .ok ()) :
    checkSources (item :: items) = checkSources items := by
  rw [checkSources, hitem]
  rfl

theorem checkSources_cons_of_error (hitem : checkSource item = .error e) :
    checkSources (item :: items) = .error e := by
  rw [checkSources, hitem]
  rfl

theorem checkSources_eq_ok_iff :
    checkSources items = .ok () ↔ ∀ item ∈ items, checkSource item = .ok () := by
  induction items with
  | nil => simp [checkSources]
  | cons item rest ih =>
      rw [List.forall_mem_cons]
      cases hitem : checkSource item with
      | ok u => rw [checkSources_cons_of_ok hitem, ih, and_iff_right rfl]
      | error e =>
          rw [checkSources_cons_of_error hitem]
          exact iff_of_false (by simp) (by simp)

/-- Sources are checked one after another, up to the first that is refused. -/
theorem checkSources_eq_error_iff : checkSources items = .error e ↔
    ∃ front item back, items = front ++ item :: back ∧
      (∀ passed ∈ front, checkSource passed = .ok ()) ∧ checkSource item = .error e := by
  constructor
  · intro hrefused
    induction items with
    | nil => cases hrefused
    | cons item rest ih =>
        cases hitem : checkSource item with
        | error e' =>
            rw [checkSources_cons_of_error hitem] at hrefused
            exact ⟨[], item, rest, rfl, nofun, hrefused ▸ hitem⟩
        | ok u =>
            rw [checkSources_cons_of_ok hitem] at hrefused
            obtain ⟨front, refused, back, rfl, hfront, herror⟩ := ih hrefused
            exact ⟨item :: front, refused, back, rfl,
              List.forall_mem_cons.mpr ⟨hitem, hfront⟩, herror⟩
  · rintro ⟨front, item, back, rfl, hfront, herror⟩
    induction front with
    | nil => exact checkSources_cons_of_error herror
    | cons passed front ih =>
        obtain ⟨hpassed, hfront⟩ := List.forall_mem_cons.mp hfront
        rw [List.cons_append, checkSources_cons_of_ok hpassed]
        exact ih hfront

theorem not_isSource_empty : ¬ IsSource "" := fun h => IsHost.ne_empty h rfl

theorem checkSources_splitCommas_eq_ok_iff :
    checkSources (splitCommas s.toList) = .ok () ↔ ∀ item ∈ sourceItems s, IsSource item := by
  rw [checkSources_eq_ok_iff, sourceItems, List.forall_mem_map]
  exact forall₂_congr fun _ _ => checkSource_eq_ok_iff

/-- A blank list is refused as a whole, and would be for its only item. -/
theorem isSourceList_iff : IsSourceList s ↔ ∀ item ∈ sourceItems s, IsSource item := by
  rw [← checkSources_splitCommas_eq_ok_iff, IsSourceList, Accepts, checkSourceList]
  cases hblank : Text.isBlankText s with
  | true =>
      have hnone : ¬ checkSources (splitCommas s.toList) = .ok () := by
        rw [checkSources_splitCommas_eq_ok_iff, sourceItems_of_blank hblank,
          List.forall_mem_singleton]
        exact not_isSource_empty
      simp [hnone]
  | false =>
      rw [if_neg Bool.false_ne_true]
      constructor
      · rintro ⟨_, hok⟩
        exact hok
      · intro hok
        exact ⟨(), hok⟩

/-- A list with more than blanks in it is refused for its first item that is no source. -/
theorem checkSourceList_eq_error_iff (hs : ∃ c ∈ s.toList, Text.isBlank c = false) :
    checkSourceList s = .error e ↔ ∃ front item back, sourceItems s = front ++ item :: back ∧
      (∀ passed ∈ front, IsSource passed) ∧ SourceRefused item e := by
  have hblank : Text.isBlankText s = false := by simpa [Text.isBlankText] using hs
  rw [checkSourceList, hblank, if_neg Bool.false_ne_true, checkSources_eq_error_iff]
  constructor
  · rintro ⟨front, item, back, hitems, hfront, herror⟩
    refine ⟨front.map sourceItem, sourceItem item, back.map sourceItem, ?_, ?_,
      checkSource_eq_error_iff.mp herror⟩
    · rw [sourceItems, hitems, List.map_append, List.map_cons]
    · exact List.forall_mem_map.mpr fun passed hpassed =>
        checkSource_eq_ok_iff.mp (hfront passed hpassed)
  · rintro ⟨front, item, back, hitems, hfront, herror⟩
    obtain ⟨raw, rawTail, hsplit, rfl, htail⟩ := List.map_eq_append_iff.mp hitems
    obtain ⟨rawItem, rawBack, rfl, rfl, _⟩ := List.map_eq_cons_iff.mp htail
    refine ⟨raw, rawItem, rawBack, hsplit, fun passed hpassed => ?_,
      checkSource_eq_error_iff.mpr herror⟩
    exact checkSource_eq_ok_iff.mpr (hfront _ (List.mem_map_of_mem hpassed))

end Checking

/-- Two lists joined by a comma pass exactly when both pass; the order of the items and the blanks
around them do not matter; and a list that is refused and not blank is refused for the first of its
items that is no source. -/
theorem sourceLists_compose :
    (∀ first second, IsSourceList (first ++ "," ++ second) ↔
      IsSourceList first ∧ IsSourceList second) ∧
    (∀ first second, (sourceItems first).Perm (sourceItems second) →
      (IsSourceList first ↔ IsSourceList second)) ∧
    (∀ left s right, Text.isBlankText left = true → Text.isBlankText right = true →
      (IsSourceList (left ++ s ++ right) ↔ IsSourceList s)) ∧
    (∀ s e, (∃ c ∈ s.toList, Text.isBlank c = false) → (checkSourceList s = .error e ↔
      ∃ front item back, sourceItems s = front ++ item :: back ∧
        (∀ passed ∈ front, IsSource passed) ∧ SourceRefused item e)) := by
  refine ⟨fun first second => ?_, fun first second hperm => ?_, fun left s right hleft hright => ?_,
    fun s e hs => checkSourceList_eq_error_iff hs⟩
  · simp only [isSourceList_iff, sourceItems_append, List.forall_mem_append]
  · simp only [isSourceList_iff, hperm.mem_iff]
  · rw [isSourceList_iff, isSourceList_iff, sourceItems_append_blank hright,
      sourceItems_prepend hleft]

/-- A list put together, reordered and spaced, and one whose second item is the first to blame. -/
theorem sourceLists_compose_mixed :
    IsSourceList ("10.0.1.0/24, ::1" ++ "," ++ "10.0.2.5") ∧
    IsSourceList "::1 ,10.0.1.0/24" ∧ IsSourceList (" " ++ "::1 ,10.0.1.0/24" ++ "\t") ∧
    checkSourceList "10.0.1.0/24, nowhere,10.0.1.0/99" = .error (.invalidAddress "nowhere") := by
  have hsubnet : IsSourceList "10.0.1.0/24, ::1" := ⟨(), rfl⟩
  have hhost : IsSourceList "10.0.2.5" := ⟨(), rfl⟩
  have hitems : sourceItems "10.0.1.0/24, ::1" = ["10.0.1.0/24", "::1"] := rfl
  have hswap : sourceItems "::1 ,10.0.1.0/24" = ["::1", "10.0.1.0/24"] := rfl
  have hswapped : (sourceItems "10.0.1.0/24, ::1").Perm (sourceItems "::1 ,10.0.1.0/24") := by
    rw [hitems, hswap]
    exact List.Perm.swap "::1" "10.0.1.0/24" []
  have hpassed : ∀ passed ∈ ["10.0.1.0/24"], IsSource passed := by
    have hsources := isSourceList_iff.mp hsubnet
    rw [hitems, List.forall_mem_cons] at hsources
    exact List.forall_mem_singleton.mpr hsources.1
  obtain ⟨hjoin, hreorder, hspace, hrefuse⟩ := sourceLists_compose
  have hreordered := (hreorder _ _ hswapped).mp hsubnet
  refine ⟨(hjoin _ _).mpr ⟨hsubnet, hhost⟩, hreordered, (hspace " " _ "\t" rfl rfl).mpr hreordered,
    (hrefuse _ _ ⟨'1', by decide, by decide⟩).mpr ⟨_, "nowhere", ["10.0.1.0/99"], rfl, hpassed, ?_⟩⟩
  rw [SourceRefused, if_neg (by decide)]
  rfl

end Network

end PolicyRollout
