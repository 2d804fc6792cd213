import PolicyRollout.Proofs.Http.Destinations
import PolicyRollout.Proofs.Http.Percent
/-!
Paths below a base.  A text that leads to a host, and that names neither query nor fragment, can be
continued with a path: the host stays, and the segments of the base stand before those that follow.
-/
namespace PolicyRollout.Http

section Split

variable {mark : Char → Bool}

theorem splitEvery_ne_nil (cs : List Char) : splitEvery mark cs ≠ [] := by
  cases cs with
  | nil => exact List.cons_ne_nil _ _
  | cons c rest =>
      rw [splitEvery]
      split
      · exact List.cons_ne_nil _ _
      · split
        · exact List.cons_ne_nil _ _
        · exact List.cons_ne_nil _ _

/-- A text falls apart at each mark. -/
theorem splitEvery_append {stop : Char} (hstop : mark stop = true) (front back : List Char) :
    splitEvery mark (front ++ stop :: back) = splitEvery mark front ++ splitEvery mark back := by
  induction front with
  | nil => simp [splitEvery, hstop]
  | cons c rest ih =>
      rw [List.cons_append, splitEvery, splitEvery, ih]
      by_cases hc : mark c = true
      · simp [hc]
      · obtain ⟨part, parts, hparts⟩ :=
          List.exists_cons_of_ne_nil (@splitEvery_ne_nil mark rest)
        simp [hc, hparts]

theorem splitEvery_eq_singleton {cs : List Char} (hcs : ∀ c ∈ cs, mark c = false) :
    splitEvery mark cs = [cs] := by
  induction cs with
  | nil => rfl
  | cons c rest ih =>
      obtain ⟨hc, hrest⟩ := List.forall_mem_cons.mp hcs
      simp [splitEvery, hc, ih hrest]

theorem splitFirst_of_not_mem {stop : Char} {cs : List Char} (hcs : stop ∉ cs) :
    splitFirst stop cs = (cs, none) := by
  have hall : ∀ c ∈ cs, decide (c ≠ stop) = true :=
    fun c hc => decide_eq_true fun heq => hcs (heq ▸ hc)
  rw [splitFirst, List.takeWhile_eq_self_iff.mpr hall, List.dropWhile_eq_nil_iff.mpr hall]
  rfl

end Split

namespace Url

section Plain

theorem toNat_of_isAlphanum {c : Char} (hc : c.isAlphanum = true) :
    0x20 < c.toNat ∧ c.toNat < 0x7F := by
  have hrange : ∀ low high : Char, 0x20 < low.toNat → high.toNat < 0x7F →
      low.val ≤ c.val ∧ c.val ≤ high.val → 0x20 < c.toNat ∧ c.toNat < 0x7F :=
    fun _ _ hlow hhigh hin => ⟨Nat.lt_of_lt_of_le hlow hin.1, Nat.lt_of_le_of_lt hin.2 hhigh⟩
  rcases Bool.or_eq_true_iff.mp hc with halpha | hdigit
  · rcases Bool.or_eq_true_iff.mp halpha with hupper | hlower
    · exact hrange 'A' 'Z' (by decide) (by decide) (of_decide_eq_true hupper)
    · obtain ⟨hfrom, hto⟩ := Bool.and_eq_true_iff.mp hlower
      exact hrange 'a' 'z' (by decide) (by decide) ⟨of_decide_eq_true hfrom, of_decide_eq_true hto⟩
  · obtain ⟨hfrom, hto⟩ := Bool.and_eq_true_iff.mp hdigit
    exact hrange '0' '9' (by decide) (by decide) ⟨of_decide_eq_true hfrom, of_decide_eq_true hto⟩

/-- Letters and digits stand for themselves, unless they are excepted. -/
theorem isPlain_of_isAlphanum {except : List Char}
    (hexcept : except.all (fun c => !c.isAlphanum) = true) {c : Char}
    (hc : c.isAlphanum = true) : isPlain except c = true := by
  have hmem : c ∉ except := by
    intro hmem
    have hother := List.all_eq_true.mp hexcept c hmem
    rw [hc] at hother
    contradiction
  simp [isPlain, toNat_of_isAlphanum hc, hmem]

/-- What stands for itself in a path ends no text, and begins neither query nor fragment. -/
theorem of_isPathSafe {c : Char} (hc : isPathSafe c = true) :
    isControlOrSpace c = false ∧ c ≠ '#' ∧ c ≠ '?' := by
  refine ⟨?_, ?_, ?_⟩
  · have hbounds : 0x20 < c.toNat := by
      simp only [isPathSafe, isPlain, Bool.and_eq_true, decide_eq_true_eq] at hc
      exact hc.1.1
    simpa [isControlOrSpace] using hbounds
  all_goals
    rintro rfl
    contradiction

end Plain

section Segments

/-- The segments after a segment that is not the last one; they are held last first. -/
def enter (done : List (List Char)) (segment : List Char) : List (List Char) :=
  match dots? segment with
  | some 1 => done
  | some 2 => done.tail
  | _ => percentEncode isPathSafe segment :: done

/-- A segment that others follow is entered. -/
theorem resolve_cons (done : List (List Char)) (segment : List Char) {rest : List (List Char)}
    (hrest : rest ≠ []) : resolve done (segment :: rest) = resolve (enter done segment) rest := by
  obtain ⟨next, others, rfl⟩ := List.exists_cons_of_ne_nil hrest
  rw [resolve, enter]
  · rcases dots? segment with _ | _ | _ | _ | count <;> rfl
  · exact hrest

theorem resolve_append (done segments : List (List Char)) {rest : List (List Char)}
    (hrest : rest ≠ []) :
    resolve done (segments ++ rest) = resolve (segments.foldl enter done) rest := by
  induction segments generalizing done with
  | nil => rfl
  | cons segment more ih =>
      rw [List.cons_append, List.foldl_cons, resolve_cons done segment (by simp [hrest]), ih]

/-- A last segment of one or two dots leaves an empty one. -/
theorem resolve_singleton (done : List (List Char)) (last : List Char) :
    resolve done [last] = (enter done last).reverse ++
      if dots? last = some 1 ∨ dots? last = some 2 then [[]] else [] := by
  rw [resolve, enter]
  rcases dots? last with _ | _ | _ | _ | count <;> simp

theorem enter_of_not_dots {segment : List Char} (done : List (List Char))
    (hone : dots? segment ≠ some 1) (htwo : dots? segment ≠ some 2) :
    enter done segment = percentEncode isPathSafe segment :: done := by
  rw [enter]
  split <;> first | contradiction | rfl

theorem foldl_enter_replicate (done : List (List Char)) (k : Nat) :
    (List.replicate k []).foldl enter done = List.replicate k [] ++ done := by
  induction k generalizing done with
  | zero => rfl
  | succ k ih =>
      have hempty : enter done [] = [] :: done := rfl
      rw [List.replicate_succ, List.foldl_cons, ih, hempty, List.append_cons,
        ← List.replicate_succ', List.replicate_succ]

end Segments

/-- The segments of a path that more follows. -/
def segments : (path : List Char) → List (List Char)
  | [] => []
  | _ :: path => splitEvery isSlash path

theorem readPath_append {path : List Char} (hpath : ∀ c ∈ path.head?, isSlash c = true)
    (more : List Char) :
    readPath (path ++ '/' :: more) =
      resolve ((segments path).foldl enter []) (splitEvery isSlash more) := by
  have hslash : isSlash '/' = true := rfl
  cases path with
  | nil => rfl
  | cons c path =>
      have hc := hpath c rfl
      rw [← resolve_append _ _ (splitEvery_ne_nil more), segments, ← splitEvery_append hslash]
      simp only [readPath, List.cons_append, hc, if_true]

/-- A path by itself is one that is continued, with an empty segment more if it ends in a slash or
in dots. -/
theorem exists_readPath_eq {path : List Char} (hpath : ∀ c ∈ path.head?, isSlash c = true) :
    ∃ k, readPath path =
      ((segments path).foldl enter []).reverse ++ List.replicate k [] := by
  cases path with
  | nil => exact ⟨1, rfl⟩
  | cons c path =>
      have hc := hpath c rfl
      obtain ⟨before, last, hlast⟩ := (List.eq_nil_or_concat (splitEvery isSlash path)).resolve_left
        (splitEvery_ne_nil path)
      rw [List.concat_eq_append] at hlast
      have hread : readPath (c :: path) = resolve [] (before ++ [last]) := by
        simp only [readPath, hc, if_true, hlast]
      rw [hread, segments, hlast, resolve_append _ _ (List.cons_ne_nil _ _), resolve_singleton,
        List.foldl_append, List.foldl_cons, List.foldl_nil]
      by_cases hdots : dots? last = some 1 ∨ dots? last = some 2
      · exact ⟨1, by rw [if_pos hdots]; rfl⟩
      · exact ⟨0, by rw [if_neg hdots]; rfl⟩

theorem mem_of_takeScheme {cs scheme rest : List Char} (htake : takeScheme cs = some (scheme, rest))
    {c : Char} (hc : c ∈ rest) : c ∈ cs := by
  unfold takeScheme at htake
  simp only at htake
  split at htake
  · rename_i front back htaken hdropped
    split at htake
    · simp only [Option.some_inj, Prod.mk.injEq] at htake
      obtain ⟨_, rfl⟩ := htake
      apply (List.dropWhile_suffix _).subset
      rw [hdropped]
      exact List.mem_cons_of_mem _ hc
    · contradiction
  · contradiction

/-- What is read of a text before a path is put behind it: it leads to a host. -/
structure Stem (base : String) where
  scheme : List Char
  rest : List Char
  host : String
  port : Option Nat
  takes : takeScheme (opening base) = some (scheme, rest)
  leads : readAuthority (authority rest) = some (host, port)

namespace Stem

variable {base : String}

/-- The segments of a text that a path is put behind. -/
def front (stem : Stem base) : List (List Char) :=
  ((segments (afterAuthority stem.rest)).foldl enter []).reverse

/-- The URL of some segments behind a text. -/
def url (stem : Stem base) (others : List (List Char)) : Url where
  scheme := String.ofList stem.scheme
  userInfo := readUserInfo (authority stem.rest)
  host := stem.host
  port := stem.port
  path := stem.front ++ others
  query := none

end Stem

theorem readAuthority_nil : readAuthority [] = none := by
  decide +kernel

section Continued

variable {rest : List Char} (more : List Char)

theorem dropWhile_isSlash_ne_nil {host : String} {port : Option Nat}
    (hleads : readAuthority (authority rest) = some (host, port)) :
    rest.dropWhile isSlash ≠ [] := by
  intro hnil
  rw [authority, hnil, List.takeWhile_nil, readAuthority_nil] at hleads
  contradiction

/-- The slashes before an authority end before it. -/
theorem dropWhile_isSlash_append (hrest : rest.dropWhile isSlash ≠ []) :
    (rest ++ '/' :: more).dropWhile isSlash = rest.dropWhile isSlash ++ '/' :: more := by
  rw [List.dropWhile_append, if_neg (by simpa using hrest)]

theorem authority_continued (hrest : rest.dropWhile isSlash ≠ []) :
    authority (rest ++ '/' :: more) = authority rest := by
  have hslash : isInside '/' = false := rfl
  rw [authority, dropWhile_isSlash_append more hrest, takeWhile_append_stop _ _ hslash, authority]

theorem afterAuthority_continued (hrest : rest.dropWhile isSlash ≠ []) :
    afterAuthority (rest ++ '/' :: more) = afterAuthority rest ++ '/' :: more := by
  have hslash : isInside '/' = false := rfl
  rw [afterAuthority, dropWhile_isSlash_append more hrest, dropWhile_append_stop _ _ hslash,
    afterAuthority]

theorem mem_of_mem_afterAuthority {c : Char} (hc : c ∈ afterAuthority rest) : c ∈ rest :=
  (List.dropWhile_suffix _).subset ((List.dropWhile_suffix _).subset hc)

/-- A path begins with a slash. -/
theorem isSlash_of_head?_afterAuthority (hquery : '?' ∉ rest) :
    ∀ c ∈ (afterAuthority rest).head?, isSlash c = true := by
  intro c hc
  have hinside := List.head?_dropWhile_not isInside (rest.dropWhile isSlash)
  rw [afterAuthority] at hc
  rw [hc] at hinside
  have hne : c ≠ '?' := by
    rintro rfl
    exact hquery (mem_of_mem_afterAuthority (List.mem_of_mem_head? hc))
  simpa [isInside, hne] using hinside

end Continued

/-- A text that can be followed by a path names neither query nor fragment. -/
def Bare (text : String) : Prop :=
  ∀ c ∈ text.toList, c ≠ '?' ∧ c ≠ '#'

instance (text : String) : Decidable (Bare text) :=
  List.decidableBAll (fun c => c ≠ '?' ∧ c ≠ '#') text.toList

theorem mem_of_mem_opening {base : String} {c : Char} (hc : c ∈ opening base) : c ∈ base.toList :=
  (List.dropWhile_suffix _).subset (List.mem_filter.mp hc).1

section Bare

variable {base : String}

theorem Bare.rest (hbare : Bare base) {scheme rest : List Char}
    (htakes : takeScheme (opening base) = some (scheme, rest)) :
    ∀ c ∈ rest, c ≠ '?' ∧ c ≠ '#' :=
  fun c hc => hbare c (mem_of_mem_opening (mem_of_takeScheme htakes hc))

/-- What is put behind a text changes nothing before it. -/
theorem parse?_append (hbare : Bare base) {cs : List Char} (hhead : cs.head? = some '/')
    (htail : IsTail cs) (hquery : '?' ∉ cs) :
    parse? (base ++ String.ofList cs) =
      (takeScheme (opening base)).bind fun (scheme, rest) =>
        (readAuthority (authority (rest ++ cs))).map fun (host, port) =>
          { scheme := String.ofList scheme
            userInfo := readUserInfo (authority (rest ++ cs))
            host
            port
            path := readPath (afterAuthority (rest ++ cs))
            query := none } := by
  rw [parse?_eq_bind, clean_append base hhead htail, takeScheme_append _ hhead]
  cases htakes : takeScheme (opening base) with
  | none => rfl
  | some found =>
      obtain ⟨scheme, rest⟩ := found
      have hrest := hbare.rest htakes
      have hfragment : '#' ∉ rest ++ cs := by
        intro hmem
        rcases List.mem_append.mp hmem with hmem | hmem
        · exact (hrest _ hmem).2 rfl
        · exact (htail _ hmem).2 rfl
      have hmark : '?' ∉ afterAuthority (rest ++ cs) := by
        intro hmem
        rcases List.mem_append.mp (mem_of_mem_afterAuthority hmem) with hmem | hmem
        · exact (hrest _ hmem).1 rfl
        · exact hquery hmem
      simp only [Option.map_some, Option.bind_some, splitFirst_of_not_mem hfragment,
        splitFirst_of_not_mem hmark, Option.map_none]

/-- A path behind a text that leads to a host is that of the text, continued. -/
theorem Stem.parse?_append (stem : Stem base) (hbare : Bare base) {more : List Char}
    {others : List (List Char)} (htail : IsTail ('/' :: more)) (hquery : '?' ∉ more)
    (hothers : resolve stem.front.reverse (splitEvery isSlash more) = stem.front ++ others) :
    parse? (base ++ String.ofList ('/' :: more)) = some (stem.url others) := by
  have hrest := dropWhile_isSlash_ne_nil stem.leads
  have hslash := isSlash_of_head?_afterAuthority
    fun hmem => (hbare.rest stem.takes _ hmem).1 rfl
  rw [Stem.front, List.reverse_reverse] at hothers
  rw [Url.parse?_append hbare rfl htail (by simpa using hquery), stem.takes, Option.bind_some]
  simp only [authority_continued more hrest, afterAuthority_continued more hrest, stem.leads,
    Option.map_some, readPath_append hslash, hothers]
  rfl

end Bare

section Slashes

/-- A text is what is left without the slashes at its end, and these slashes. -/
theorem exists_eq_append_slashes (text : String) :
    ∃ k, text = Client.dropTrailingSlashes text ++ String.ofList (List.replicate k '/') := by
  obtain ⟨k, hk⟩ : ∃ k, text.toList.reverse.takeWhile (· = '/') = List.replicate k '/' :=
    ⟨_, List.eq_replicate_of_mem fun c hc => by simpa using List.mem_takeWhile_imp hc⟩
  refine ⟨k, String.toList_injective ?_⟩
  rw [String.toList_append, Client.dropTrailingSlashes, String.toList_ofList, String.toList_ofList,
    ← List.reverse_replicate, ← hk, ← List.reverse_append, List.takeWhile_append_dropWhile,
    List.reverse_reverse]

theorem splitEvery_replicate (k : Nat) :
    splitEvery isSlash (List.replicate k '/') = List.replicate (k + 1) [] := by
  have hslash : isSlash '/' = true := rfl
  induction k with
  | zero => rfl
  | succ k ih => rw [List.replicate_succ, splitEvery, if_pos hslash, ih, ← List.replicate_succ]

theorem resolve_replicate (done : List (List Char)) (k : Nat) :
    resolve done (List.replicate (k + 1) []) = done.reverse ++ List.replicate (k + 1) [] := by
  have hsingleton : resolve (List.replicate k [] ++ done) [[]] =
      ([] :: (List.replicate k [] ++ done)).reverse := rfl
  rw [List.replicate_succ', resolve_append _ _ (List.cons_ne_nil _ _), foldl_enter_replicate,
    hsingleton]
  simp

theorem isTail_replicate (k : Nat) : IsTail (List.replicate k '/') := by
  intro c hc
  rw [List.eq_of_mem_replicate hc]
  exact ⟨rfl, by decide⟩

theorem not_mem_replicate (k : Nat) : '?' ∉ List.replicate k '/' :=
  fun hmem => by simpa using List.eq_of_mem_replicate hmem

variable {base : String}

/-- Slashes alone lead to no host. -/
theorem dropWhile_isSlash_ne_nil_of_slashes {rest : List Char} {host : String} {port : Option Nat}
    (k : Nat)
    (hleads : readAuthority (authority (rest ++ List.replicate k '/')) = some (host, port)) :
    rest.dropWhile isSlash ≠ [] := by
  intro hnil
  have hslashes : (rest ++ List.replicate k '/').dropWhile isSlash = [] := by
    rw [List.dropWhile_append, hnil]
    simp [isSlash]
  exact dropWhile_isSlash_ne_nil hleads hslashes

/-- A text that leads to a host with slashes behind it leads there without them. -/
theorem exists_stem_of_slashes (hbare : Bare base) {k : Nat} {v : Url}
    (hv : parse? (base ++ String.ofList ('/' :: List.replicate k '/')) = some v) :
    ∃ stem : Stem base, v = stem.url (List.replicate (k + 1) []) := by
  have htail : IsTail ('/' :: List.replicate k '/') := isTail_replicate (k + 1)
  have hquery : '?' ∉ '/' :: List.replicate k '/' := not_mem_replicate (k + 1)
  obtain ⟨stem⟩ : Nonempty (Stem base) := by
    rw [Url.parse?_append hbare rfl htail hquery,
      Option.bind_eq_some_iff] at hv
    obtain ⟨⟨scheme, rest⟩, htakes, hfound⟩ := hv
    obtain ⟨⟨host, port⟩, hleads, _⟩ := Option.map_eq_some_iff.mp hfound
    have hrest := dropWhile_isSlash_ne_nil_of_slashes (k + 1) hleads
    rw [authority_continued _ hrest] at hleads
    exact ⟨scheme, rest, host, port, htakes, hleads⟩
  have hothers : resolve stem.front.reverse (splitEvery isSlash (List.replicate k '/')) =
      stem.front ++ List.replicate (k + 1) [] := by
    rw [splitEvery_replicate, resolve_replicate, List.reverse_reverse]
  have hparse := stem.parse?_append hbare htail (not_mem_replicate k) hothers
  exact ⟨stem, Option.some_inj.mp (hv.symm.trans hparse)⟩

/-- A text whose last character counts, if it has one. -/
def Tidy (text : String) : Prop :=
  ∀ c ∈ text.toList.getLast?, isControlOrSpace c = false

instance (text : String) : Decidable (Tidy text) :=
  decidable_of_iff (text.toList.getLast?.all (fun c => !isControlOrSpace c) = true) (by
    rw [Tidy]
    cases text.toList.getLast? <;> simp)

/-- Nothing is lost at the end of a text whose last character counts. -/
theorem clean_eq_opening (htidy : Tidy base) : clean base = opening base := by
  rw [clean, opening]
  rcases List.eq_nil_or_concat (base.toList.dropWhile isControlOrSpace) with hnil | ⟨cs, c, hcs⟩
  · rw [hnil]
    rfl
  · have hlast : base.toList.getLast? = some c := by
      have hsuffix : base.toList.dropWhile isControlOrSpace <:+ base.toList :=
        List.dropWhile_suffix _
      rw [hcs] at hsuffix
      obtain ⟨front, hfront⟩ := hsuffix
      rw [← hfront]
      simp
    have hc := htidy c hlast
    rw [hcs]
    simp [hc]

/-- The path of a text itself is that before which it is continued, with one empty segment more if
the text ends in a slash or in dots. -/
theorem exists_stem_of_tidy (hbare : Bare base) (htidy : Tidy base) {v : Url}
    (hv : parse? base = some v) :
    ∃ (stem : Stem base) (k : Nat), v = stem.url (List.replicate k []) := by
  rw [parse?_eq_bind, clean_eq_opening htidy, Option.bind_eq_some_iff] at hv
  obtain ⟨⟨scheme, rest⟩, htakes, hfound⟩ := hv
  have hrest := hbare.rest htakes
  have hfragment : '#' ∉ rest := fun hmem => (hrest _ hmem).2 rfl
  have hmark : '?' ∉ afterAuthority rest :=
    fun hmem => (hrest _ (mem_of_mem_afterAuthority hmem)).1 rfl
  simp only [splitFirst_of_not_mem hfragment, splitFirst_of_not_mem hmark] at hfound
  obtain ⟨⟨host, port⟩, hleads, rfl⟩ := Option.map_eq_some_iff.mp hfound
  let stem : Stem base := ⟨scheme, rest, host, port, htakes, hleads⟩
  have hslash := isSlash_of_head?_afterAuthority fun hmem => (hrest _ hmem).1 rfl
  obtain ⟨k, hk⟩ := exists_readPath_eq hslash
  exact ⟨stem, k, by rw [hk]; rfl⟩

theorem Bare.dropTrailingSlashes (hbare : Bare base) : Bare (Client.dropTrailingSlashes base) := by
  obtain ⟨k, hk⟩ := exists_eq_append_slashes base
  intro c hc
  apply hbare c
  rw [hk, String.toList_append]
  exact List.mem_append_left _ hc

/-- A URL leads to a host also without the slashes at its end, and its path is continued without
the empty segments at its end. -/
theorem exists_stem (hbare : Bare base) (htidy : Tidy base) {v : Url} (hv : parse? base = some v) :
    ∃ (stem : Stem (Client.dropTrailingSlashes base)) (k : Nat),
      v = stem.url (List.replicate k []) := by
  obtain ⟨k, hk⟩ := exists_eq_append_slashes base
  cases k with
  | zero =>
      have hself : base = Client.dropTrailingSlashes base := by
        rw [List.replicate_zero, String.ofList_nil, String.append_empty] at hk
        exact hk
      rw [← hself]
      exact exists_stem_of_tidy hbare htidy hv
  | succ k =>
      rw [hk, List.replicate_succ] at hv
      obtain ⟨stem, hstem⟩ := exists_stem_of_slashes hbare.dropTrailingSlashes hv
      exact ⟨stem, k + 1, hstem⟩

end Slashes

end Url

end PolicyRollout.Http
