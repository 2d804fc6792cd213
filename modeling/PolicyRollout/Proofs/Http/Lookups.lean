import PolicyRollout.Proofs.Http.Paths
/-!
Where a template is looked up.  Its id becomes the last segment of the path, and the segment stands
for the id and for nothing else.  The exception are the ids of one dot and of two dots: a segment
of dots is resolved when the URL is read, so `.` is asked for where the empty id is, and `..` above
all templates.
-/
namespace PolicyRollout.Http

open Url (Bare Tidy Stem IsTail isSlash isPathSafe dots? enter resolve)

section Segment

/-- A segment that counts as dots is decoded to as many dots. -/
theorem percentDecode_of_dots? {cs : List Char} {n : Nat} (hdots : dots? cs = some n) :
    percentDecode cs = List.replicate n 0x2E := by
  have hdot : Text.encodeChar '.' = [0x2E] := by decide
  fun_induction dots? cs generalizing n with
  | case1 =>
      cases hdots
      rfl
  | case2 rest ih =>
      obtain ⟨m, hm, rfl⟩ := Option.map_eq_some_iff.mp hdots
      rw [percentDecode_cons (by decide), hdot, ih hm, List.replicate_succ, List.singleton_append]
  | case3 e rest he ih =>
      obtain ⟨m, hm, rfl⟩ := Option.map_eq_some_iff.mp hdots
      have hletter : e = 'e' ∨ e = 'E' := by simpa using he
      have hcode : percentDecode ('%' :: '2' :: e :: rest) = 0x2E :: percentDecode rest := by
        rcases hletter with rfl | rfl <;> rfl
      rw [hcode, ih hm, List.replicate_succ]
  | case4 => contradiction
  | case5 => contradiction

theorem eq_of_dots?_encodeSegment {id : String} {n : Nat}
    (hdots : dots? (encodeSegment id) = some n) :
    id = Text.decodeLenient (List.replicate n 0x2E) := by
  rw [← percentDecode_of_dots? hdots, decode_encodeSegment]

theorem dots?_encodeSegment_eq_one_iff {id : String} :
    dots? (encodeSegment id) = some 1 ↔ id = "." := by
  constructor
  · intro hdots
    rw [eq_of_dots?_encodeSegment hdots]
    decide +kernel
  · rintro rfl
    decide +kernel

theorem dots?_encodeSegment_eq_two_iff {id : String} :
    dots? (encodeSegment id) = some 2 ↔ id = ".." := by
  constructor
  · intro hdots
    rw [eq_of_dots?_encodeSegment hdots]
    decide +kernel
  · rintro rfl
    decide +kernel

/-- A segment holds no slash, and nothing in it is encoded once more. -/
theorem of_mem_encodeSegment {id : String} {c : Char} (hc : c ∈ encodeSegment id) :
    isPathSafe c = true ∧ isSlash c = false := by
  have hplain : c.isAlphanum = true → isPathSafe c = true ∧ isSlash c = false := by
    intro hletter
    refine ⟨Url.isPlain_of_isAlphanum rfl hletter, ?_⟩
    rw [Bool.eq_false_iff]
    intro hslash
    have hcases : c = '/' ∨ c = '\\' := by simpa [isSlash] using hslash
    rcases hcases with rfl | rfl <;> contradiction
  rcases mem_percentEncode hc with hsafe | rfl | hletter
  · have hcases : c.isAlphanum = true ∨ c = '-' ∨ c = '_' ∨ c = '.' ∨ c = '~' := by
      simpa [isUnreserved, or_assoc] using hsafe
    rcases hcases with hletter | rfl | rfl | rfl | rfl
    · exact hplain hletter
    all_goals decide
  · decide
  · exact hplain hletter

theorem isTail_encodeSegment (id : String) : IsTail ('/' :: encodeSegment id) := by
  have hslash : Url.isControlOrSpace '/' = false ∧ '/' ≠ '#' := by decide
  refine List.forall_mem_cons.mpr ⟨hslash, fun c hc => ?_⟩
  have hsafe := Url.of_isPathSafe (of_mem_encodeSegment hc).1
  exact ⟨hsafe.1, hsafe.2.1⟩

end Segment

/-- The path at which a template is looked up, behind that of the platform. -/
def lookupPath (id : String) : List Char :=
  if id = "." then "/api/v1/templates/".toList
  else if id = ".." then "/api/v1/".toList
  else "/api/v1/templates/".toList ++ encodeSegment id

namespace Client

/-- The segments of the path below which the platform answers. -/
def rootSegments : List (List Char) :=
  ["api".toList, "v1".toList, "templates".toList]

theorem splitEvery_root : splitEvery isSlash root.tail = rootSegments := by
  decide +kernel

theorem foldl_enter_rootSegments (done : List (List Char)) :
    rootSegments.foldl enter done = rootSegments.reverse ++ done := by
  rfl

theorem splitEvery_lookup (id : String) :
    splitEvery isSlash (root.tail ++ '/' :: encodeSegment id) =
      rootSegments ++ [encodeSegment id] := by
  rw [splitEvery_append rfl, splitEvery_root,
    splitEvery_eq_singleton fun c hc => (of_mem_encodeSegment hc).2]

/-- What is behind the path of the platform once the dots in it are resolved. -/
theorem exists_resolve_lookup (front : List (List Char)) (id : String) :
    ∃ others, resolve front.reverse (splitEvery isSlash (root.tail ++ '/' :: encodeSegment id)) =
        front ++ others ∧
      others.flatMap ('/' :: ·) = lookupPath id := by
  rw [splitEvery_lookup, Url.resolve_append _ _ (List.cons_ne_nil _ _), foldl_enter_rootSegments,
    Url.resolve_singleton]
  by_cases hone : id = "."
  · have hdots := dots?_encodeSegment_eq_one_iff.mpr hone
    refine ⟨rootSegments ++ [[]], ?_, ?_⟩
    · rw [Url.enter, hdots, if_pos (Or.inl rfl)]
      simp
    · rw [lookupPath, if_pos hone]
      decide +kernel
  by_cases htwo : id = ".."
  · have hdots := dots?_encodeSegment_eq_two_iff.mpr htwo
    refine ⟨["api".toList, "v1".toList] ++ [[]], ?_, ?_⟩
    · rw [Url.enter, hdots, if_pos (Or.inr rfl)]
      simp [rootSegments]
    · rw [lookupPath, if_neg hone, if_pos htwo]
      decide +kernel
  · have hnone := mt dots?_encodeSegment_eq_one_iff.mp hone
    have hntwo := mt dots?_encodeSegment_eq_two_iff.mp htwo
    have hself : percentEncode isPathSafe (encodeSegment id) = encodeSegment id :=
      percentEncode_eq_self fun c hc => (of_mem_encodeSegment hc).1
    refine ⟨rootSegments ++ [encodeSegment id], ?_, ?_⟩
    · rw [Url.enter_of_not_dots _ hnone hntwo, hself, if_neg (not_or.mpr ⟨hnone, hntwo⟩)]
      simp
    · rw [lookupPath, if_neg hone, if_neg htwo]
      simp [rootSegments]

section Behind

variable {base : String} (stem : Stem base)

/-- Segments behind a base stand behind its path. -/
theorem pathText_url (others : List (List Char)) :
    (stem.url others).pathText =
      stem.front.flatMap ('/' :: ·) ++ others.flatMap ('/' :: ·) :=
  List.flatMap_append

theorem pathText_url_replicate (k : Nat) :
    (stem.url (List.replicate k [])).pathText =
      stem.front.flatMap ('/' :: ·) ++ List.replicate k '/' := by
  rw [pathText_url]
  induction k with
  | zero => rfl
  | succ k ih =>
      have hslash : [([] : List Char)].flatMap ('/' :: ·) = ['/'] := rfl
      rw [List.replicate_succ', List.flatMap_append, hslash, ← List.append_assoc, ih,
        List.replicate_succ', ← List.append_assoc]

theorem parse?_slash (hbare : Bare base) :
    Url.parse? (base ++ "/") = some (stem.url [[]]) := by
  have hothers : resolve stem.front.reverse (splitEvery isSlash []) = stem.front ++ [[]] := by
    have hrest : resolve stem.front.reverse (splitEvery isSlash []) =
        ([] :: stem.front.reverse).reverse := rfl
    rw [hrest]
    simp
  exact stem.parse?_append hbare (by decide) (by decide) hothers

theorem exists_parse?_lookup (hbare : Bare base) (id : String) :
    ∃ others, Url.parse? (base ++ "/api/v1/templates" ++ String.ofList ('/' :: encodeSegment id)) =
        some (stem.url others) ∧
      others.flatMap ('/' :: ·) = lookupPath id := by
  obtain ⟨others, hothers, hpath⟩ := exists_resolve_lookup stem.front id
  have htext : base ++ "/api/v1/templates" ++ String.ofList ('/' :: encodeSegment id) =
      base ++ String.ofList ('/' :: (root.tail ++ '/' :: encodeSegment id)) := by
    rw [← ofList_root, String.append_assoc, ← String.ofList_append]
    rfl
  have htail : IsTail ('/' :: (root.tail ++ '/' :: encodeSegment id)) :=
    isTail_root_append (isTail_encodeSegment id)
  have hquery : '?' ∉ root.tail ++ '/' :: encodeSegment id := by
    intro hmem
    have hroot : '?' ∉ root.tail := by decide +kernel
    rcases List.mem_append.mp hmem with hmem | hmem
    · exact hroot hmem
    · rcases List.mem_cons.mp hmem with heq | hmem
      · exact absurd heq (by decide)
      · exact (Url.of_isPathSafe (of_mem_encodeSegment hmem).1).2.2 rfl
  exact ⟨others, htext ▸ stem.parse?_append hbare htail hquery hothers, hpath⟩

theorem parse?_root (hbare : Bare base) :
    Url.parse? (base ++ "/api/v1/templates") = some (stem.url rootSegments) := by
  have hothers : resolve stem.front.reverse (splitEvery isSlash root.tail) =
      stem.front ++ rootSegments := by
    have hrest : resolve stem.front.reverse rootSegments =
        (rootSegments.reverse ++ stem.front.reverse).reverse := rfl
    rw [splitEvery_root, hrest]
    simp
  have htail : IsTail ('/' :: root.tail) := by decide +kernel
  have hquery : '?' ∉ root.tail := by decide +kernel
  rw [← ofList_root]
  exact stem.parse?_append hbare htail hquery hothers

theorem flatMap_rootSegments : rootSegments.flatMap ('/' :: ·) = root := by
  decide +kernel

/-- A listing is asked for at the path of the templates, or behind a question mark. -/
theorem target_list (hbare : Bare base) {authorization : String} {call : Call} {r : Request}
    (hr : (⟨base, authorization⟩ : Client).request? call = some r) (hget : r.method = .get) :
    ∃ more, more.head? ≠ some '/' ∧
      r.target = String.ofList (stem.front.flatMap ('/' :: ·) ++ (root ++ more)) := by
  cases call with
  | list category tags =>
      obtain ⟨url, hurl, hwritten⟩ := Option.bind_eq_some_iff.mp hr
      cases hwritten
      have hparsed : url = stem.url rootSegments := by
        rw [url?, String.ofList_nil, String.append_empty, parse?_root stem hbare] at hurl
        exact (Option.some_inj.mp (Option.filter_eq_some_iff.mp hurl).1).symm
      subst hparsed
      have hpath : ∀ pairs, ((stem.url rootSegments).addPairs pairs).pathText =
          stem.front.flatMap ('/' :: ·) ++ root := by
        intro pairs
        rw [← flatMap_rootSegments]
        exact pathText_url stem rootSegments
      cases hquery : ((stem.url rootSegments).addPairs (filterPairs category tags)).query with
      | none => exact ⟨[], by simp, by simp only [requestTo, Url.target, hpath, hquery]; simp⟩
      | some query =>
          exact ⟨'?' :: query, by simp, by simp only [requestTo, Url.target, hpath, hquery]; simp⟩
  | validate id vars =>
      obtain ⟨url, hurl, hwritten⟩ := Option.bind_eq_some_iff.mp hr
      cases hwritten
      contradiction
  | instantiate id vars switch dryRun =>
      obtain ⟨url, hurl, hwritten⟩ := Option.bind_eq_some_iff.mp hr
      cases hwritten
      contradiction

end Behind

end Client

theorem lookupPath_ne (id : String) {more : List Char} (hmore : more.head? ≠ some '/') :
    lookupPath id ≠ Client.root ++ more := by
  have hroot : "/api/v1/templates/".toList = Client.root ++ ['/'] := by decide +kernel
  intro heq
  rw [lookupPath, hroot] at heq
  split at heq
  · exact hmore (List.append_cancel_left heq ▸ rfl)
  split at heq
  · have hlength := congrArg List.length heq
    have hlong : ("/api/v1/".toList).length < Client.root.length := by decide +kernel
    rw [List.length_append] at hlength
    omega
  · rw [List.append_assoc] at heq
    exact hmore (List.append_cancel_left heq ▸ rfl)

theorem lookupPath_injective {id id' : String} (hid : id ≠ "." ∧ id ≠ "..")
    (hid' : id' ≠ "." ∧ id' ≠ "..") (heq : lookupPath id = lookupPath id') : id = id' := by
  rw [lookupPath, if_neg hid.1, if_neg hid.2, lookupPath, if_neg hid'.1, if_neg hid'.2] at heq
  exact encodeSegment_injective (List.append_cancel_left heq)

namespace Client

/-- A template is asked for: where the base leads, and where nothing else is asked for. -/
structure LooksUp (c : Client) (base : Url) (front : List Char) (id : String) (q : Request) :
    Prop where
  sent : c.templateRequest? id = some q
  method : q.method = .get
  scheme : q.scheme = base.scheme
  host : q.host = base.host
  port : q.port = base.port.getD (usualPort base.scheme)
  target : q.target = String.ofList (front ++ lookupPath id)
  apart : ∀ call r, c.request? call = some r → ¬(r.method = q.method ∧ r.target = q.target)

/-- A template is asked for exactly where requests can be sent. -/
theorem exists_looksUp_iff {base : String} (stem : Stem base) (hbare : Bare base)
    (authorization id : String) :
    (∃ q, LooksUp ⟨base, authorization⟩ (stem.url [[]]) (stem.front.flatMap ('/' :: ·)) id q) ↔
      (stem.url [[]]).isSendable = true := by
  obtain ⟨others, hparse, hpath⟩ := exists_parse?_lookup stem hbare id
  let c : Client := ⟨base, authorization⟩
  have hurl : c.url? ('/' :: encodeSegment id) = (some (stem.url others)).filter Url.isSendable :=
    congrArg (Option.filter Url.isSendable) hparse
  constructor
  · rintro ⟨q, hq⟩
    obtain ⟨url, hfound, _⟩ := Option.bind_eq_some_iff.mp hq.sent
    obtain ⟨hsame, hsendable⟩ := Option.filter_eq_some_iff.mp (hurl.symm.trans hfound)
    obtain rfl := Option.some_inj.mp hsame
    exact hsendable
  · intro hsendable
    have hfound : c.url? ('/' :: encodeSegment id) = some (stem.url others) :=
      hurl.trans (Option.filter_eq_some_iff.mpr ⟨rfl, hsendable⟩)
    have htarget : (stem.url others).target =
        String.ofList (stem.front.flatMap ('/' :: ·) ++ lookupPath id) := by
      rw [Url.target, pathText_url, hpath]
      exact congrArg String.ofList (List.append_nil _)
    refine ⟨c.requestTo .get (stem.url others) "", ?_, rfl, rfl, rfl, rfl, htarget, ?_⟩
    · rw [templateRequest?, hfound]
      rfl
    · rintro call r hr ⟨hmethod, hsame⟩
      obtain ⟨more, hmore, hlisted⟩ := target_list stem hbare hr hmethod
      have heq := String.ofList_injective (hlisted.symm.trans (hsame.trans htarget))
      exact lookupPath_ne id hmore (List.append_cancel_left heq).symm

/-- A template is asked for behind the path of the base, which is read without the slashes at its
end, over http and https and not otherwise, and the last segment of the path is decoded to its id;
so templates are asked for at different paths, and at none where anything else is asked for.  Of
two ids this does not hold, which are dots only (`lookupPath`). -/
theorem lookups_addressed_but_for_dots {base : String} (hbare : Bare base) :
    (∀ v, Url.parse? base = some v → Tidy base →
      ∃ u front k, Url.parse? (dropTrailingSlashes base ++ "/") = some u ∧ u.origin = v.origin ∧
        u.pathText = front ++ ['/'] ∧ v.pathText = front ++ List.replicate k '/') ∧
    (∀ u, Url.parse? (dropTrailingSlashes base ++ "/") = some u →
      ∃ front, u.pathText = front ++ ['/'] ∧
        (∀ id, ∃ url,
          Url.parse? (dropTrailingSlashes base ++ "/api/v1/templates" ++
            String.ofList ('/' :: encodeSegment id)) = some url ∧
          url.origin = u.origin ∧ url.query = none ∧ url.pathText = front ++ lookupPath id) ∧
        ∀ authorization id,
          (∃ q, LooksUp ⟨dropTrailingSlashes base, authorization⟩ u front id q) ↔
            u.scheme = "http" ∨ u.scheme = "https") ∧
    (∀ id, '/' ∉ encodeSegment id ∧ Text.decodeLenient (percentDecode (encodeSegment id)) = id) ∧
    ∀ id id', id ∉ [".", ".."] → id' ∉ [".", ".."] → lookupPath id = lookupPath id' → id = id' := by
  have hb := hbare.dropTrailingSlashes
  refine ⟨?_, ?_, ?_, ?_⟩
  · intro v hv htidy
    obtain ⟨stem, k, rfl⟩ := Url.exists_stem hbare htidy hv
    exact ⟨_, _, k, parse?_slash stem hb, rfl, pathText_url_replicate stem 1,
      pathText_url_replicate stem k⟩
  · intro u hu
    obtain ⟨stem, rfl⟩ : ∃ stem : Stem (dropTrailingSlashes base), u = stem.url [[]] :=
      Url.exists_stem_of_slashes (k := 0) hb hu
    refine ⟨_, pathText_url_replicate stem 1, ?_, ?_⟩
    · intro id
      obtain ⟨others, hparse, hothers⟩ := exists_parse?_lookup stem hb id
      exact ⟨_, hparse, rfl, rfl, by rw [pathText_url, hothers]⟩
    · intro authorization id
      exact (exists_looksUp_iff stem hb authorization id).trans Url.isSendable_iff
  · intro id
    refine ⟨?_, decode_encodeSegment id⟩
    intro hmem
    have hslash := (of_mem_encodeSegment hmem).2
    contradiction
  · intro id id' hid hid' heq
    exact lookupPath_injective (by simpa using hid) (by simpa using hid') heq

theorem lookup_addressed_below_path :
    Bare "http://127.0.0.1:8080/a//" ∧
      ∃ u front q, Url.parse? "http://127.0.0.1:8080/a/" = some u ∧
        LooksUp ⟨"http://127.0.0.1:8080/a", "Bearer t"⟩ u front "50% of ü/?#" q := by
  have hbare : Bare "http://127.0.0.1:8080/a//" := by decide +kernel
  have hdropped : dropTrailingSlashes "http://127.0.0.1:8080/a//" = "http://127.0.0.1:8080/a" := by
    decide +kernel
  have hread : (Url.parse? "http://127.0.0.1:8080/a//").map Url.scheme = some "http" := by
    decide +kernel
  have htidy : Tidy "http://127.0.0.1:8080/a//" := by decide +kernel
  obtain ⟨hbase, hlookup, _⟩ := lookups_addressed_but_for_dots hbare
  obtain ⟨v, hv, hscheme⟩ := Option.map_eq_some_iff.mp hread
  obtain ⟨u, _, _, hu, horigin, _⟩ := hbase v hv htidy
  obtain ⟨front, _, _, hsent⟩ := hlookup u hu
  obtain ⟨q, hq⟩ := (hsent "Bearer t" "50% of ü/?#").mpr
    (Or.inl ((congrArg Prod.fst horigin).trans hscheme))
  rw [hdropped] at hu hq
  exact ⟨hbare, u, front, q, hu, hq⟩

/-- Two dots lead above the templates, and one dot leads where the empty id does. -/
theorem dots_lookup_misaddressed :
    ((⟨"http://127.0.0.1:8080", "Bearer t"⟩ : Client).templateRequest? "..").map Request.target =
        some "/api/v1/" ∧
      (¬ ∃ segment, '/' ∉ segment ∧
        ((⟨"http://127.0.0.1:8080", "Bearer t"⟩ : Client).templateRequest? "..").map
            Request.target = some ("/api/v1/templates/" ++ String.ofList segment)) ∧
      (⟨"http://127.0.0.1:8080", "Bearer t"⟩ : Client).templateRequest? "." =
        (⟨"http://127.0.0.1:8080", "Bearer t"⟩ : Client).templateRequest? "" := by
  have htarget : ((⟨"http://127.0.0.1:8080", "Bearer t"⟩ : Client).templateRequest? "..").map
      Request.target = some "/api/v1/" := by decide +kernel
  refine ⟨htarget, ?_, by decide +kernel⟩
  rintro ⟨segment, _, hsegment⟩
  have htext := Option.some_inj.mp (htarget.symm.trans hsegment)
  have hlength := congrArg (fun text => text.toList.length) htext
  have hshort : "/api/v1/".toList.length < "/api/v1/templates/".toList.length := by decide +kernel
  simp only [String.toList_append, List.length_append] at hlength
  omega

end Client

end PolicyRollout.Http
