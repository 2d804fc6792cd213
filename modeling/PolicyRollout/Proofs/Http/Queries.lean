import PolicyRollout.Proofs.Http.Lookups
/-!
Filters of listings as queries.  Decoding the pairs of a query gives back the pairs that were
encoded, in their order; so a query says by what a listing is narrowed, and no two filters share
one.
-/
namespace PolicyRollout.Http

open Url (Bare Stem Tidy)

section Form

/-- The characters of a form that need no code once its plus signs are blanks. -/
def isFormSafeOrBlank (c : Char) : Bool :=
  c = ' ' || isFormSafe c

/-- The marks of a form are always encoded. -/
theorem of_mem_percentChar {c d : Char} (hd : d ∈ percentChar isFormSafe c) :
    d ≠ '&' ∧ d ≠ '=' ∧ d ≠ '+' := by
  refine ⟨?_, ?_, ?_⟩ <;> rintro rfl <;> rcases mem_percentChar hd with hsafe | heq | hletter <;>
    contradiction

theorem of_mem_formText {text : String} {d : Char} (hd : d ∈ formText text) :
    d ≠ '&' ∧ d ≠ '=' := by
  obtain ⟨c, _, hc⟩ := List.mem_flatMap.mp hd
  unfold formChar at hc
  split at hc
  · rw [List.mem_singleton.mp hc]
    decide
  · exact ⟨(of_mem_percentChar hc).1, (of_mem_percentChar hc).2.1⟩

/-- A character of a form whose plus signs are made blanks. -/
theorem map_plus_formChar (c : Char) :
    (formChar c).map (fun c => if c = '+' then ' ' else c) = percentChar isFormSafeOrBlank c := by
  unfold formChar
  split
  case isTrue hblank =>
    subst hblank
    rfl
  case isFalse hblank =>
    have hsafe : isFormSafeOrBlank c = isFormSafe c := by simp [isFormSafeOrBlank, hblank]
    have hplus : ∀ d ∈ percentChar isFormSafe c, (if d = '+' then ' ' else d) = d :=
      fun d hd => if_neg (of_mem_percentChar hd).2.2
    rw [List.map_congr_left hplus, List.map_id', percentChar, percentChar, hsafe]

theorem formDecodeText_formText (text : String) : formDecodeText (formText text) = text := by
  have hcode : (formText text).map (fun c => if c = '+' then ' ' else c) =
      percentEncode isFormSafeOrBlank text.toList := by
    simp only [formText, List.map_flatMap, map_plus_formChar, percentEncode]
  rw [formDecodeText, hcode, percentDecode_percentEncode (by decide)]
  exact Text.decodeLenient_encode text

theorem splitFirst_append_mark {mark : Char} {front : List Char} (hfront : mark ∉ front)
    (back : List Char) : splitFirst mark (front ++ mark :: back) = (front, some back) := by
  have hall : ∀ c ∈ front, decide (c ≠ mark) = true :=
    fun c hc => decide_eq_true fun heq => hfront (heq ▸ hc)
  rw [splitFirst, List.takeWhile_append_of_pos hall, List.dropWhile_append_of_pos hall]
  simp

theorem formDecodePair_formPair (p : String × String) : formDecodePair (formPair p) = p := by
  have hsplit : splitFirst '=' (formPair p) = (formText p.1, some (formText p.2)) :=
    splitFirst_append_mark (fun hmem => (of_mem_formText hmem).2 rfl) _
  rw [formDecodePair, hsplit]
  exact Prod.ext (formDecodeText_formText p.1) (formDecodeText_formText p.2)

theorem not_mem_formPair (p : String × String) : ∀ c ∈ formPair p, decide (c = '&') = false := by
  intro c hc
  rw [decide_eq_false_iff_not]
  rcases List.mem_append.mp hc with hname | hvalue
  · exact (of_mem_formText hname).1
  rcases List.mem_cons.mp hvalue with rfl | hvalue
  · decide
  · exact (of_mem_formText hvalue).1

/-- The parts of a query are its pairs. -/
theorem splitEvery_formEncode (p : String × String) (rest : List (String × String)) :
    splitEvery (· = '&') (formEncode (p :: rest)) = (p :: rest).map formPair := by
  induction rest generalizing p with
  | nil => exact splitEvery_eq_singleton (not_mem_formPair p)
  | cons next rest ih =>
      rw [formEncode, splitEvery_append rfl, splitEvery_eq_singleton (not_mem_formPair p), ih]
      · rfl
      · exact List.cons_ne_nil _ _

theorem formPair_ne_nil (p : String × String) : formPair p ≠ [] := by
  simp [formPair]

/-- A query is decoded to the pairs that it was made from. -/
theorem formDecode_formEncode (pairs : List (String × String)) :
    formDecode (formEncode pairs) = pairs := by
  cases pairs with
  | nil => rfl
  | cons p rest =>
      have hkept : ∀ part ∈ (p :: rest).map formPair, (!part.isEmpty) = true := by
        intro part hpart
        obtain ⟨q, _, rfl⟩ := List.mem_map.mp hpart
        simpa using formPair_ne_nil q
      rw [formDecode, splitEvery_formEncode, List.filter_eq_self.mpr hkept, List.map_map]
      exact List.map_id'' formDecodePair_formPair _

theorem formEncode_eq_nil_iff (pairs : List (String × String)) :
    formEncode pairs = [] ↔ pairs = [] := by
  constructor
  · intro hnil
    rw [← formDecode_formEncode pairs, hnil]
    rfl
  · rintro rfl
    rfl

end Form

namespace Url

section Marks

/-- The segments of a path are those before it, empty ones and those that were read, encoded. -/
theorem mem_resolve {done segments : List (List Char)} {segment : List Char}
    (hmem : segment ∈ resolve done segments) :
    segment ∈ done ∨ segment = [] ∨ ∃ part ∈ segments, segment = percentEncode isPathSafe part := by
  fun_induction resolve done segments <;> grind [List.mem_of_mem_tail]

/-- No path holds a question mark. -/
theorem not_mem_pathText {text : String} {u : Url} (hu : parse? text = some u) :
    '?' ∉ u.pathText := by
  rw [parse?_eq_bind, Option.bind_eq_some_iff] at hu
  obtain ⟨⟨scheme, rest⟩, _, hfound⟩ := hu
  obtain ⟨⟨host, port⟩, _, rfl⟩ := Option.map_eq_some_iff.mp hfound
  intro hmem
  obtain ⟨segment, hsegment, hmark⟩ := List.mem_flatMap.mp hmem
  have hmark' : '?' ∈ segment := by simpa using hmark
  rcases mem_resolve hsegment with hdone | rfl | ⟨part, _, rfl⟩
  · contradiction
  · contradiction
  · rcases mem_percentEncode hmark' with hsafe | heq | hletter <;> contradiction

end Marks

end Url

/-- What a request asks for behind a question mark. -/
def Request.query? (r : Request) : Option (List Char) :=
  (splitFirst '?' r.target.toList).2

namespace Client

variable {c : Client} {category : Option String} {tags : List String} {q : Request}

/-- A base that names no query has none when it is continued. -/
theorem query_url? (hbare : Bare c.baseUrl) {url : Url} (hurl : c.url? [] = some url) :
    url.query = none ∧ '?' ∉ url.pathText := by
  have hfound := (Option.filter_eq_some_iff.mp hurl).1
  rw [String.ofList_nil, String.append_empty] at hfound
  refine ⟨?_, Url.not_mem_pathText hfound⟩
  have hhead : root.head? = some '/' := rfl
  rw [← ofList_root, Url.parse?_append hbare hhead (by decide +kernel) (by decide +kernel)]
    at hfound
  obtain ⟨_, _, hfound⟩ := Option.bind_eq_some_iff.mp hfound
  obtain ⟨_, _, rfl⟩ := Option.map_eq_some_iff.mp hfound
  rfl

theorem query_addPairs {url : Url} (hquery : url.query = none) (pairs : List (String × String)) :
    (url.addPairs pairs).query = if pairs = [] then none else some (formEncode pairs) := by
  unfold Url.addPairs
  simp only [hquery, Option.getD_none, List.isEmpty_iff, formEncode_eq_nil_iff]

/-- The query of a listing holds the pairs of its filter; without pairs there is none. -/
theorem query?_list (hbare : Bare c.baseUrl) (hq : c.request? (.list category tags) = some q) :
    q.query? = if filterPairs category tags = [] then none
      else some (formEncode (filterPairs category tags)) := by
  obtain ⟨url, hurl, hwritten⟩ := Option.bind_eq_some_iff.mp hq
  cases hwritten
  obtain ⟨hquery, hmark⟩ := query_url? hbare hurl
  have hpath : '?' ∉ (url.addPairs (filterPairs category tags)).pathText := hmark
  rw [← query_addPairs hquery, Request.query?, requestTo, Url.target, String.toList_ofList]
  cases (url.addPairs (filterPairs category tags)).query with
  | none => simp only [List.append_nil, splitFirst_of_not_mem hpath]
  | some query => simp only [splitFirst_append_mark hpath]

theorem filterPairs_eq_nil_iff : filterPairs category tags = [] ↔ category = none ∧ tags = [] := by
  cases category <;> simp [filterPairs]

theorem filterPairs_injective {category' : Option String} {tags' : List String}
    (heq : filterPairs category tags = filterPairs category' tags') :
    category = category' ∧ tags = tags' := by
  have htags : ∀ tag tag' : String, ("tag", tag) = ("tag", tag') → tag = tag' :=
    fun _ _ heq => (Prod.mk.inj heq).2
  have hnames : ∀ (name : String) (rest : List (String × String)) (tags : List String),
      ("category", name) :: rest ≠ tags.map fun tag => ("tag", tag) := by
    intro name rest tags heq
    have hmem : ("category", name) ∈ tags.map fun tag => ("tag", tag) := heq ▸ List.mem_cons_self
    simp at hmem
  cases category with
  | none =>
      cases category' with
      | none => exact ⟨rfl, (List.map_inj_right htags).mp heq⟩
      | some name' => exact absurd heq.symm (hnames name' _ tags)
  | some name =>
      cases category' with
      | none => exact absurd heq (hnames name _ tags')
      | some name' =>
          obtain ⟨hfirst, hrest⟩ := List.cons.inj heq
          exact ⟨congrArg some (Prod.mk.inj hfirst).2, (List.map_inj_right htags).mp hrest⟩

/-- A client can send requests exactly if the scheme before its paths allows it. -/
theorem sends_of_stem {base : String} (stem : Stem base) (hbare : Bare base)
    (authorization : String) (others : List (List Char)) :
    sends ⟨base, authorization⟩ = (stem.url others).isSendable := by
  rw [Bool.eq_iff_iff, sends_iff, parse?_root stem hbare, Url.isSendable_iff]
  constructor
  · rintro ⟨url, hurl, hscheme⟩
    obtain rfl := Option.some_inj.mp hurl
    exact hscheme
  · intro hscheme
    exact ⟨stem.url rootSegments, rfl, hscheme⟩

theorem sends_of_slash (hbare : Bare c.baseUrl) {u : Url}
    (hu : Url.parse? (c.baseUrl ++ "/") = some u) : c.sends = u.isSendable := by
  obtain ⟨stem, rfl⟩ : ∃ stem : Stem c.baseUrl, u = stem.url [[]] :=
    Url.exists_stem_of_slashes (k := 0) hbare hu
  exact sends_of_stem stem hbare c.authorization [[]]

/-- The slashes at the end of a base make no difference. -/
theorem sends_of_settings {base : String} (hbare : Bare base) (htidy : Tidy base) {v : Url}
    (hv : Url.parse? base = some v) (authorization : String) :
    sends ⟨dropTrailingSlashes base, authorization⟩ = v.isSendable := by
  obtain ⟨stem, k, rfl⟩ := Url.exists_stem hbare htidy hv
  exact sends_of_stem stem hbare.dropTrailingSlashes authorization (List.replicate k [])

theorem baseUrl_of_settings {settings : ServiceSettings} (hc : ofSettings settings = .ok c) :
    c.baseUrl = dropTrailingSlashes settings.baseUrl := by
  unfold ofSettings at hc
  split at hc
  · cases hc
    rfl
  · contradiction

/-- Listings are asked for over http and https and not otherwise, also behind a base that ends in
blanks.  The query of a listing is decoded to the category of its filter, if one was given, and to
the tags in their order, whatever these texts hold; a listing without filter has no query.  So no
two filters lead to the same request. -/
theorem listing_filter_survives {settings : ServiceSettings} (hc : ofSettings settings = .ok c)
    (hbare : Bare settings.baseUrl) :
    (∀ v, Url.parse? settings.baseUrl = some v → Tidy settings.baseUrl → ∀ category tags,
      (c.request? (.list category tags)).isSome = true ↔
        v.scheme = "http" ∨ v.scheme = "https") ∧
    (∀ u, Url.parse? (c.baseUrl ++ "/") = some u → ∀ category tags,
      (c.request? (.list category tags)).isSome = true ↔
        u.scheme = "http" ∨ u.scheme = "https") ∧
    (∀ category tags q, c.request? (.list category tags) = some q →
      formDecode (q.query?.getD []) =
          (match category with
            | some name => [("category", name)]
            | none => []) ++ tags.map (fun tag => ("tag", tag)) ∧
        (q.query? = none ↔ category = none ∧ tags = [])) ∧
    ∀ category tags category' tags' q, c.request? (.list category tags) = some q →
      c.request? (.list category' tags') = some q → category = category' ∧ tags = tags' := by
  have hbase := baseUrl_of_settings hc
  have hbare' : Bare c.baseUrl := hbase ▸ hbare.dropTrailingSlashes
  have hdecode : ∀ {category tags q}, c.request? (.list category tags) = some q →
      formDecode (q.query?.getD []) = filterPairs category tags := by
    intro category tags q hq
    rw [query?_list hbare' hq]
    split
    · rename_i hnone
      rw [hnone]
      rfl
    · exact formDecode_formEncode _
  refine ⟨?_, ?_, ?_, ?_⟩
  · intro v hv htidy category tags
    have hsends := sends_of_settings hbare htidy hv c.authorization
    rw [isSome_request?, ← Url.isSendable_iff, ← hsends, ← hbase]
  · intro u hu category tags
    rw [isSome_request?, ← Url.isSendable_iff, ← sends_of_slash hbare' hu]
  · intro category tags q hq
    refine ⟨?_, ?_⟩
    · rw [hdecode hq]
      cases category <;> rfl
    · rw [query?_list hbare' hq, ← filterPairs_eq_nil_iff]
      simp
  · intro category tags category' tags' q hq hq'
    exact filterPairs_injective ((hdecode hq).symm.trans (hdecode hq'))

theorem listing_filter_survives_reserved :
    ofSettings ⟨"https://policies.test:8443/a/", "t", 30⟩ =
        .ok ⟨"https://policies.test:8443/a", "Bearer t"⟩ ∧
      Bare "https://policies.test:8443/a/" ∧
      ∃ q, (⟨"https://policies.test:8443/a", "Bearer t"⟩ : Client).request?
            (.list (some "") ["a&tag=b", "50% + ü", "a&tag=b"]) = some q ∧
          formDecode (q.query?.getD []) =
            [("category", ""), ("tag", "a&tag=b"), ("tag", "50% + ü"), ("tag", "a&tag=b")] := by
  have hc : ofSettings ⟨"https://policies.test:8443/a/", "t", 30⟩ =
      .ok ⟨"https://policies.test:8443/a", "Bearer t"⟩ := by decide +kernel
  have hbare : Bare "https://policies.test:8443/a/" := by decide +kernel
  have hread : (Url.parse? "https://policies.test:8443/a/").map Url.scheme = some "https" := by
    decide +kernel
  obtain ⟨hsent, _, hdecoded, _⟩ := listing_filter_survives hc hbare
  obtain ⟨v, hv, hscheme⟩ := Option.map_eq_some_iff.mp hread
  have hsome := (hsent v hv (by decide +kernel) (some "") ["a&tag=b", "50% + ü", "a&tag=b"]).mpr
    (Or.inr hscheme)
  obtain ⟨q, hq⟩ := Option.isSome_iff_exists.mp hsome
  exact ⟨hc, hbare, q, hq, (hdecoded _ _ q hq).1⟩

end Client

end PolicyRollout.Http
