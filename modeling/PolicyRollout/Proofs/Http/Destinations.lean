import Mathlib.Data.List.TakeWhile
import PolicyRollout.Http.Client
/-!
Where the requests of a client go.  All paths of the platform are put behind the same base, and
what follows the base moves a URL to no other scheme, host or port.  So either every call of a
client can be written as a request or none can.
-/
namespace PolicyRollout.Http

namespace Url

/-- Where a URL leads: its scheme, its host and its port. -/
def origin (u : Url) : String × String × Option Nat :=
  (u.scheme, u.host, u.port)

theorem isSendable_iff {u : Url} :
    u.isSendable = true ↔ u.scheme = "http" ∨ u.scheme = "https" := by
  simp [isSendable]

/-- Characters that end no text and start no fragment. -/
def IsTail (cs : List Char) : Prop :=
  ∀ c ∈ cs, isControlOrSpace c = false ∧ c ≠ '#'

instance (cs : List Char) : Decidable (IsTail cs) :=
  List.decidableBAll (fun c => isControlOrSpace c = false ∧ c ≠ '#') cs

/-- Whether a character does not end the authority. -/
def isInside (c : Char) : Bool :=
  !(isSlash c || c = '?')

/-- The authority with which the part of a URL after its scheme begins. -/
def authority (rest : List Char) : List Char :=
  (rest.dropWhile isSlash).takeWhile isInside

def afterAuthority (rest : List Char) : List Char :=
  (rest.dropWhile isSlash).dropWhile isInside

/-- A URL is put together from the parts into which its text falls. -/
theorem parse?_eq_bind (text : String) :
    parse? text = (takeScheme (clean text)).bind fun (scheme, rest) =>
      (readAuthority (authority (splitFirst '#' rest).1)).map fun (host, port) =>
        { scheme := String.ofList scheme
          userInfo := readUserInfo (authority (splitFirst '#' rest).1)
          host
          port
          path := readPath (splitFirst '?' (afterAuthority (splitFirst '#' rest).1)).1
          query := (splitFirst '?' (afterAuthority (splitFirst '#' rest).1)).2.map
            (percentEncode isQuerySafe) } := by
  unfold parse?
  cases takeScheme (clean text) with
  | none => rfl
  | some found =>
      obtain ⟨scheme, rest⟩ := found
      change Option.bind (readAuthority (authority (splitFirst '#' rest).1)) _ =
        Option.map _ (readAuthority (authority (splitFirst '#' rest).1))
      cases readAuthority (authority (splitFirst '#' rest).1) with
      | none => rfl
      | some found => rfl

theorem map_origin_parse? (text : String) :
    (parse? text).map origin = (takeScheme (clean text)).bind fun (scheme, rest) =>
      (readAuthority (authority (splitFirst '#' rest).1)).map fun (host, port) =>
        (String.ofList scheme, host, port) := by
  rw [parse?_eq_bind, Option.map_bind]
  simp only [Function.comp_def, Option.map_map, origin]

section Stop

variable {α : Type} {p : α → Bool} {stop : α}

theorem takeWhile_append_stop (front back : List α) (hstop : p stop = false) :
    (front ++ stop :: back).takeWhile p = front.takeWhile p := by
  induction front with
  | nil => simp [hstop]
  | cons c rest ih => cases hc : p c <;> simp [hc, ih]

theorem dropWhile_append_stop (front back : List α) (hstop : p stop = false) :
    (front ++ stop :: back).dropWhile p = front.dropWhile p ++ stop :: back := by
  induction front with
  | nil => simp [hstop]
  | cons c rest ih => cases hc : p c <;> simp [hc, ih]

end Stop

/-- A text that ends in no control character and no space keeps its end. -/
theorem trimEnd_append (front : List Char) {cs : List Char} (htail : IsTail cs)
    (hhead : cs.head? = some '/') :
    ((front ++ cs).reverse.dropWhile isControlOrSpace).reverse = front ++ cs := by
  have hcs : cs ≠ [] := by
    rintro rfl
    contradiction
  obtain ⟨rest, last, rfl⟩ := List.eq_nil_or_concat cs |>.resolve_left hcs
  have hlast := (htail last (by simp)).1
  simp [hlast]

theorem isControlOrSpace_of_break {c : Char} (hbreak : (c = '\t' || c = '\n' || c = '\r') = true) :
    isControlOrSpace c = true := by
  simp only [Bool.or_eq_true, decide_eq_true_eq] at hbreak
  rcases hbreak with (rfl | rfl) | rfl <;> rfl

/-- The characters of a text that count when more follows. -/
def opening (text : String) : List Char :=
  (text.toList.dropWhile isControlOrSpace).filter fun c => !(c = '\t' || c = '\n' || c = '\r')

/-- What begins with a slash is kept when a text is cleaned. -/
theorem clean_append (base : String) {cs : List Char} (hhead : cs.head? = some '/')
    (htail : IsTail cs) : clean (base ++ String.ofList cs) = opening base ++ cs := by
  have hkept : ∀ c ∈ cs, (!(c = '\t' || c = '\n' || c = '\r')) = true := by
    intro c hc
    rw [Bool.not_eq_true']
    by_contra hbreak
    rw [Bool.not_eq_false] at hbreak
    have hcontrol := (htail c hc).1
    rw [isControlOrSpace_of_break hbreak] at hcontrol
    contradiction
  obtain ⟨rest, rfl⟩ := List.head?_eq_some_iff.mp hhead
  have hslash : isControlOrSpace '/' = false := rfl
  unfold clean
  simp only [String.toList_append, String.toList_ofList, dropWhile_append_stop _ _ hslash,
    trimEnd_append _ htail hhead, List.filter_append, List.filter_eq_self.mpr hkept]
  rfl

def isSchemePart (c : Char) : Bool :=
  c.isAlphanum || c = '+' || c = '-' || c = '.'

theorem takeScheme_append (front : List Char) {cs : List Char} (hhead : cs.head? = some '/') :
    takeScheme (front ++ cs) =
      (takeScheme front).map fun (scheme, rest) => (scheme, rest ++ cs) := by
  obtain ⟨back, rfl⟩ := List.head?_eq_some_iff.mp hhead
  have hslash : isSchemePart '/' = false := rfl
  have htaken := takeWhile_append_stop front back hslash
  have hdropped := dropWhile_append_stop front back hslash
  unfold isSchemePart at htaken hdropped
  simp only [takeScheme, htaken, hdropped]
  generalize front.takeWhile _ = taken
  generalize front.dropWhile _ = dropped
  cases taken with
  | nil => rfl
  | cons c scheme =>
      cases dropped with
      | nil => rfl
      | cons d rest =>
          by_cases hd : d = ':'
          · subst hd
            by_cases hc : c.isAlpha = true
            · simp [hc]
            · simp [hc]
          · simp [hd]

/-- A fragment begins before all that follows, or all that follows stands before it. -/
theorem splitFirst_append (rest : List Char) :
    (∀ cs, (splitFirst '#' (rest ++ cs)).1 = (splitFirst '#' rest).1) ∨
      ∀ cs, IsTail cs → (splitFirst '#' (rest ++ cs)).1 = rest ++ cs := by
  by_cases hmark : '#' ∈ rest
  · left
    intro cs
    obtain ⟨front, back, rfl⟩ := List.append_of_mem hmark
    have hstop := @takeWhile_append_stop _ (fun c => decide (c ≠ '#')) '#' front
    simp only [splitFirst, List.append_assoc, List.cons_append]
    rw [hstop _ rfl, hstop _ rfl]
  · right
    intro cs htail
    apply List.takeWhile_eq_self_iff.mpr
    intro c hc
    rw [decide_eq_true_iff]
    rcases List.mem_append.mp hc with hrest | hcs
    · exact fun heq => hmark (heq ▸ hrest)
    · exact (htail c hcs).2

/-- The authority ends before the second slash that is not at the beginning. -/
theorem authority_append (rest cs : List Char) :
    authority (rest ++ '/' :: 'a' :: 'p' :: 'i' :: '/' :: cs) =
      authority (rest ++ ['/', 'a', 'p', 'i', '/']) := by
  have hletter : isSlash 'a' = false := rfl
  have hslash : isInside '/' = false := rfl
  have hopen : ∀ back, rest ++ '/' :: 'a' :: back = (rest ++ ['/']) ++ 'a' :: back := by simp
  have hclose : ∀ front back : List Char,
      front ++ 'a' :: 'p' :: 'i' :: '/' :: back = (front ++ ['a', 'p', 'i']) ++ '/' :: back := by
    simp
  unfold authority
  rw [hopen, hopen, dropWhile_append_stop _ _ hletter, dropWhile_append_stop _ _ hletter, hclose,
    hclose, takeWhile_append_stop _ _ hslash, takeWhile_append_stop _ _ hslash]

end Url

namespace Client

open Url (IsTail)

/-- The path below which the platform answers. -/
def root : List Char := '/' :: 'a' :: 'p' :: 'i' :: '/' :: "v1/templates".toList

theorem ofList_root : String.ofList root = "/api/v1/templates" := by
  decide +kernel

theorem isTail_root_append {path : List Char} (htail : IsTail path) : IsTail (root ++ path) := by
  have hroot : IsTail root := by decide +kernel
  intro c hc
  rcases List.mem_append.mp hc with hc | hc
  · exact hroot c hc
  · exact htail c hc

theorem authority_root (rest : List Char) {path : List Char} (htail : IsTail path) :
    Url.authority (splitFirst '#' (rest ++ (root ++ path))).1 =
      Url.authority (splitFirst '#' (rest ++ root)).1 := by
  rcases Url.splitFirst_append rest with hbefore | hafter
  · rw [hbefore, hbefore]
  · have hroot : IsTail root := by decide +kernel
    rw [hafter _ (isTail_root_append htail), hafter _ hroot]
    simp only [root, List.cons_append, Url.authority_append]

theorem map_origin_parse?_root (base : String) {path : List Char} (htail : IsTail path) :
    (Url.parse? (base ++ "/api/v1/templates" ++ String.ofList path)).map Url.origin =
      (Url.takeScheme (Url.opening base)).bind fun (scheme, rest) =>
        (Url.readAuthority (Url.authority (splitFirst '#' (rest ++ root)).1)).map
          fun (host, port) => (String.ofList scheme, host, port) := by
  have htext : base ++ "/api/v1/templates" ++ String.ofList path =
      base ++ String.ofList (root ++ path) := by
    rw [String.append_assoc, String.ofList_append, ofList_root]
  have hhead : (root ++ path).head? = some '/' := rfl
  rw [htext, Url.map_origin_parse?, Url.clean_append base hhead (isTail_root_append htail),
    Url.takeScheme_append _ hhead]
  cases Url.takeScheme (Url.opening base) with
  | none => rfl
  | some found =>
      simp only [Option.map_some, Option.bind_some]
      rw [authority_root found.2 htail]

/-- No path leads elsewhere. -/
theorem map_origin_url? (c : Client) {path : List Char} (htail : IsTail path) :
    (c.url? path).map Url.origin = (c.url? []).map Url.origin := by
  let sendable (origin : String × String × Option Nat) : Bool :=
    origin.1 = "http" || origin.1 = "https"
  have hfilter : ∀ path, (c.url? path).map Url.origin =
      ((Url.parse? (c.baseUrl ++ "/api/v1/templates" ++ String.ofList path)).map Url.origin).filter
        sendable := fun _ => (Option.filter_map (f := Url.origin) (p := sendable)).symm
  have hempty : IsTail [] := by decide
  rw [hfilter, hfilter, map_origin_parse?_root _ htail, map_origin_parse?_root _ hempty]

/-- The client has a URL to which requests can be sent, over http or https. -/
def sends (c : Client) : Bool :=
  (c.url? []).isSome

theorem sends_iff {c : Client} : c.sends = true ↔
    ∃ url, Url.parse? (c.baseUrl ++ "/api/v1/templates") = some url ∧
      (url.scheme = "http" ∨ url.scheme = "https") := by
  simp only [sends, Option.isSome_iff_exists, url?, Option.filter_eq_some_iff, String.ofList_nil,
    String.append_empty, Url.isSendable_iff]

theorem isSome_url? (c : Client) {path : List Char} (htail : IsTail path) :
    (c.url? path).isSome = c.sends := by
  rw [sends, ← Option.isSome_map, map_origin_url? c htail, Option.isSome_map]

/-- Either every call can be written as a request or none can. -/
theorem isSome_request? (c : Client) (call : Call) : (c.request? call).isSome = c.sends := by
  have hwritten : ∀ (path : List Char) (write : Url → Request), IsTail path →
      ((c.url? path).bind fun url => some (write url)).isSome = c.sends := by
    intro path write htail
    rw [← isSome_url? c htail]
    cases c.url? path <;> rfl
  cases call with
  | list category tags => exact hwritten _ _ (by decide)
  | validate id vars => exact hwritten _ _ (by decide)
  | instantiate id vars switch dryRun => exact hwritten _ _ (by decide)

theorem isNone_request? (c : Client) (call : Call) : (c.request? call).isNone = !c.sends := by
  rw [← isSome_request? c call]
  cases c.request? call <;> rfl

theorem request?_eq_none {c : Client} (hsends : c.sends = false) (call : Call) :
    c.request? call = none := by
  rw [← Option.not_isSome_iff_eq_none, isSome_request?, hsends]
  exact Bool.false_ne_true

end Client

end PolicyRollout.Http
