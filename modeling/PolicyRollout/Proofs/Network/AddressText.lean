import PolicyRollout.Proofs.Json.Numerals
import PolicyRollout.Proofs.Network.Characters
import PolicyRollout.Proofs.Text.Digits
/-!
Addresses are read from their own text.  Numbers are read up to the mark that follows them and
groups up to the gap, which stands for as many zeros as are missing; the gap is left where a run
of zeros is, so it is these zeros that are put back.
-/
namespace PolicyRollout.Network

open Text (NoDigitAhead)

section Numbers

variable {base : Nat} {digits rest cs : List Char}

/-- All digits are taken, up to what is no digit. -/
theorem takeDigits_append (hdigits : ∀ c ∈ digits, (Text.digit? base c).isSome = true)
    (hrest : NoDigitAhead base rest) : takeDigits base (digits ++ rest) = (digits, rest) := by
  induction digits with
  | nil =>
      cases rest with
      | nil => rfl
      | cons c more =>
          have hc : Text.digit? base c = none := hrest c rfl
          simp [takeDigits, hc]
  | cons c digits ih =>
      obtain ⟨hc, hmore⟩ := List.forall_mem_cons.mp hdigits
      obtain ⟨d, hd⟩ := Option.isSome_iff_exists.mp hc
      simp [takeDigits, hd, ih hmore]

theorem takeDigits_of_noDigitAhead (hrest : NoDigitAhead base rest) :
    takeDigits base rest = ([], rest) := by
  have hnone : ∀ c ∈ ([] : List Char), (Text.digit? base c).isSome = true := by simp
  exact takeDigits_append hnone hrest

theorem takeDigits_toDigits (hpos : 1 < base) (hbase : base ≤ 16) (n : Nat)
    (hrest : NoDigitAhead base rest) :
    takeDigits base (Nat.toDigits base n ++ rest) = (Nat.toDigits base n, rest) :=
  takeDigits_append (fun _ hc => Text.isSome_digit?_of_mem_toDigits hpos hbase hc) hrest

theorem takeOctet_decimal (n : UInt8) (hrest : NoDigitAhead 10 rest) :
    takeOctet (Text.decimal n.toNat ++ rest) = some (n, rest) := by
  have hn : n.toNat < 256 := n.toNat_lt
  have hread : Text.natural? 10 (Text.decimal n.toNat) = some n.toNat :=
    Text.natural?_toDigits (by decide) (by decide) _
  have hshort : ¬ 3 < (Text.decimal n.toNat).length := by
    have hlength : (Nat.toDigits 10 n.toNat).length ≤ 3 :=
      (Nat.length_toDigits_le_iff (by decide) (by decide)).mpr (by omega)
    exact Nat.not_lt.mpr hlength
  have hlead : ¬((Text.decimal n.toNat).head? = some '0' ∧ 1 < (Text.decimal n.toNat).length) := by
    rintro ⟨hhead, hmany⟩
    rcases Nat.eq_zero_or_pos n.toNat with hzero | hpositive
    · rw [hzero] at hmany
      exact absurd hmany (by decide)
    · obtain ⟨more, hmore⟩ := List.head?_eq_some_iff.mp hhead
      exact Text.decimal_head_ne hpositive hmore rfl
  have htaken : takeDigits 10 (Text.decimal n.toNat ++ rest) = (Text.decimal n.toNat, rest) :=
    takeDigits_toDigits (by decide) (by decide) _ hrest
  simp only [takeOctet, htaken, hread, hn, if_true, if_neg hshort]
  rw [if_neg (by simpa using hlead)]
  simp

theorem takeGroup_toDigits (g : UInt16) (hrest : NoDigitAhead 16 rest) :
    takeGroup (Nat.toDigits 16 g.toNat ++ rest) = some (g, rest) := by
  have hg : g.toNat < 65536 := g.toNat_lt
  have hread : Text.natural? 16 (Nat.toDigits 16 g.toNat) = some g.toNat :=
    Text.natural?_toDigits (by decide) (by decide) _
  have hshort : (Nat.toDigits 16 g.toNat).length ≤ 4 :=
    (Nat.length_toDigits_le_iff (by decide) (by decide)).mpr (by omega)
  have htaken := takeDigits_toDigits (by decide) (by decide) g.toNat hrest
  simp only [takeGroup, htaken, hread, if_neg (Nat.not_lt.mpr hshort)]
  simp

theorem takeChar_self (c : Char) (rest : List Char) : takeChar c (c :: rest) = some rest :=
  takeChar_eq_some_iff.mpr rfl

/-- An address of the older family is read up to what is no digit. -/
theorem takeV4_render (ip : V4) (hrest : NoDigitAhead 10 rest) :
    takeV4 (ip.render ++ rest) = some (ip, rest) := by
  have hdot : ∀ more, NoDigitAhead 10 ('.' :: more) := Text.noDigitAhead_cons (by decide)
  have hlast := takeOctet_decimal ip.d hrest
  simp only [takeV4, V4.render, List.cons_append, List.append_assoc, takeOctet_decimal _ (hdot _),
    takeChar_self, hlast, bind, Option.bind, pure]

theorem takeV4_render_nil (ip : V4) : takeV4 ip.render = some (ip, []) := by
  have hread := takeV4_render ip Text.noDigitAhead_nil
  rwa [List.append_nil] at hread

theorem takeV4_eq_none (hdot : (takeDigits 10 cs).2.head? ≠ some '.') : takeV4 cs = none := by
  unfold takeV4
  cases hread : takeOctet cs with
  | none => rfl
  | some read =>
      obtain ⟨a, rest⟩ := read
      have hrest := takeOctet_rest hread
      have hchar : takeChar '.' rest = none := by
        by_contra hsome
        obtain ⟨more, hmore⟩ := Option.ne_none_iff_exists'.mp hsome
        rw [hrest, takeChar_eq_some_iff.mp hmore] at hdot
        exact hdot rfl
      simp only [hchar, bind, Option.bind]

end Numbers

section Groups

variable {groups head tail : List UInt16} {room : Nat} {rest body cs : List Char}

/-- A text that ends here or goes on with a colon. -/
def ColonAhead (rest : List Char) : Prop :=
  ∀ c ∈ rest.head?, c = ':'

theorem ColonAhead.noDigitAhead {base : Nat} (hrest : ColonAhead rest) :
    NoDigitAhead base rest := by
  intro c hc
  obtain rfl := hrest c hc
  rfl

/-- Hexadecimal digits before a colon are no address of the older family. -/
theorem takeV4_of_hexadecimal {digits : List Char}
    (hdigits : ∀ c ∈ digits, (Text.digit? 16 c).isSome = true) (hrest : ColonAhead rest) :
    takeV4 (digits ++ rest) = none := by
  apply takeV4_eq_none
  induction digits with
  | nil =>
      rw [List.nil_append, takeDigits_of_noDigitAhead hrest.noDigitAhead]
      intro hdot
      exact absurd (hrest '.' hdot) (by decide)
  | cons c digits ih =>
      obtain ⟨hc, hmore⟩ := List.forall_mem_cons.mp hdigits
      rw [List.cons_append, takeDigits]
      cases hdecimal : Text.digit? 10 c with
      | some d => exact ih hmore
      | none =>
          intro hdot
          obtain rfl : c = '.' := Option.some_inj.mp hdot
          exact absurd hc (by decide)

theorem takeV4_of_colonAhead (hrest : ColonAhead rest) : takeV4 rest = none := by
  have hnone : ∀ c ∈ ([] : List Char), (Text.digit? 16 c).isSome = true := by simp
  exact takeV4_of_hexadecimal hnone hrest

theorem takeV4_of_group (g : UInt16) (hrest : ColonAhead rest) :
    takeV4 (Nat.toDigits 16 g.toNat ++ rest) = none :=
  takeV4_of_hexadecimal (fun _ hc =>
    Text.isSome_digit?_of_mem_toDigits (by decide) (by decide) hc) hrest

/-- Groups, each behind a colon. -/
def colonGroups (groups : List UInt16) : List Char :=
  groups.flatMap fun g => ':' :: Nat.toDigits 16 g.toNat

theorem renderGroups_cons (g : UInt16) (groups : List UInt16) :
    renderGroups (g :: groups) = Nat.toDigits 16 g.toNat ++ colonGroups groups := by
  induction groups generalizing g with
  | nil => simp [renderGroups, colonGroups]
  | cons next more ih =>
      rw [renderGroups, ih next]
      · rfl
      · simp

/-- What may stand behind groups: nothing, or the gap. -/
inductive AtGap : List Char → Prop
  | nothing : AtGap []
  | gap (rest : List Char) : AtGap (':' :: ':' :: rest)

theorem AtGap.colonAhead (hrest : AtGap rest) : ColonAhead rest := by
  cases hrest with
  | nothing => simp [ColonAhead]
  | gap rest => simp [ColonAhead]

theorem colonAhead_colonGroups (hrest : ColonAhead rest) :
    ColonAhead (colonGroups groups ++ rest) := by
  cases groups with
  | nil => exact hrest
  | cons g more => simp [colonGroups, ColonAhead]

/-- Where the next group may begin; a colon stands before it unless it is the first. -/
def groupStart (first : Bool) (cs : List Char) : Option (List Char) :=
  if first then some cs else takeChar ':' cs

/-- Nothing is taken where no group begins. -/
theorem takeGroups_stop {first : Bool} (hstart : groupStart first cs = some body)
    (hbody : ColonAhead body) : takeGroups (room + 1) first cs = ([], false, cs) := by
  rw [groupStart] at hstart
  have hv4 := takeV4_of_colonAhead hbody
  have hgroup : takeGroup body = none := by
    simp only [takeGroup, takeDigits_of_noDigitAhead hbody.noDigitAhead]
    rfl
  simp only [takeGroups, hstart, hv4, hgroup, ite_self]

/-- A group is taken where it begins, and the reading goes on behind it. -/
theorem takeGroups_next {first : Bool} {g : UInt16}
    (hstart : groupStart first cs = some (Nat.toDigits 16 g.toNat ++ rest))
    (hrest : ColonAhead rest) : takeGroups (room + 1) first cs =
      (g :: (takeGroups room false rest).1, (takeGroups room false rest).2) := by
  rw [groupStart] at hstart
  have hv4 := takeV4_of_group g hrest
  have hgroup := takeGroup_toDigits g hrest.noDigitAhead
  simp only [takeGroups, hstart, hv4, hgroup, ite_self]

theorem takeGroups_colonGroups (hroom : groups.length ≤ room) (hrest : AtGap rest) :
    takeGroups room false (colonGroups groups ++ rest) = (groups, false, rest) := by
  induction groups generalizing room with
  | nil =>
      cases room with
      | zero => rfl
      | succ room =>
          cases hrest with
          | nothing => rfl
          | gap rest => exact takeGroups_stop (takeChar_self ':' _) (by simp [ColonAhead])
  | cons g more ih =>
      cases room with
      | zero => simp at hroom
      | succ room =>
          have hmore := ih (Nat.le_of_succ_le_succ hroom)
          have htext : colonGroups (g :: more) ++ rest =
              ':' :: (Nat.toDigits 16 g.toNat ++ (colonGroups more ++ rest)) := by
            simp [colonGroups]
          have hstart : groupStart false (colonGroups (g :: more) ++ rest) =
              some (Nat.toDigits 16 g.toNat ++ (colonGroups more ++ rest)) :=
            htext ▸ takeChar_self ':' _
          rw [takeGroups_next hstart (colonAhead_colonGroups hrest.colonAhead), hmore]

/-- All groups are read, up to the gap. -/
theorem takeGroups_renderGroups (hroom : groups.length ≤ room) (hrest : AtGap rest) :
    takeGroups room true (renderGroups groups ++ rest) = (groups, false, rest) := by
  cases room with
  | zero =>
      obtain rfl := List.length_eq_zero_iff.mp (Nat.le_zero.mp hroom)
      rfl
  | succ room =>
      cases groups with
      | nil => exact takeGroups_stop rfl hrest.colonAhead
      | cons g more =>
          rw [renderGroups_cons, List.append_assoc, takeGroups_next rfl
            (colonAhead_colonGroups hrest.colonAhead),
            takeGroups_colonGroups (Nat.le_of_succ_le_succ hroom) hrest]

theorem takeV4_renderGroups (hrest : ColonAhead rest) :
    takeV4 (renderGroups groups ++ rest) = none := by
  cases groups with
  | nil => exact takeV4_of_colonAhead hrest
  | cons g more =>
      rw [renderGroups_cons, List.append_assoc]
      exact takeV4_of_group g (colonAhead_colonGroups hrest)

theorem V6.ofGroups?_groups (ip : V6) : V6.ofGroups? ip.groups = some ip := by
  simp [V6.ofGroups?, ip.length_eq]

/-- An address without a gap. -/
theorem takeV6_full (ip : V6) : takeV6 (renderGroups ip.groups) = some (ip, []) := by
  have hread := takeGroups_renderGroups (Nat.le_of_eq ip.length_eq) .nothing
  rw [List.append_nil] at hread
  simp only [takeV6, hread, ip.length_eq, if_true, ip.ofGroups?_groups, Option.map_some]

/-- The gap stands for the zeros that are missing between the groups before and behind it. -/
theorem takeV6_gap {ip : V6} {embedded : Bool} {zeros : Nat}
    (hgroups : ip.groups = head ++ List.replicate zeros 0 ++ tail) (hzeros : 0 < zeros)
    (htail : takeGroups (7 - head.length) true rest = (tail, embedded, [])) :
    takeV6 (renderGroups head ++ ':' :: ':' :: rest) = some (ip, []) := by
  have hlength : head.length + zeros + tail.length = 8 := by
    simpa [hgroups, Nat.add_assoc] using ip.length_eq
  have hhead : takeGroups 8 true (renderGroups head ++ ':' :: ':' :: rest) =
      (head, false, ':' :: ':' :: rest) := takeGroups_renderGroups (by omega) (.gap rest)
  have hpart : head.length ≠ 8 := by omega
  have hmissing : 8 - head.length - tail.length = zeros := by omega
  simp only [takeV6, hhead, if_neg hpart, Bool.false_eq_true, if_false, htail, hmissing, ← hgroups,
    ip.ofGroups?_groups, Option.map_some]

end Groups

section Runs

variable {groups seen rest : List UInt16}

/-- A run is where it says, with zeros only. -/
def Run.In (run : Run) (groups : List UInt16) : Prop :=
  ∃ front back, groups = front ++ List.replicate run.length 0 ++ back ∧ front.length = run.start

/-- A run, if it is not empty, goes up to the end. -/
def Run.Ends (run : Run) (groups : List UInt16) : Prop :=
  run.length ≠ 0 →
    ∃ front, groups = front ++ List.replicate run.length 0 ∧ front.length = run.start

theorem Run.In.append {run : Run} (hin : run.In seen) (more : List UInt16) :
    run.In (seen ++ more) := by
  obtain ⟨front, back, rfl, hfront⟩ := hin
  exact ⟨front, back ++ more, by simp, hfront⟩

theorem Run.Ends.in {run : Run} (hends : run.Ends seen) (hpos : run.length ≠ 0) : run.In seen := by
  obtain ⟨front, hseen, hfront⟩ := hends hpos
  exact ⟨front, [], by rw [hseen, List.append_nil], hfront⟩

/-- One more zero makes the run at the end longer, or begins one. -/
theorem Run.Ends.zero {run : Run} (hends : run.Ends seen) :
    Run.Ends (if run.length = 0 then ⟨seen.length, 1⟩ else ⟨run.start, run.length + 1⟩)
      (seen ++ [0]) := by
  intro _
  by_cases hempty : run.length = 0
  · rw [if_pos hempty]
    exact ⟨seen, rfl, rfl⟩
  · rw [if_neg hempty]
    obtain ⟨front, rfl, hfront⟩ := hends hempty
    exact ⟨front, by simp [List.replicate_succ'], hfront⟩

theorem longestRun_in {current longest : Run} (hcurrent : current.Ends seen)
    (hlongest : longest.In seen) :
    (longestRun rest seen.length current longest).In (seen ++ rest) := by
  induction rest generalizing seen current longest with
  | nil => rwa [List.append_nil]
  | cons g rest ih =>
      have hlength : seen.length + 1 = (seen ++ [g]).length := by simp
      rw [longestRun, List.append_cons, hlength]
      by_cases hzero : g = 0
      · subst hzero
        have hnext := hcurrent.zero
        rw [if_pos rfl]
        apply ih hnext
        generalize (if current.length = 0 then ⟨seen.length, 1⟩ else
          ⟨current.start, current.length + 1⟩ : Run) = next at hnext
        by_cases hlonger : longest.length < next.length
        · rw [if_pos hlonger]
          exact hnext.in (by omega)
        · rw [if_neg hlonger]
          exact hlongest.append [0]
      · rw [if_neg hzero]
        exact ih (fun hpos => absurd rfl hpos) (hlongest.append [g])

/-- The groups before the longest run, its zeros and the groups behind it. -/
theorem groups_eq_around_longestRun (groups : List UInt16) :
    let run := longestRun groups 0 ⟨0, 0⟩ ⟨0, 0⟩
    groups = groups.take run.start ++ List.replicate run.length 0 ++
      groups.drop (run.start + run.length) := by
  intro run
  have hends : Run.Ends ⟨0, 0⟩ [] := fun hpos => absurd rfl hpos
  have hempty : Run.In ⟨0, 0⟩ [] := ⟨[], [], rfl, rfl⟩
  obtain ⟨front, back, hgroups, hfront⟩ : run.In groups := longestRun_in hends hempty
  have htake : groups.take run.start = front := by
    rw [hgroups, List.append_assoc, ← hfront, List.take_left]
  have hdrop : groups.drop (run.start + run.length) = back := by
    have hlength : run.start + run.length =
        (front ++ List.replicate run.length (0 : UInt16)).length := by simp [hfront]
    rw [hgroups, hlength, List.drop_left]
  rw [htake, hdrop]
  exact hgroups

end Runs

section Mapped

theorem div_mod_256 (word : UInt16) :
    (word / 256).toUInt8.toUInt16 * 256 + (word % 256).toUInt8.toUInt16 = word := by
  apply UInt16.toNat_inj.mp
  have hword := word.toNat_lt
  simp
  omega

/-- An address that wraps one of the older family begins with zeros and ends in it. -/
theorem V6.groups_of_mapped? {ip : V6} {v4 : V4} (hmapped : ip.mapped? = some v4) :
    ip.groups = [] ++ List.replicate 5 0 ++ 0xFFFF :: v4.groups := by
  unfold mapped? at hmapped
  split at hmapped
  · rename_i hi lo hgroups
    obtain rfl := Option.some_inj.mp hmapped
    rw [hgroups, V4.groups, div_mod_256, div_mod_256]
    rfl
  · cases hmapped

theorem takeGroups_mapped (v4 : V4) :
    takeGroups 7 true ("ffff:".toList ++ v4.render) = (0xFFFF :: v4.groups, true, []) := by
  have hwrapped : takeGroups 6 false (':' :: v4.render) = (v4.groups, true, []) := by
    simp [takeGroups, takeChar, takeV4_render_nil]
  have hcolon : ColonAhead (':' :: v4.render) := by simp [ColonAhead]
  have hstart : groupStart true ("ffff:".toList ++ v4.render) =
      some (Nat.toDigits 16 (0xFFFF : UInt16).toNat ++ ':' :: v4.render) := rfl
  rw [takeGroups_next hstart hcolon, hwrapped]

end Mapped

namespace V6

theorem render_cases (ip : V6) :
    (∃ head tail zeros rest embedded, ip.render = renderGroups head ++ ':' :: ':' :: rest ∧
      ip.groups = head ++ List.replicate zeros 0 ++ tail ∧ 0 < zeros ∧
      takeGroups (7 - head.length) true rest = (tail, embedded, [])) ∨
    ip.render = renderGroups ip.groups := by
  cases hmapped : ip.mapped? with
  | some v4 =>
      refine Or.inl ⟨[], 0xFFFF :: v4.groups, 5, "ffff:".toList ++ v4.render, true, ?_,
        groups_of_mapped? hmapped, by decide, takeGroups_mapped v4⟩
      simp only [render, hmapped]
      rfl
  | none =>
      have hgroups := groups_eq_around_longestRun ip.groups
      simp only [render, hmapped, renderHex]
      generalize longestRun ip.groups 0 ⟨0, 0⟩ ⟨0, 0⟩ = run at hgroups
      by_cases hlong : 1 < run.length
      · rw [if_pos hlong]
        have hlength := congrArg List.length hgroups
        rw [ip.length_eq, List.length_append, List.length_append, List.length_replicate]
          at hlength
        have hroom : (ip.groups.drop (run.start + run.length)).length ≤
            7 - (ip.groups.take run.start).length := by omega
        have htail := takeGroups_renderGroups hroom .nothing
        rw [List.append_nil] at htail
        exact Or.inl ⟨_, _, run.length, _, false, rfl, hgroups, by omega, htail⟩
      · exact Or.inr (if_neg hlong)

theorem takeV6_render (ip : V6) : takeV6 ip.render = some (ip, []) := by
  rcases ip.render_cases with ⟨_, _, _, _, _, hrender, hgroups, hzeros, htail⟩ | hrender
  · rw [hrender]
    exact takeV6_gap hgroups hzeros htail
  · rw [hrender]
    exact takeV6_full ip

/-- It is not taken for an address of the older family. -/
theorem takeV4_render_eq_none (ip : V6) : takeV4 ip.render = none := by
  rcases ip.render_cases with ⟨_, _, _, _, _, hrender, _⟩ | hrender
  · rw [hrender]
    exact takeV4_renderGroups (by simp [ColonAhead])
  · have hend : ColonAhead [] := by simp [ColonAhead]
    have hread : takeV4 (renderGroups ip.groups ++ []) = none := takeV4_renderGroups hend
    rwa [List.append_nil, ← hrender] at hread

end V6

namespace Address

/-- An address is read from its own text. -/
theorem ofChars?_render (ip : Address) : ofChars? ip.render = some ip := by
  cases ip with
  | v4 ip => simp [ofChars?, render, takeV4_render_nil]
  | v6 ip => simp [ofChars?, render, ip.takeV4_render_eq_none, ip.takeV6_render]

end Address

end PolicyRollout.Network
