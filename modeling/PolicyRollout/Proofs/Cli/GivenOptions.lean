import Mathlib.Data.List.Infix
import PolicyRollout.Cli.Arguments
import PolicyRollout.Proofs.Document.Origins
/-!
Which options a list of arguments gives.  Arguments that are read to their end fall into options
with their values, each option written by itself, with its value attached or with its value behind
it.  So an option has been read exactly if it stands among the arguments, and what has been read is
what these options do one after another.
-/
namespace PolicyRollout.Cli

section Shapes

/-- A text and what follows its first equals sign, put together again. -/
def rejoin (front : List Char) : (back : Option (List Char)) → List Char
  | none => front
  | some back => front ++ '=' :: back

theorem splitEquals_rejoin {front : List Char} (hfront : '=' ∉ front) (back : Option (List Char)) :
    splitEquals (rejoin front back) = (front, back) := by
  induction front with
  | nil => cases back <;> rfl
  | cons c rest ih =>
      have hc : c ≠ '=' := fun heq => hfront (heq ▸ List.mem_cons_self)
      have hrest := ih fun h => hfront (List.mem_cons_of_mem c h)
      have hcons : rejoin (c :: rest) back = c :: rejoin rest back := by cases back <;> rfl
      rw [hcons, splitEquals, if_neg hc, hrest]

theorem rejoin_splitEquals (cs : List Char) :
    rejoin (splitEquals cs).1 (splitEquals cs).2 = cs := by
  induction cs with
  | nil => rfl
  | cons c rest ih =>
      by_cases hc : c = '='
      · rw [splitEquals, if_pos hc, hc]
        rfl
      · have hcons : ∀ front back, rejoin (c :: front) back = c :: rejoin front back := by
          intro front back
          cases back <;> rfl
        rw [splitEquals, if_neg hc]
        exact (hcons ..).trans (congrArg (c :: ·) ih)

/-- An option by its long name, with what is attached to it, as an argument. -/
def written (name : String) (attached : Option String) : String :=
  String.ofList ('-' :: '-' :: rejoin name.toList (attached.map String.toList))

theorem written_none (name : String) : written name none = "--" ++ name := by
  apply String.toList_injective
  simp [written, rejoin]

theorem written_some (name value : String) :
    written name (some value) = "--" ++ name ++ "=" ++ value := by
  apply String.toList_injective
  simp [written, rejoin]

/-- A long name that can be written: it is not empty and has no equals sign. -/
def IsLongName (name : String) : Prop :=
  name.toList ≠ [] ∧ '=' ∉ name.toList

instance (name : String) : Decidable (IsLongName name) :=
  inferInstanceAs (Decidable (name.toList ≠ [] ∧ '=' ∉ name.toList))

theorem Shape.of_written {name : String} (hname : IsLongName name) (attached : Option String) :
    Shape.of (written name attached) = .long name attached := by
  have hsplit := splitEquals_rejoin hname.2 (attached.map String.toList)
  obtain ⟨c, rest, hcs⟩ : ∃ c rest, rejoin name.toList (attached.map String.toList) = c :: rest := by
    obtain ⟨c, rest, hcs⟩ := List.exists_cons_of_ne_nil hname.1
    rw [hcs]
    cases attached with
    | none => exact ⟨c, rest, rfl⟩
    | some value => exact ⟨c, rest ++ '=' :: value.toList, rfl⟩
  have hattached : (attached.map String.toList).map String.ofList = attached := by
    cases attached <;> simp
  rw [hcs] at hsplit
  simp only [Shape.of, written, String.toList_ofList, hcs, hsplit, hattached, String.ofList_toList]

/-- An argument of the shape of a long option is one as it is written. -/
theorem Shape.eq_written {argument name : String} {attached : Option String}
    (hshape : Shape.of argument = .long name attached) : argument = written name attached := by
  unfold Shape.of at hshape
  split at hshape
  case h_2 body hbody =>
    obtain ⟨rfl, rfl⟩ := Shape.long.inj hshape
    have hmap : ∀ cs : Option (List Char), (cs.map String.ofList).map String.toList = cs := by
      intro cs
      cases cs <;> simp
    rw [written, String.toList_ofList, hmap, rejoin_splitEquals, ← hbody, String.ofList_toList]
  all_goals contradiction

/-- An option with a value is given by its long name: the value follows it or is attached to it. -/
def Gives (arguments : List String) (name value : String) : Prop :=
  ["--" ++ name, value] <:+: arguments ∨ "--" ++ name ++ "=" ++ value ∈ arguments

theorem gives_iff {arguments : List String} {name value : String} :
    Gives arguments name value ↔
      [written name none, value] <:+: arguments ∨ written name (some value) ∈ arguments := by
  rw [written_none, written_some, Gives]

end Shapes

section Parts

variable {α : Type} {options : List (OptionSpec α)} {arguments rest : List String}
  {parts : List (OptionSpec α × String)} {argument value : String} {o : OptionSpec α}
  {attached : Option String}

/-- An argument names an option, with what is attached to it. -/
inductive Names (options : List (OptionSpec α)) (argument : String) (o : OptionSpec α)
    (attached : Option String) : Prop
  | long {name : String} (hshape : Shape.of argument = .long name attached)
      (hfind : options.find? (·.long = name) = some o)
  | short {name : Char} (hshape : Shape.of argument = .short name attached)
      (hfind : options.find? (·.short = some name) = some o)

/-- Arguments fall into options with their values. -/
inductive Parts (options : List (OptionSpec α)) :
    List String → List (OptionSpec α × String) → Prop
  | nothing : Parts options [] []
  | ended {argument : String} (hshape : Shape.of argument = .endOfOptions) :
      Parts options [argument] []
  | flag {argument : String} {o : OptionSpec α} {rest : List String}
      {parts : List (OptionSpec α × String)} (hnames : Names options argument o none)
      (htakes : o.takesValue = false) (hrest : Parts options rest parts) :
      Parts options (argument :: rest) ((o, "") :: parts)
  | joined {argument value : String} {o : OptionSpec α} {rest : List String}
      {parts : List (OptionSpec α × String)} (hnames : Names options argument o (some value))
      (htakes : o.takesValue = true) (hrest : Parts options rest parts) :
      Parts options (argument :: rest) ((o, value) :: parts)
  | apart {argument value : String} {o : OptionSpec α} {rest : List String}
      {parts : List (OptionSpec α × String)} (hnames : Names options argument o none)
      (htakes : o.takesValue = true) (hvalue : isValue value = true)
      (hrest : Parts options rest parts) :
      Parts options (argument :: value :: rest) ((o, value) :: parts)

/-- Options with their values do one after another what they do; none that was given before is
given again, but for those that can be repeated. -/
inductive Does : (given : List String) → α → List (OptionSpec α × String) → α → Prop
  | nothing (given : List String) (a : α) : Does given a [] a
  | more {given : List String} {a a' a'' : α} {o : OptionSpec α} {value : String}
      {parts : List (OptionSpec α × String)} (hfresh : o.long ∈ given → o.repeatable = true)
      (happly : o.apply value a = some a') (hrest : Does (o.long :: given) a' parts a'') :
      Does given a ((o, value) :: parts) a''

inductive Recognised (options : List (OptionSpec α)) (argument : String) : Part α → Prop
  | endOfOptions (hshape : Shape.of argument = .endOfOptions) :
      Recognised options argument .endOfOptions
  | flag {o : OptionSpec α} (hnames : Names options argument o none)
      (htakes : o.takesValue = false) : Recognised options argument (.given o "")
  | joined {o : OptionSpec α} {value : String} (hnames : Names options argument o (some value))
      (htakes : o.takesValue = true) : Recognised options argument (.given o value)
  | awaiting {o : OptionSpec α} (hnames : Names options argument o none)
      (htakes : o.takesValue = true) : Recognised options argument (.awaiting o)

theorem Names.recognised {part : Part α} (hnames : Names options argument o attached)
    (hattach : o.attach attached = .ok part) : Recognised options argument part := by
  cases attached with
  | none =>
      obtain rfl := Except.ok.inj hattach
      by_cases htakes : o.takesValue = true
      · rw [if_pos htakes]
        exact .awaiting hnames htakes
      · rw [if_neg htakes]
        exact .flag hnames (Bool.not_eq_true _ ▸ htakes)
  | some value =>
      by_cases htakes : o.takesValue = true
      · rw [OptionSpec.attach, if_pos htakes] at hattach
        obtain rfl := Except.ok.inj hattach
        exact .joined hnames htakes
      · rw [OptionSpec.attach, if_neg htakes] at hattach
        contradiction

theorem Reading.recognised {r : Reading α} {part : Part α}
    (hpart : r.recognise argument = .ok part) : Recognised r.options argument part := by
  unfold Reading.recognise at hpart
  cases hshape : Shape.of argument with
  | word text => simp [hshape] at hpart
  | endOfOptions =>
      simp only [hshape] at hpart
      obtain rfl := Except.ok.inj hpart
      exact .endOfOptions hshape
  | long name attached =>
      simp only [hshape] at hpart
      cases hfind : r.findLong? name with
      | some o =>
          simp only [hfind] at hpart
          exact Names.recognised (.long hshape hfind) hpart
      | none =>
          simp only [hfind] at hpart
          split at hpart <;> contradiction
  | short name attached =>
      simp only [hshape] at hpart
      cases hfind : r.findShort? name with
      | some o =>
          simp only [hfind] at hpart
          exact Names.recognised (.short hshape hfind) hpart
      | none => simp [hfind] at hpart

theorem Reading.give_eq_ok {r r' : Reading α} (hgive : r.give o value = .ok r') :
    r'.options = r.options ∧ r'.given = o.long :: r.given ∧
      o.apply value r.value = some r'.value ∧ (o.long ∈ r.given → o.repeatable = true) := by
  unfold Reading.give at hgive
  split at hgive
  · contradiction
  · rename_i hrepeated
    cases happly : o.apply value r.value with
    | none => simp [happly] at hgive
    | some a =>
        simp only [happly] at hgive
        obtain rfl := Except.ok.inj hgive
        refine ⟨rfl, rfl, rfl, fun hgiven => ?_⟩
        simpa [hgiven] using hrepeated

/-- What has been read is what the options do that the arguments fall into. -/
theorem Reading.exists_parts {r : Reading α} {a : α} (hread : r.readAll arguments = .ok a) :
    ∃ parts, Parts r.options arguments parts ∧ Does r.given r.value parts a := by
  fun_induction Reading.readAll r arguments with
  | case1 r =>
      obtain rfl := Except.ok.inj hread
      exact ⟨[], .nothing, .nothing ..⟩
  | case3 r argument hpart =>
      obtain rfl := Except.ok.inj hread
      cases recognised hpart with
      | endOfOptions hshape => exact ⟨[], .ended hshape, .nothing ..⟩
  | case6 r argument rest o value hpart r' hgive ih =>
      obtain ⟨parts, hparts, hdoes⟩ := ih hread
      obtain ⟨hoptions, hgiven, happly, hrepeated⟩ := give_eq_ok hgive
      rw [hoptions] at hparts
      rw [hgiven] at hdoes
      refine ⟨(o, value) :: parts, ?_, .more hrepeated happly hdoes⟩
      cases recognised hpart with
      | flag hnames htakes => exact .flag hnames htakes hparts
      | joined hnames htakes => exact .joined hnames htakes hparts
  | case9 r argument o hpart value rest hvalue r' hgive ih =>
      obtain ⟨parts, hparts, hdoes⟩ := ih hread
      obtain ⟨hoptions, hgiven, happly, hrepeated⟩ := give_eq_ok hgive
      rw [hoptions] at hparts
      rw [hgiven] at hdoes
      refine ⟨(o, value) :: parts, ?_, .more hrepeated happly hdoes⟩
      cases recognised hpart with
      | awaiting hnames htakes => exact .apart hnames htakes hvalue hparts
  | _ => contradiction

structure OnlyLong (options : List (OptionSpec α)) (name : String) (takesValue : Bool) : Prop where
  isLongName : IsLongName name
  only : ∀ o ∈ options, o.long = name → o.short = none ∧ o.takesValue = takesValue

instance (options : List (OptionSpec α)) (name : String) (takesValue : Bool) :
    Decidable (OnlyLong options name takesValue) :=
  decidable_of_iff (IsLongName name ∧
      ∀ o ∈ options, o.long = name → o.short = none ∧ o.takesValue = takesValue)
    ⟨fun h => ⟨h.1, h.2⟩, fun h => ⟨h.1, h.2⟩⟩

variable {name : String} {takes : Bool}

theorem written_ne_of_isValue (honly : OnlyLong options name takes) (attached : Option String)
    (hvalue : isValue value = true) : written name attached ≠ value := by
  rintro rfl
  rw [isValue, Shape.of_written honly.isLongName] at hvalue
  contradiction

theorem written_ne_of_endOfOptions (honly : OnlyLong options name takes) (attached : Option String)
    (hshape : Shape.of argument = .endOfOptions) : written name attached ≠ argument := by
  rintro rfl
  rw [Shape.of_written honly.isLongName] at hshape
  contradiction

namespace Names

theorem of_written (honly : OnlyLong options name takes) {attached' : Option String}
    (hnames : Names options (written name attached') o attached) :
    o.long = name ∧ attached = attached' := by
  have hshape' := Shape.of_written honly.isLongName attached'
  cases hnames with
  | long hshape hfind =>
      obtain ⟨rfl, rfl⟩ := Shape.long.inj (hshape'.symm.trans hshape)
      exact ⟨by simpa using List.find?_some hfind, rfl⟩
  | short hshape hfind =>
      rw [hshape'] at hshape
      contradiction

section

variable (honly : OnlyLong options name takes) (hnames : Names options argument o attached)

include honly hnames

/-- An argument names such an option exactly if it is how the option is written. -/
theorem long_iff : o.long = name ↔ written name attached = argument := by
  constructor
  · intro hlong
    cases hnames with
    | @long found hshape hfind =>
        obtain rfl : name = found := hlong.symm.trans (by simpa using List.find?_some hfind)
        exact (Shape.eq_written hshape).symm
    | short hshape hfind =>
        have hname := List.find?_some hfind
        rw [(honly.only o (List.mem_of_find?_eq_some hfind) hlong).1] at hname
        simp at hname
  · rintro rfl
    exact (hnames.of_written honly).1

theorem written_ne {attached' : Option String} (hne : attached ≠ attached') :
    written name attached' ≠ argument := by
  rintro rfl
  exact hne (hnames.of_written honly).2

/-- An option that takes a value, or takes none, is no option that does not. -/
theorem long_ne (htakes : o.takesValue ≠ takes) : o.long ≠ name := by
  intro hlong
  cases hnames with
  | long hshape hfind =>
      exact htakes (honly.only o (List.mem_of_find?_eq_some hfind) hlong).2
  | short hshape hfind =>
      exact htakes (honly.only o (List.mem_of_find?_eq_some hfind) hlong).2

end

end Names

/-- An option without a value is among the parts exactly if it is among the arguments. -/
theorem Parts.flag_iff (honly : OnlyLong options name false)
    (hparts : Parts options arguments parts) :
    (∃ part ∈ parts, part.1.long = name) ↔ "--" ++ name ∈ arguments := by
  rw [← written_none]
  induction hparts with
  | nothing => simp
  | ended hshape => simp [written_ne_of_endOfOptions honly none hshape]
  | flag hnames htakes hrest ih =>
      rw [List.exists_mem_cons_iff, List.mem_cons, ih, hnames.long_iff honly]
  | joined hnames htakes hrest ih =>
      have hlong := hnames.long_ne honly (by simp [htakes])
      have hne := hnames.written_ne honly (Option.some_ne_none _)
      rw [List.exists_mem_cons_iff, List.mem_cons, ih]
      simp [hlong, hne]
  | apart hnames htakes hvalue hrest ih =>
      have hlong := hnames.long_ne honly (by simp [htakes])
      rw [List.exists_mem_cons_iff, List.mem_cons, List.mem_cons, ih, ← hnames.long_iff honly]
      simp [hlong, written_ne_of_isValue honly none hvalue]

theorem pair_infix_cons_iff {first second argument : String} :
    [first, second] <:+: argument :: rest ↔
      (first = argument ∧ [second] <+: rest) ∨ [first, second] <:+: rest := by
  rw [List.infix_cons_iff, List.cons_prefix_cons]

/-- An option with a value is among the parts exactly if it is given by the arguments. -/
theorem Parts.valued_iff (honly : OnlyLong options name true)
    (hparts : Parts options arguments parts) :
    (∃ part ∈ parts, part.1.long = name ∧ part.2 = value) ↔ Gives arguments name value := by
  rw [gives_iff]
  induction hparts with
  | nothing => simp
  | ended hshape =>
      have hne := fun attached => written_ne_of_endOfOptions honly attached hshape
      simp [pair_infix_cons_iff, hne]
  | flag hnames htakes hrest ih =>
      have hlong := hnames.long_ne honly (by simp [htakes])
      have hnone := (hnames.long_iff honly).not.mp hlong
      have hsome := hnames.written_ne honly (Option.some_ne_none value).symm
      rw [List.exists_mem_cons_iff, ih, pair_infix_cons_iff, List.mem_cons]
      simp [hlong, hnone, hsome]
  | @joined argument found o rest parts hnames htakes hrest ih =>
      have hnone := hnames.written_ne honly (Option.some_ne_none found)
      have hhead : o.long = name ∧ found = value ↔ written name (some value) = argument := by
        constructor
        · rintro ⟨hlong, rfl⟩
          exact (hnames.long_iff honly).mp hlong
        · rintro rfl
          obtain ⟨hlong, hattached⟩ := hnames.of_written honly
          exact ⟨hlong, Option.some_inj.mp hattached⟩
      rw [List.exists_mem_cons_iff, ih, pair_infix_cons_iff, List.mem_cons, hhead]
      simp [hnone, or_left_comm]
  | apart hnames htakes hvalue hrest ih =>
      have hsome := hnames.written_ne honly (Option.some_ne_none value).symm
      have hne := fun attached => written_ne_of_isValue honly attached hvalue
      rw [List.exists_mem_cons_iff, ih, pair_infix_cons_iff, pair_infix_cons_iff, List.mem_cons,
        List.mem_cons, hnames.long_iff honly, List.cons_prefix_cons]
      simp [hsome, hne, or_assoc, eq_comm]

theorem Names.mem (hnames : Names options argument o attached) : o ∈ options := by
  cases hnames with
  | long _ hfind => exact List.mem_of_find?_eq_some hfind
  | short _ hfind => exact List.mem_of_find?_eq_some hfind

/-- The parts are options that are known. -/
theorem Parts.mem (hparts : Parts options arguments parts) : ∀ part ∈ parts, part.1 ∈ options := by
  induction hparts with
  | nothing => exact fun _ hpart => absurd hpart List.not_mem_nil
  | ended _ => exact fun _ hpart => absurd hpart List.not_mem_nil
  | flag hnames _ _ ih => exact List.forall_mem_cons.mpr ⟨hnames.mem, ih⟩
  | joined hnames _ _ ih => exact List.forall_mem_cons.mpr ⟨hnames.mem, ih⟩
  | apart hnames _ _ _ ih => exact List.forall_mem_cons.mpr ⟨hnames.mem, ih⟩

/-- One option sets a value that all others keep, and it cannot be repeated. -/
structure Sets {β : Type} (options : List (OptionSpec α)) (name : String) (get : α → β)
    (set : (value : String) → Option β) : Prop where
  once : ∀ o ∈ options, o.long = name → o.repeatable = false
  sets : ∀ o ∈ options, o.long = name → ∀ value a a', o.apply value a = some a' →
    set value = some (get a')
  keeps : ∀ o ∈ options, o.long ≠ name → ∀ value a a', o.apply value a = some a' →
    get a' = get a

section Sets

variable {β : Type} {get : α → β} {set : String → Option β} {given : List String} {a a' : α}

theorem Does.not_again (hsets : Sets options name get set) (hdoes : Does given a parts a')
    (hmem : ∀ part ∈ parts, part.1 ∈ options) (hgiven : name ∈ given) :
    ∀ part ∈ parts, part.1.long ≠ name := by
  induction hdoes with
  | nothing => exact fun _ hpart => absurd hpart List.not_mem_nil
  | @more given a a' a'' o value parts hfresh happly hrest ih =>
      obtain ⟨ho, hmem⟩ := List.forall_mem_cons.mp hmem
      refine List.forall_mem_cons.mpr ⟨?_, ih hmem (List.mem_cons_of_mem _ hgiven)⟩
      intro hlong
      have hrepeatable := hfresh (hlong ▸ hgiven)
      rw [hsets.once o ho hlong] at hrepeatable
      contradiction

/-- The value is the one that was set, or else the one before. -/
theorem Does.get_eq (hsets : Sets options name get set) (hdoes : Does given a parts a')
    (hmem : ∀ part ∈ parts, part.1 ∈ options) :
    (∀ part ∈ parts, part.1.long = name → set part.2 = some (get a')) ∧
      ((∀ part ∈ parts, part.1.long ≠ name) → get a' = get a) := by
  induction hdoes with
  | nothing => exact ⟨fun _ hpart => absurd hpart List.not_mem_nil, fun _ => rfl⟩
  | @more given a a' a'' o value parts hfresh happly hrest ih =>
      obtain ⟨ho, hmem⟩ := List.forall_mem_cons.mp hmem
      obtain ⟨hset, hkeep⟩ := ih hmem
      by_cases hlong : o.long = name
      · have hnone := hrest.not_again hsets hmem (hlong ▸ List.mem_cons_self)
        constructor
        · refine List.forall_mem_cons.mpr ⟨fun _ => ?_, hset⟩
          rw [hkeep hnone]
          exact hsets.sets o ho hlong value a a' happly
        · intro hall
          exact absurd hlong (hall (o, value) List.mem_cons_self)
      · constructor
        · exact List.forall_mem_cons.mpr ⟨fun heq => absurd heq hlong, hset⟩
        · intro hall
          rw [hkeep (List.forall_mem_cons.mp hall).2]
          exact hsets.keeps o ho hlong value a a' happly

/-- A flag is set if it was set before or is among the arguments. -/
theorem Parts.flag_eq {get : α → Bool} (honly : OnlyLong options name false)
    (hsets : Sets options name get fun _ => some true) (hparts : Parts options arguments parts)
    (hdoes : Does given a parts a') (hbefore : get a = false) :
    get a' = true ↔ "--" ++ name ∈ arguments := by
  obtain ⟨hset, hkeep⟩ := hdoes.get_eq hsets hparts.mem
  rw [← hparts.flag_iff honly]
  constructor
  · intro htrue
    by_contra hnone
    rw [hkeep fun part hpart hlong => hnone ⟨part, hpart, hlong⟩, hbefore] at htrue
    contradiction
  · rintro ⟨part, hpart, hlong⟩
    exact (Option.some_inj.mp (hset part hpart hlong)).symm

/-- A value is the one that the arguments give, if they give one. -/
theorem Parts.valued_eq {get : α → Option β} {read? : String → Option β}
    (honly : OnlyLong options name true)
    (hsets : Sets options name get fun value => (read? value).map some)
    (hparts : Parts options arguments parts) (hdoes : Does given a parts a') :
    (∀ value, Gives arguments name value → ∃ b, read? value = some b ∧ get a' = some b) ∧
      ((∀ value, ¬ Gives arguments name value) → get a' = get a) := by
  obtain ⟨hset, hkeep⟩ := hdoes.get_eq hsets hparts.mem
  constructor
  · intro value hgives
    obtain ⟨part, hpart, hlong, rfl⟩ := (hparts.valued_iff honly).mpr hgives
    obtain ⟨b, hread, hget⟩ := Option.map_eq_some_iff.mp (hset part hpart hlong)
    exact ⟨b, hread, hget.symm⟩
  · intro hnone
    apply hkeep
    intro part hpart hlong
    exact hnone part.2 ((hparts.valued_iff honly).mp ⟨part, hpart, hlong, rfl⟩)

end Sets

end Parts

section Deploy

theorem dryRun_sets :
    Sets deployOptions "dry-run" DeployArguments.dryRun fun _ => some true := by
  refine ⟨by decide +kernel, ?_, ?_⟩
  all_goals simp [deployOptions, OptionSpec.flag, OptionSpec.valued]

theorem verifyTemplates_sets :
    Sets deployOptions "verify-templates" DeployArguments.verifyTemplates fun _ => some true := by
  refine ⟨by decide +kernel, ?_, ?_⟩
  all_goals simp [deployOptions, OptionSpec.flag, OptionSpec.valued]

theorem concurrency_sets :
    Sets deployOptions "concurrency" DeployArguments.concurrency fun value =>
      (Settings.natural64? value.toList).map some := by
  refine ⟨by decide +kernel, ?_, ?_⟩
  all_goals simp [deployOptions, OptionSpec.flag, OptionSpec.valued]

/-- What the arguments of a deployment give: its flags are among them, and its concurrency is the
number they give, if they give one. -/
structure DeployArguments.GivenBy (a : DeployArguments) (arguments : List String) : Prop where
  dryRun : a.dryRun = true ↔ "--dry-run" ∈ arguments
  verifyTemplates : a.verifyTemplates = true ↔ "--verify-templates" ∈ arguments
  concurrency : ∀ text, Gives arguments "concurrency" text →
    ∃ n, Settings.natural64? text.toList = some n ∧ a.concurrency = some n
  noConcurrency : (∀ text, ¬ Gives arguments "concurrency" text) → a.concurrency = none

theorem Invocation.givenBy {lookup : String → Option String} {arguments : List String}
    {a : DeployArguments} (hdeploy : Invocation.deploy lookup arguments = .ok (.deploy a)) :
    a.GivenBy arguments := by
  unfold Invocation.deploy at hdeploy
  obtain ⟨a', hread, hdeploy⟩ := Document.bind_eq_ok_iff.mp hdeploy
  obtain ⟨topology, _, hdeploy⟩ := Document.bind_eq_ok_iff.mp hdeploy
  obtain rfl := Command.deploy.inj (Except.ok.inj hdeploy)
  obtain ⟨parts, hparts, hdoes⟩ := Reading.exists_parts hread
  obtain ⟨hvalue, hnone⟩ := hparts.valued_eq
    (by decide +kernel) concurrency_sets hdoes
  have hdry := hparts.flag_eq (by decide +kernel) dryRun_sets hdoes rfl
  have hverify := hparts.flag_eq (by decide +kernel) verifyTemplates_sets hdoes rfl
  exact ⟨hdry, hverify, hvalue, hnone⟩

end Deploy

end PolicyRollout.Cli
