import Mathlib.Data.Finset.Card
import PolicyRollout.Proofs.Plan.Directory
import PolicyRollout.Proofs.Topology.Positions
/-!
How dependencies are resolved.  Under a name the directory has the address of the last service of
that name, so where names differ the order in which services are listed decides nothing: a tier
that lists them in another order has the same plan, in that order.
-/
namespace PolicyRollout

namespace Directory

def lastAddress (services : List Service) (name : String) : Option String :=
  (services.findRev? fun s => s.name = name).map Service.ip

theorem lookup_foldl_insert_eq (services : List Service) (d : Directory) (name : String) :
    (services.foldl (fun d s => d.insert s.name s.ip) d).lookup name =
      (lastAddress services name).or (d.lookup name) := by
  induction services generalizing d with
  | nil => rfl
  | cons s rest ih =>
      rw [List.foldl_cons, ih, lookup_insert, lastAddress, lastAddress, List.findRev?]
      cases rest.findRev? fun s => s.name = name with
      | some later => rfl
      | none => by_cases hname : s.name = name <;> simp [hname]

theorem lookup_ofServices (services : List Service) :
    (ofServices services).lookup = lastAddress services := by
  funext name
  rw [ofServices, lookup_foldl_insert_eq]
  exact Option.or_none

def names (d : Directory) : List String :=
  d.entries.map Prod.fst

theorem names_insert (d : Directory) (name ip : String) :
    (d.insert name ip).names = if name ∈ d.names then d.names else d.names ++ [name] := by
  obtain ⟨entries⟩ := d
  simp only [insert, names]
  induction entries with
  | nil => rfl
  | cons entry rest ih =>
      obtain ⟨n, i⟩ := entry
      by_cases hname : n = name
      · simp [setEntry, hname]
      · by_cases hmem : name ∈ rest.map Prod.fst
        · simp [setEntry, hname, Ne.symm hname, ih, hmem]
        · simp [setEntry, hname, Ne.symm hname, ih, hmem]

/-- A service adds its name, unless that is listed already. -/
theorem names_foldl_insert (services : List Service) {d : Directory} (hnames : d.names.Nodup) :
    (services.foldl (fun d s => d.insert s.name s.ip) d).names.Nodup ∧
      ∀ name, name ∈ (services.foldl (fun d s => d.insert s.name s.ip) d).names ↔
        name ∈ d.names ∨ name ∈ services.map Service.name := by
  induction services generalizing d with
  | nil => simp [hnames]
  | cons s rest ih =>
      have hinsert := d.names_insert s.name s.ip
      have hmore : (d.insert s.name s.ip).names.Nodup ∧
          ∀ name, name ∈ (d.insert s.name s.ip).names ↔ name ∈ d.names ∨ name = s.name := by
        by_cases hmem : s.name ∈ d.names
        · rw [hinsert, if_pos hmem]
          refine ⟨hnames, fun name => ⟨Or.inl, ?_⟩⟩
          rintro (hold | rfl)
          · exact hold
          · exact hmem
        · rw [hinsert, if_neg hmem]
          refine ⟨List.nodup_append.mpr ⟨hnames, List.nodup_singleton _, ?_⟩, fun name => ?_⟩
          · rintro name hname _ hadded rfl
            exact hmem (List.mem_singleton.mp hadded ▸ hname)
          · rw [List.mem_append, List.mem_singleton]
      obtain ⟨hnodup, hlisted⟩ := ih hmore.1
      refine ⟨hnodup, fun name => ?_⟩
      rw [List.foldl_cons, hlisted, hmore.2, List.map_cons, List.mem_cons, or_assoc]

theorem size_ofServices (services : List Service) :
    (ofServices services).size = (services.map Service.name).toFinset.card := by
  obtain ⟨hnodup, hlisted⟩ := names_foldl_insert services (d := empty) List.nodup_nil
  have hset : (services.map Service.name).toFinset = (ofServices services).names.toFinset := by
    ext name
    have hname := hlisted name
    simp only [empty, names, List.map_nil, List.not_mem_nil, false_or] at hname
    rw [List.mem_toFinset, List.mem_toFinset, ← hname]
    rfl
  have hcard : (ofServices services).names.toFinset.card = (ofServices services).names.length :=
    List.toFinset_card_of_nodup hnodup
  rw [hset, hcard, names, List.length_map, size]

section Distinct

variable {services services' : List Service}

theorem findRev?_eq_some_iff (hnames : (services.map Service.name).Nodup) {name : String}
    {s : Service} :
    services.findRev? (fun s => s.name = name) = some s ↔ s ∈ services ∧ s.name = name := by
  rw [List.findRev?_eq_find?_reverse]
  have hsound : ∀ {s}, services.reverse.find? (fun s => s.name = name) = some s →
      s ∈ services ∧ s.name = name := fun hfound =>
    ⟨List.mem_reverse.mp (List.mem_of_find?_eq_some hfound), by
      simpa using List.find?_some hfound⟩
  refine ⟨hsound, ?_⟩
  rintro ⟨hs, hname⟩
  cases hfound : services.reverse.find? fun s => s.name = name with
  | none =>
      have hnone := List.find?_eq_none.mp hfound s (List.mem_reverse.mpr hs)
      simp [hname] at hnone
  | some other =>
      obtain ⟨hother, hname'⟩ := hsound hfound
      rw [List.inj_on_of_nodup_map hnames hother hs (hname'.trans hname.symm)]

/-- Where names differ the order of services does not matter. -/
theorem lastAddress_of_perm (hnames : (services.map Service.name).Nodup)
    (hperm : services'.Perm services) : lastAddress services' = lastAddress services := by
  funext name
  have hnames' : (services'.map Service.name).Nodup := (hperm.map Service.name).nodup_iff.mpr hnames
  have hfound : services'.findRev? (fun s => s.name = name) =
      services.findRev? (fun s => s.name = name) := by
    apply Option.ext
    intro s
    rw [findRev?_eq_some_iff hnames, findRev?_eq_some_iff hnames', hperm.mem_iff]
  rw [lastAddress, lastAddress, hfound]

end Distinct

end Directory

/-- What is planned for a service depends on what the directory finds and on nothing else in it. -/
theorem Service.instantiation_congr {ctx ctx' : TierContext}
    (hlookup : ctx'.directory.lookup = ctx.directory.lookup)
    (hsame : { ctx' with directory := ctx.directory } = ctx) (s : Service) :
    (Entity.service s).instantiation ctx' = (Entity.service s).instantiation ctx := by
  have hresolve : ctx'.directory.resolve s.dependencies = ctx.directory.resolve s.dependencies := by
    rw [Directory.resolve, Directory.resolve, hlookup]
  rw [← hsame]
  simp only [Entity.instantiation, Entity.vars, Service.vars, hresolve]

namespace Tier

/-- The tier with its services listed in another way. -/
def withServices (t : Tier) (services : List Service) : Tier :=
  { t with entities := .services services }

theorem plan_withServices_perm (t : Tier) {services services' : List Service}
    (hnames : (services.map Service.name).Nodup) (hperm : services'.Perm services) :
    (t.withServices services').plan = services'.map fun s =>
      (Entity.service s).instantiation (.ofTier (t.withServices services)) := by
  have hlookup : (Directory.ofServices services').lookup =
      (Directory.ofServices services).lookup := by
    rw [Directory.lookup_ofServices, Directory.lookup_ofServices,
      Directory.lastAddress_of_perm hnames hperm]
  have hentities : (t.withServices services').entities.toList = services'.map .service := rfl
  rw [plan, hentities, List.map_map]
  apply List.map_congr_left
  intro s _
  exact s.instantiation_congr hlookup rfl

end Tier

/-- Each dependency is resolved to the address of the last service of its name and dropped if there
is none, and a directory has as many names as there are.  A tier whose services have different names
and are listed in another order has the same plan, in that order. -/
theorem dependencies_resolved :
    (∀ services names, (Directory.ofServices services).resolve names =
      names.filterMap (Directory.lastAddress services)) ∧
    (∀ services, (Directory.ofServices services).size =
      (services.map Service.name).toFinset.card) ∧
    ∀ (t : Tier) (services : List Service), (services.map Service.name).Nodup →
      ∀ positions, positions.Perm (List.range services.length) →
        (t.withServices (pick positions services)).plan =
          pick positions (t.withServices services).plan := by
  refine ⟨?_, Directory.size_ofServices, ?_⟩
  · intro services names
    rw [Directory.resolve, Directory.lookup_ofServices]
  · intro t services hnames positions hall
    rw [t.plan_withServices_perm hnames (pick_perm hall), t.plan_withServices_perm hnames (.refl _),
      pick_map]

namespace Directory

/-- A service that depends on another, on one that is not there, and on itself. -/
def linked : List Service :=
  [⟨"api", "10.0.1.1", none, ["store", "mail", "api"]⟩, ⟨"store", "10.0.1.2", some 5432, []⟩]

theorem dependencies_resolved_linked :
    let t : Tier := ⟨"app", "ls-app", none, none, .services []⟩
    (linked.map Service.name).Nodup ∧ [1, 0].Perm (List.range linked.length) ∧
      (t.withServices (pick [1, 0] linked)).plan = pick [1, 0] (t.withServices linked).plan := by
  intro t
  have hnames : (linked.map Service.name).Nodup := by decide
  have hall : [1, 0].Perm (List.range linked.length) := by decide
  exact ⟨hnames, hall, dependencies_resolved.2.2 t linked hnames [1, 0] hall⟩

example : (ofServices linked).resolve ["store", "mail", "api", "store"] =
    ["10.0.1.2", "10.0.1.1", "10.0.1.2"] := rfl

end Directory

end PolicyRollout
