import PolicyRollout.Plan.Basic
/-!
Where the addresses of a directory come from: what is found under a name is the address of a
service of that name, so whatever dependencies are resolved to belongs to a service of the same
tier.
-/
namespace PolicyRollout

namespace Directory

/-- Setting a name changes what is found under that name and under no other. -/
theorem lookup_insert (d : Directory) (name ip other : String) :
    (d.insert name ip).lookup other = if name = other then some ip else d.lookup other := by
  obtain ⟨entries⟩ := d
  simp only [insert, lookup]
  induction entries with
  | nil => by_cases hname : name = other <;> simp [setEntry, hname]
  | cons entry rest ih =>
      obtain ⟨n, i⟩ := entry
      by_cases hset : n = name
      · by_cases hname : name = other
        · simp [setEntry, hset, hname]
        · simp [setEntry, hset, hname]
      · by_cases hfound : n = other
        · have hname : name ≠ other := fun heq => hset (hfound.trans heq.symm)
          simp [setEntry, hfound, hname, hname.symm]
        · simp only [setEntry, hset, if_false, List.find?_cons, hfound, decide_false, ih]

/-- What is found was there before or is the address of one of the services added. -/
theorem lookup_foldl_insert {services : List Service} {d : Directory} {name ip : String}
    (h : (services.foldl (fun d s => d.insert s.name s.ip) d).lookup name = some ip) :
    d.lookup name = some ip ∨ ∃ s ∈ services, s.name = name ∧ s.ip = ip := by
  -- The directory grows with each service, so it is any directory in the induction.
  induction services generalizing d with
  | nil => exact Or.inl h
  | cons s rest ih =>
      rcases ih h with hbefore | ⟨found, hmem, hfound⟩
      · rw [lookup_insert] at hbefore
        by_cases hname : s.name = name
        · rw [if_pos hname, Option.some_inj] at hbefore
          exact Or.inr ⟨s, List.mem_cons_self, hname, hbefore⟩
        · rw [if_neg hname] at hbefore
          exact Or.inl hbefore
      · exact Or.inr ⟨found, List.mem_cons_of_mem s hmem, hfound⟩

theorem exists_service_of_lookup {services : List Service} {name ip : String}
    (h : (ofServices services).lookup name = some ip) :
    ∃ s ∈ services, s.name = name ∧ s.ip = ip := by
  rcases lookup_foldl_insert h with hempty | hservice
  · contradiction
  · exact hservice

end Directory

theorem Tier.exists_service_of_resolved {t : Tier} {names : List String} {ip : String}
    (h : ip ∈ (TierContext.ofTier t).directory.resolve names) :
    ∃ s, .service s ∈ t.entities.toList ∧ s.ip = ip := by
  obtain ⟨name, _, hlookup⟩ := List.mem_filterMap.mp h
  obtain ⟨tierName, switch, monitoringSubnet, template, entities⟩ := t
  cases entities with
  | services list =>
      obtain ⟨s, hs, _, hip⟩ := Directory.exists_service_of_lookup hlookup
      exact ⟨s, List.mem_map_of_mem hs, hip⟩
  | servers list => contradiction
  | databases list => contradiction
  | resources list => contradiction

end PolicyRollout
