import PolicyRollout.Proofs.Topology.Positions
import PolicyRollout.Topology.Basic
/-!
The order of deployment.  Sorting by kind is stable, so the deployment order is the groups of
tiers of one kind, one after another, each in document order.  Tiers may change places in a
document as long as those of one kind do not.
-/
namespace PolicyRollout

namespace Tier

/-- Whether a tier may be deployed before another. -/
def mayPrecede (a b : Tier) : Bool :=
  a.kind.rank ≤ b.kind.rank

theorem mayPrecede_trans (a b c : Tier) (hab : a.mayPrecede b = true)
    (hbc : b.mayPrecede c = true) : a.mayPrecede c = true := by
  simp only [mayPrecede, decide_eq_true_eq] at *
  omega

theorem mayPrecede_total (a b : Tier) : (a.mayPrecede b || b.mayPrecede a) = true := by
  simp only [mayPrecede, Bool.or_eq_true, decide_eq_true_eq]
  omega

theorem mayPrecede_of_kind_eq {a b : Tier} (hkind : a.kind = b.kind) : a.mayPrecede b = true := by
  simp [mayPrecede, hkind]

end Tier

namespace Topology

/-- The tiers of a kind, in document order. -/
def tiersOf (t : Topology) (kind : TierKind) : List Tier :=
  t.tiers.filter fun tier => tier.kind = kind

theorem deploymentOrder_perm (t : Topology) : t.deploymentOrder.Perm t.tiers :=
  List.mergeSort_perm ..

theorem deploymentOrder_ordered (t : Topology) :
    t.deploymentOrder.Pairwise fun a b => a.mayPrecede b :=
  List.pairwise_mergeSort Tier.mayPrecede_trans Tier.mayPrecede_total t.tiers

/-- Tiers of one kind keep their order. -/
theorem filter_deploymentOrder (t : Topology) (kind : TierKind) :
    t.deploymentOrder.filter (fun tier => tier.kind = kind) = t.tiersOf kind := by
  have halike : (t.tiersOf kind).Pairwise fun a b => a.mayPrecede b := by
    apply List.pairwise_of_forall_mem_list
    intro a ha b hb
    have hkinds : a.kind = kind ∧ b.kind = kind :=
      ⟨of_decide_eq_true (List.mem_filter.mp ha).2, of_decide_eq_true (List.mem_filter.mp hb).2⟩
    exact Tier.mayPrecede_of_kind_eq (hkinds.1.trans hkinds.2.symm)
  have hkept : (t.tiersOf kind).Sublist t.deploymentOrder :=
    List.sublist_mergeSort Tier.mayPrecede_trans Tier.mayPrecede_total halike List.filter_sublist
  have hgroup := hkept.filter fun tier => tier.kind = kind
  rw [tiersOf, List.filter_filter] at hgroup
  simp only [Bool.and_self] at hgroup
  have hlength := (t.deploymentOrder_perm.filter fun tier => tier.kind = kind).length_eq
  exact (hgroup.eq_of_length hlength.symm).symm

/-- Tiers in order of their kinds are the groups of one kind, one after another. -/
theorem eq_flatMap_of_ordered {tiers : List Tier}
    (hordered : tiers.Pairwise fun a b => a.mayPrecede b) :
    tiers = TierKind.all.flatMap fun kind => tiers.filter fun tier => tier.kind = kind := by
  induction tiers with
  | nil => rfl
  | cons tier rest ih =>
      obtain ⟨hfirst, hrest⟩ := List.pairwise_cons.mp hordered
      have hnone : ∀ kind : TierKind, kind.rank < tier.kind.rank →
          rest.filter (fun other => other.kind = kind) = [] := by
        intro kind hlt
        rw [List.filter_eq_nil_iff]
        intro other hother hkind
        have hle : tier.kind.rank ≤ other.kind.rank := of_decide_eq_true (hfirst other hother)
        rw [of_decide_eq_true hkind] at hle
        omega
      have hgroups := ih hrest
      simp only [TierKind.all, List.flatMap_cons, List.flatMap_nil, List.append_nil] at hgroups ⊢
      -- the groups of the lower kinds are empty, and the tier comes first in its own
      cases hkind : tier.kind with
      | web =>
          simpa [List.filter_cons, hkind] using hgroups
      | application =>
          have hweb := hnone .web (by rw [hkind]; decide)
          simpa [List.filter_cons, hkind, hweb] using hgroups
      | data =>
          have hweb := hnone .web (by rw [hkind]; decide)
          have happlication := hnone .application (by rw [hkind]; decide)
          simpa [List.filter_cons, hkind, hweb, happlication] using hgroups
      | secure =>
          have hweb := hnone .web (by rw [hkind]; decide)
          have happlication := hnone .application (by rw [hkind]; decide)
          have hdata := hnone .data (by rw [hkind]; decide)
          simpa [List.filter_cons, hkind, hweb, happlication, hdata] using hgroups

/-- The deployment order is the groups of tiers of one kind, one after another. -/
theorem deploymentOrder_eq_groups (t : Topology) :
    t.deploymentOrder = TierKind.all.flatMap t.tiersOf := by
  have hgroups := eq_flatMap_of_ordered t.deploymentOrder_ordered
  rwa [funext t.filter_deploymentOrder] at hgroups

/-- An order of the tiers of a topology, given by their positions, in which tiers of one kind stay
in document order. -/
structure KeepsKinds (order : List Nat) (t : Topology) : Prop where
  complete : order.Perm (List.range t.tiers.length)
  steady : order.Pairwise fun i j => ∀ a b, t.tiers[i]? = some a → t.tiers[j]? = some b →
    a.kind = b.kind → i < j

/-- The topology with its tiers in another order. -/
def inOrder (order : List Nat) (t : Topology) : Topology :=
  ⟨pick order t.tiers⟩

section

variable {order : List Nat} {t : Topology}

theorem tiersOf_inOrder (hkeeps : KeepsKinds order t) : (t.inOrder order).tiersOf = t.tiersOf := by
  funext kind
  apply filter_pick_of_increasing hkeeps.complete
  apply (hkeeps.steady.filter _).imp_of_mem
  intro i j hi hj hij
  obtain ⟨a, ha, hkindA⟩ := (Option.any_eq_true _ _).mp (List.mem_filter.mp hi).2
  obtain ⟨b, hb, hkindB⟩ := (Option.any_eq_true _ _).mp (List.mem_filter.mp hj).2
  exact hij a b ha hb ((of_decide_eq_true hkindA).trans (of_decide_eq_true hkindB).symm)

theorem deploymentOrder_inOrder (hkeeps : KeepsKinds order t) :
    (t.inOrder order).deploymentOrder = t.deploymentOrder := by
  rw [deploymentOrder_eq_groups, deploymentOrder_eq_groups, tiersOf_inOrder hkeeps]

theorem inOrder_perm (hkeeps : KeepsKinds order t) : (t.inOrder order).tiers.Perm t.tiers :=
  pick_perm hkeeps.complete

end

end Topology

end PolicyRollout
