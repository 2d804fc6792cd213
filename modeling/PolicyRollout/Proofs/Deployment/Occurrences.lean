import PolicyRollout.Deployment.Window
/-!
Views of a history: what was called, what failed, what is still waited for, and
what happened on behalf of one entity.
-/
namespace PolicyRollout

def Occurrence.entity? : Occurrence → Option Nat
  | .called _ entity _ => entity
  | .answered _ entity _ => entity
  | .noted _ => none

/-- The serial number of the call an occurrence makes. -/
def Occurrence.serial? : Occurrence → Option Nat
  | .called serial _ _ => some serial
  | _ => none

def Occurrence.call? : Occurrence → Option Call
  | .called _ _ call => some call
  | _ => none

def Outturn.isFailure : Outturn → Bool
  | .listed (.error _) | .judged (.error _) | .created (.error _) => true
  | _ => false

namespace History

/-- What happened on behalf of the entity at a position. -/
def about (index : Nat) (h : History) : History :=
  h.filter fun o => decide (o.entity? = some index)

def Calls (index : Nat) (h : History) : Prop :=
  ∃ serial call, .called serial (some index) call ∈ h

def Fails (index : Nat) (h : History) : Prop :=
  ∃ serial outturn, .answered serial (some index) outturn ∈ h ∧ outturn.isFailure = true

/-- A call was made for the entity at a position and has not been answered. -/
def Awaits (index : Nat) (h : History) : Prop :=
  ∃ serial call, .called serial (some index) call ∈ h ∧
    ∀ entity outturn, .answered serial entity outturn ∉ h

theorem mem_about_iff {index : Nat} {h : History} {o : Occurrence} :
    o ∈ about index h ↔ o ∈ h ∧ o.entity? = some index := by
  simp [about]

theorem about_append (index : Nat) (later earlier : History) :
    about index (later ++ earlier) = about index later ++ about index earlier :=
  List.filter_append ..

@[simp]
theorem about_called_self (serial index : Nat) (call : Call) (h : History) :
    about index (.called serial (some index) call :: h) =
      .called serial (some index) call :: about index h := by
  simp [about, Occurrence.entity?]

@[simp]
theorem about_answered_self (serial index : Nat) (outturn : Outturn) (h : History) :
    about index (.answered serial (some index) outturn :: h) =
      .answered serial (some index) outturn :: about index h := by
  simp [about, Occurrence.entity?]

@[simp]
theorem about_noted (index : Nat) (event : Event) (h : History) :
    about index (.noted event :: h) = about index h := by
  simp [about, Occurrence.entity?]

/-- Events are about no entity. -/
@[simp]
theorem about_notes (index : Nat) (events : List Event) :
    about index (events.map Occurrence.noted) = [] := by
  simp [about, Occurrence.entity?]

theorem calls_iff_about {index : Nat} {h : History} :
    Calls index h ↔ ∃ serial call, .called serial (some index) call ∈ about index h := by
  simp [Calls, mem_about_iff, Occurrence.entity?]

theorem fails_iff_about {index : Nat} {h : History} :
    Fails index h ↔ ∃ serial outturn, .answered serial (some index) outturn ∈ about index h ∧
      outturn.isFailure = true := by
  simp [Fails, mem_about_iff, Occurrence.entity?]

end History

end PolicyRollout
