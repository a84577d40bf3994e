import BraceScript.Run.State

namespace BraceScript

namespace Event

def aborts : Event → Bool
  | cancelled => true
  | left forced _ => forced
  | recorded e => e.error.isTerminal
  | _ => false

/-- Whether the event is one of a run that is only being left: a call or a function ends, or a loop
puts its variable back. -/
def unwinds : Event → Bool
  | finished | exited => true
  | wrote _ restoring => restoring
  | _ => false

def isWork : Event → Bool
  | stepped | yielded | charged _ | called _ | started _ _ _ | iterated => true
  | requested | defined _ _ | entered _ => true
  | wrote _ restoring => !restoring
  | _ => false

def isYield : Event → Bool
  | yielded => true
  | _ => false

def isStart : Event → Bool
  | started _ _ _ => true
  | _ => false

def isIteration : Event → Bool
  | iterated => true
  | _ => false

def isRequest : Event → Bool
  | requested => true
  | _ => false

def isRecord : Event → Bool
  | recorded _ => true
  | _ => false

def isRefusal : Event → Bool
  | refused _ => true
  | _ => false

/-- Whether the event belongs to the end of a run: it unwinds the run or records an error. -/
def concludes (ev : Event) : Bool := ev.unwinds || ev.isRecord

theorem concludes_of_unwinds {ev : Event} (h : ev.unwinds = true) : ev.concludes = true := by
  rw [concludes, h, Bool.true_or]

theorem aborts_of_isWork {ev : Event} (h : ev.isWork = true) : ev.aborts = false := by
  cases ev <;> simp_all [isWork, aborts]

theorem isRefusal_of_isWork {ev : Event} (h : ev.isWork = true) : ev.isRefusal = false := by
  cases ev <;> simp_all [isWork, isRefusal]

theorem aborts_of_unwinds {ev : Event} (h : ev.unwinds = true) : ev.aborts = false := by
  cases ev <;> simp_all [unwinds, aborts]

end Event

def Ensues (p q : Event → Bool) (journal : List Event) : Prop :=
  journal.Pairwise fun later earlier ↦ p earlier = true → q later = true

section Ensues

variable {p q : Event → Bool} {journal : List Event}

theorem ensues_cons (ev : Event) (h : Ensues p q journal) (hnone : ∀ ev ∈ journal, p ev = false) :
    Ensues p q (ev :: journal) := by
  refine List.Pairwise.cons (fun earlier hearlier hp ↦ ?_) h
  rw [hnone earlier hearlier] at hp
  cases hp

theorem ensues_of_none (hnone : ∀ ev ∈ journal, p ev = false) : Ensues p q journal := by
  induction journal with
  | nil => exact List.Pairwise.nil
  | cons ev journal ih =>
    have htail := (List.forall_mem_cons.mp hnone).2
    exact ensues_cons ev (ih htail) htail

end Ensues

/-- What a run has counted, nested and defined, and whether it goes on. -/
structure Tally where
  phase : Phase := .running
  activations : Nat := 0
  calls : List CallFrame := []
  usage : Usage := {}
  functions : Table String Statement := []
  steps : Nat := 0
  cancelled : Bool := false

namespace Tally

def enter (n : Tally) : Event → Tally
  | .stepped => { n with steps := n.steps + 1 }
  | .cancelled => { n with phase := .aborted, cancelled := true }
  | .charged r => { n with usage := n.usage.count r }
  | .called frame => { n with calls := frame :: n.calls }
  | .finished => { n with calls := n.calls.tail }
  | .entered _ => { n with activations := n.activations + 1 }
  | .exited => { n with
      phase := if n.phase = .returning then .running else n.phase
      activations := n.activations - 1 }
  | .left forced _ => { n with phase := if forced then .aborted else .returning }
  | .recorded e => { n with phase := if e.error.isTerminal then .aborted else n.phase }
  | .defined function body => { n with functions := n.functions.set function body }
  | _ => n

/-- The tally at the moment at which this was the journal. -/
def ofJournal : List Event → Tally
  | [] => {}
  | ev :: journal => (ofJournal journal).enter ev

theorem enter_of_concludes (n : Tally) {ev : Event} (h : ev.concludes = true) :
    (n.enter ev).steps = n.steps ∧ (n.enter ev).usage = n.usage ∧
      (n.enter ev).functions = n.functions := by
  cases ev <;> simp_all [Event.concludes, Event.unwinds, Event.isRecord, enter]

theorem ofJournal_of_concludes {later journal : List Event}
    (h : ∀ ev ∈ later, ev.concludes = true) :
    (ofJournal (later ++ journal)).steps = (ofJournal journal).steps ∧
    (ofJournal (later ++ journal)).usage = (ofJournal journal).usage ∧
    (ofJournal (later ++ journal)).functions = (ofJournal journal).functions := by
  induction later with
  | nil => exact ⟨rfl, rfl, rfl⟩
  | cons ev later ih =>
    obtain ⟨hev, hlater⟩ := List.forall_mem_cons.mp h
    obtain ⟨hsteps, husage, hfunctions⟩ := ih hlater
    obtain ⟨hsteps', husage', hfunctions'⟩ := enter_of_concludes (ofJournal (later ++ journal)) hev
    exact ⟨hsteps'.trans hsteps, husage'.trans husage, hfunctions'.trans hfunctions⟩

theorem aborts_of_phase_enter {n : Tally} {ev : Event} (h : (n.enter ev).phase = .aborted) :
    ev.aborts = true ∨ n.phase = .aborted := by
  cases ev with
  | exited =>
    rw [enter] at h
    dsimp only at h
    split at h
    · cases h
    · exact Or.inr h
  | left forced k => cases forced <;> simp_all [enter, Event.aborts]
  | recorded e => cases he : e.error.isTerminal <;> simp_all [enter, Event.aborts]
  | cancelled => exact Or.inl rfl
  | _ => exact Or.inr h

theorem exists_aborts_of_phase {journal : List Event} (h : (ofJournal journal).phase = .aborted) :
    ∃ ev ∈ journal, ev.aborts = true := by
  induction journal with
  | nil => cases h
  | cons ev journal ih =>
    rcases aborts_of_phase_enter h with hev | hphase
    · exact ⟨ev, List.mem_cons_self, hev⟩
    · obtain ⟨ev', hmem, haborts⟩ := ih hphase
      exact ⟨ev', List.mem_cons_of_mem ev hmem, haborts⟩

end Tally

def State.tally (s : State) : Tally where
  phase := s.phase
  activations := s.outer.length
  calls := s.calls
  usage := s.usage
  functions := s.functions
  steps := s.steps
  cancelled := s.cancelled

end BraceScript
