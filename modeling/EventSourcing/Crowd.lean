import EventSourcing.Routine

/-!
# Crowds

Many routines side by side form a crowd, whose members have their turns by a queue, at first in
order. A member that halts leaves the queue and comes back to its end as soon as it wants its turn;
of several that want it at once, the one that gave way last comes first. A crowd halts when the
queue is empty, when as many members as are left have halted without one of them ending, or when two
members have halted that want their turn again at once.
-/

namespace EventSourcing

variable {σ α : Type}

namespace Routine

/-- The first routine is what is left of the second one after a step. -/
inductive Follows : Routine σ α → Routine σ α → Prop
  | act (change : σ → σ) (rest : σ → Routine σ α) (s : σ) : Follows (rest s) (.act change rest)
  | stop (halt : Halt σ) (rest : Routine σ α) : Follows rest (.stop halt rest)

/-- A routine ends after some steps, whatever they find. -/
theorem acc_follows (r : Routine σ α) : Acc Follows r := by
  induction r with
  | done a => exact ⟨_, fun _ h => nomatch h⟩
  | act change rest ih => exact ⟨_, fun _ h => by cases h; exact ih _⟩
  | stop halt rest ih => exact ⟨_, fun _ h => by cases h; exact ih⟩

/-- The first routines are what is left of the second ones after a step of one of them. -/
inductive OneFollows : List (Routine σ α) → List (Routine σ α) → Prop
  | head {r r' : Routine σ α} (h : Follows r' r) (rs : List (Routine σ α)) :
      OneFollows (r' :: rs) (r :: rs)
  | tail {rs rs' : List (Routine σ α)} (r : Routine σ α) (h : OneFollows rs' rs) :
      OneFollows (r :: rs') (r :: rs)

theorem acc_oneFollows_cons {r : Routine σ α} {rs : List (Routine σ α)} (hr : Acc Follows r)
    (hrs : Acc OneFollows rs) : Acc OneFollows (r :: rs) := by
  induction hr generalizing rs with
  | intro r _ ih =>
    induction hrs with
    | intro rs hrs ihs =>
      refine ⟨_, fun _ h => ?_⟩
      cases h with
      | head h _ => exact ih _ h ⟨_, hrs⟩
      | tail _ h => exact ihs _ h

/-- Routines end after some steps, in whatever order they make them. -/
theorem acc_oneFollows (rs : List (Routine σ α)) : Acc OneFollows rs := by
  induction rs with
  | nil => exact ⟨_, fun _ h => nomatch h⟩
  | cons r rs ih => exact acc_oneFollows_cons (acc_follows r) ih

theorem oneFollows_set {r r' : Routine σ α} {rs : List (Routine σ α)} {i : Nat}
    (hr : rs[i]? = some r) (h : Follows r' r) : OneFollows (rs.set i r') rs := by
  induction rs generalizing i with
  | nil => simp at hr
  | cons q rs ih =>
    cases i with
    | zero =>
      obtain rfl : q = r := by simpa using hr
      exact .head h rs
    | succ i => exact .tail q (ih (by simpa using hr))

instance : WellFoundedRelation (List (Routine σ α)) := ⟨OneFollows, ⟨acc_oneFollows⟩⟩

end Routine

structure Crowd (σ α : Type) where
  members : List (Routine σ α)
  /-- The members that wait for their turn, by their numbers. -/
  queue : List Nat
  /-- The members that have halted and do not want their turn, the one that gave way last first. -/
  halted : List (Nat × Halt σ) := []
  patience : Nat
  /-- How many members have halted that wanted their turn again at once. -/
  hasty : Nat := 0
  /-- Some member came back to the queue while others had their turns. -/
  eager : Bool := false
  since : Nat := 0

namespace Crowd

def ofList (routines : List (Routine σ α)) : Crowd σ α where
  members := routines
  queue := List.range routines.length
  patience := routines.length

def size (crowd : Crowd σ α) : Nat := crowd.queue.length + crowd.halted.length

def results (crowd : Crowd σ α) : List α := crowd.members.filterMap Routine.result?

def renewed (crowd : Crowd σ α) : Crowd σ α := { crowd with patience := crowd.size, hasty := 0 }

/-- No member has had its turn since the crowd had halted. -/
def rested (crowd : Crowd σ α) : Crowd σ α := { crowd.renewed with eager := false }

/-- The members that want their turn in a state come to the end of the queue. -/
def roused (crowd : Crowd σ α) (s : σ) : Crowd σ α :=
  { crowd with
    queue := crowd.queue ++ (crowd.halted.filter fun m => m.2.wantsTurn s).map Prod.fst
    halted := crowd.halted.filter fun m => !m.2.wantsTurn s
    eager := crowd.eager || crowd.halted.any fun m => m.2.wantsTurn s }

def advanced (crowd : Crowd σ α) (i : Nat) (rest : Routine σ α) : Crowd σ α :=
  { crowd with members := crowd.members.set i rest }

/-- Some members that have halted, with one more of them in its place. -/
def inPlace (i : Nat) (halt : Halt σ) : List (Nat × Halt σ) → List (Nat × Halt σ)
  | [] => [(i, halt)]
  | m :: ms => if m.2.since ≤ halt.since then (i, halt) :: m :: ms else m :: inPlace i halt ms

def withHalted (crowd : Crowd σ α) (i : Nat) (halt : Halt σ) (s : σ) : Crowd σ α :=
  let crowd :=
    { crowd with patience := crowd.patience - 1, since := max crowd.since halt.since }
  if halt.wantsTurn s then
    { crowd with queue := crowd.queue ++ [i], hasty := crowd.hasty + 1, eager := true }
  else { crowd with halted := inPlace i halt crowd.halted }

def weary (crowd : Crowd σ α) : Bool := crowd.patience == 0 || 2 ≤ crowd.hasty

/-- How the crowd halts: it wants its turn at once if it is weary or was eager, and otherwise when
one of its members does. -/
def halt (crowd : Crowd σ α) : Halt σ :=
  let wants (s : σ) : Bool :=
    crowd.weary || crowd.eager || crowd.halted.any fun m => m.2.wantsTurn s
  ⟨wants, wants, crowd.since⟩

/-- The member whose turn comes, and the crowd without it in the queue. -/
def next? (crowd : Crowd σ α) : Option (Nat × Crowd σ α) :=
  match crowd.queue with
  | i :: queue => some (i, { crowd with queue })
  | [] => none

theorem size_roused (crowd : Crowd σ α) (s : σ) : (crowd.roused s).size = crowd.size := by
  have h : ∀ ms : List (Nat × Halt σ), (ms.filter fun m => m.2.wantsTurn s).length +
      (ms.filter fun m => !m.2.wantsTurn s).length = ms.length := by
    intro ms
    induction ms with
    | nil => rfl
    | cons m ms ih => cases hm : m.2.wantsTurn s <;> simp [hm] <;> omega
  have := h crowd.halted
  simp only [size, roused, List.length_append, List.length_map]
  omega

theorem members_withHalted (crowd : Crowd σ α) (i : Nat) (halt : Halt σ) (s : σ) :
    (crowd.withHalted i halt s).members = crowd.members := by
  unfold withHalted
  split <;> rfl

theorem members_of_next? {crowd : Crowd σ α} {next : Nat × Crowd σ α}
    (h : crowd.next? = some next) : next.2.members = crowd.members := by
  unfold next? at h
  split at h
  · obtain rfl := Option.some.inj h
    rfl
  · nomatch h

theorem size_lt_of_next? {crowd : Crowd σ α} {next : Nat × Crowd σ α}
    (h : crowd.next? = some next) : next.2.size < crowd.size := by
  unfold next? at h
  split at h
  · rename_i hq
    obtain rfl := Option.some.inj h
    simp [size, hq]
  · nomatch h

mutual

def serve (crowd : Crowd σ α) (i : Nat) : Routine σ (List α) :=
  match _h : crowd.members[i]? with
  | some (.act change rest) =>
    .act change fun s => .act id fun now => serve ((crowd.advanced i (rest s)).roused now) i
  | some (.stop halt rest) =>
    .act id fun s =>
      let crowd' := (crowd.advanced i rest).withHalted i halt s
      if crowd'.weary then .stop crowd'.halt (.act id fun s => takeUp (crowd'.roused s).rested)
      else goOn crowd'
  | _ => goOn crowd.renewed
termination_by (crowd.members, crowd.size, 2)
decreasing_by
  · exact .left _ _ (Routine.oneFollows_set _h (.act ..))
  · refine .left _ _ ?_
    show Routine.OneFollows ((crowd.advanced i rest).withHalted i halt _).members _
    rw [members_withHalted]
    exact Routine.oneFollows_set _h (.stop ..)
  · refine .left _ _ ?_
    rw [members_withHalted]
    exact Routine.oneFollows_set _h (.stop ..)
  · exact .right _ (.right _ (by decide))

/-- The turns of those in the queue. If nobody is there, the crowd has ended or halts. -/
def goOn (crowd : Crowd σ α) : Routine σ (List α) :=
  match _h : crowd.next? with
  | some next => serve next.2 next.1
  | none =>
    if crowd.halted.isEmpty then .done crowd.results
    else .stop crowd.halt (.act id fun s => takeUp (crowd.roused s).rested)
termination_by (crowd.members, crowd.size, 1)
decreasing_by
  · rw [members_of_next? _h]
    exact .right _ (.left _ _ (size_lt_of_next? _h))
  · rw [show (crowd.roused s).rested.size = crowd.size from size_roused crowd s]
    exact .right _ (.right _ (by decide))

/-- The turns after the crowd has halted. If nobody is in the queue even so, it halts until one of
its members wants its turn, and if none of them does then, it halts for good. -/
def takeUp (crowd : Crowd σ α) : Routine σ (List α) :=
  match _h : crowd.next? with
  | some next => serve next.2 next.1
  | none =>
    .stop crowd.halt (.act id fun s =>
      match _h : (crowd.roused s).rested.next? with
      | some next => serve next.2 next.1
      | none => .stop (.awaiting fun _ => false) (Routine.all crowd.members))
termination_by (crowd.members, crowd.size, 0)
decreasing_by
  · rw [members_of_next? _h]
    exact .right _ (.left _ _ (size_lt_of_next? _h))
  · rw [members_of_next? _h]
    have hs : (crowd.roused s).rested.size = crowd.size := size_roused crowd s
    exact .right _ (.left _ _ (hs ▸ size_lt_of_next? _h))

end

def routine (crowd : Crowd σ α) : Routine σ (List α) := crowd.goOn

end Crowd

end EventSourcing
