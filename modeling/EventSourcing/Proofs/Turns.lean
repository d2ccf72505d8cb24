import EventSourcing.Proofs.Contention

/-!
# One ticket at a time

The earliest ticket of an entity that is out holds, and the others wait for it, however often the
table is pruned on the way.
-/

namespace EventSourcing

namespace LockTable

variable {table : LockTable}

/-! ## Who holds -/

variable {t u : Ticket}

theorem Sound.lock_eq_iff (h : table.Sound) (ht : t ∈ table.tickets) (hu : u ∈ table.tickets) :
    u.lock = t.lock ↔ u.entity = t.entity := by
  constructor
  · intro he
    exact h.apart (h.tracked u hu) (he ▸ h.tracked t ht)
  · intro he
    have hl := h.tracked u hu
    rw [he, h.tracked t ht] at hl
    exact (Option.some.inj hl).symm

theorem find?_eq_some_iff_earliest {tickets : List Ticket}
    (h : tickets.Pairwise fun t u => t.serial < u.serial) {p : Ticket → Bool} :
    tickets.find? p = some t ↔
      t ∈ tickets ∧ p t ∧ ∀ u ∈ tickets, p u → t.serial ≤ u.serial := by
  induction tickets with
  | nil => simp
  | cons first tickets ih =>
      rw [List.pairwise_cons] at h
      by_cases hp : p first
      · rw [List.find?_cons_of_pos hp, Option.some_inj]
        constructor
        · rintro rfl
          refine ⟨List.mem_cons_self, hp, fun u hu _ => ?_⟩
          rcases List.mem_cons.1 hu with rfl | hu
          · exact Nat.le_refl _
          · exact Nat.le_of_lt (h.1 u hu)
        · rintro ⟨ht, -, hle⟩
          rcases List.mem_cons.1 ht with rfl | ht
          · rfl
          · exact absurd (hle first List.mem_cons_self hp) (Nat.not_le.2 (h.1 t ht))
      · rw [List.find?_cons_of_neg hp, ih h.2]
        grind

theorem Sound.eq_of_serial (h : table.Sound) (ht : t ∈ table.tickets) (hu : u ∈ table.tickets)
    (hs : t.serial = u.serial) : t = u := by
  have hfirst := (find?_eq_some_iff_earliest h.inOrder (p := fun w => w.serial == t.serial)).2
    ⟨ht, beq_self_eq_true _, fun w _ hw => Nat.le_of_eq (beq_iff_eq.1 hw).symm⟩
  have hsecond := (find?_eq_some_iff_earliest h.inOrder (p := fun w => w.serial == t.serial)).2
    ⟨hu, beq_iff_eq.2 hs.symm, fun w _ hw => Nat.le_of_eq (hs ▸ (beq_iff_eq.1 hw).symm)⟩
  exact Option.some.inj (hfirst.symm.trans hsecond)

/-- The earliest ticket of an entity holds, and no other. -/
theorem Sound.holds_iff (h : table.Sound) (ht : t ∈ table.tickets) :
    table.holds t = true ↔ ∀ u ∈ table.tickets, u.entity = t.entity → t.serial ≤ u.serial := by
  simp only [holds, Option.any_eq_true, holder?, beq_iff_eq,
    find?_eq_some_iff_earliest h.inOrder]
  constructor
  · rintro ⟨first, ⟨hf, -, hle⟩, hs⟩ u hu he
    rw [← hs]
    exact hle u hu ((h.lock_eq_iff ht hu).2 he)
  · intro hle
    exact ⟨t, ⟨ht, rfl, fun u hu hl => hle u hu ((h.lock_eq_iff ht hu).1 hl)⟩, rfl⟩

theorem Sound.eq_of_holds (h : table.Sound) (ht : t ∈ table.tickets) (hu : u ∈ table.tickets)
    (he : u.entity = t.entity) (hth : table.holds t = true) (huh : table.holds u = true) : u = t := by
  have htu := (h.holds_iff ht).1 hth u hu he
  have hut := (h.holds_iff hu).1 huh t ht he.symm
  exact h.eq_of_serial hu ht (Nat.le_antisymm hut htu)

theorem Sound.exists_holds (h : table.Sound) (ht : t ∈ table.tickets) :
    ∃ u ∈ table.tickets, u.entity = t.entity ∧ table.holds u = true ∧ u.serial ≤ t.serial := by
  obtain ⟨first, hf⟩ := Option.isSome_iff_exists.1
    (List.find?_isSome (p := fun w => w.entity == t.entity).2 ⟨t, ht, beq_self_eq_true _⟩)
  obtain ⟨hm, he, hle⟩ := (find?_eq_some_iff_earliest h.inOrder).1 hf
  rw [beq_iff_eq] at he
  refine ⟨first, hm, he, (h.holds_iff hm).2 fun u hu hue => ?_, hle t ht (beq_self_eq_true _)⟩
  exact hle u hu (beq_iff_eq.2 (hue.trans he))

theorem Sound.lock_take (h : table.Sound) (ht : t ∈ table.tickets) :
    (table.take t.entity).1.lock = t.lock := by
  have hm : t ∈ (table.take t.entity).2.tickets := by
    rw [tickets_take]
    exact List.mem_append_left _ ht
  have hnew : (table.take t.entity).1 ∈ (table.take t.entity).2.tickets := by
    rw [tickets_take]
    exact List.mem_append_right _ List.mem_cons_self
  exact ((h.take t.entity).lock_eq_iff hm hnew).2 rfl

theorem Sound.holds_take_self (h : table.Sound) {entity : Int64}
    (hn : ∀ t ∈ table.tickets, t.entity = entity → table.holds t = false) :
    (table.take entity).2.holds (table.take entity).1 = true := by
  have hnew : (table.take entity).1 ∈ (table.take entity).2.tickets := by
    rw [tickets_take]
    exact List.mem_append_right _ List.mem_cons_self
  refine ((h.take entity).holds_iff hnew).2 fun u hu he => ?_
  rw [tickets_take, List.mem_append, List.mem_singleton] at hu
  rcases hu with hu | rfl
  -- If a ticket of the entity were out, one of them would hold.
  · obtain ⟨first, hf, hfe, hholds, -⟩ := h.exists_holds hu
    rw [hn first hf (hfe.trans he)] at hholds
    cases hholds
  · exact Nat.le_refl _

theorem Sound.holds_after (h : table.Sound) (ht : t ∈ table.tickets) (hh : table.holds t = true)
    (move : Move) (hm : t ∈ (table.after move).tickets) : (table.after move).holds t = true := by
  have hfirst := (h.holds_iff ht).1 hh
  refine ((h.after move).holds_iff hm).2 fun u hu he => ?_
  cases move with
  | take entity =>
      rw [LockTable.after, tickets_take, List.mem_append, List.mem_singleton] at hu
      rcases hu with hu | rfl
      · exact hfirst u hu he
      · rw [serial_take]
        exact Nat.le_of_lt (h.issued t ht)
  | giveBack ticket =>
      rw [LockTable.after, tickets_giveBack, List.mem_filter] at hu
      exact hfirst u hu.1 he

/-- Whatever was taken and given back, the tickets of the table are those that were taken and have not
been given back since. No two tickets of an entity hold; a ticket waits only behind an earlier one of
its entity that holds; an entity that nobody holds is granted at once; a ticket that holds goes on to
until it is given back, and then the earliest one that is left of its entity holds; later tickets have
greater numbers; and an entity of which a ticket is out keeps its lock in the table, so that the next
ticket is of the same lock. -/
theorem exclusive_of_reached (moves : List Move) :
    let table := reached moves
    (∀ t, t ∈ table.tickets ↔ Out moves t) ∧
    (∀ t ∈ table.tickets, ∀ u ∈ table.tickets, u.entity = t.entity →
      table.holds t = true → table.holds u = true → u = t) ∧
    (∀ t ∈ table.tickets, table.holds t = false →
      ∃ u ∈ table.tickets, u.entity = t.entity ∧ table.holds u = true ∧ u.serial < t.serial) ∧
    (∀ entity, (∀ t ∈ table.tickets, t.entity = entity → table.holds t = false) →
      (table.take entity).2.holds (table.take entity).1 = true) ∧
    (∀ t ∈ table.tickets, table.holds t = true → ∀ move, t ∈ (table.after move).tickets →
      (table.after move).holds t = true) ∧
    (∀ t ∈ table.tickets, table.holds t = true →
      ∀ u ∈ (table.giveBack t).tickets, u.entity = t.entity →
        ((table.giveBack t).holds u = true ↔
          ∀ w ∈ (table.giveBack t).tickets, w.entity = t.entity → u.serial ≤ w.serial)) ∧
    (∀ t ∈ table.tickets, ∀ entity, t.serial < (table.take entity).1.serial) ∧
    ∀ t ∈ table.tickets, table.locks[t.entity]? = some t.lock ∧
      (table.take t.entity).1.lock = t.lock := by
  intro table
  have h : table.Sound := sound_reached moves
  refine ⟨fun t => mem_tickets_iff_out, fun t ht u hu he => h.eq_of_holds ht hu he, fun t ht hw => ?_,
    fun entity hn => h.holds_take_self hn, fun t ht hh move hm => h.holds_after ht hh move hm,
    fun t ht _ u hu he => ?_, fun t ht entity => ?_, fun t ht => ⟨h.tracked t ht, h.lock_take ht⟩⟩
  · obtain ⟨u, hu, he, hh, hle⟩ := h.exists_holds ht
    refine ⟨u, hu, he, hh, Nat.lt_of_le_of_ne hle fun hs => ?_⟩
    rw [h.eq_of_serial hu ht hs, hw] at hh
    cases hh
  · rw [(h.giveBack t).holds_iff hu, he]
  · rw [serial_take]
    exact h.issued t ht

/-! ## Two that want the same entity -/

def twoAsk : List Move := [.take (-1), .take (-1)]

def earlier : Ticket := ⟨0, -1, 0⟩

def later : Ticket := ⟨1, -1, 0⟩

/-- Two want the same entity, and then others come and go. -/
def contended (others : Nat) : List Move := twoAsk ++ visits 2 others

theorem nextSerial_twoAsk : (reached twoAsk).nextSerial = 2 := by decide +kernel

theorem tickets_contended (others : Nat) :
    (reached (contended others)).tickets = [earlier, later] := by
  rw [contended, (tickets_visits nextSerial_twoAsk others).1]
  decide +kernel

theorem tracked_contended_le (others : Nat) : (reached (contended others)).tracked ≤ 1025 := by
  have hfew : ∀ front ∈ twoAsk.inits, (reached front).busy.card ≤ 3 := by decide +kernel
  have hw := within_reached (busy_visits_le nextSerial_twoAsk
    (fun front hf => hfew front ((List.mem_inits front twoAsk).2 hf)) (by decide +kernel) others)
  exact Nat.le_trans hw.size (Nat.succ_le_succ hw.mark)

/-- With five thousand others the table is pruned while the first of the two holds and the other one
waits. It keeps their lock, and the other one holds when the first one leaves. -/
theorem exclusive_of_contended :
    (reached (contended 5000)).tracked ≤ 1025 ∧
      Out (contended 5000) earlier ∧ Out (contended 5000) later ∧
      (reached (contended 5000)).holds earlier = true ∧
      (reached (contended 5000)).holds later = false ∧
      ((reached (contended 5000)).giveBack earlier).holds later = true ∧
      ((reached (contended 5000)).take (-1)).1.lock = 0 := by
  obtain ⟨hout, hexclusive, -, -, -, hnext, -, hkept⟩ := exclusive_of_reached (contended 5000)
  have htickets := tickets_contended 5000
  have htracked := tracked_contended_le 5000
  -- The moves are too many to be run through; what is known of the table is enough.
  generalize contended 5000 = moves at *
  have hearlier : earlier ∈ (reached moves).tickets := by simp [htickets]
  have hlater : later ∈ (reached moves).tickets := by simp [htickets]
  have hholds : (reached moves).holds earlier = true := by
    rw [holds, holder?, htickets]
    decide
  have hleft : ((reached moves).giveBack earlier).tickets = [later] := by
    rw [tickets_giveBack, htickets]
    decide
  refine ⟨htracked, (hout earlier).1 hearlier, (hout later).1 hlater, hholds, ?_, ?_,
    (hkept later hlater).2⟩
  · refine Bool.eq_false_iff.2 fun hh => ?_
    exact absurd (hexclusive earlier hearlier later hlater rfl hholds hh) (by decide)
  · refine (hnext earlier hearlier hholds later ?_ rfl).2 fun w hw _ => ?_
    · rw [hleft]
      exact List.mem_singleton_self later
    · rw [hleft, List.mem_singleton] at hw
      rw [hw]

end LockTable

end EventSourcing
