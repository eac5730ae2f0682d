import ModemDialog.Proofs.Session.Blind

/-! What a wait does to an agenda in two parts: it comes up to the second part or it does not.
Waits keep an agenda in order. -/
namespace ModemDialog
namespace Bench

section Agenda

variable {early late : List (Nat × Arrival)} {b : Bench} {time wake : Nat}

def receive (arrivals : List (Nat × Arrival)) (b : Bench) : Bench :=
  arrivals.foldl (fun b entry => { b with clock := max b.clock entry.1 }.arrive entry.2) b

theorem receive_line (arrivals : List (Nat × Arrival)) (b : Bench) :
    Line b (receive arrivals b) := by
  induction arrivals generalizing b with
  | nil => exact .refl b
  | cons entry rest ih => exact (b.due_line entry.1 entry.2).trans (ih _)

theorem receive_clock_le {arrivals : List (Nat × Arrival)} (due : ∀ x ∈ arrivals, x.1 ≤ time)
    (le : b.clock ≤ time) : (receive arrivals b).clock ≤ time := by
  induction arrivals generalizing b with
  | nil => exact le
  | cons entry rest ih =>
      have ⟨first, others⟩ := List.forall_mem_cons.mp due
      refine ih others ?_
      rw [arrive_clock]
      exact Nat.max_le.mpr ⟨le, first⟩

theorem settleFrom_agenda_suffix (wake : Nat) (arrivals : List (Nat × Arrival)) (b : Bench) :
    (settleFrom wake arrivals b).agenda <:+ arrivals := by
  induction arrivals generalizing b with
  | nil => exact List.suffix_refl _
  | cons entry rest ih =>
      obtain ⟨t, a⟩ := entry
      unfold settleFrom
      split
      · exact (ih _).trans (List.suffix_cons _ _)
      · exact List.suffix_refl _

theorem settleFrom_append_of_lt (later : ∀ x ∈ late, wake < x.1) (b : Bench) :
    settleFrom wake (early ++ late) b =
      { settleFrom wake early b with agenda := (settleFrom wake early b).agenda ++ late } := by
  induction early generalizing b with
  | nil =>
      cases late with
      | nil => rfl
      | cons entry rest =>
          obtain ⟨t, a⟩ := entry
          exact if_neg (Nat.not_le_of_lt (later (t, a) List.mem_cons_self))
  | cons entry rest ih =>
      obtain ⟨t, a⟩ := entry
      rw [List.cons_append, settleFrom, settleFrom]
      split
      · exact ih _
      · rfl

theorem settleFrom_append_of_le (due : ∀ x ∈ early, x.1 ≤ wake) (b : Bench) :
    settleFrom wake (early ++ late) b = settleFrom wake late (receive early b) := by
  induction early generalizing b with
  | nil => rfl
  | cons entry rest ih =>
      have ⟨first, others⟩ := List.forall_mem_cons.mp due
      rw [List.cons_append, settleFrom, if_pos first]
      exact ih others _

theorem settleAlive_append_of_le (due : ∀ x ∈ early, x.1 ≤ wake)
    (alive : (receive early b).alive = true) :
    settleAlive wake (early ++ late) b = settleAlive wake late (receive early b) := by
  induction early generalizing b with
  | nil => rfl
  | cons entry rest ih =>
      obtain ⟨t, a⟩ := entry
      have ⟨first, others⟩ := List.forall_mem_cons.mp due
      have lives : b.alive = true := (receive_line ((t, a) :: rest) b).rests.alive alive
      have goesOn : (b.alive && decide (t ≤ wake)) = true := by simpa [lives] using first
      rw [List.cons_append, settleAlive, if_pos goesOn]
      exact ih others alive

/-- Waiting for the stop makes no difference as long as it does not come. -/
theorem settleAlive_eq (wake : Nat) (arrivals : List (Nat × Arrival)) (b : Bench)
    (alive : (settleAlive wake arrivals b).alive = true ∨
      (settleFrom wake arrivals b).alive = true) :
    settleAlive wake arrivals b = settleFrom wake arrivals b := by
  induction arrivals generalizing b with
  | nil => rfl
  | cons entry rest ih =>
      have lives : b.alive = true := by
        rcases alive with alive | alive
        · exact (settleAlive_line wake (entry :: rest) b).rests.alive alive
        · exact (settleFrom_line wake (entry :: rest) b).rests.alive alive
      obtain ⟨t, a⟩ := entry
      unfold settleAlive settleFrom at alive ⊢
      rw [lives, Bool.true_and] at alive ⊢
      by_cases due : t ≤ wake
      · rw [if_pos due] at alive ⊢
        rw [if_pos (decide_eq_true due)] at alive ⊢
        exact ih _ alive
      · rw [if_neg due, if_neg (by simpa using due)]

theorem pause_eq_sleep (d : Duration)
    (alive : (b.pause d).alive = true ∨ (b.sleep d).alive = true) : b.pause d = b.sleep d := by
  have lives : (settleAlive (b.clock + d.ceilMillis) b.agenda b).alive = true ∨
      (settleFrom (b.clock + d.ceilMillis) b.agenda b).alive = true := by
    refine alive.imp (fun paused => ?_) id
    unfold pause at paused
    dsimp only at paused
    split at paused
    · exact paused
    · exact paused
  have settled := settleAlive_eq _ _ _ lives
  rw [settled, or_self] at lives
  unfold pause sleep
  dsimp only
  rw [settled, if_pos lives]

theorem settleFrom_behind {arrivals : List (Nat × Arrival)} (later : ∀ x ∈ arrivals, time ≤ x.1)
    (wake : Nat) (b : Bench) :
    ∃ events, Follows b (settleFrom wake arrivals b) events ∧ ∀ e ∈ events, time ≤ e.1 := by
  induction arrivals generalizing b with
  | nil => exact ⟨[], .of_silent rfl (Nat.le_refl _) rfl rfl, by simp⟩
  | cons entry rest ih =>
      obtain ⟨t, a⟩ := entry
      have ⟨first, others⟩ := List.forall_mem_cons.mp later
      unfold settleFrom
      split
      · have moved : Follows b { b with clock := max b.clock t } [] :=
          .of_silent rfl (Nat.le_max_left _ _) rfl rfl
        obtain ⟨events, follows, -⟩ := (arrive_line { b with clock := max b.clock t } a).rests
        obtain ⟨more, follows', behind⟩ := ih others _
        refine ⟨_, (moved.trans follows).trans follows', fun e member => ?_⟩
        rcases List.mem_append.mp member with early | late
        · exact Nat.le_trans first
            (Nat.le_trans (Nat.le_max_right _ _) (follows.times e early).1)
        · exact behind e late
      · exact ⟨[], .of_silent rfl (Nat.le_refl _) rfl rfl, by simp⟩

theorem settleFrom_of_all_due {arrivals : List (Nat × Arrival)}
    (due : ∀ x ∈ arrivals, x.1 ≤ wake) (b : Bench) :
    settleFrom wake arrivals b = { receive arrivals b with agenda := [] } := by
  rw [← List.append_nil arrivals, settleFrom_append_of_le due, List.append_nil]
  rfl

theorem le_last_of_sorted {agenda : List (Nat × Arrival)} (sorted : agenda.Pairwise (·.1 ≤ ·.1))
    {last : Nat × Arrival} (ends : agenda.getLast? = some last) : ∀ x ∈ agenda, x.1 ≤ last.1 := by
  obtain ⟨before, rfl⟩ := List.getLast?_eq_some_iff.mp ends
  obtain ⟨-, -, ahead⟩ := List.pairwise_append.mp sorted
  intro x member
  rcases List.mem_append.mp member with early | final
  · exact ahead x early last (List.mem_singleton_self last)
  · exact Nat.le_of_eq (congrArg Prod.fst (List.mem_singleton.mp final))

theorem hold_eq (sorted : b.agenda.Pairwise (·.1 ≤ ·.1)) (lives : b.hold.alive = true) :
    b.hold = { receive b.agenda b with agenda := [] } := by
  unfold hold at lives ⊢
  split
  · rename_i none
    have empty := List.getLast?_eq_none_iff.mp none
    have same : b = { b with agenda := [] } := by rw [← empty]
    rw [empty]
    exact same
  · rename_i t x last
    rw [last] at lives
    rw [settleAlive_eq t b.agenda b (.inl lives)]
    exact settleFrom_of_all_due (le_last_of_sorted sorted last) b

theorem schedule_sorted {agenda : List (Nat × Arrival)} (sorted : agenda.Pairwise (·.1 ≤ ·.1))
    (time : Nat) (a : Arrival) : (schedule time a agenda).Pairwise (·.1 ≤ ·.1) := by
  induction agenda with
  | nil => exact List.pairwise_singleton _ _
  | cons entry rest ih =>
      obtain ⟨first, others⟩ := List.pairwise_cons.mp sorted
      obtain ⟨t, x⟩ := entry
      unfold schedule
      split
      · rename_i sooner
        refine List.pairwise_cons.mpr ⟨List.forall_mem_cons.mpr ⟨Nat.le_of_lt sooner, ?_⟩, sorted⟩
        exact fun y member => Nat.le_trans (Nat.le_of_lt sooner) (first y member)
      · rename_i later
        refine List.pairwise_cons.mpr ⟨fun y member => ?_, ih others⟩
        rcases mem_schedule member with rfl | old
        · exact Nat.le_of_not_lt later
        · exact first y old

theorem schedule_apart {early late : List (Nat × Arrival)} {entry : Nat × Arrival}
    (sorted : (early ++ entry :: late).Pairwise (·.1 ≤ ·.1)) (time : Nat) (a : Arrival) :
    ∃ early' late', schedule time a (early ++ late) = early' ++ late' ∧
      schedule time a (early ++ entry :: late) = early' ++ entry :: late' := by
  induction early with
  | nil =>
      obtain ⟨t, x⟩ := entry
      by_cases sooner : time < t
      · refine ⟨[(time, a)], late, ?_, by rw [List.nil_append, schedule, if_pos sooner]; rfl⟩
        cases late with
        | nil => rfl
        | cons next rest =>
            have le := (List.pairwise_cons.mp sorted).1 next List.mem_cons_self
            rw [List.nil_append, schedule, if_pos (Nat.lt_of_lt_of_le sooner le)]
            rfl
      · exact ⟨[], schedule time a late, rfl, by rw [List.nil_append, schedule, if_neg sooner]; rfl⟩
  | cons first rest ih =>
      obtain ⟨t, x⟩ := first
      by_cases sooner : time < t
      · refine ⟨(time, a) :: (t, x) :: rest, late, ?_, ?_⟩
        · rw [List.cons_append, schedule, if_pos sooner]
          rfl
        · rw [List.cons_append, schedule, if_pos sooner]
          rfl
      · obtain ⟨early', late', one, other⟩ := ih (List.pairwise_cons.mp sorted).2
        refine ⟨(t, x) :: early', late', ?_, ?_⟩
        · rw [List.cons_append, schedule, if_neg sooner, one]
          rfl
        · rw [List.cons_append, schedule, if_neg sooner, other]
          rfl

end Agenda
end Bench
end ModemDialog
