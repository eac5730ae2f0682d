import ModemDialog.Inbox
import ModemDialog.Proofs.Framing.Closing

/-! Frames of a buffer that grows, over any sentries. A sentry that takes the lead only once
more has come reaches into what is new, so a complete frame never gives way to a shorter one;
but it can be lost to a wildcard sentry that still waits for its delimiter. -/
namespace ModemDialog
namespace Framing

variable {sentries : List Sentry} {data more : Bytes} {start index : Nat} {s : Sentry}
  {frame : Frame}

theorem frame?_append_cases (found : frame? sentries data = some frame) (more : Bytes) :
    frame? sentries (data ++ more) = some frame ∨
      frame? sentries (data ++ more) = none ∨
      ∃ later, frame? sentries (data ++ more) = some later ∧ data.length < later.stop := by
  obtain ⟨start, s, before, ends⟩ := frame?_eq_some_iff.mp found
  cases found' : frame? sentries (data ++ more) with
  | none => simp
  | some later =>
      obtain ⟨start', s', after, ends'⟩ := frame?_eq_some_iff.mp found'
      rcases before.of_append after with ⟨rfl, index, rfl⟩ | ⟨reaches, -⟩
      · left
        have inside := Sentry.position?_add_length_le before.stands
        rw [Sentry.stop?_append inside ends] at ends'
        cases frame
        cases later
        simp_all
      · right
        right
        have behind := Sentry.le_stop?_of_eq_some ends'
        exact ⟨later, rfl, by omega⟩

/-- A complete frame is lost only to a wildcard sentry without its delimiter, which starts
ahead of the one that closed the frame, or at the same place and comes first in the list. -/
theorem frame?_lost (found : frame? sentries data = some frame)
    (lost : frame? sentries (data ++ more) = none) :
    ∃ start s start' index' s' d, Leads sentries data start frame.sentry s ∧
      Leads sentries (data ++ more) start' index' s' ∧ s'.wildcard = some d ∧
      ¬ Utf8.encode d.text <:+: (data ++ more).drop (start' + s'.bytes.length) ∧
      (start' < start ∨ start' = start ∧ index' < frame.sentry) := by
  obtain ⟨start, s, before, ends⟩ := frame?_eq_some_iff.mp found
  obtain ⟨start', index', s', after⟩ := before.exists_append more
  have opens : s'.stop? (data ++ more) start' = none := by
    simpa [frame?, earliest?_eq_some_iff.mpr after] using lost
  rcases before.of_append after with ⟨rfl, rfl, rfl⟩ | ⟨-, overtakes⟩
  · have inside := Sentry.position?_add_length_le before.stands
    rw [Sentry.stop?_append inside ends] at opens
    cases opens
  · cases tail : s'.wildcard with
    | none => simp [Sentry.stop?, tail] at opens
    | some d =>
        have absent : ¬ Utf8.encode d.text <:+: (data ++ more).drop (start' + s'.bytes.length) := by
          rw [← firstAt?_eq_none_iff]
          simpa [Sentry.stop?, tail] using opens
        exact ⟨start, s, start', index', s', d, leads_iff_wins.mpr before,
          leads_iff_wins.mpr after, tail, absent, overtakes⟩

/-- The complete frames at the front of a buffer, as it is and after each append. -/
def frames (sentries : List Sentry) (box : Inbox) : List Bytes → List Frame
  | [] => (frame? sentries box.data).toList
  | chunk :: chunks => (frame? sentries box.data).toList ++ frames sentries (box.append chunk) chunks

theorem mem_frames {box : Inbox} {chunks : List Bytes} (seen : frame ∈ frames sentries box chunks) :
    ∃ more, frame? sentries (box.data ++ more) = some frame := by
  induction chunks generalizing box with
  | nil =>
      refine ⟨[], ?_⟩
      simpa [frames] using seen
  | cons chunk chunks ih =>
      simp only [frames, List.mem_append, Option.mem_toList] at seen
      rcases seen with now | later
      · exact ⟨[], by simpa using now⟩
      · obtain ⟨more, found⟩ := ih later
        refine ⟨chunk ++ more, ?_⟩
        simpa [Inbox.append] using found

theorem stop_le_of_append {later : Frame} (found : frame? sentries data = some frame)
    (found' : frame? sentries (data ++ more) = some later) : frame.stop ≤ later.stop := by
  rcases frame?_append_cases found more with same | lost | ⟨longer, grown, behind⟩
  · rw [same] at found'
    obtain rfl := Option.some.inj found'
    exact Nat.le_refl _
  · rw [lost] at found'
    cases found'
  · rw [grown] at found'
    obtain rfl := Option.some.inj found'
    have inside := frame?_stop_le found
    omega

theorem frames_stop_sorted (sentries : List Sentry) (box : Inbox) (chunks : List Bytes) :
    (frames sentries box chunks).Pairwise (·.stop ≤ ·.stop) := by
  induction chunks generalizing box with
  | nil => cases found : frame? sentries box.data <;> simp [frames, found]
  | cons chunk chunks ih =>
      cases found : frame? sentries box.data with
      | none =>
          simp only [frames, found, Option.toList_none, List.nil_append]
          exact ih (box.append chunk)
      | some frame =>
          simp only [frames, found, Option.toList_some, List.cons_append, List.nil_append,
            List.pairwise_cons]
          refine ⟨?_, ih (box.append chunk)⟩
          intro later seen
          obtain ⟨more, found'⟩ := mem_frames seen
          have grown : frame? sentries (box.data ++ (chunk ++ more)) = some later := by
            simpa [Inbox.append] using found'
          exact stop_le_of_append found grown

/-- `B` closes a frame of `AB`, until `C` has come. -/
def overlappingSentries : List Sentry := [.plain ['B'], ⟨['A', 'B', 'C'], some .lf⟩]

/-- When more comes, a complete frame stays as it is, is lost, or gives way to one that ends in
what is new; so the ends that are seen while a buffer grows never decrease. It is lost only to
a wildcard sentry that has taken the lead, and there are sentries with which that happens. -/
theorem frame_ends_never_decrease (sentries : List Sentry) :
    (∀ data more frame, frame? sentries data = some frame →
      frame? sentries (data ++ more) = some frame ∨
        frame? sentries (data ++ more) = none ∨
        ∃ later, frame? sentries (data ++ more) = some later ∧ data.length < later.stop) ∧
    (∀ box chunks, (frames sentries box chunks).Pairwise (·.stop ≤ ·.stop)) ∧
    (∀ data more frame, frame? sentries data = some frame →
      frame? sentries (data ++ more) = none →
      ∃ start s start' index' s' d, Leads sentries data start frame.sentry s ∧
        Leads sentries (data ++ more) start' index' s' ∧ s'.wildcard = some d ∧
        ¬ Utf8.encode d.text <:+: (data ++ more).drop (start' + s'.bytes.length) ∧
        (start' < start ∨ start' = start ∧ index' < frame.sentry)) ∧
    (Leads overlappingSentries (Utf8.encode ['A', 'B']) 1 0 (.plain ['B']) ∧
      frame? overlappingSentries (Utf8.encode ['A', 'B']) = some ⟨2, 0⟩ ∧
      Leads overlappingSentries (Utf8.encode ['A', 'B', 'C']) 0 1 ⟨['A', 'B', 'C'], some .lf⟩ ∧
      frame? overlappingSentries (Utf8.encode ['A', 'B', 'C']) = none) := by
  refine ⟨?_, ?_, ?_, ?_, ?_, ?_, ?_⟩
  · intro data more frame found
    exact frame?_append_cases found more
  · intro box chunks
    exact frames_stop_sorted sentries box chunks
  · intro data more frame found lost
    exact frame?_lost found lost
  · exact leads_iff_wins.mpr (earliest?_eq_some_iff.mp (by decide +kernel))
  · decide +kernel
  · exact leads_iff_wins.mpr (earliest?_eq_some_iff.mp (by decide +kernel))
  · decide +kernel

theorem frame_lost_and_found :
    frame? overlappingSentries (Utf8.encode ['A', 'B']) = some ⟨2, 0⟩ ∧
      frames overlappingSentries .empty
        (["AB", "C", "D\nE"].map fun t => Utf8.encode t.toList) = [⟨2, 0⟩, ⟨5, 1⟩] ∧
      [(⟨2, 0⟩ : Frame), ⟨5, 1⟩].Pairwise (·.stop ≤ ·.stop) := by
  obtain ⟨-, sorted, -⟩ := frame_ends_never_decrease overlappingSentries
  have seen : frames overlappingSentries .empty
      (["AB", "C", "D\nE"].map fun t => Utf8.encode t.toList) = [⟨2, 0⟩, ⟨5, 1⟩] := by
    decide +kernel
  refine ⟨by decide +kernel, seen, ?_⟩
  rw [← seen]
  exact sorted .empty _

end Framing
end ModemDialog
