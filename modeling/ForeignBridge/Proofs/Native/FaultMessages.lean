import ForeignBridge.Proofs.Native.Settlement
import ForeignBridge.Proofs.Text.Utf8

/-!
What a fault of the native side is reported as. Its message is the text that the error buffer holds, where nothing is
lost but what is no text, and a fault without a message is reported as such. A buffer that claims bytes and has no
memory for them holds no message either, but it is told from an empty one by its length alone.
-/

namespace ForeignBridge

open Act

namespace Buffer

/-- A buffer that claims bytes and has no memory. -/
def Hollow (b : Buffer) : Prop := 0 < b.len ∧ b.data = none

instance (b : Buffer) : Decidable b.Hollow := inferInstanceAs (Decidable (_ ∧ _))

theorem isEmpty_iff {b : Buffer} : b.isEmpty ↔ b.len = 0 ∨ b.data = none := by
  simp [isEmpty]

end Buffer

namespace Arena

variable {a : Arena} {b : Buffer}

/-- The bytes that a buffer claims are all there, where it has memory. -/
def Backs (a : Arena) (b : Buffer) : Prop := ∀ n ∈ b.data, b.len ≤ (a.bytesOf n).length

theorem view_of_isEmpty (h : b.isEmpty) : a.view b = [] := by
  unfold view
  rcases Buffer.isEmpty_iff.mp h with hl | hd
  · cases b.data with
    | none => rfl
    | some n =>
      dsimp only
      rw [hl, List.take_zero]
  · rw [hd]

theorem length_view (h : a.Backs b) (he : ¬ b.isEmpty) : (a.view b).length = b.len := by
  obtain ⟨-, hd⟩ := not_or.mp (mt Buffer.isEmpty_iff.mpr he)
  obtain ⟨n, hn⟩ := Option.ne_none_iff_exists'.mp hd
  unfold view
  rw [hn]
  exact List.length_take_of_le (h n hn)

end Arena

variable {free : Buffer → Act Unit} {s : CallStatus} {w w' : World}

theorem settleWith_message (errors : Option Shape) (h : s.code = CallStatus.unexpectedError) (hl : 0 < s.error.len)
    (hfree : releaseWith free s.error w = .ok () w') :
    settleWith free errors s w = .error (.panic (Utf8.decodeReplacing (w.arena.view s.error))) w' := by
  rw [settleWith_fault free errors h, if_pos hl]
  exact bind_of_ok (liftMessageWith_of_released hfree)

theorem settleWith_silent (errors : Option Shape) (h : s.code = CallStatus.unexpectedError) (hl : s.error.len = 0)
    (hfree : releaseWith free s.error w = .ok () w') :
    ∃ w'', settleWith free errors s w = .error .faultWhileHandlingFault w'' := by
  rw [settleWith_fault free errors h, if_neg (by omega)]
  by_cases hd : s.error.data.isSome
  · rw [if_pos hd]
    exact ⟨w', bind_of_ok hfree⟩
  · rw [if_neg hd]
    exact ⟨w, rfl⟩

/-- A fault whose buffer can be freed is reported, with all bytes of the buffer as the message if it has any. It is
reported as one without a message exactly if the buffer is empty, unless the buffer is hollow; then it is reported with
a message that has nothing in it, which happens to no other buffer. -/
theorem settle_fault_message (hcode : s.code = CallStatus.unexpectedError) (errors : Option Shape)
    (hbacks : w.arena.Backs s.error) (hfree : releaseWith free s.error w = .ok () w') :
    ∃ f w'', settleWith free errors s w = .error f w'' ∧
      (¬ s.error.Hollow → (f = .faultWhileHandlingFault ↔ s.error.isEmpty)) ∧
      (¬ s.error.isEmpty → f = .panic (Utf8.decodeReplacing (w.arena.view s.error)) ∧
        (w.arena.view s.error).length = s.error.len ∧ Utf8.decodeReplacing (w.arena.view s.error) ≠ "") ∧
      (f = .panic "" ↔ s.error.Hollow) := by
  have htext : Utf8.decodeReplacing (w.arena.view s.error) = "" ↔ s.error.isEmpty := by
    rw [Utf8.decodeReplacing_eq_empty]
    constructor
    · intro hnil
      by_contra he
      have hlength := Arena.length_view hbacks he
      rw [hnil] at hlength
      exact he (Buffer.isEmpty_iff.mpr (.inl hlength.symm))
    · exact Arena.view_of_isEmpty
  rcases Nat.eq_zero_or_pos s.error.len with hl | hl
  · obtain ⟨w'', hsettle⟩ := settleWith_silent errors hcode hl hfree
    have he : s.error.isEmpty := Buffer.isEmpty_iff.mpr (.inl hl)
    have hsolid : ¬ s.error.Hollow := fun h => absurd h.1 (by omega)
    refine ⟨_, w'', hsettle, fun _ => ⟨fun _ => he, fun _ => rfl⟩, fun h => absurd he h, ?_⟩
    exact ⟨nofun, fun h => absurd h hsolid⟩
  · have hempty : s.error.isEmpty ↔ s.error.Hollow := by
      constructor
      · intro he
        exact ⟨hl, (Buffer.isEmpty_iff.mp he).resolve_left (by omega)⟩
      · intro h
        exact Buffer.isEmpty_iff.mpr (.inr h.2)
    refine ⟨_, w', settleWith_message errors hcode hl hfree, ?_, ?_, ?_⟩
    · intro hsolid
      exact ⟨nofun, fun he => absurd (hempty.mp he) hsolid⟩
    · intro he
      exact ⟨rfl, Arena.length_view hbacks he, mt htext.mp he⟩
    · rw [Failure.panic.injEq, htext, hempty]

/-- A world with a message of two bytes, of which the first is no text. -/
def brokenMessage : World := { World.new [] with arena := ⟨[[0xff, 0x41]], [1], [], 0, []⟩ }

theorem settle_fault_message_broken :
    brokenMessage.arena.Backs ⟨2, 2, some 1⟩ ∧
      (∃ w', releaseWith Allocator.direct.free ⟨2, 2, some 1⟩ brokenMessage = .ok () w') ∧
      ∃ w', Allocator.direct.settle none ⟨2, ⟨2, 2, some 1⟩⟩ brokenMessage = .error (.panic "\ufffdA") w' := by
  have hbacks : brokenMessage.arena.Backs ⟨2, 2, some 1⟩ := by
    intro n hn
    cases hn
    exact le_refl 2
  obtain ⟨w', hfree⟩ : ∃ w', releaseWith Allocator.direct.free ⟨2, 2, some 1⟩ brokenMessage = .ok () w' := ⟨_, rfl⟩
  obtain ⟨f, w'', hsettle, -, htext, -⟩ :=
    settle_fault_message (s := ⟨2, ⟨2, 2, some 1⟩⟩) rfl none hbacks hfree
  obtain ⟨rfl, -⟩ := htext (by decide)
  exact ⟨hbacks, ⟨w', hfree⟩, w'', hsettle⟩

/-- An empty buffer that is reported with a message. -/
theorem settle_hollow :
    (⟨3, 3, none⟩ : Buffer).isEmpty ∧
      (∃ w', releaseWith Allocator.direct.free ⟨3, 3, none⟩ brokenMessage = .ok () w') ∧
      ∃ w', Allocator.direct.settle none ⟨2, ⟨3, 3, none⟩⟩ brokenMessage = .error (.panic "") w' :=
  ⟨rfl, ⟨_, rfl⟩, _, rfl⟩

end ForeignBridge
