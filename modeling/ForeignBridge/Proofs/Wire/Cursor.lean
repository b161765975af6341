import ForeignBridge.Proofs.Wire.Progress

/-!
Readers as cursors. Whatever is asked of a reader, its position stays inside its bytes: what is there is given, and
stands right behind what was given before; what is not there is refused, and the reader does not move.
-/

namespace ForeignBridge

/-- What a reader may be asked for: so many bytes, the fields of a layout, or the one field that it has. -/
inductive ReadStep
  | bytes (count : Nat)
  | fields (l : Layout)
  | field (l : Layout)
deriving DecidableEq, Repr

namespace ReadStep

variable {s : ReadStep} {front bs back : Bytes}

/-- The number of bytes that a step asks for. -/
def size : ReadStep → Nat
  | bytes count => count
  | fields l | field l => l.size

/-- What a step gives for the bytes that it takes. -/
def make : ReadStep → Bytes → Value
  | bytes _, bs => .bytes .frozen bs
  | fields l, bs => .tuple [l.unpack bs]
  | field l, bs => l.unpack bs

def run : ReadStep → Reading Value
  | bytes count => Value.bytes .frozen <$> Reading.take count
  | fields l => (fun v => Value.tuple [v]) <$> Reading.scalar l
  | field l => Reading.scalar l

theorem run_consumes (h : bs.length = s.size) : s.run.Consumes bs (s.make bs) := by
  cases s with
  | bytes count =>
    obtain rfl : bs.length = count := h
    exact Reading.Consumes.take.map _
  | fields l => exact (Reading.Consumes.scalar h).map _
  | field l => exact .scalar h

theorem run_refused (h : back.length < s.size) (front : Bytes) (dropped : List Nat) :
    s.run (.between front back dropped) = .error (.underflow s.size back.length) (.between front back dropped) := by
  cases s with
  | bytes count => exact Reading.map_of_error (Reading.take_refused h front dropped)
  | fields l => exact Reading.map_of_error (Reading.map_of_error (Reading.takeScalar_refused h front dropped))
  | field l => exact Reading.map_of_error (Reading.takeScalar_refused h front dropped)

/-- A step takes the next bytes if there are so many, and is refused with both numbers if there are not. -/
theorem run_between (s : ReadStep) (front back : Bytes) (dropped : List Nat) :
    s.run (.between front back dropped) =
      if s.size ≤ back.length then
        .ok (s.make (back.take s.size)) (.between (front ++ back.take s.size) (back.drop s.size) dropped)
      else .error (.underflow s.size back.length) (.between front back dropped) := by
  split_ifs with h
  · have hlength : (back.take s.size).length = s.size := List.length_take_of_le h
    have hrun := run_consumes hlength front (back.drop s.size) dropped
    rwa [List.take_append_drop] at hrun
  · exact run_refused (Nat.lt_of_not_le h) front dropped

end ReadStep

/-- A reader, with the steps that succeeded so far and what they gave. -/
structure Cursor where
  reader : Reader
  taken : List (ReadStep × Value)

namespace Cursor

def start (bs : Bytes) : Cursor := ⟨.ofBytes bs, []⟩

def step (c : Cursor) (s : ReadStep) : Cursor :=
  match s.run c.reader with
  | .ok v r => ⟨r, c.taken ++ [(s, v)]⟩
  | .error _ r => ⟨r, c.taken⟩

def run (c : Cursor) (steps : List ReadStep) : Cursor := steps.foldl step c

variable {c : Cursor} {bs : Bytes}

/-- A step that took certain bytes, and gave what it makes of them. -/
def Gave (t : ReadStep × Value) (piece : Bytes) : Prop := piece.length = t.1.size ∧ t.2 = t.1.make piece

/-- A cursor that stands behind the bytes that its steps took, with the others still to come. -/
structure Sound (bs : Bytes) (c : Cursor) (front back : Bytes) : Prop where
  whole : bs = front ++ back
  reader : c.reader = .between front back []
  pieces : ∃ pieces : List Bytes, pieces.flatten = front ∧ List.Forall₂ Gave c.taken pieces

theorem sound_start (bs : Bytes) : Sound bs (start bs) [] bs :=
  ⟨rfl, rfl, [], rfl, .nil⟩

theorem Sound.step {front back : Bytes} (h : Sound bs c front back) (s : ReadStep) :
    ∃ front' back', Sound bs (c.step s) front' back' := by
  obtain ⟨hwhole, hreader, pieces, hflat, hgave⟩ := h
  have hrun := s.run_between front back []
  unfold Cursor.step
  rw [hreader, hrun]
  by_cases hs : s.size ≤ back.length
  · rw [if_pos hs]
    refine ⟨front ++ back.take s.size, back.drop s.size, ?_, rfl, pieces ++ [back.take s.size], ?_, ?_⟩
    · rw [List.append_assoc, List.take_append_drop, hwhole]
    · rw [List.flatten_append, hflat, List.flatten_singleton]
    · exact List.rel_append hgave (.cons ⟨List.length_take_of_le hs, rfl⟩ .nil)
  · rw [if_neg hs]
    exact ⟨front, back, hwhole, rfl, pieces, hflat, hgave⟩

theorem Sound.run {front back : Bytes} (h : Sound bs c front back) (steps : List ReadStep) :
    ∃ front' back', Sound bs (c.run steps) front' back' := by
  induction steps generalizing c front back with
  | nil => exact ⟨front, back, h⟩
  | cons s rest ih =>
    obtain ⟨front', back', h'⟩ := h.step s
    exact ih h'

/-- After any steps a reader stands inside its bytes. The bytes before it are those that the steps took that
succeeded, one after another; the next step takes the bytes behind it just if there are so many, and else is refused
with the number that it needs and the number that is left. And no reading of a value, whatever comes of it, moves a
reader backwards or past the end. -/
theorem cursor_sound (bs : Bytes) (steps : List ReadStep) :
    let c := (start bs).run steps
    let r := c.reader
    0 ≤ r.position ∧ r.position ≤ bs.length ∧ r.position + r.remaining = bs.length
      ∧ (∃ pieces : List Bytes, pieces.flatten = bs.take r.position.toNat ∧ List.Forall₂ Gave c.taken pieces)
      ∧ (∀ s : ReadStep, s.run r =
          if s.size ≤ r.remaining then
            .ok (s.make ((bs.drop r.position.toNat).take s.size)) { r with position := r.position + s.size }
          else .error (.underflow s.size r.remaining) r)
      ∧ ∀ (impls : Implementations) (shape : Shape) (r : Reader),
          match shape.read impls r with
          | .ok _ r' | .error _ r' =>
            r'.source = r.source ∧ r.position ≤ r'.position ∧ r'.position ≤ max r.position r.size := by
  intro c r
  obtain ⟨front, back, hwhole, hreader, pieces, hflat, hgave⟩ : ∃ front back, Sound bs c front back :=
    (sound_start bs).run steps
  have hr : r = .between front back [] := hreader
  have hposition : r.position = front.length := by rw [hr, Reader.between_position]
  have hremaining : r.remaining = back.length := by rw [hr, Reader.between_remaining]
  have hlength : bs.length = front.length + back.length := by rw [hwhole, List.length_append]
  have htoNat : r.position.toNat = front.length := by rw [hposition, Int.toNat_natCast]
  have htake : bs.take r.position.toNat = front := by rw [htoNat, hwhole, List.take_left]
  have hdrop : bs.drop r.position.toNat = back := by rw [htoNat, hwhole, List.drop_left]
  refine ⟨by omega, by omega, by omega, ⟨pieces, by rw [hflat, htake], hgave⟩, fun s => ?_, fun impls shape r => ?_⟩
  · rw [hremaining, hdrop, hposition, hr, s.run_between]
    simp only [Nat.cast_le]
    split_ifs with hs
    · have hmoved := Reader.between_moved front (back.take s.size) (back.drop s.size) []
        (congrArg Nat.cast (List.length_take_of_le hs).symm)
      rw [List.take_append_drop] at hmoved
      exact congrArg _ hmoved.symm
    · rfl
  · have hreaches := shape.read_advances impls r
    cases hread : shape.read impls r with
    | ok v r' =>
      rw [hread] at hreaches
      have hmoved := hreaches.moved
      exact ⟨hreaches.source, by omega, hreaches.inside⟩
    | error e r' =>
      rw [hread] at hreaches
      have hmoved := hreaches.moved
      exact ⟨hreaches.source, by omega, hreaches.inside⟩

end Cursor

end ForeignBridge
