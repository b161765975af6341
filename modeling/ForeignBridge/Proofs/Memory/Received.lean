import ForeignBridge.Memory.Received
import ForeignBridge.Proofs.Memory.Lifting
import ForeignBridge.Proofs.Wire.Progress

/-!
What comes of a received buffer. The first release, or the end of the first consumption, releases it, and nothing that
is done with it after that reaches the buffer or frees again. A consumption fails as what is done inside it fails, or
for what that left unread, unless freeing the buffer fails in the end.
-/

namespace ForeignBridge

variable {α β : Type}

namespace Held

variable {x : Held α} {h h' : Holding}

/-- What is left of the buffer and the world, whether it failed or not. -/
def after (x : Held α) (h : Holding) : Holding :=
  match x h with
  | .ok _ h' => h'
  | .error _ h' => h'

def outcome (x : Held α) (h : Holding) : Except Failure α :=
  match x h with
  | .ok a _ => .ok a
  | .error e _ => .error e

theorem after_of_ok {a : α} (hx : x h = .ok a h') : x.after h = h' := by
  rw [after, hx]

theorem after_of_error {e : Failure} (hx : x h = .error e h') : x.after h = h' := by
  rw [after, hx]

theorem after_congr {y : Held α} {g : Holding} (hxy : x h = y g) : x.after h = y.after g := by
  rw [after, after, hxy]

theorem outcome_of_ok {a : α} (hx : x h = .ok a h') : x.outcome h = .ok a := by
  rw [outcome, hx]

theorem outcome_of_error {e : Failure} (hx : x h = .error e h') : x.outcome h = .error e := by
  rw [outcome, hx]

theorem outcome_congr {y : Held α} {g : Holding} (hxy : x h = y g) : x.outcome h = y.outcome g := by
  rw [outcome, outcome, hxy]

theorem bind_of_ok {f : α → Held β} {a : α} {g : Holding} (hx : x h = .ok a g) : (x >>= f) h = f a g := by
  change EStateM.bind x f h = _
  rw [EStateM.bind, hx]

theorem bind_of_error {f : α → Held β} {e : Failure} (hx : x h = .error e h') : (x >>= f) h = .error e h' := by
  change EStateM.bind x f h = _
  rw [EStateM.bind, hx]

theorem observing_eq (x : Held α) (h : Holding) : observing x h = .ok (x.outcome h) (x.after h) := by
  let y : Held (Except Failure α) := do return .ok (← x)
  change EStateM.tryCatch y (fun e => pure (.error e)) h = _
  unfold EStateM.tryCatch outcome after
  cases hx : x h with
  | ok a h' =>
    have hy : y h = .ok (.ok a) h' := bind_of_ok hx
    rw [hy]
  | error e h' =>
    have hy : y h = .error e h' := bind_of_error hx
    rw [hy]
    rfl

theorem tryFinally_of_ok {a : α} (hx : x h = .ok a h') (last : Held Unit) :
    tryFinally x last h = match last h' with
      | .ok _ h'' => .ok a h''
      | .error e h'' => .error e h'' := by
  change EStateM.map Prod.fst (tryFinally' x fun _ => last) h = _
  unfold EStateM.map
  simp only [tryFinally', hx]
  cases last h' <;> rfl

/-- A failure of what is done in the end takes the place of one before. -/
theorem tryFinally_of_error {e : Failure} (hx : x h = .error e h') (last : Held Unit) :
    tryFinally x last h = match last h' with
      | .ok _ h'' => .error e h''
      | .error e' h'' => .error e' h'' := by
  change EStateM.map Prod.fst (tryFinally' x fun _ => last) h = _
  unfold EStateM.map
  simp only [tryFinally', hx]
  cases last h' <;> rfl

theorem after_tryFinally (x : Held α) (last : Held Unit) (h : Holding) :
    (tryFinally x last).after h = last.after (x.after h) := by
  unfold after
  cases hx : x h with
  | ok a h' =>
    rw [tryFinally_of_ok hx]
    cases last h' <;> rfl
  | error e h' =>
    rw [tryFinally_of_error hx]
    cases last h' <;> rfl

theorem outcome_tryFinally (x : Held α) (last : Held Unit) (h : Holding) :
    (tryFinally x last).outcome h = last.outcome (x.after h) >>= fun _ => x.outcome h := by
  unfold outcome after
  cases hx : x h with
  | ok a h' =>
    rw [tryFinally_of_ok hx]
    cases last h' <;> rfl
  | error e h' =>
    rw [tryFinally_of_error hx]
    cases last h' <;> rfl

end Held

namespace Holding

variable {free : Buffer → Act Unit} {h : Holding}

/-- The bytes of the buffer as the native side left them. -/
def bytes (h : Holding) : Bytes := h.world.arena.view h.buffer.raw

/-- The holding with the buffer released, which is done once: a released buffer is left alone. -/
def ended (free : Buffer → Act Unit) (h : Holding) : Holding :=
  if h.buffer.released then h
  else ⟨⟨h.buffer.raw, true⟩, (releaseWith free h.buffer.raw).after h.world⟩

theorem ended_of_released (hr : h.buffer.released) : h.ended free = h := if_pos hr

theorem ended_released (free : Buffer → Act Unit) (h : Holding) : (h.ended free).buffer.released := by
  unfold ended
  split_ifs with hr
  · exact hr
  · rfl

theorem ended_ended (free : Buffer → Act Unit) (h : Holding) : (h.ended free).ended free = h.ended free :=
  ended_of_released (ended_released free h)

end Holding

namespace Held

variable {free : Buffer → Act Unit} {h : Holding}

theorem view_of_released (hr : h.buffer.released) : view h = .error (.bufferReleased h.buffer.raw.text) h := by
  change inWorld h.buffer.view h = _
  rw [inWorld, ReceivedBuffer.view, if_pos hr]
  rfl

theorem view_of_held (hr : ¬ h.buffer.released) : view h = .ok h.bytes h := by
  change inWorld h.buffer.view h = _
  rw [inWorld, ReceivedBuffer.view, if_neg hr, viewOf_eq]
  rfl

theorem reader_of_released (hr : h.buffer.released) : reader h = .error (.bufferReleased h.buffer.raw.text) h :=
  bind_of_error (view_of_released hr)

theorem reader_of_held (hr : ¬ h.buffer.released) : reader h = .ok (.ofBytes h.bytes) h :=
  bind_of_ok (view_of_held hr)

theorem release_of_released (hr : h.buffer.released) : release free h = .ok () h := by
  refine (bind_of_ok (g := h) rfl).trans ?_
  rw [if_pos hr]
  rfl

theorem release_of_held (hr : ¬ h.buffer.released) : release free h =
    inWorld (releaseWith free h.buffer.raw) ⟨⟨h.buffer.raw, true⟩, h.world⟩ := by
  refine (bind_of_ok (g := h) rfl).trans ?_
  rw [if_neg hr]
  rfl

theorem after_view (h : Holding) : view.after h = h := by
  by_cases hr : h.buffer.released
  · exact after_of_error (view_of_released hr)
  · exact after_of_ok (view_of_held hr)

theorem after_reader (h : Holding) : reader.after h = h := by
  by_cases hr : h.buffer.released
  · exact after_of_error (reader_of_released hr)
  · exact after_of_ok (reader_of_held hr)

theorem after_inWorld (x : Act α) (h : Holding) : (inWorld x).after h = ⟨h.buffer, x.after h.world⟩ := by
  unfold after inWorld Act.after
  cases x h.world <;> rfl

theorem after_release (free : Buffer → Act Unit) (h : Holding) : (release free).after h = h.ended free := by
  unfold Holding.ended
  split_ifs with hr
  · exact after_of_ok (release_of_released hr)
  · rw [after_congr (release_of_held hr), after_inWorld]

end Held

namespace Consumption

open Held

variable {free : Buffer → Act Unit}

theorem run_read (free : Buffer → Act Unit) (s : Shape) (next : Except Failure Value → Consumption α) (r : Reader)
    (h : Holding) : (read s next).run free r h = match s.read h.world.lookup r with
      | .ok v r' => (next (.ok v)).run free r' h
      | .error f r' => (next (.error f)).run free r' h := by
  rw [run]
  apply (bind_of_ok (g := h) rfl).trans
  cases s.read h.world.lookup r <;> rfl

theorem run_release (free : Buffer → Act Unit) (next : Except Failure Unit → Consumption α) (r : Reader)
    (h : Holding) : (release next).run free r h =
      (next ((Held.release free).outcome h)).run free r (h.ended free) := by
  rw [run, bind_of_ok (observing_eq _ h), after_release]

/-- What is done inside leaves the buffer as it was or releases it, and if it was released leaves it alone. -/
theorem after_run (free : Buffer → Act Unit) (body : Consumption α) (r : Reader) (h : Holding) :
    (body.run free r).after h = h ∨ (body.run free r).after h = h.ended free := by
  induction body generalizing r h with
  | finish a => exact .inl rfl
  | fail f => exact .inl rfl
  | look next ih => exact ih r r h
  | read s next ih =>
    have hrun := run_read free s next r h
    cases hread : s.read h.world.lookup r with
    | ok v r' =>
      rw [hread] at hrun
      rw [after_congr hrun]
      exact ih (.ok v) r' h
    | error f r' =>
      rw [hread] at hrun
      rw [after_congr hrun]
      exact ih (.error f) r' h
  | release next ih =>
    rw [after_congr (run_release free next r h)]
    -- whatever follows the release finds the buffer released
    have hnext := ih ((Held.release free).outcome h) r (h.ended free)
    rw [Holding.ended_ended, or_self] at hnext
    exact .inr hnext

/-- What is done inside moves the reader on over the same bytes. -/
theorem onward_run {body : Consumption α} {r r' : Reader} {h h' : Holding} {a : α}
    (hb : body.run free r h = .ok (a, r') h') : r.Onward 0 r' := by
  induction body generalizing r h with
  | finish b =>
    cases hb
    exact .refl _
  | fail f => cases hb
  | look next ih => exact ih _ hb
  | read s next ih =>
    rw [run_read] at hb
    have hmoved := s.read_advances h.world.lookup r
    cases hread : s.read h.world.lookup r with
    | ok v r₁ =>
      rw [hread] at hb hmoved
      exact (hmoved.trans (ih (.ok v) hb)).weaken (Nat.zero_le _)
    | error f r₁ =>
      rw [hread] at hb hmoved
      exact hmoved.trans (ih (.error f) hb)
  | release next ih =>
    rw [run_release] at hb
    exact ih _ hb

/-- Reads one value. -/
def one (s : Shape) : Consumption Value :=
  read s fun
    | .ok v => finish v
    | .error f => fail f

/-- What is done inside, and the look at what it left unread. -/
def toEnd (free : Buffer → Act Unit) (typeName : Option String) (body : Consumption α) (r : Reader) : Held α := do
  let (a, r) ← body.run free r
  if r.remaining ≠ 0 then throw (.trailing r.remaining typeName)
  return a

variable {body : Consumption α} {typeName : Option String} {r r' : Reader} {h h' : Holding}

theorem toEnd_of_fail {e : Failure} (hb : body.run free r h = .error e h') :
    body.toEnd free typeName r h = .error e h' :=
  bind_of_error hb

theorem toEnd_of_finish (typeName : Option String) {a : α} (hb : body.run free r h = .ok (a, r') h') : body.toEnd free typeName r h =
    if r'.remaining = 0 then .ok a h' else .error (.trailing r'.remaining typeName) h' := by
  apply (bind_of_ok hb).trans
  dsimp only
  by_cases hl : r'.remaining = 0
  · rw [if_neg (not_not.mpr hl), if_pos hl]
    rfl
  · rw [if_pos hl, if_neg hl]
    rfl

/-- To read one value to the end is the same inside a consumption as anywhere. -/
theorem toEnd_one {s : Shape} (hr : r.released = false) : (one s).toEnd free typeName r h =
    (ofExcept (((s.read h.world.lookup).toEnd typeName).value r) : Held Value) h := by
  unfold Reading.value Reading.toEnd
  cases hread : s.read h.world.lookup r with
  | error e r' =>
    have hrun : (one s).run free r h = .error e h := by
      rw [one, run_read, hread]
      rfl
    rw [toEnd_of_fail hrun, Reading.bind_of_error hread]
    rfl
  | ok v r' =>
    have hrun : (one s).run free r h = .ok (v, r') h := by
      rw [one, run_read, hread]
      rfl
    have hremaining : Reading.remaining r' = .ok r'.remaining r' := by
      rw [Reading.remaining, ((s.read_advances _).ok hread).released, hr]
      rfl
    rw [toEnd_of_finish typeName hrun, Reading.bind_of_ok hread, Reading.bind_of_ok hremaining]
    by_cases hl : r'.remaining = 0
    · rw [if_pos hl, if_neg (not_not.mpr hl)]
      rfl
    · rw [if_neg hl, if_pos hl]
      rfl

theorem after_toEnd (free : Buffer → Act Unit) (typeName : Option String) (body : Consumption α) (r : Reader)
    (h : Holding) : (body.toEnd free typeName r).after h = (body.run free r).after h := by
  unfold after
  cases hb : body.run free r h with
  | ok v h' =>
    rw [toEnd_of_finish typeName hb]
    split_ifs <;> rfl
  | error e h' => rw [toEnd_of_fail hb]

/-- What is left to a reader that was moved on from the start of some bytes is the end of the bytes. -/
theorem exists_unread {bs : Bytes} (hr : (Reader.ofBytes bs).Onward 0 r) :
    ∃ unread, unread <:+ bs ∧ r.position + unread.length = bs.length ∧ r.remaining = unread.length := by
  have hmoved := hr.moved
  have hinside := hr.inside
  have hsize : (Reader.ofBytes bs).size = bs.length := rfl
  change 0 + ((0 : Nat) : Int) ≤ r.position at hmoved
  change r.position ≤ max 0 ((Reader.ofBytes bs).size : Int) at hinside
  have hlength := List.length_drop (i := r.position.toNat) (l := bs)
  refine ⟨bs.drop r.position.toNat, List.drop_suffix _ _, ?_, ?_⟩
  · omega
  · unfold Reader.remaining
    rw [hr.size]
    omega

end Consumption

namespace Held

variable {free : Buffer → Act Unit} {h : Holding} {body : Consumption α} {typeName : Option String}

theorem consume_of_released (hr : h.buffer.released) :
    consume free typeName body h = .error (.bufferReleased h.buffer.raw.text) h :=
  bind_of_error (reader_of_released hr)

theorem consume_of_held (hr : ¬ h.buffer.released) : consume free typeName body h =
    tryFinally (body.toEnd free typeName (.ofBytes h.bytes)) (release free) h :=
  bind_of_ok (reader_of_held hr)

/-- The end of a consumption finds the buffer released, or releases it. -/
theorem after_consume (free : Buffer → Act Unit) (typeName : Option String) (body : Consumption α) (h : Holding) :
    (consume free typeName body).after h = h.ended free := by
  by_cases hr : h.buffer.released
  · rw [after_of_error (consume_of_released hr), Holding.ended_of_released hr]
  · rw [after_congr (consume_of_held hr), after_tryFinally, after_release, Consumption.after_toEnd]
    rcases Consumption.after_run free body (.ofBytes h.bytes) h with hb | hb
    · rw [hb]
    · rw [hb, Holding.ended_ended]

theorem outcome_consume (hr : ¬ h.buffer.released) : (consume free typeName body).outcome h =
    (release free).outcome ((body.run free (.ofBytes h.bytes)).after h) >>= fun _ =>
      (body.toEnd free typeName (.ofBytes h.bytes)).outcome h := by
  rw [outcome_congr (consume_of_held hr), outcome_tryFinally, Consumption.after_toEnd]

/-- What is done in the end with the world is done in it. -/
theorem tryFinally_inWorld {x : Held α} {last : Held Unit} {done : Act Unit} {v : Except Failure α} {h' : Holding}
    (hx : x h = (ofExcept v : Held α) h) (hlast : last h = inWorld done h') :
    tryFinally x last h = inWorld (World.andFinally (ofExcept v) done) h' := by
  cases v with
  | ok a =>
    have hok : x h = .ok a h := hx
    have hbefore : (ofExcept (.ok a) : Act α) h'.world = .ok a h'.world := rfl
    rw [tryFinally_of_ok hok, hlast]
    unfold inWorld World.andFinally
    rw [hbefore]
    dsimp only
    cases done h'.world <;> rfl
  | error e =>
    have herror : x h = .error e h := hx
    have hbefore : (ofExcept (.error e) : Act α) h'.world = .error e h'.world := rfl
    rw [tryFinally_of_error herror, hlast]
    unfold inWorld World.andFinally
    rw [hbefore]
    dsimp only
    cases done h'.world <;> rfl

/-- To consume a buffer by reading one value is to lift the value. -/
theorem consume_one (free : Buffer → Act Unit) (s : Shape) (b : Buffer) (w : World) :
    consume free (some s.typeName) (.one s) ⟨⟨b, false⟩, w⟩ = inWorld (liftWith free s b) ⟨⟨b, true⟩, w⟩ := by
  let v := (s.readAll w.lookup).value (.ofBytes (w.arena.view b))
  have hinside : (Consumption.one s).toEnd free (some s.typeName) (.ofBytes (w.arena.view b)) ⟨⟨b, false⟩, w⟩ =
      (ofExcept v : Held Value) ⟨⟨b, false⟩, w⟩ := by
    rw [Consumption.toEnd_one rfl, Shape.value_toEnd]
  have hlift : liftWith free s b w = World.andFinally (ofExcept v) (releaseWith free b) w := by
    rw [Shape.liftWith_eq]
    exact andFinally_congr (readBytes_value _ _ w) _
  have hrelease : release free ⟨⟨b, false⟩, w⟩ = inWorld (releaseWith free b) ⟨⟨b, true⟩, w⟩ :=
    release_of_held Bool.false_ne_true
  refine (consume_of_held Bool.false_ne_true).trans ((tryFinally_inWorld hinside hrelease).trans ?_)
  unfold inWorld
  rw [hlift]

end Held

namespace Holding

open Held

/-- A consumption ends as what is done inside it does, but fails for what is left unread then, and for a release in
the end that fails. -/
structure Consumes (free : Buffer → Act Unit) (h : Holding) (typeName : Option String) (body : Consumption α) :
    Prop where
  failed : ∀ e h', body.run free (.ofBytes h.bytes) h = .error e h' →
    (consume free typeName body).outcome h = (release free).outcome h' >>= fun _ => .error e
  finished : ∀ a r h', body.run free (.ofBytes h.bytes) h = .ok (a, r) h' →
    ∃ unread, unread <:+ h.bytes ∧ r.position + unread.length = h.bytes.length ∧
      (consume free typeName body).outcome h = (release free).outcome h' >>= fun _ =>
        if unread = [] then .ok a else .error (.trailing unread.length typeName)

/-- A buffer that was not released is there to be viewed, read and released. -/
structure Opened (free : Buffer → Act Unit) (h : Holding) : Prop where
  view : Held.view h = .ok h.bytes h
  reader : Held.reader h = .ok (.ofBytes h.bytes) h
  release : (Held.release free).outcome h = (inWorld (releaseWith free h.buffer.raw)).outcome h
  consume : ∀ {α : Type} (typeName : Option String) (body : Consumption α), h.Consumes free typeName body

/-- A buffer that was released is refused wherever it is to be read, and is not released again. -/
structure Closed (free : Buffer → Act Unit) (h : Holding) : Prop where
  view : Held.view h = .error (.bufferReleased h.buffer.raw.text) h
  reader : Held.reader h = .error (.bufferReleased h.buffer.raw.text) h
  release : Held.release free h = .ok () h
  consume : ∀ {α : Type} (typeName : Option String) (body : Consumption α),
    Held.consume free typeName body h = .error (.bufferReleased h.buffer.raw.text) h

variable {free : Buffer → Act Unit} {h : Holding}

theorem consumes (hr : ¬ h.buffer.released) (typeName : Option String) (body : Consumption α) :
    h.Consumes free typeName body where
  failed e h' hb := by
    rw [outcome_consume hr, after_of_error hb, outcome_of_error (Consumption.toEnd_of_fail hb)]
  finished a r h' hb := by
    obtain ⟨unread, hsuffix, hposition, hremaining⟩ := Consumption.exists_unread (Consumption.onward_run hb)
    refine ⟨unread, hsuffix, hposition, ?_⟩
    have hnone : r.remaining = 0 ↔ unread = [] := by
      rw [hremaining, Int.natCast_eq_zero, List.length_eq_zero_iff]
    have hend := Consumption.toEnd_of_finish typeName hb
    rw [outcome_consume hr, after_of_ok hb]
    by_cases hu : unread = []
    · rw [if_pos (hnone.mpr hu)] at hend
      rw [outcome_of_ok hend, if_pos hu]
    · rw [if_neg (hnone.not.mpr hu), hremaining] at hend
      rw [outcome_of_error hend, if_neg hu]

theorem opened (free : Buffer → Act Unit) (hr : ¬ h.buffer.released) : h.Opened free where
  view := view_of_held hr
  reader := reader_of_held hr
  release := by
    rw [outcome_congr (release_of_held hr)]
    unfold outcome inWorld
    cases releaseWith free h.buffer.raw h.world <;> rfl
  consume := consumes hr

theorem closed (free : Buffer → Act Unit) (hr : h.buffer.released) : h.Closed free where
  view := view_of_released hr
  reader := reader_of_released hr
  release := release_of_released hr
  consume _ _ := consume_of_released hr

end Holding

/-- What may be done with a received buffer. -/
inductive BufferUse
  | view
  | reader
  | release
  | consume (typeName : Option String) (body : Consumption Value)

namespace BufferUse

/-- Whether it is over with the buffer after this. -/
def ends : BufferUse → Bool
  | view | reader => false
  | release | consume .. => true

/-- What one use after another leaves, also of those that fail. -/
def leaves (free : Buffer → Act Unit) (h : Holding) : BufferUse → Holding
  | view => Held.view.after h
  | reader => Held.reader.after h
  | release => (Held.release free).after h
  | consume typeName body => (Held.consume free typeName body).after h

theorem leaves_eq (free : Buffer → Act Unit) (h : Holding) (u : BufferUse) :
    u.leaves free h = if u.ends then h.ended free else h := by
  cases u with
  | view => exact Held.after_view h
  | reader => exact Held.after_reader h
  | release => exact Held.after_release free h
  | consume typeName body => exact Held.after_consume free typeName body h

/-- A run of uses, in which the first that ends the use of the buffer releases it and no other one does. -/
theorem foldl_leaves (free : Buffer → Act Unit) (uses : List BufferUse) (h : Holding) :
    uses.foldl (leaves free) h = if uses.any ends then h.ended free else h := by
  induction uses generalizing h with
  | nil => rfl
  | cons u rest ih =>
    rw [List.foldl_cons, ih, leaves_eq, List.any_cons]
    cases u.ends with
    | false => rfl
    | true =>
      rw [if_pos rfl, Holding.ended_ended, ite_self, Bool.true_or, if_pos rfl]

/-- Whatever is done with a received buffer, it is released once, by the first release or at the end of the first
consumption, whether freeing it fails or not; until then it can be used, and from then on it is refused. -/
theorem released_once (free : Buffer → Act Unit) (raw : Buffer) (w : World) (uses : List BufferUse) :
    let h := uses.foldl (leaves free) ⟨⟨raw, false⟩, w⟩
    if uses.any ends then h = ⟨⟨raw, true⟩, (releaseWith free raw).after w⟩ ∧ h.Closed free
    else h = ⟨⟨raw, false⟩, w⟩ ∧ h.Opened free := by
  intro h
  have hleft : h = if uses.any ends then Holding.ended free ⟨⟨raw, false⟩, w⟩ else ⟨⟨raw, false⟩, w⟩ :=
    foldl_leaves free uses _
  split_ifs at hleft ⊢ with he
  · rw [hleft]
    exact ⟨rfl, Holding.closed free rfl⟩
  · rw [hleft]
    exact ⟨rfl, Holding.opened free Bool.false_ne_true⟩

-- What is done inside releases the buffer, and still leaves a byte of it unread.
example :
    let w : World := { World.new [] with arena := ((Arena.new []).place [1, 7]).2 }
    let body : Consumption Unit := .release fun _ => .read .boolean fun _ => .finish ()
    (Held.consume Allocator.direct.free none body).outcome ⟨⟨⟨2, 2, some 1⟩, false⟩, w⟩ = .error (.trailing 1 none) :=
  rfl

end BufferUse

end ForeignBridge
