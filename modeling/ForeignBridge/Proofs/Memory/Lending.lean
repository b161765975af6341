import ForeignBridge.Proofs.Wire.Extent

/-!
What a library is told of the bytes that it is lent. Their number is a signed word of 32 bits, as a length or a count
inside an encoding is; but an encoding is longer than what is counted in it, and nothing limits it as a whole. So the
number is that of the bytes for the shapes whose greatest width the word can hold, and not for all others.
-/

namespace ForeignBridge

open Script

namespace LentBytes

/-- The number of lent bytes is what is left of theirs in a signed word. -/
theorem len_eq_bmod (data : Bytes) : (ofBytes data).len = Int.bmod data.length (2 ^ 32) := by
  have hresidue := residueOf_cast 4 data.length
  have hlen : (ofBytes data).len = signedOf 4 (residueOf 4 data.length) := rfl
  rw [hlen, signedOf, Int.bmod_def]
  split <;> split <;> omega

/-- So it is theirs exactly if they are fewer than its word can count. -/
theorem len_eq_iff (data : Bytes) : (ofBytes data).len = data.length ↔ data.length < 2 ^ 31 := by
  rw [len_eq_bmod, Int.bmod_def]
  split <;> omega

end LentBytes

namespace Shape

variable {types : ObjectTypes} {s : Shape} {v : Value} {data : Bytes} {w w' : World}

/-- Bytes are sent behind their length. -/
theorem send_bytes {holder : ByteHolder} {payload : Bytes}
    (h : Shape.bytes.send types (.bytes holder payload) w = .ok data w') : data.length = 4 + payload.length := by
  obtain ⟨hf, hlength⟩ := send_width h
  have hwrite : Shape.bytes.write (.bytes holder payload) = countBytes payload.length ++ .raw payload := rfl
  rw [hwrite] at hf hlength
  have hcount := (append_ok hf).1
  rw [hlength, width_append hcount, countBytes_width hcount, width_raw]

/-- A library is lent the encoding of what is lowered, of at most the greatest width of the shape. The number that it is
told wraps: it is true exactly if there are fewer bytes than its word can count, which a value that is bytes itself is
only if it stays four short of the limit on its length. -/
theorem lower_lends (space : String) (h : s.send types v w = .ok data w') :
    (Allocator.library space).lower types s v w = Allocator.copyThrough space (.ofBytes data) w' ∧
      data.length ≤ s.greatestWidth ∧
      (LentBytes.ofBytes data).len = Int.bmod data.length (2 ^ 32) ∧
      ((LentBytes.ofBytes data).len = data.length ↔ data.length < 2 ^ 31) ∧
      ∀ holder payload, s = .bytes → v = .bytes holder payload →
        ((LentBytes.ofBytes data).len = data.length ↔ 4 + payload.length ≤ maxLength) := by
  have hexact := LentBytes.len_eq_iff data
  refine ⟨Act.bind_of_ok h, send_length_le h, LentBytes.len_eq_bmod data, hexact, ?_⟩
  rintro holder payload rfl rfl
  rw [hexact, send_bytes h]
  unfold maxLength
  omega

theorem lower_lends_short :
    Shape.bytes.send (fun _ => none) (.bytes .frozen [7, 9]) (World.new []) = .ok [0, 0, 0, 2, 7, 9] (World.new []) ∧
      (LentBytes.ofBytes [0, 0, 0, 2, 7, 9]).len = 6 := by
  have hsend : Shape.bytes.send (fun _ => none) (.bytes .frozen [7, 9]) (World.new [])
      = .ok [0, 0, 0, 2, 7, 9] (World.new []) := rfl
  obtain ⟨-, -, -, -, hlen⟩ := lower_lends "wallet" hsend
  exact ⟨hsend, (hlen .frozen [7, 9] rfl rfl).mpr (by decide)⟩

theorem encode_bytes {holder : ByteHolder} {payload : Bytes} (h : payload.length ≤ maxLength) :
    Shape.bytes.encode (.bytes holder payload) = .ok (lengthNumeral payload.length ++ payload) := by
  have hc : Shape.bytes.check (.bytes holder payload) = .ok () := checkLength_of_le h "Bytes"
  have hw : (Shape.bytes.write (.bytes holder payload)).Writes (lengthNumeral payload.length ++ payload) :=
    (countBytes_writes h).append (.raw payload)
  simp only [encode, hc, bind, Except.bind, hw.1, hw.2]

/-- Bytes of the greatest length that is let through are encoded, and the library is told a negative number. -/
theorem lent_length_wraps :
    ∃ data, Shape.bytes.encode (.bytes .frozen (List.replicate maxLength 0)) = .ok data ∧
      data.length = 2 ^ 31 + 3 ∧ (LentBytes.ofBytes data).len = 3 - 2 ^ 31 := by
  have hn : (List.replicate maxLength (0 : UInt8)).length = maxLength := List.length_replicate
  have hlength : (lengthNumeral (List.replicate maxLength (0 : UInt8)).length
      ++ List.replicate maxLength 0).length = 2 ^ 31 + 3 := by
    rw [List.length_append, lengthNumeral_length, hn]
    rfl
  refine ⟨_, encode_bytes hn.le, hlength, ?_⟩
  unfold LentBytes.ofBytes
  dsimp only
  rw [hlength]
  rfl

end Shape

end ForeignBridge
