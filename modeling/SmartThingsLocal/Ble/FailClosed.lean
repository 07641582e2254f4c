import SmartThingsLocal.Ble.FramingExact

/-!
# The reassembler fails closed

A reassembler holds a part of one PDU or nothing. A call that raises and a call that returns a
PDU both leave it as it was created, so whatever came before has no effect on what comes after.
-/

namespace SmartThingsLocal

open Ble

namespace Ble

/-- The bound that a codec keeps is the one it was given. -/
theorem validateMaxPduSize_eq {maxPduSize : ℤ} {maximum : ℕ}
    (valid : validateMaxPduSize maxPduSize = .ok maximum) :
    (maximum : ℤ) = maxPduSize ∧ 0 < maximum := by
  rcases Fallible.ite_error_eq_ok.mp valid with ⟨within, same⟩
  rw [not_not] at within
  have isMaximum : maxPduSize.toNat = maximum := Except.ok.inj same
  omega

end Ble

namespace BleOcfReassembler

variable {reassembler fresh other after : BleOcfReassembler} {frame : ByteString}

/-- A reassembler between two PDUs holds nothing but its configuration. -/
theorem eq_of_idle (consistent : reassembler.Consistent) (idle : reassembler.header = none)
    (otherConsistent : other.Consistent) (otherIdle : other.header = none)
    (sameMtu : reassembler.mtu = other.mtu)
    (sameMaximum : reassembler.maxPduSize = other.maxPduSize) : reassembler = other := by
  rcases consistent.idle idle with ⟨length, buffer⟩
  rcases otherConsistent.idle otherIdle with ⟨otherLength, otherBuffer⟩
  rcases reassembler with ⟨mtu, maximum, header, expectedLength, collected⟩
  rcases other with ⟨otherMtu, otherMaximum, otherHeader, otherExpected, otherCollected⟩
  simp_all

theorem header_of_created {mtu maxPduSize : ℤ} (created : create mtu maxPduSize = .ok fresh) :
    fresh.header = none := by
  rcases Fallible.bind_eq_ok.mp created with ⟨size, _, created⟩
  rcases Fallible.bind_eq_ok.mp created with ⟨maximum, _, created⟩
  cases created
  rfl

/-- Only a call that answers nothing leaves a PDU in progress. -/
theorem idle_of_answers (consistent : reassembler.Consistent)
    (answers : (reassembler.feed frame).1 ≠ .ok none) :
    (reassembler.feed frame).2.header = none := by
  rcases fed : reassembler.feed frame with ⟨error | output, after⟩
  · unfold feed at fed
    split at fed
    · cases fed
    · cases fed
      rfl
  · rw [fed] at answers
    cases (feed_eq_iff consistent).mp fed with
    | whole idle => exact idle
    | start => exact absurd rfl answers
    | more => exact absurd rfl answers
    | last => rfl

end BleOcfReassembler

/--
After any frames, a reassembler holds a proper and non-empty part of a PDU within the bound, or
nothing. After a call that raised or returned a PDU it answers as one that was just created.
-/
theorem reassembler_fails_closed {mtu maxPduSize : ℤ} {fresh : BleOcfReassembler}
    (created : BleOcfReassembler.create mtu maxPduSize = .ok fresh) (frames : List ByteString) :
    let reached := fresh.feedAll frames
    (reached.inProgress = true ∧ 0 < reached.bufferedBytes ∧
        reached.bufferedBytes < reached.expectedLength ∧
        (reached.expectedLength : ℤ) ≤ maxPduSize ∨
      reached.inProgress = false ∧ reached.buffer = []) ∧
      ∀ frame, (reached.feed frame).1 ≠ .ok none → ∀ later,
        (reached.feed frame).2.answers later = fresh.answers later := by
  intro reached
  rcases BleOcfReassembler.of_created created with ⟨-, bounded, consistent⟩
  have reachedConsistent : reached.Consistent :=
    BleOcfReassembler.consistent_feedAll consistent frames
  rcases BleOcfReassembler.feedAll_configuration consistent frames with ⟨sameMtu, sameMaximum⟩
  refine ⟨?_, fun frame answers later => ?_⟩
  · cases collecting : reached.header with
    | none =>
        right
        exact ⟨by simp [BleOcfReassembler.inProgress, collecting],
          (reachedConsistent.idle collecting).2⟩
    | some header =>
        left
        rcases reachedConsistent.active header collecting with ⟨-, nonempty, proper, length_le⟩
        refine ⟨by simp [BleOcfReassembler.inProgress, collecting], nonempty, proper, ?_⟩
        rw [← (validateMaxPduSize_eq bounded).1, ← sameMaximum]
        exact Int.ofNat_le.mpr length_le
  · rcases BleOcfReassembler.feed_configuration reachedConsistent frame with ⟨mtu, maximum⟩
    have isFresh : (reached.feed frame).2 = fresh := by
      apply BleOcfReassembler.eq_of_idle
      · exact BleOcfReassembler.consistent_feed reachedConsistent frame
      · exact BleOcfReassembler.idle_of_answers reachedConsistent answers
      · exact consistent
      · exact BleOcfReassembler.header_of_created created
      · exact mtu.trans sameMtu
      · exact maximum.trans sameMaximum
    rw [isFresh]

/-- A frame that interrupts a PDU, after the start of the PDU. -/
theorem reassembler_fails_closed_example :
    let fresh : BleOcfReassembler := ⟨⟨10, by decide, by decide⟩, 100, none, 0, []⟩
    let reached := fresh.feedAll [[0x81, 0x02, 0, 0, 0, 5, 1, 2, 3, 4]]
    (reached.feed [0x03, 0x02, 5]).1 = .error .interleavedMetadata ∧
      (reached.feed [0x03, 0x02, 5]).2.answers [[0x01, 0x02, 5]] =
        fresh.answers [[0x01, 0x02, 5]] := by
  intro fresh reached
  have raised : (reached.feed [0x03, 0x02, 5]).1 = .error .interleavedMetadata := by
    decide +kernel
  have created : BleOcfReassembler.create 10 100 = .ok fresh := rfl
  refine ⟨raised, (reassembler_fails_closed created _).2 _ ?_ _⟩
  simp [reached, raised]

end SmartThingsLocal
