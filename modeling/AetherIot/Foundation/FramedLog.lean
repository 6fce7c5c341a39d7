import AetherIot.Foundation.Bytes

/-!
# Append-only logs of checksummed frames

A log is a sequence of frames, each of which carries one payload.  A reader examines the bytes at
the current offset; recovery applies the payloads in order and stops at a torn tail.  `Framing`
collects what recovery needs to know about a reader: it reads back whole frames and recognises the
beginning of a frame as torn.
-/

namespace FramedLog

/-- What a reader finds at the current offset of a nonempty log. -/
inductive FrameRead (ε : Type) where
  | torn
  | corrupt (failure : ε)
  | frame (payload rest : List UInt8)

/-- Apply the payloads of a log in order.  The result carries the offset up to which the log is
sound; the bytes after it are a torn tail. -/
def scan {ε σ : Type} (read : Nat → List UInt8 → FrameRead ε)
    (apply : σ → List UInt8 → Except ε σ) : Nat → Nat → σ → List UInt8 → Except ε (σ × Nat)
  | 0, offset, state, _ => .ok (state, offset)
  | fuel + 1, offset, state, log =>
    if log.isEmpty then .ok (state, offset)
    else
      match read offset log with
      | .torn => .ok (state, offset)
      | .corrupt failure => .error failure
      | .frame payload rest =>
        match apply state payload with
        | .error failure => .error failure
        | .ok next => scan read apply fuel (offset + (log.length - rest.length)) next rest

/-- A frame layout and a reader that agrees with it. -/
structure Framing (ε : Type) where
  /-- The payloads that may be framed. -/
  Admissible : List UInt8 → Prop
  /-- The bytes of the frame around a payload. -/
  frame : List UInt8 → List UInt8
  read : Nat → List UInt8 → FrameRead ε
  frame_ne_nil : ∀ payload, frame payload ≠ []
  read_frame : ∀ offset payload rest, Admissible payload →
    read offset (frame payload ++ rest) = .frame payload rest
  read_part : ∀ offset payload part, Admissible payload → part ≠ [] →
    part <+: frame payload → part ≠ frame payload → read offset part = .torn

namespace Framing

variable {ε σ : Type} (framing : Framing ε)

/-- The bytes of a whole log. -/
def log (payloads : List (List UInt8)) : List UInt8 :=
  (payloads.map framing.frame).flatten

/-- Bytes at the end of a log that recovery cuts off: nothing, or an unfinished frame. -/
def Torn (part : List UInt8) : Prop :=
  part = [] ∨ ∃ payload, framing.Admissible payload ∧ part <+: framing.frame payload ∧
    part ≠ framing.frame payload

@[simp]
theorem log_nil : framing.log [] = [] := rfl

@[simp]
theorem log_cons (payload : List UInt8) (payloads : List (List UInt8)) :
    framing.log (payload :: payloads) = framing.frame payload ++ framing.log payloads := rfl

theorem log_snoc (payloads : List (List UInt8)) (payload : List UInt8) :
    framing.log (payloads ++ [payload]) = framing.log payloads ++ framing.frame payload := by
  simp [log]

variable {framing}

theorem torn_nil : framing.Torn [] := .inl rfl

theorem torn_take {payload : List UInt8} (admissible : framing.Admissible payload) {count : Nat}
    (short : count < (framing.frame payload).length) :
    framing.Torn ((framing.frame payload).take count) := by
  refine .inr ⟨payload, admissible, List.take_prefix _ _, fun whole => ?_⟩
  have := congrArg List.length whole
  simp at this
  omega

variable {part : List UInt8} {payloads : List (List UInt8)}

theorem scan_torn (apply : σ → List UInt8 → Except ε σ) (torn : framing.Torn part)
    (fuel offset : Nat) (state : σ) :
    scan framing.read apply fuel offset state part = .ok (state, offset) := by
  cases fuel with
  | zero => rfl
  | succ =>
    rcases torn with rfl | ⟨payload, admissible, isPart, proper⟩
    · rfl
    · by_cases vacant : part = []
      · subst vacant
        rfl
      · simp [scan, vacant, framing.read_part offset payload part admissible vacant isPart proper]

/-- Recovery of whole frames and a torn tail is the fold of the payloads, and stops where the
frames end. -/
theorem scan_log (apply : σ → List UInt8 → Except ε σ)
    (admissible : ∀ payload ∈ payloads, framing.Admissible payload) (torn : framing.Torn part)
    {fuel : Nat} (enough : payloads.length ≤ fuel) (offset : Nat) (state : σ) :
    scan framing.read apply fuel offset state (framing.log payloads ++ part) =
      (payloads.foldlM apply state).map
        fun final => (final, offset + (framing.log payloads).length) := by
  induction payloads generalizing fuel offset state with
  | nil => exact scan_torn apply torn fuel offset state
  | cons payload payloads ih =>
    obtain ⟨head, tail⟩ := List.forall_mem_cons.mp admissible
    cases fuel with
    | zero => simp at enough
    | succ fuel =>
      have vacant : (framing.frame payload ++ (framing.log payloads ++ part)).isEmpty = false := by
        simp [framing.frame_ne_nil]
      rw [log_cons, List.append_assoc, List.foldlM_cons]
      simp only [scan, vacant, framing.read_frame offset payload _ head]
      cases apply state payload with
      | error => rfl
      | ok =>
        have short : payloads.length ≤ fuel := by simpa using enough
        simp only [Bool.false_eq_true, if_false, ih tail short]
        simp [Except.map, Nat.add_assoc, bind, Except.bind]

theorem length_le_log (payloads : List (List UInt8)) :
    payloads.length ≤ (framing.log payloads).length := by
  induction payloads with
  | nil => simp
  | cons payload =>
    have := List.length_pos_of_ne_nil (framing.frame_ne_nil payload)
    simp only [log_cons, List.length_append, List.length_cons]
    omega

/-- A torn tail that completes whole frames is empty. -/
theorem torn_eq_nil {whole : List (List UInt8)}
    (admissible : ∀ payload ∈ payloads, framing.Admissible payload)
    (wholes : ∀ payload ∈ whole, framing.Admissible payload) (torn : framing.Torn part)
    (same : framing.log payloads ++ part = framing.log whole) :
    part = [] := by
  let ignore : Unit → List UInt8 → Except ε Unit := fun _ _ => .ok ()
  have ignored : ∀ items : List (List UInt8), items.foldlM ignore () = .ok () := by
    intro items
    induction items with
    | nil => rfl
    | cons _ _ ih => exact ih
  have first := scan_log ignore admissible torn (Nat.le_max_left _ whole.length) 0 ()
  have second := scan_log ignore wholes torn_nil (Nat.le_max_right payloads.length _) 0 ()
  rw [List.append_nil, ← same, first, ignored, ignored, same] at second
  have lengths := congrArg List.length same
  simp only [Except.map, Except.ok.injEq, Prod.mk.injEq, List.length_append] at second lengths
  exact List.length_eq_zero_iff.mp (by omega)

end Framing

end FramedLog
