import Telep.Misc.Tokens
import Telep.Server.LineBuffer
import Telep.Server.Proofs.Replies

/-!
# One frame, one line

What `receive_line_until` makes of a frame depends on the bytes of the frame alone
(`lineOf_eq`), and the calls on a stream stay inside the buffer, consume a frame each and classify
it (`lines_classified`).
-/

namespace Telep

/-! ## The frames -/

/-- A frame without one carriage return at its end. -/
def withoutReturn (b : Bytes) : Bytes :=
  if b.getLast? = some carriageReturn then b.dropLast else b

/-- A byte of a line. -/
def IsLineByte (c : UInt8) : Prop := 32 ≤ c ∧ c ≤ 126

instance (c : UInt8) : Decidable (IsLineByte c) := inferInstanceAs (Decidable (_ ∧ _))

theorem isLineByte_return : ¬ IsLineByte carriageReturn := by decide

/-- The bytes of a line after which a frame is still valid. -/
theorem forall_withoutReturn {b : Bytes} :
    (∀ c ∈ withoutReturn b, IsLineByte c) ↔
      (∀ c ∈ b, c = carriageReturn ∨ IsLineByte c) ∧ carriageReturn ∉ withoutReturn b := by
  constructor
  · intro all
    refine ⟨fun c member => ?_, fun member => isLineByte_return (all _ member)⟩
    unfold withoutReturn at all
    split at all
    · next last =>
      have split := List.dropLast_append_getLast? _ last
      rw [← split] at member
      rcases List.mem_append.mp member with before | final
      · exact .inr (all c before)
      · exact .inl (List.mem_singleton.mp final)
    · exact .inr (all c member)
  · rintro ⟨all, clean⟩ c member
    have within : c ∈ b := by
      unfold withoutReturn at member
      split at member
      · exact List.mem_of_mem_dropLast member
      · exact member
    rcases all c within with rfl | valid
    · exact absurd member clean
    · exact valid

/-- The loop over the rest of a frame. -/
theorem receiveLoop_eq {capacity : Nat} {buffer frame rest : Bytes} {invalid overflow : Bool}
    (clean : lineFeed ∉ frame) (room : buffer.length < capacity) :
    receiveLoop capacity buffer invalid overflow (frame ++ lineFeed :: rest) =
      some (if overflow = true ∨ capacity ≤ buffer.length + frame.length then .overflow
        else if invalid = true ∨ (∃ c ∈ frame, c ≠ carriageReturn ∧ ¬ IsLineByte c) ∨
            carriageReturn ∈ withoutReturn (buffer ++ frame) then .invalid
        else .line (withoutReturn (buffer ++ frame)), rest) := by
  induction frame generalizing buffer invalid overflow with
  | nil =>
    have short : ¬ capacity ≤ buffer.length := not_le.mpr room
    simp only [List.nil_append, receiveLoop, if_true, List.length_nil, Nat.add_zero, short,
      or_false, List.not_mem_nil, false_and, exists_false, false_or, List.append_nil, withoutReturn]
    split_ifs <;> rfl
  | cons c frame ih =>
    have other : c ≠ lineFeed := fun same => clean (same ▸ List.mem_cons_self)
    have rest_clean : lineFeed ∉ frame := fun h => clean (List.mem_cons_of_mem c h)
    have bad : (invalid || (c != carriageReturn && (c < 32 || 126 < c))) = true ↔
        invalid = true ∨ (c ≠ carriageReturn ∧ ¬ IsLineByte c) := by
      simp [IsLineByte, ← UInt8.not_le, imp_iff_not_or]
    rw [List.cons_append, receiveLoop, if_neg other]
    split
    · next fits =>
      rw [ih rest_clean (by simpa using fits)]
      have length :
          (buffer ++ [c]).length + frame.length = buffer.length + (c :: frame).length := by
        simp only [List.length_append, List.length_cons, List.length_nil]
        omega
      have whole : buffer ++ [c] ++ frame = buffer ++ c :: frame := by simp
      simp only [bad, length, whole, List.exists_mem_cons_iff, or_assoc]
    · next full =>
      rw [ih rest_clean room]
      have long : capacity ≤ buffer.length + (c :: frame).length := by
        rw [List.length_cons]
        omega
      rw [if_pos (.inl rfl), if_pos (.inr long)]

/-- What the reader makes of a frame. -/
theorem lineOf_eq {b : Bytes} (clean : lineFeed ∉ b) :
    lineOf b =
      if 1023 < b.length then .overflow
      else if ∀ c ∈ withoutReturn b, IsLineByte c then .line (withoutReturn b)
      else .invalid := by
  have short : ([] : Bytes).length < maxLine := by decide
  have valid := forall_withoutReturn (b := b)
  rw [lineOf, receiveTextLine, receiveLoop_eq clean short]
  simp only [Bool.false_eq_true, false_or, List.length_nil, Nat.zero_add, List.nil_append]
  by_cases long : 1023 < b.length
  · rw [if_pos long, if_pos (Nat.succ_le_of_lt long)]
  · rw [if_neg long, if_neg (by
      have limit : maxLine = 1024 := rfl
      omega)]
    by_cases all : ∀ c ∈ withoutReturn b, IsLineByte c
    · obtain ⟨bytes, last⟩ := valid.mp all
      rw [if_pos all, if_neg]
      rintro (⟨c, member, other, bad⟩ | early)
      · exact (bytes c member).elim other bad
      · exact last early
    · rw [if_neg all, if_pos]
      by_contra fine
      rw [not_or] at fine
      refine all (valid.mpr ⟨fun c member => ?_, fine.2⟩)
      by_contra bad
      rw [not_or] at bad
      exact fine.1 ⟨c, member, bad⟩

/-! ## The buffer -/

section Buffer

variable {capacity : Nat} {buffer : Fin capacity → UInt8} {stored : Bytes}

theorem storeByte_eq (holds : stored <+: List.ofFn buffer) (room : stored.length < capacity)
    (c : UInt8) :
    ∃ buffer', storeByte buffer stored.length c = some buffer' ∧
      stored ++ [c] <+: List.ofFn buffer' := by
  refine ⟨_, dif_pos room, ?_⟩
  rw [List.prefix_iff_getElem?] at holds ⊢
  intro i within
  rw [List.length_append, List.length_singleton] at within
  have inside : i < capacity := by omega
  rw [List.getElem?_ofFn, dif_pos inside]
  by_cases last : i = stored.length
  · subst last
    simp
  · have before : i < stored.length := by omega
    have old := holds i before
    rw [List.getElem?_ofFn, dif_pos inside] at old
    rw [Function.update_of_ne (by simpa using last), old, List.getElem_append_left before]

/-- The last byte that was stored. -/
theorem loadByte_eq (holds : stored <+: List.ofFn buffer) (nonempty : stored ≠ []) :
    loadByte buffer (stored.length - 1) = stored.getLast? := by
  have positive := List.length_pos_of_ne_nil nonempty
  have within : stored.length - 1 < stored.length := by omega
  have old := List.prefix_iff_getElem?.mp holds _ within
  have inside : stored.length - 1 < capacity := by
    have := holds.length_le
    rw [List.length_ofFn] at this
    omega
  rw [List.getElem?_ofFn, dif_pos inside] at old
  rw [loadByte, dif_pos inside, old, List.getLast?_eq_getElem?, List.getElem?_eq_getElem within]

/-- The length of the line. -/
theorem dropReturn_eq (holds : stored <+: List.ofFn buffer) :
    dropReturn buffer stored.length = some (withoutReturn stored).length := by
  unfold dropReturn withoutReturn
  cases last : stored.getLast? with
  | none =>
    rw [List.getLast?_eq_none_iff] at last
    simp [last]
  | some d =>
    have nonempty : stored ≠ [] := by
      rintro rfl
      cases last
    rw [if_neg (by simpa using nonempty), loadByte_eq holds nonempty, last, Option.map_some]
    by_cases mark : d = carriageReturn <;> simp [mark]

/-- `strchr` looks at the string only. -/
theorem strchr_eq {c : UInt8} (nonzero : c ≠ 0) {bytes : Bytes} (holds : stored ++ [0] <+: bytes) :
    strchr c bytes = some (decide (c ∈ stored.takeWhile (· ≠ 0))) := by
  obtain ⟨rest, rfl⟩ := holds
  induction stored with
  | nil => simp [strchr, nonzero.symm]
  | cons d stored ih =>
    rw [List.cons_append, List.cons_append, strchr]
    by_cases zero : d = 0
    · simp [zero, nonzero.symm]
    · by_cases same : d = c
      · simp [same, nonzero]
      · rw [if_neg same, if_neg zero, ih]
        simp [zero, Ne.symm same]

theorem cString_eq (holds : stored ++ [0] <+: List.ofFn buffer) :
    cString buffer = stored.takeWhile (· ≠ 0) := by
  obtain ⟨rest, split⟩ := holds
  rw [cString, ← split, List.append_assoc, List.singleton_append, takeWhile_mark]

/-- The result of a call for what the reader makes of the stream. -/
def LineCall.Agrees (call : LineCall capacity) (ending : Int) :
    Option (ReceivedLine × Bytes) → Prop
  | none => call.result = ending ∧ call.arriving = []
  | some (.overflow, rest) => call.result = -2 ∧ call.arriving = rest
  | some (.invalid, rest) => call.result = -3 ∧ call.arriving = rest
  | some (.line text, rest) =>
      call.result = text.length + 1 ∧ cString call.buffer = text ∧ call.arriving = rest

theorem withoutReturn_begins (b : Bytes) : withoutReturn b <+: b := by
  unfold withoutReturn
  split
  · exact List.dropLast_prefix b
  · exact List.prefix_refl b

/-- The end of a call: the carriage return is cut off and the string is closed. -/
theorem receiveLineUntil_end (holds : stored <+: List.ofFn buffer) (room : stored.length < capacity)
    {ending : Int} {invalid overflow : Bool} (zero : 0 ∈ stored → invalid = true) (rest : Bytes) :
    ∃ call, receiveLineUntil capacity ending buffer stored.length invalid overflow
        (lineFeed :: rest) = some call ∧
      call.Agrees ending (receiveLoop capacity stored invalid overflow (lineFeed :: rest)) := by
  have text : withoutReturn stored <+: List.ofFn buffer := (withoutReturn_begins stored).trans holds
  have small : (withoutReturn stored).length < capacity :=
    (withoutReturn_begins stored).length_le.trans_lt room
  obtain ⟨buffer', closed, holds'⟩ := storeByte_eq text small 0
  have found := strchr_eq (c := carriageReturn) (by decide) holds'
  have string := cString_eq holds'
  rw [receiveLineUntil, if_pos rfl, dropReturn_eq holds, Option.bind_eq_bind, Option.bind_some,
    closed, Option.bind_eq_bind, Option.bind_some, found]
  refine ⟨_, rfl, ?_⟩
  rw [receiveLoop, if_pos rfl]
  dsimp only
  rw [show (if stored.getLast? = some carriageReturn then stored.dropLast else stored) =
    withoutReturn stored from rfl]
  cases overflow with
  | true => exact ⟨rfl, rfl⟩
  | false =>
    cases invalid with
    | true => exact ⟨rfl, rfl⟩
    | false =>
      -- without a zero byte the string is the whole line
      have whole : (withoutReturn stored).takeWhile (· ≠ 0) = withoutReturn stored := by
        refine takeWhile_clean fun member => ?_
        exact absurd (zero ((withoutReturn_begins stored).subset member)) Bool.false_ne_true
      rw [whole]
      by_cases early : carriageReturn ∈ withoutReturn stored
      · simp [early, LineCall.Agrees]
      · rw [whole] at string
        simp [early, LineCall.Agrees, string]

/-- The calls never leave the buffer, and agree with the reader. -/
theorem receiveLineUntil_agrees (ending : Int) (holds : stored <+: List.ofFn buffer)
    (room : stored.length < capacity) {invalid overflow : Bool}
    (zero : 0 ∈ stored → invalid = true) (arriving : Bytes) :
    ∃ call, receiveLineUntil capacity ending buffer stored.length invalid overflow arriving =
        some call ∧
      call.Agrees ending (receiveLoop capacity stored invalid overflow arriving) := by
  induction arriving generalizing buffer stored invalid overflow with
  | nil => exact ⟨_, rfl, rfl, rfl⟩
  | cons c rest ih =>
    by_cases mark : c = lineFeed
    · subst mark
      exact receiveLineUntil_end holds room zero rest
    · rw [receiveLineUntil, receiveLoop, if_neg mark, if_neg mark]
      dsimp only
      by_cases cr : c = carriageReturn
      · subst cr
        have same : (invalid || (carriageReturn != carriageReturn &&
            (decide (carriageReturn < 32) || decide (126 < carriageReturn)))) = invalid := by simp
        rw [if_pos rfl, same]
        split
        · next fits =>
          obtain ⟨buffer', store, holds'⟩ := storeByte_eq holds room carriageReturn
          rw [store, Option.bind_some]
          have length : stored.length + 1 = (stored ++ [carriageReturn]).length := by
            rw [List.length_append, List.length_singleton]
          rw [length] at fits ⊢
          refine ih holds' fits fun member => ?_
          rcases List.mem_append.mp member with old | new
          · exact zero old
          · exact absurd (List.mem_singleton.mp new) (by decide)
        · exact ih holds room zero
      · have same : (invalid || (c != carriageReturn && (decide (c < 32) || decide (126 < c)))) =
            (invalid || (decide (c < 32) || decide (126 < c))) := by
          rw [bne_iff_ne.mpr cr, Bool.true_and]
        rw [if_neg cr, same]
        split
        · next fits =>
          obtain ⟨buffer', store, holds'⟩ := storeByte_eq holds room c
          rw [store, Option.bind_some]
          have length : stored.length + 1 = (stored ++ [c]).length := by
            rw [List.length_append, List.length_singleton]
          rw [length] at fits ⊢
          refine ih holds' fits fun member => ?_
          rcases List.mem_append.mp member with old | new
          · rw [zero old, Bool.true_or]
          · rw [← List.mem_singleton.mp new]
            exact Bool.or_eq_true_iff.mpr (.inr rfl)
        · exact ih holds room fun member => by rw [zero member, Bool.true_or]

end Buffer

/-! ## The calls on a stream -/

/-- What a call says of a frame, from the bytes of the frame alone. -/
structure Classifies (b : Bytes) (call : Int × Bytes) : Prop where
  tooLong : call.1 = -2 ↔ 1023 < b.length
  ok : b.length ≤ 1023 →
    ((∀ c ∈ withoutReturn b, 32 ≤ c ∧ c ≤ 126) ↔
      call = (((withoutReturn b).length : Int) + 1, withoutReturn b))
  invalid : b.length ≤ 1023 →
    ((∃ c ∈ withoutReturn b, ¬ (32 ≤ c ∧ c ≤ 126)) ↔ call.1 = -3)

theorem LineCall.Agrees.classifies {call : LineCall maxLine} {ending : Int} {b rest : Bytes}
    (agrees : call.Agrees ending (some (lineOf b, rest))) (clean : lineFeed ∉ b) :
    Classifies b (call.result, cString call.buffer) ∧ call.arriving = rest := by
  rw [lineOf_eq clean] at agrees
  split at agrees
  · next long =>
    obtain ⟨result, rest⟩ := agrees
    refine ⟨⟨by simp [result, long], fun short => by omega, fun short => by omega⟩, rest⟩
  · next short =>
    split at agrees
    · next all =>
      obtain ⟨result, text, rest⟩ := agrees
      refine ⟨⟨⟨fun bad => ?_, fun bad => absurd bad short⟩, fun _ => ⟨fun _ => ?_, fun _ => all⟩,
        fun _ => ⟨?_, fun bad => ?_⟩⟩, rest⟩
      · simp only [result] at bad
        omega
      · rw [result, text]
      · rintro ⟨c, member, bad⟩
        exact absurd (all c member) bad
      · simp only [result] at bad
        omega
    · next bad =>
      obtain ⟨result, rest⟩ := agrees
      refine ⟨⟨⟨fun long => ?_, fun long => absurd long short⟩,
        fun _ => ⟨fun all => absurd all bad, fun same => ?_⟩,
        fun _ => ⟨fun _ => result, fun _ => ?_⟩⟩, rest⟩
      · rw [result] at long
        cases long
      · have first := congrArg Prod.fst same
        simp only [result] at first
        omega
      · simpa [IsLineByte] using bad

theorem receiveCalls_frames (ending : Int) (buffer : Fin maxLine → UInt8) {contents : List Bytes}
    (clean : ∀ b ∈ contents, lineFeed ∉ b) (last : Bytes) :
    ∃ calls, receiveCalls maxLine ending contents.length buffer
        (frames lineFeed contents ++ last) = some (calls, last) ∧
      List.Forall₂ Classifies contents calls := by
  induction contents generalizing buffer with
  | nil => exact ⟨[], rfl, .nil⟩
  | cons b contents ih =>
    have clean' := clean b List.mem_cons_self
    obtain ⟨call, reads, agrees⟩ : ∃ call, receiveLineUntil maxLine ending buffer 0 false false
        (frames lineFeed (b :: contents) ++ last) = some call ∧ call.Agrees ending
          (receiveLoop maxLine [] false false (frames lineFeed (b :: contents) ++ last)) :=
      receiveLineUntil_agrees ending List.nil_prefix (by decide)
        (fun member => absurd member List.not_mem_nil) _
    have line := receiveTextLine_frame clean' (frames lineFeed contents ++ last)
    rw [receiveTextLine] at line
    rw [frames_cons, List.append_assoc, List.cons_append] at reads agrees
    rw [line] at agrees
    obtain ⟨classifies, rest⟩ := agrees.classifies clean'
    obtain ⟨calls, reads', all⟩ :=
      ih call.buffer fun b' member => clean b' (List.mem_cons_of_mem _ member)
    refine ⟨(call.result, cString call.buffer) :: calls, ?_, .cons classifies all⟩
    rw [List.length_cons, receiveCalls, frames_cons, List.append_assoc, List.cons_append]
    rw [reads, Option.bind_eq_bind, Option.bind_some, rest, reads']
    rfl

/-- On every stream, as many calls as there are line feeds stay inside the buffer, each of them
consumes one frame and classifies it from its bytes alone, whatever the frames before it. -/
theorem lines_classified (ending : Int) (buffer : Fin maxLine → UInt8) (stream : Bytes) :
    ∃ contents last, stream = frames lineFeed contents ++ last ∧
      (∀ b ∈ contents, lineFeed ∉ b) ∧ lineFeed ∉ last ∧
      ∀ count ≤ contents.length, ∃ calls,
        receiveCalls maxLine ending count buffer stream =
          some (calls, frames lineFeed (contents.drop count) ++ last) ∧
        List.Forall₂ Classifies (contents.take count) calls := by
  obtain ⟨contents, last, rfl, clean, clean'⟩ := exists_frames lineFeed stream
  refine ⟨contents, last, rfl, clean, clean', fun count few => ?_⟩
  have split : frames lineFeed contents ++ last = frames lineFeed (contents.take count) ++
      (frames lineFeed (contents.drop count) ++ last) := by
    rw [← List.append_assoc, ← frames_append, List.take_append_drop]
  have length : (contents.take count).length = count := List.length_take_of_le few
  obtain ⟨calls, reads, all⟩ := receiveCalls_frames ending buffer
    (fun b member => clean b (List.mem_of_mem_take member))
    (frames lineFeed (contents.drop count) ++ last)
  rw [length, ← split] at reads
  exact ⟨calls, reads, all⟩

end Telep
