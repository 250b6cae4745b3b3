import Telep.Client.Proofs.LineReaders
import Telep.Client.Proofs.ReplyKinds

/-!
# What a request reads

On a stream of whole lines a call of `request` reads the alerts before the reply and the reply to
its end (`request_reply`), and a call of `take_alerts` gives the alerts that it read back, unless a
line is no alert (`takeAlerts_takes`).
-/

namespace Telep

/-- The first line that is no alert. -/
theorem firstOther_inj {as bs xs ys : List Bytes} {x y : Bytes}
    (ha : ∀ a ∈ as, isAlertLine a = true) (hb : ∀ b ∈ bs, isAlertLine b = true)
    (hx : isAlertLine x = false) (hy : isAlertLine y = false)
    (same : as ++ x :: xs = bs ++ y :: ys) : as = bs ∧ x = y ∧ xs = ys :=
  first_inj ha hb (ne_true_of_eq_false hx) (ne_true_of_eq_false hy) same

/-- The lines of a reply that `request` returns. -/
def shownLines (lines : List Bytes) : List (List Bytes) :=
  (lines.takeWhile (· ≠ endOfList)).map decodeMessage

namespace TelepConnection

variable {c c' : TelepConnection} {chunks left : List Bytes} {more : Bytes} {texts : List Bytes}

/-- The lines that were written and not read: a part of their bytes is in the buffer, a part is in
the chunks that arrive, and the others are on their way. -/
structure Unread (c : TelepConnection) (chunks : List Bytes) (more : Bytes)
    (texts : List Bytes) : Prop where
  stream : c.buffer ++ (chunks.flatten ++ more) = frames lineFeed texts
  lines : ∀ text ∈ texts, IsReplyLine text
  nonempty : [] ∉ chunks

theorem isAscii_frames (lines : ∀ text ∈ texts, IsReplyLine text) :
    IsAscii (frames lineFeed texts) := by
  intro byte member
  rw [frames] at member
  obtain ⟨text, listed, member⟩ := List.mem_flatMap.mp member
  rcases List.mem_append.mp member with within | mark
  · exact UInt8.lt_of_le_of_lt ((lines text listed).printable byte within).2 (by decide)
  · rw [List.mem_singleton.mp mark]
    decide

theorem Unread.arrives (unread : Unread c chunks more texts) : Arrives c chunks where
  ascii := by
    intro byte member
    refine isAscii_frames unread.lines byte ?_
    rw [← unread.stream, ← List.append_assoc]
    exact List.mem_append_left _ member
  nonempty := unread.nonempty

theorem withoutReturns_line {line : Bytes} (fits : IsReplyLine line) :
    withoutReturns line = line := by
  rw [withoutReturns, List.rdropWhile_eq_self_iff]
  intro nonempty
  rw [decide_eq_true_eq]
  intro same
  exact fits.printable.not_mem_carriageReturn (same ▸ List.getLast_mem nonempty)

/-- What was taken are the first of the lines. -/
theorem Unread.consumes (unread : Unread c chunks more texts) {raws : List Bytes}
    (consumes : Consumes c chunks c' left raws) :
    ∃ texts', texts = raws ++ texts' ∧ Unread c' left more texts' ∧
      raws.map withoutReturns = raws := by
  have clean : ∀ raw ∈ raws, lineFeed ∉ raw := fun raw member => (consumes.raw raw member).clean
  have clean' : ∀ text ∈ texts, lineFeed ∉ text := fun text member =>
    (unread.lines text member).printable.not_mem_lineFeed
  have stream : frames lineFeed raws ++ (c'.buffer ++ (left.flatten ++ more)) =
      frames lineFeed texts ++ [] := by
    rw [List.append_nil, ← unread.stream, ← List.append_assoc c.buffer, consumes.stream,
      List.append_assoc, List.append_assoc]
  obtain ⟨texts', rfl, rest⟩ := frames_common clean clean' List.not_mem_nil stream
  obtain ⟨taken, others⟩ := List.forall_mem_append.mp unread.lines
  refine ⟨texts', rfl, ⟨rest.trans (List.append_nil _), others,
    (consumes.arrives unread.arrives).nonempty⟩, ?_⟩
  exact (List.map_congr_left fun raw member => withoutReturns_line (taken raw member)).trans
    (List.map_id' raws)

/-- No line of the server is too long. -/
theorem Unread.not_oversized (unread : Unread c chunks more texts) :
    ¬ IsOversized (c.buffer ++ chunks.flatten) := by
  intro long
  have whole := isOversized_append long more
  rw [List.append_assoc, unread.stream, IsOversized] at whole
  cases texts with
  | nil => cases whole
  | cons text texts =>
    have line := unread.lines text List.mem_cons_self
    rw [frames_cons, takeWhile_frame line.printable.not_mem_lineFeed] at whole
    exact absurd whole (not_lt.mpr (Nat.le_of_lt_succ line.short))

/-- A call of `read_line` takes the alerts before the next other line and that line, or runs out
of bytes; it does not when all the bytes arrive and a line is no alert. -/
theorem Unread.readLine (unread : Unread c chunks more texts)
    {result : Except ReadFailure Bytes} (reads : c.readLine chunks = (result, c', left)) :
    ∃ taken texts', texts = taken ++ texts' ∧ Consumes c chunks c' left taken ∧
      Unread c' left more texts' ∧
      ((∃ alerts text, result = .ok text ∧ taken = alerts ++ [text] ∧
          (∀ alert ∈ alerts, isAlertLine alert = true) ∧ isAlertLine text = false) ∨
        (result = .error .timeout ∧
          (more = [] → ∀ text ∈ texts, isAlertLine text = true))) := by
  obtain ⟨taken, consumes, ends⟩ := readLine_reads unread.arrives reads
  obtain ⟨texts', split, rest, same⟩ := unread.consumes consumes
  refine ⟨taken, texts', split, consumes, rest, ?_⟩
  rw [same] at ends
  cases ends with
  | line alerts all text other => exact .inl ⟨alerts, text, rfl, rfl, all, other⟩
  | timeout alerts all clean short none =>
    refine .inr ⟨rfl, fun whole => ?_⟩
    have stream := rest.stream
    rw [none, whole, List.flatten_nil, List.append_nil, List.append_nil] at stream
    cases texts' with
    | nil => rwa [split, List.append_nil]
    | cons text texts' =>
      rw [stream, frames_cons, List.mem_append, List.mem_cons] at clean
      exact absurd (.inr (.inl rfl)) clean
  | oversized alerts all long => exact absurd long rest.not_oversized

/-- A line is taken in every round. -/
theorem Consumes.roundsLeft_lt {raws : List Bytes} (consumes : Consumes c chunks c' left raws)
    (some : raws ≠ []) : c'.roundsLeft left < c.roundsLeft chunks := by
  have bytes := congrArg List.length consumes.stream
  have taken : 1 ≤ (frames lineFeed raws).length :=
    (List.length_pos_of_ne_nil some).trans_le length_le_frames
  have fewer := consumes.left.length_le
  simp only [List.length_append] at bytes
  unfold roundsLeft
  omega

/-- The loop over the rows reads them and `END`. -/
theorem readRows_list {rows after : List Bytes} {response : List (List Bytes)} {rounds : Nat}
    (unread : Unread c chunks more (rows ++ endOfList :: after))
    (plain : ∀ row ∈ rows, isAlertLine row = false) (noEnd : endOfList ∉ rows)
    (enough : c.roundsLeft chunks ≤ rounds) {result : Except ReadFailure (List (List Bytes))}
    (reads : c.readRows chunks response rounds = (result, c', left)) :
    (result = .ok (response ++ rows.map decodeMessage) ∧
        Consumes c chunks c' left (rows ++ [endOfList]) ∧ Unread c' left more after) ∨
      (result = .error .timeout ∧ more ≠ []) := by
  induction rounds generalizing c chunks rows response with
  | zero => exact absurd enough (Nat.not_succ_le_zero _)
  | succ rounds ih =>
    rw [readRows] at reads
    rcases line : c.readLine chunks with ⟨first, c₁, chunks₁⟩
    rw [line] at reads
    obtain ⟨taken, texts', split, consumes, rest, outcome⟩ := unread.readLine line
    rcases outcome with ⟨alerts, text, rfl, rfl, all, other⟩ | ⟨rfl, timedOut⟩
    · dsimp only at reads
      rw [List.append_assoc, List.singleton_append] at split
      cases rows with
      | nil =>
        obtain ⟨rfl, rfl, rfl⟩ :=
          firstOther_inj all (List.forall_mem_nil _) other (by decide) split.symm
        rw [if_pos rfl] at reads
        cases reads
        exact .inl ⟨by rw [List.map_nil, List.append_nil], consumes, rest⟩
      | cons row rows =>
        obtain ⟨row_plain, rows_plain⟩ := List.forall_mem_cons.mp plain
        rw [List.mem_cons, not_or] at noEnd
        obtain ⟨rfl, rfl, rfl⟩ :=
          firstOther_inj all (List.forall_mem_nil _) other row_plain split.symm
        rw [if_neg (Ne.symm noEnd.1)] at reads
        have less := consumes.roundsLeft_lt (List.cons_ne_nil _ _)
        rcases ih rest rows_plain noEnd.2 (by omega) reads with ⟨same, consumes', after⟩ | timedOut
        · refine .inl ⟨?_, consumes.trans consumes', after⟩
          rw [same, List.append_assoc, List.map_cons, List.singleton_append]
        · exact .inr timedOut
    · cases reads
      refine .inr ⟨rfl, fun whole => ?_⟩
      have alert := timedOut whole endOfList (by simp)
      exact absurd alert (by decide)

/-- A request whose reply was written reads it, or runs out of bytes. -/
theorem request_reply {command : Bytes} {pushes lines after : List Bytes}
    (unread : Unread c chunks more (pushes ++ (lines ++ after)))
    (alerts : ∀ push ∈ pushes, isAlertLine push = true) (kind : IsReplyTo command lines)
    (plain : ∀ line ∈ lines, isAlertLine line = false)
    {result : Except ReadFailure (List (List Bytes))}
    (reads : c.request command chunks = (result, c', left)) :
    (result = .ok (shownLines lines) ∧ Consumes c chunks c' left (pushes ++ lines) ∧
        Unread c' left more after) ∨
      (result = .error .timeout ∧ more ≠ []) := by
  rw [request] at reads
  rcases line : c.readLine chunks with ⟨first, c₁, chunks₁⟩
  rw [line] at reads
  obtain ⟨taken, texts', split, consumes, rest, outcome⟩ := unread.readLine line
  rcases outcome with ⟨alerts', text, rfl, rfl, all, other⟩ | ⟨rfl, timedOut⟩
  · dsimp only at reads
    rw [List.append_assoc, List.singleton_append] at split
    cases kind with
    | single header fits noEnd alone =>
      have header_plain := plain header (List.mem_singleton_self header)
      obtain ⟨rfl, rfl, rfl⟩ := firstOther_inj all alerts other header_plain split.symm
      rw [if_neg alone] at reads
      cases reads
      refine .inl ⟨?_, consumes, rest⟩
      rw [shownLines, List.takeWhile_cons_of_pos (by simpa using noEnd), List.takeWhile_nil]
      rfl
    | list header rows fits noEnd known ok =>
      rw [List.mem_cons, not_or] at noEnd
      obtain ⟨header_plain, others⟩ := List.forall_mem_cons.mp plain
      obtain ⟨rows_plain, -⟩ := List.forall_mem_append.mp others
      rw [List.cons_append, List.append_assoc, List.singleton_append] at split
      obtain ⟨rfl, rfl, rfl⟩ := firstOther_inj all alerts other header_plain split.symm
      rw [if_pos ⟨known, ok⟩] at reads
      rcases readRows_list rest rows_plain noEnd.2 le_rfl reads with ⟨same, consumes', after⟩ |
        timedOut
      · refine .inl ⟨?_, ?_, after⟩
        · have rows_shown : ∀ row ∈ text :: rows, (decide (row ≠ endOfList)) = true := by
            intro row member
            rw [decide_eq_true_eq]
            rintro rfl
            exact (List.mem_cons.mp member).elim noEnd.1 noEnd.2
          rw [same, shownLines, ← List.cons_append, List.takeWhile_append_of_pos rows_shown,
            List.takeWhile_cons_of_neg (by simp), List.append_nil]
          rfl
        · have both := consumes.trans consumes'
          rwa [List.append_assoc, List.singleton_append] at both
      · exact .inr timedOut
  · cases reads
    refine .inr ⟨rfl, fun whole => ?_⟩
    obtain ⟨line, member⟩ : ∃ line, line ∈ lines := by
      cases kind <;> exact ⟨_, List.mem_cons_self⟩
    have listed := List.mem_append_right pushes (List.mem_append_left after member)
    exact Bool.false_ne_true ((plain line member).symm.trans (timedOut whole line listed))

/-- A request whose reply was not written runs out of bytes. -/
theorem request_waits {command : Bytes} {pushes : List Bytes} (unread : Unread c chunks more pushes)
    (alerts : ∀ push ∈ pushes, isAlertLine push = true)
    {result : Except ReadFailure (List (List Bytes))}
    (reads : c.request command chunks = (result, c', left)) : result = .error .timeout := by
  rw [request] at reads
  rcases line : c.readLine chunks with ⟨first, c₁, chunks₁⟩
  rw [line] at reads
  obtain ⟨taken, texts', rfl, -, -, outcome⟩ := unread.readLine line
  rcases outcome with ⟨alerts', text, -, rfl, -, other⟩ | ⟨rfl, timedOut⟩
  · rw [alerts text (by simp)] at other
    cases other
  · cases reads
    rfl

/-- The loop over the rows takes lines in order, however it ends. -/
theorem readRows_takes {response : List (List Bytes)} {rounds : Nat}
    (unread : Unread c chunks more texts) {result : Except ReadFailure (List (List Bytes))}
    (reads : c.readRows chunks response rounds = (result, c', left)) :
    ∃ taken texts', texts = taken ++ texts' ∧ Consumes c chunks c' left taken ∧
      Unread c' left more texts' := by
  induction rounds generalizing c chunks texts response with
  | zero =>
    cases reads
    exact ⟨[], texts, rfl, .refl _ _, unread⟩
  | succ rounds ih =>
    rw [readRows] at reads
    rcases line : c.readLine chunks with ⟨first, c₁, chunks₁⟩
    rw [line] at reads
    obtain ⟨taken, texts', rfl, consumes, rest, -⟩ := unread.readLine line
    cases first with
    | error failure =>
      cases reads
      exact ⟨taken, texts', rfl, consumes, rest⟩
    | ok text =>
      dsimp only at reads
      split at reads
      · cases reads
        exact ⟨taken, texts', rfl, consumes, rest⟩
      · obtain ⟨others, texts'', rfl, consumes', rest'⟩ := ih rest reads
        exact ⟨taken ++ others, texts'', by rw [List.append_assoc], consumes.trans consumes', rest'⟩

/-- A request takes lines in order, however it ends. -/
theorem request_takes {command : Bytes} (unread : Unread c chunks more texts)
    {result : Except ReadFailure (List (List Bytes))}
    (reads : c.request command chunks = (result, c', left)) :
    ∃ taken texts', texts = taken ++ texts' ∧ Consumes c chunks c' left taken ∧
      Unread c' left more texts' := by
  rw [request] at reads
  rcases line : c.readLine chunks with ⟨first, c₁, chunks₁⟩
  rw [line] at reads
  obtain ⟨taken, texts', rfl, consumes, rest, -⟩ := unread.readLine line
  cases first with
  | error failure =>
    cases reads
    exact ⟨taken, texts', rfl, consumes, rest⟩
  | ok text =>
    dsimp only at reads
    split at reads
    · obtain ⟨others, texts'', rfl, consumes', rest'⟩ := readRows_takes rest reads
      exact ⟨taken ++ others, texts'', by rw [List.append_assoc], consumes.trans consumes', rest'⟩
    · cases reads
      exact ⟨taken, texts', rfl, consumes, rest⟩

/-- A request whose whole reply arrives returns it. -/
theorem request_whole {command : Bytes} {lines : List Bytes} (unread : Unread c chunks [] lines)
    (kind : IsReplyTo command lines) (plain : ∀ line ∈ lines, isAlertLine line = false) :
    (c.request command chunks).1 = .ok (shownLines lines) := by
  rcases reads : c.request command chunks with ⟨result, c', left⟩
  have whole : Unread c chunks [] ([] ++ (lines ++ [])) := by rwa [List.append_nil]
  rcases request_reply whole (List.forall_mem_nil _) kind plain reads with ⟨rfl, -⟩ | ⟨-, late⟩
  · rfl
  · exact absurd rfl late

/-- A call of `take_alerts` takes lines in order and gives the alerts among them back, unless it
fails, which it does at a line that is no alert. -/
theorem takeAlerts_takes (unread : Unread c chunks more texts)
    {result : Except ReadFailure (List (List Bytes))}
    (takes : c.takeAlerts chunks = (result, c', left)) :
    ∃ taken texts', texts = taken ++ texts' ∧ Unread c' left more texts' ∧
      c'.extracted = c.extracted ++ taken ∧
      ((result = .ok (c.pendingAlerts ++ (taken.filter isAlertLine).map decodeMessage) ∧
          c'.pendingAlerts = []) ∨
        (result = .error .unsolicited ∧ (∃ text ∈ taken, isAlertLine text = false) ∧
          c'.pendingAlerts =
            c.pendingAlerts ++ (taken.filter isAlertLine).map decodeMessage)) := by
  rw [takeAlerts] at takes
  rcases loop : c.takeLoop chunks 256 with ⟨failure, c₁, chunks₁⟩
  rw [loop] at takes
  obtain ⟨taken, consumes, ends⟩ := takeLoop_takes unread.arrives loop
  obtain ⟨texts', rfl, rest, same⟩ := unread.consumes consumes
  rw [same] at ends
  have pending := consumes.pending
  have extracted := consumes.extracted
  rw [same] at pending extracted
  have returns (none : failure = none) : result = .ok c₁.pendingAlerts ∧
      c' = { c₁ with pendingAlerts := [] } ∧ left = chunks₁ := by
    subst none
    cases takes
    exact ⟨rfl, rfl, rfl⟩
  cases ends with
  | unsolicited alerts all text other =>
    cases takes
    exact ⟨_, texts', rfl, rest, extracted, .inr ⟨rfl, ⟨text, by simp, other⟩, pending⟩⟩
  | done alerts all clean short nothing =>
    obtain ⟨rfl, rfl, rfl⟩ := returns rfl
    exact ⟨_, texts', rfl, ⟨rest.stream, rest.lines, rest.nonempty⟩, extracted,
      .inl ⟨congrArg _ pending, rfl⟩⟩
  | oversized alerts all long => exact absurd long rest.not_oversized
  | rounds alerts all full =>
    obtain ⟨rfl, rfl, rfl⟩ := returns rfl
    exact ⟨_, texts', rfl, ⟨rest.stream, rest.lines, rest.nonempty⟩, extracted,
      .inl ⟨congrArg _ pending, rfl⟩⟩

end TelepConnection

end Telep
