import Telep.Client.Telep
import Telep.Misc.Machine
import Telep.Misc.Tokens

/-!
# The lines that a connection reads

`read_line` and `take_alerts` take the lines out of the stream of the server in order, wherever
the stream is cut into chunks and whichever of the two takes a line (`lines_extracted`).
-/

namespace Telep

/-- A line of the stream that `_extract` takes, without its line feed. -/
structure IsRawLine (raw : Bytes) : Prop where
  clean : lineFeed ∉ raw
  short : raw.length ≤ 1023

/-- `rstrip("\\r")` -/
def withoutReturns (raw : Bytes) : Bytes := raw.rdropWhile (· = carriageReturn)

/-- More than 1023 bytes come before a line feed. -/
def IsOversized (stream : Bytes) : Prop := 1023 < (stream.takeWhile (· ≠ lineFeed)).length

def IsAscii (stream : Bytes) : Prop := ∀ byte ∈ stream, byte < 128

theorem idxOf?_frame {raw : Bytes} (clean : lineFeed ∉ raw) (rest : Bytes) :
    (raw ++ lineFeed :: rest).idxOf? lineFeed = some raw.length := by
  induction raw with
  | nil => rfl
  | cons byte raw ih =>
    rw [List.mem_cons, not_or] at clean
    rw [List.cons_append, List.idxOf?_cons, if_neg (by simpa using Ne.symm clean.1), ih clean.2]
    rfl

namespace TelepConnection

variable {c c' : TelepConnection} {chunks chunks' : List Bytes} {raw rest : Bytes}

/-- The three outcomes of `_extract` on ASCII bytes. -/
theorem extract_cases (ascii : IsAscii c.buffer) :
    (∃ raw rest, IsRawLine raw ∧ c.buffer = raw ++ lineFeed :: rest ∧
      c.extract = (.line (withoutReturns raw),
        ⟨rest, c.pendingAlerts, c.extracted ++ [withoutReturns raw]⟩)) ∨
    (lineFeed ∉ c.buffer ∧ c.buffer.length ≤ 1023 ∧ c.extract = (.waiting, c)) ∨
    (IsOversized c.buffer ∧ c.extract = (.oversized, c)) := by
  have limit : maxLine = 1024 := rfl
  by_cases member : lineFeed ∈ c.buffer
  · obtain ⟨raw, rest, split, clean⟩ := List.eq_append_cons_of_mem member
    have index : c.buffer.idxOf? lineFeed = some raw.length := split ▸ idxOf?_frame clean rest
    have before : c.buffer.takeWhile (· ≠ lineFeed) = raw := split ▸ takeWhile_frame clean rest
    by_cases long : maxLine ≤ raw.length
    · refine .inr (.inr ⟨by rw [IsOversized, before]; omega, ?_⟩)
      simp only [extract, index, if_pos long]
    · have taken : c.buffer.take raw.length = raw := by rw [split, List.take_left]
      have left : c.buffer.drop (raw.length + 1) = rest := by
        rw [split, ← List.drop_drop, List.drop_left, List.drop_one, List.tail_cons]
      have plain : ¬ ∃ byte ∈ raw, 128 ≤ byte := by
        rintro ⟨byte, member, high⟩
        have low := ascii byte (split ▸ List.mem_append_left _ member)
        exact absurd high (UInt8.not_le.mpr low)
      refine .inl ⟨raw, rest, ⟨clean, by omega⟩, split, ?_⟩
      simp only [extract, index, if_neg long, taken, left, if_neg plain, withoutReturns]
  · right
    have index : c.buffer.idxOf? lineFeed = none := List.idxOf?_eq_none_iff.mpr member
    have whole := takeWhile_clean member
    by_cases long : maxLine ≤ c.buffer.length
    · refine .inr ⟨by rw [IsOversized, whole]; omega, ?_⟩
      simp only [extract, index, if_pos long]
    · refine .inl ⟨member, by omega, ?_⟩
      simp only [extract, index, if_neg long]

/-! ## What a call consumes -/

/-- What can arrive: ASCII bytes in chunks that are not empty. -/
structure Arrives (c : TelepConnection) (chunks : List Bytes) : Prop where
  ascii : IsAscii (c.buffer ++ chunks.flatten)
  nonempty : [] ∉ chunks

/-- The lines between two points of a reader: they are the bytes that are gone, and the alerts
among them are kept. -/
structure Consumes (c : TelepConnection) (chunks : List Bytes) (c' : TelepConnection)
    (chunks' : List Bytes) (raws : List Bytes) : Prop where
  raw : ∀ raw ∈ raws, IsRawLine raw
  stream : c.buffer ++ chunks.flatten = frames lineFeed raws ++ (c'.buffer ++ chunks'.flatten)
  extracted : c'.extracted = c.extracted ++ raws.map withoutReturns
  pending : c'.pendingAlerts = c.pendingAlerts ++
    ((raws.map withoutReturns).filter isAlertLine).map decodeMessage
  left : chunks' <:+ chunks

theorem Consumes.refl (c : TelepConnection) (chunks : List Bytes) :
    Consumes c chunks c chunks [] := ⟨by simp, by simp, by simp, by simp, List.suffix_rfl⟩

theorem Consumes.trans {c'' : TelepConnection} {chunks'' : List Bytes} {raws raws' : List Bytes}
    (first : Consumes c chunks c' chunks' raws) (second : Consumes c' chunks' c'' chunks'' raws') :
    Consumes c chunks c'' chunks'' (raws ++ raws') where
  raw := List.forall_mem_append.mpr ⟨first.raw, second.raw⟩
  stream := by rw [first.stream, second.stream, frames_append, List.append_assoc]
  extracted := by rw [second.extracted, first.extracted, List.map_append, List.append_assoc]
  pending := by
    rw [second.pending, first.pending, List.map_append, List.filter_append, List.map_append,
      List.append_assoc]
  left := second.left.trans first.left

/-- What is left can still arrive. -/
theorem Consumes.arrives {raws : List Bytes} (consumes : Consumes c chunks c' chunks' raws)
    (arrives : Arrives c chunks) : Arrives c' chunks' where
  ascii := by
    intro byte member
    exact arrives.ascii byte (consumes.stream ▸ List.mem_append_right _ member)
  nonempty := fun member => arrives.nonempty (consumes.left.subset member)

/-- A chunk is received. -/
theorem consumes_receive (c : TelepConnection) (chunk : Bytes) (chunks : List Bytes) :
    Consumes c (chunk :: chunks) (c.receive chunk) chunks [] where
  raw := by simp
  stream := by simp [receive]
  extracted := (List.append_nil _).symm
  pending := (List.append_nil _).symm
  left := List.suffix_cons chunk chunks

/-- A line that is no alert is taken. -/
theorem consumes_line (line : IsRawLine raw) (split : c.buffer = raw ++ lineFeed :: rest)
    (other : isAlertLine (withoutReturns raw) = false) (chunks : List Bytes) :
    Consumes c chunks ⟨rest, c.pendingAlerts, c.extracted ++ [withoutReturns raw]⟩ chunks
      [raw] where
  raw := List.forall_mem_singleton.mpr line
  stream := by simp [split]
  extracted := rfl
  pending := by simp [other]
  left := List.suffix_rfl

/-- An alert is taken and kept. -/
theorem consumes_alert (line : IsRawLine raw) (split : c.buffer = raw ++ lineFeed :: rest)
    (alert : isAlertLine (withoutReturns raw) = true) (chunks : List Bytes) :
    Consumes c chunks
      (keepAlert ⟨rest, c.pendingAlerts, c.extracted ++ [withoutReturns raw]⟩ (withoutReturns raw))
      chunks [raw] where
  raw := List.forall_mem_singleton.mpr line
  stream := by simp [split, keepAlert]
  extracted := rfl
  pending := by simp [alert, keepAlert]
  left := List.suffix_rfl

/-! ## `read_line` -/

theorem isOversized_append {stream : Bytes} (long : IsOversized stream) (more : Bytes) :
    IsOversized (stream ++ more) := by
  have begins : stream.takeWhile (· ≠ lineFeed) <+: (stream ++ more).takeWhile (· ≠ lineFeed) := by
    rw [List.takeWhile_append]
    split
    · next whole =>
      rw [(List.takeWhile_prefix _).eq_of_length whole]
      exact List.prefix_append _ _
    · exact List.prefix_rfl
  exact Nat.lt_of_lt_of_le long begins.length_le

/-- How a call of `read_line` ends that took the lines: with the first that is no alert, or with no
further line. -/
inductive ReadEnds (c' : TelepConnection) (chunks' : List Bytes) :
    Except ReadFailure Bytes → List Bytes → Prop
  | line (alerts : List Bytes) (all : ∀ alert ∈ alerts, isAlertLine alert = true) (text : Bytes)
      (other : isAlertLine text = false) : ReadEnds c' chunks' (.ok text) (alerts ++ [text])
  | timeout (alerts : List Bytes) (all : ∀ alert ∈ alerts, isAlertLine alert = true)
      (clean : lineFeed ∉ c'.buffer) (short : c'.buffer.length ≤ 1023) (none : chunks' = []) :
      ReadEnds c' chunks' (.error .timeout) alerts
  | oversized (alerts : List Bytes) (all : ∀ alert ∈ alerts, isAlertLine alert = true)
      (long : IsOversized (c'.buffer ++ chunks'.flatten)) :
      ReadEnds c' chunks' (.error .oversized) alerts

/-- An alert before the other lines. -/
theorem ReadEnds.cons {result : Except ReadFailure Bytes} {texts : List Bytes}
    (ends : ReadEnds c' chunks' result texts) {text : Bytes} (alert : isAlertLine text = true) :
    ReadEnds c' chunks' result (text :: texts) := by
  cases ends with
  | line alerts all last other =>
    exact .line (text :: alerts) (List.forall_mem_cons.mpr ⟨alert, all⟩) last other
  | timeout alerts all clean short none =>
    exact .timeout _ (List.forall_mem_cons.mpr ⟨alert, all⟩) clean short none
  | oversized alerts all long => exact .oversized _ (List.forall_mem_cons.mpr ⟨alert, all⟩) long

/-- The loop takes lines out of the stream up to the first that is no alert. -/
theorem readLoop_reads {rounds : Nat} (arrives : Arrives c chunks)
    (enough : c.roundsLeft chunks ≤ rounds) {result : Except ReadFailure Bytes}
    (reads : c.readLoop chunks rounds = (result, c', chunks')) :
    ∃ raws, Consumes c chunks c' chunks' raws ∧
      ReadEnds c' chunks' result (raws.map withoutReturns) := by
  induction rounds generalizing c chunks with
  | zero => exact absurd enough (Nat.not_succ_le_zero _)
  | succ rounds ih =>
    have ascii : IsAscii c.buffer := fun byte member =>
      arrives.ascii byte (List.mem_append_left _ member)
    rw [readLoop] at reads
    rcases extract_cases ascii with ⟨raw, rest, line, split, extracts⟩ |
      ⟨clean, short, extracts⟩ | ⟨long, extracts⟩
    · rw [extracts] at reads
      dsimp only at reads
      have length : c.buffer.length = raw.length + (rest.length + 1) := by
        rw [split, List.length_append, List.length_cons]
      by_cases alert : isAlertLine (withoutReturns raw) = true
      · rw [if_pos alert] at reads
        have first := consumes_alert line split alert chunks
        obtain ⟨raws, consumes, ends⟩ := ih (first.arrives arrives)
          (by simp only [roundsLeft, keepAlert] at enough ⊢; omega) reads
        exact ⟨raw :: raws, first.trans consumes, ends.cons alert⟩
      · rw [if_neg alert] at reads
        cases reads
        have other : isAlertLine (withoutReturns raw) = false := Bool.eq_false_of_not_eq_true alert
        exact ⟨[raw], consumes_line line split other _,
          .line [] (List.forall_mem_nil _) (withoutReturns raw) other⟩
    · rw [extracts] at reads
      cases chunks with
      | nil =>
        cases reads
        exact ⟨[], .refl _ _, .timeout [] (List.forall_mem_nil _) clean short rfl⟩
      | cons chunk chunks =>
        have nonempty : chunk ≠ [] := by
          rintro rfl
          exact arrives.nonempty List.mem_cons_self
        dsimp only at reads
        rw [if_neg nonempty] at reads
        have first := consumes_receive c chunk chunks
        refine ih (first.arrives arrives) ?_ reads |>.imp fun raws both => ?_
        · simp only [roundsLeft, receive, List.length_append, List.flatten_cons,
            List.length_cons] at enough ⊢
          omega
        · exact ⟨first.trans both.1, both.2⟩
    · rw [extracts] at reads
      cases reads
      exact ⟨[], .refl _ _, .oversized [] (List.forall_mem_nil _) (isOversized_append long _)⟩

theorem readLine_reads (arrives : Arrives c chunks) {result : Except ReadFailure Bytes}
    (reads : c.readLine chunks = (result, c', chunks')) :
    ∃ raws, Consumes c chunks c' chunks' raws ∧
      ReadEnds c' chunks' result (raws.map withoutReturns) := readLoop_reads arrives le_rfl reads

/-! ## `take_alerts` -/

/-- How the loop of `take_alerts` ends: at a line that is no alert, with no further line, or when
its rounds are used up. -/
inductive TakeEnds (c' : TelepConnection) (chunks' : List Bytes) (usedUp : Prop) :
    Option ReadFailure → List Bytes → Prop
  | unsolicited (alerts : List Bytes) (all : ∀ alert ∈ alerts, isAlertLine alert = true)
      (text : Bytes) (other : isAlertLine text = false) :
      TakeEnds c' chunks' usedUp (some .unsolicited) (alerts ++ [text])
  | done (alerts : List Bytes) (all : ∀ alert ∈ alerts, isAlertLine alert = true)
      (clean : lineFeed ∉ c'.buffer) (short : c'.buffer.length ≤ 1023) (nothing : chunks' = []) :
      TakeEnds c' chunks' usedUp none alerts
  | oversized (alerts : List Bytes) (all : ∀ alert ∈ alerts, isAlertLine alert = true)
      (long : IsOversized (c'.buffer ++ chunks'.flatten)) :
      TakeEnds c' chunks' usedUp (some .oversized) alerts
  | rounds (alerts : List Bytes) (all : ∀ alert ∈ alerts, isAlertLine alert = true)
      (full : usedUp) : TakeEnds c' chunks' usedUp none alerts

theorem TakeEnds.cons {usedUp : Prop} {result : Option ReadFailure} {texts : List Bytes}
    (ends : TakeEnds c' chunks' usedUp result texts) {text : Bytes}
    (alert : isAlertLine text = true) : TakeEnds c' chunks' usedUp result (text :: texts) := by
  cases ends with
  | unsolicited alerts all last other =>
    exact .unsolicited (text :: alerts) (List.forall_mem_cons.mpr ⟨alert, all⟩) last other
  | done alerts all clean short nothing =>
    exact .done _ (List.forall_mem_cons.mpr ⟨alert, all⟩) clean short nothing
  | oversized alerts all long => exact .oversized _ (List.forall_mem_cons.mpr ⟨alert, all⟩) long
  | rounds alerts all full => exact .rounds _ (List.forall_mem_cons.mpr ⟨alert, all⟩) full

theorem TakeEnds.mono {usedUp usedUp' : Prop} {result : Option ReadFailure} {texts : List Bytes}
    (ends : TakeEnds c' chunks' usedUp result texts) (more : usedUp → usedUp') :
    TakeEnds c' chunks' usedUp' result texts := by
  cases ends with
  | unsolicited alerts all last other => exact .unsolicited alerts all last other
  | done alerts all clean short nothing => exact .done _ all clean short nothing
  | oversized alerts all long => exact .oversized _ all long
  | rounds alerts all full => exact .rounds _ all (more full)

/-- The rounds between two points of the loop. -/
def roundsTaken (c : TelepConnection) (chunks : List Bytes) (c' : TelepConnection)
    (chunks' : List Bytes) : Nat :=
  (c'.extracted.length - c.extracted.length) + (chunks.length - chunks'.length)

/-- The loop takes lines out of the stream as `read_line` does. -/
theorem takeLoop_takes {rounds : Nat} (arrives : Arrives c chunks) {result : Option ReadFailure}
    (takes : c.takeLoop chunks rounds = (result, c', chunks')) :
    ∃ raws, Consumes c chunks c' chunks' raws ∧
      TakeEnds c' chunks' (rounds ≤ roundsTaken c chunks c' chunks') result
        (raws.map withoutReturns) := by
  induction rounds generalizing c chunks with
  | zero =>
    cases takes
    exact ⟨[], .refl _ _, .rounds [] (List.forall_mem_nil _) (Nat.zero_le _)⟩
  | succ rounds ih =>
    have ascii : IsAscii c.buffer := fun byte member =>
      arrives.ascii byte (List.mem_append_left _ member)
    rw [takeLoop] at takes
    rcases extract_cases ascii with ⟨raw, rest, line, split, extracts⟩ |
      ⟨clean, short, extracts⟩ | ⟨long, extracts⟩
    · rw [extracts] at takes
      dsimp only at takes
      by_cases alert : isAlertLine (withoutReturns raw) = true
      · rw [if_pos alert] at takes
        have first := consumes_alert line split alert chunks
        obtain ⟨raws, consumes, ends⟩ := ih (first.arrives arrives) takes
        refine ⟨raw :: raws, first.trans consumes, (ends.cons alert).mono fun full => ?_⟩
        have taken := congrArg List.length first.extracted
        have later := congrArg List.length consumes.extracted
        simp only [List.length_append, List.length_map, List.length_singleton] at taken later
        unfold roundsTaken at full ⊢
        omega
      · rw [if_neg alert] at takes
        cases takes
        have other : isAlertLine (withoutReturns raw) = false := Bool.eq_false_of_not_eq_true alert
        exact ⟨[raw], consumes_line line split other _,
          .unsolicited [] (List.forall_mem_nil _) (withoutReturns raw) other⟩
    · rw [extracts] at takes
      cases chunks with
      | nil =>
        cases takes
        exact ⟨[], .refl _ _, .done [] (List.forall_mem_nil _) clean short rfl⟩
      | cons chunk chunks =>
        have nonempty : chunk ≠ [] := by
          rintro rfl
          exact arrives.nonempty List.mem_cons_self
        dsimp only at takes
        rw [if_neg nonempty] at takes
        have first := consumes_receive c chunk chunks
        obtain ⟨raws, consumes, ends⟩ := ih (first.arrives arrives) takes
        refine ⟨raws, first.trans consumes, ends.mono fun full => ?_⟩
        have fewer := consumes.left.length_le
        unfold roundsTaken at full ⊢
        rw [List.length_cons]
        have same : (c.receive chunk).extracted = c.extracted := rfl
        rw [same] at full
        omega
    · rw [extracts] at takes
      cases takes
      exact ⟨[], .refl _ _, .oversized [] (List.forall_mem_nil _) (isOversized_append long _)⟩

end TelepConnection

/-! ## The lines of a stream -/

/-- The lines of a stream, up to the first that is too long. -/
def streamLines (stream : Bytes) : List Bytes :=
  ((stream.splitOn lineFeed).dropLast.takeWhile fun raw => raw.length ≤ 1023).map withoutReturns

/-- A line of the stream, or what begins one, has more than 1023 bytes before its line feed. -/
def HasOversized (stream : Bytes) : Prop := ∃ raw ∈ stream.splitOn lineFeed, 1023 < raw.length

theorem takeWhile_short {raws : List Bytes} (lines : ∀ raw ∈ raws, IsRawLine raw)
    (more : List Bytes) : (raws ++ more).takeWhile (fun raw => raw.length ≤ 1023) =
      raws ++ more.takeWhile fun raw => raw.length ≤ 1023 :=
  List.takeWhile_append_of_pos fun raw member => decide_eq_true (lines raw member).short

section Streams

variable {raws : List Bytes} (lines : ∀ raw ∈ raws, IsRawLine raw) {rest : Bytes}

include lines

theorem splitOn_rawLines (rest : Bytes) :
    (frames lineFeed raws ++ rest).splitOn lineFeed = raws ++ rest.splitOn lineFeed :=
  splitOn_frames fun raw member => (lines raw member).clean

/-- The lines that are taken are the first ones of the stream. -/
theorem prefix_streamLines (rest : Bytes) :
    raws.map withoutReturns <+: streamLines (frames lineFeed raws ++ rest) := by
  rw [streamLines, splitOn_rawLines lines,
    List.dropLast_append_of_ne_nil (List.splitOn_ne_nil lineFeed rest), takeWhile_short lines,
    List.map_append]
  exact List.prefix_append _ _

/-- They are all of them when what is left has no further line. -/
theorem streamLines_done (clean : lineFeed ∉ rest) (short : rest.length ≤ 1023) :
    streamLines (frames lineFeed raws ++ rest) = raws.map withoutReturns ∧
      ¬ HasOversized (frames lineFeed raws ++ rest) := by
  rw [streamLines, HasOversized, splitOn_rawLines lines, List.splitOn_eq_singleton clean,
    List.dropLast_concat]
  constructor
  · have all := takeWhile_short lines []
    rw [List.append_nil] at all
    rw [all, List.takeWhile_nil, List.append_nil]
  · rintro ⟨raw, member, long⟩
    rcases List.mem_append.mp member with member | member
    · exact absurd long (not_lt.mpr (lines raw member).short)
    · exact absurd long (not_lt.mpr (List.mem_singleton.mp member ▸ short))

/-- They are all of them when the next one is too long. -/
theorem streamLines_oversized (long : IsOversized rest) :
    streamLines (frames lineFeed raws ++ rest) = raws.map withoutReturns ∧
      HasOversized (frames lineFeed raws ++ rest) := by
  rw [streamLines, HasOversized, splitOn_rawLines lines,
    List.dropLast_append_of_ne_nil (List.splitOn_ne_nil lineFeed rest), takeWhile_short lines]
  unfold IsOversized at long
  -- the first part of the rest is the line that is too long
  obtain ⟨others, parts⟩ : ∃ others,
      rest.splitOn lineFeed = rest.takeWhile (· ≠ lineFeed) :: others := by
    rcases first_mark lineFeed rest with ⟨clean, -⟩ | ⟨more, -, split⟩
    · rw [takeWhile_clean clean]
      exact ⟨[], List.splitOn_eq_singleton clean⟩
    · refine ⟨more.splitOn lineFeed, ?_⟩
      conv_lhs => rw [split]
      exact List.splitOn_append_cons_self_of_not_mem (not_mem_takeWhile lineFeed rest) more
  rw [parts]
  constructor
  · cases others with
    | nil => simp
    | cons other others =>
      rw [List.dropLast_cons_cons, List.takeWhile_cons_of_neg (by simpa using long),
        List.append_nil]
  · exact ⟨_, List.mem_append_right _ List.mem_cons_self, long⟩

end Streams

/-- No line of `send_text_line` is too long. -/
theorem not_hasOversized_sent {texts : List Bytes} {stream : Bytes}
    (sent : stream <+: frames lineFeed (texts.flatMap sendTextLine)) : ¬ HasOversized stream := by
  have short : ∀ line ∈ texts.flatMap sendTextLine, line.length ≤ 1023 := by
    intro line member
    obtain ⟨text, -, member⟩ := List.mem_flatMap.mp member
    unfold sendTextLine at member
    split at member
    · cases member
    · next fits =>
      rw [List.mem_singleton.mp member]
      exact Nat.le_of_lt_succ (not_le.mp fits)
  obtain ⟨more, whole⟩ := sent
  rintro ⟨raw, member, long⟩
  obtain ⟨part, member, begins⟩ := exists_part_of_append member more
  rw [whole] at member
  have := length_le_of_mem_splitOn_frames short member
  exact absurd (long.trans_le begins.length_le) (not_lt.mpr this)

/-! ## Runs of calls -/

/-- A connection, with the chunks that arrived and were not received. -/
structure Reader where
  connection : TelepConnection
  left : List Bytes

/-- A call of one of the readers, with the chunks that arrive until it ends. -/
inductive ReaderCall where
  | readLine (chunks : List Bytes)
  | takeAlerts (chunks : List Bytes)

def ReaderCall.chunks : ReaderCall → List Bytes
  | readLine chunks => chunks
  | takeAlerts chunks => chunks

def Reader.call (r : Reader) : ReaderCall → Reader
  | .readLine chunks =>
      let (_, c, left) := r.connection.readLine (r.left ++ chunks)
      ⟨c, left⟩
  | .takeAlerts chunks =>
      let (_, c, left) := r.connection.takeAlerts (r.left ++ chunks)
      ⟨c, left⟩

/-- Calls of the two readers in any order. -/
def readerMachine : Machine Reader ReaderCall Unit where
  init := ⟨.fresh, []⟩
  step r call := ((), r.call call)

/-- ASCII bytes in chunks that are not empty. -/
def AreChunks (chunks : List Bytes) : Prop := ∀ chunk ∈ chunks, chunk ≠ [] ∧ IsAscii chunk

/-- The lines that were taken and what is left are the stream. -/
structure Reader.Holds (r : Reader) (stream : Bytes) : Prop where
  ascii : IsAscii stream
  nonempty : [] ∉ r.left
  taken : ∃ raws, (∀ raw ∈ raws, IsRawLine raw) ∧
    stream = frames lineFeed raws ++ (r.connection.buffer ++ r.left.flatten) ∧
    r.connection.extracted = raws.map withoutReturns

section Calls

variable {r : Reader} {stream : Bytes} {chunks : List Bytes} {c' : TelepConnection}
  {left : List Bytes}

theorem AreChunks.flatten (all : AreChunks chunks) : IsAscii chunks.flatten := by
  intro byte member
  obtain ⟨chunk, listed, member⟩ := List.mem_flatten.mp member
  exact (all chunk listed).2 byte member

/-- The chunks of a call can arrive. -/
theorem Reader.Holds.arrives (holds : r.Holds stream) (all : AreChunks chunks) :
    r.connection.Arrives (r.left ++ chunks) := by
  obtain ⟨raws, -, split, -⟩ := holds.taken
  constructor
  · rw [List.flatten_append, ← List.append_assoc]
    refine List.forall_mem_append.mpr ⟨fun byte member => ?_, all.flatten⟩
    exact holds.ascii byte (split ▸ List.mem_append_right _ member)
  · rw [List.mem_append, not_or]
    exact ⟨holds.nonempty, fun member => (all [] member).1 rfl⟩

/-- The lines that were taken after a call. -/
theorem Reader.Holds.consumes (holds : r.Holds stream) {raws : List Bytes}
    (consumes : r.connection.Consumes (r.left ++ chunks) c' left raws) :
    ∃ before, (∀ raw ∈ before ++ raws, IsRawLine raw) ∧
      stream ++ chunks.flatten =
        frames lineFeed (before ++ raws) ++ (c'.buffer ++ left.flatten) ∧
      c'.extracted = (before ++ raws).map withoutReturns := by
  obtain ⟨before, lines, split, extracted⟩ := holds.taken
  refine ⟨before, List.forall_mem_append.mpr ⟨lines, consumes.raw⟩, ?_, ?_⟩
  · have rest := consumes.stream
    rw [List.flatten_append, ← List.append_assoc] at rest
    rw [split, List.append_assoc, rest, frames_append, List.append_assoc]
  · rw [consumes.extracted, extracted, List.map_append]

/-- What a call of `read_line` returns, for the stream that arrived until it ends. -/
def ReadsStream (stream : Bytes) :
    Except ReadFailure Bytes × TelepConnection × List Bytes → Prop
  | (.ok text, c', _) => c'.extracted.getLast? = some text
  | (.error failure, c', _) =>
      c'.extracted = streamLines stream ∧ (failure = .oversized ∨ failure = .timeout) ∧
        (failure = .oversized ↔ HasOversized stream)

/-- What a call of `take_alerts` does; it can use up its 256 rounds. -/
def TakesStream (c : TelepConnection) (chunks : List Bytes) (stream : Bytes) :
    Except ReadFailure (List (List Bytes)) × TelepConnection × List Bytes → Prop
  | (.ok _, c', left) =>
      256 ≤ c.roundsTaken chunks c' left ∨
        (c'.extracted = streamLines stream ∧ ¬ HasOversized stream)
  | (.error failure, c', _) =>
      failure = .unsolicited ∨
        (failure = .oversized ∧ c'.extracted = streamLines stream ∧ HasOversized stream)

theorem Reader.Holds.readLine (holds : r.Holds stream) (all : AreChunks chunks) :
    ReadsStream (stream ++ chunks.flatten) (r.connection.readLine (r.left ++ chunks)) ∧
      (r.call (.readLine chunks)).Holds (stream ++ chunks.flatten) := by
  have arrives := holds.arrives all
  have ascii : IsAscii (stream ++ chunks.flatten) :=
    List.forall_mem_append.mpr ⟨holds.ascii, all.flatten⟩
  rw [Reader.call]
  rcases reads : r.connection.readLine (r.left ++ chunks) with ⟨result, c', left⟩
  obtain ⟨raws, consumes, ends⟩ := TelepConnection.readLine_reads arrives reads
  obtain ⟨before, lines, split, extracted⟩ := holds.consumes consumes
  refine ⟨?_, ascii, (consumes.arrives arrives).nonempty, before ++ raws, lines, split, extracted⟩
  rw [split]
  generalize taken : raws.map withoutReturns = texts at ends
  cases ends with
  | line alerts all text other =>
    show c'.extracted.getLast? = some text
    rw [extracted, List.map_append, taken, ← List.append_assoc, List.getLast?_concat]
  | timeout alerts all clean short none =>
    subst none
    rw [List.flatten_nil, List.append_nil]
    obtain ⟨whole, fits⟩ := streamLines_done lines clean short
    exact ⟨extracted.trans whole.symm, .inr rfl, by simp, fun long => absurd long fits⟩
  | oversized alerts all long =>
    obtain ⟨whole, oversized⟩ := streamLines_oversized lines long
    exact ⟨extracted.trans whole.symm, .inl rfl, fun _ => oversized, fun _ => rfl⟩

theorem Reader.Holds.takeAlerts (holds : r.Holds stream) (all : AreChunks chunks) :
    TakesStream r.connection (r.left ++ chunks) (stream ++ chunks.flatten)
        (r.connection.takeAlerts (r.left ++ chunks)) ∧
      (r.call (.takeAlerts chunks)).Holds (stream ++ chunks.flatten) := by
  have arrives := holds.arrives all
  have ascii : IsAscii (stream ++ chunks.flatten) :=
    List.forall_mem_append.mpr ⟨holds.ascii, all.flatten⟩
  rw [Reader.call, TelepConnection.takeAlerts]
  rcases takes : r.connection.takeLoop (r.left ++ chunks) 256 with ⟨result, c', left⟩
  obtain ⟨raws, consumes, ends⟩ := TelepConnection.takeLoop_takes arrives takes
  obtain ⟨before, lines, split, extracted⟩ := holds.consumes consumes
  have after : ∀ connection : TelepConnection, connection.buffer = c'.buffer →
      connection.extracted = c'.extracted →
      Reader.Holds ⟨connection, left⟩ (stream ++ chunks.flatten) := by
    intro connection buffer same
    refine ⟨ascii, (consumes.arrives arrives).nonempty, before ++ raws, lines, ?_, ?_⟩
    · rw [split, buffer]
    · rw [same, extracted]
  generalize taken : raws.map withoutReturns = texts at ends
  cases ends with
  | unsolicited alerts all text other => exact ⟨.inl rfl, after _ rfl rfl⟩
  | done alerts all clean short nothing =>
    refine ⟨.inr ?_, after _ rfl rfl⟩
    subst nothing
    rw [split, List.flatten_nil, List.append_nil]
    obtain ⟨whole, fits⟩ := streamLines_done lines clean short
    exact ⟨extracted.trans whole.symm, fits⟩
  | oversized alerts all long =>
    refine ⟨.inr ⟨rfl, ?_⟩, after _ rfl rfl⟩
    rw [split]
    obtain ⟨whole, oversized⟩ := streamLines_oversized lines long
    exact ⟨extracted.trans whole.symm, oversized⟩
  | rounds alerts all full => exact ⟨.inl full, after _ rfl rfl⟩

end Calls

/-- In every run of the two readers on an ASCII stream, the lines that were taken are the first
ones of the stream, and together with what is left they are the stream, however it is cut into
chunks. A call of `read_line` that returns no line has taken all of them, and fails for an
oversized frame if and only if the stream has a line of more than 1023 bytes; a call of
`take_alerts` fails for it at no other line, and takes all lines before it ends unless it meets a
line that is no alert or uses up its rounds. The lines that the server sends are never too long. -/
theorem lines_extracted (calls : List ReaderCall) (all : ∀ call ∈ calls, AreChunks call.chunks) :
    let r := readerMachine.exec readerMachine.init calls
    let stream := calls.flatMap fun call => call.chunks.flatten
    (∃ raws, (∀ raw ∈ raws, IsRawLine raw) ∧
        stream = frames lineFeed raws ++ (r.connection.buffer ++ r.left.flatten) ∧
        r.connection.extracted = raws.map withoutReturns) ∧
      r.connection.extracted <+: streamLines stream ∧
      (∀ chunks, AreChunks chunks →
        ReadsStream (stream ++ chunks.flatten) (r.connection.readLine (r.left ++ chunks)) ∧
        TakesStream r.connection (r.left ++ chunks) (stream ++ chunks.flatten)
          (r.connection.takeAlerts (r.left ++ chunks))) ∧
      ∀ (texts : List Bytes) (sent : Bytes), sent <+: frames lineFeed (texts.flatMap sendTextLine) →
        ¬ HasOversized sent := by
  intro r stream
  have holds : r.Holds stream := by
    -- by induction on the calls
    refine readerMachine.exec_history (P := fun calls r => (∀ call ∈ calls, AreChunks call.chunks) →
      r.Holds (calls.flatMap fun call => call.chunks.flatten)) ?_ ?_ calls all
    · intro _
      exact ⟨by simp [IsAscii], List.not_mem_nil, [], by simp, rfl, rfl⟩
    · intro calls call ih all
      obtain ⟨before, now⟩ := List.forall_mem_append.mp all
      have chunks := List.forall_mem_singleton.mp now
      rw [List.flatMap_append, List.flatMap_singleton]
      cases call with
      | readLine more => exact ((ih before).readLine chunks).2
      | takeAlerts more => exact ((ih before).takeAlerts chunks).2
  obtain ⟨raws, lines, split, extracted⟩ := holds.taken
  refine ⟨⟨raws, lines, split, extracted⟩, ?_, fun chunks chunks_all =>
    ⟨(holds.readLine chunks_all).1, (holds.takeAlerts chunks_all).1⟩, fun texts sent =>
      not_hasOversized_sent⟩
  rw [extracted, split]
  exact prefix_streamLines lines _

/-- A line and an alert, cut inside both. -/
def cutTwice : List ReaderCall :=
  [.readLine [ascii "OK|B", ascii "YE\r\nALE"], .takeAlerts [ascii "RT|N|TEMP_HIGH|90.00\n"]]

theorem lines_extracted_sample :
    (readerMachine.exec readerMachine.init cutTwice).connection.extracted =
        [ascii "OK|BYE", ascii "ALERT|N|TEMP_HIGH|90.00"] ∧
      (readerMachine.exec readerMachine.init cutTwice).connection.extracted <+:
        streamLines (cutTwice.flatMap fun call => call.chunks.flatten) := by
  have chunks : AreChunks [ascii "OK|B", ascii "YE\r\nALE"] ∧
      AreChunks [ascii "RT|N|TEMP_HIGH|90.00\n"] := by
    unfold AreChunks IsAscii
    decide +kernel
  have all : ∀ call ∈ cutTwice, AreChunks call.chunks :=
    List.forall_mem_cons.mpr ⟨chunks.1, List.forall_mem_singleton.mpr chunks.2⟩
  exact ⟨by decide +kernel, (lines_extracted cutTwice all).2.1⟩

end Telep
