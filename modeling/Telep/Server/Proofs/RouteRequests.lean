import Telep.Server.Proofs.HttpRequests

/-!
# Requests for a route

A request is answered with the body of a route when it is one of the plain grammar of tokens
(`IsRouteRequest`), whatever `sscanf` makes of words that are too long for it
(`route_served_iff`).
-/

namespace Telep

/-! ## The words of a line -/

section Words

variable {text word rest : Bytes} {width : Nat}

/-- The only white space of a line. -/
theorem isSpace_iff {c : UInt8} (valid : IsLineByte c) : isSpace c = true ↔ c = 32 := by
  obtain ⟨low, -⟩ := valid
  rw [UInt8.le_iff_toNat_le] at low
  simp only [isSpace, UInt8.le_iff_toNat_le, decide_eq_true_eq, ← UInt8.toNat_inj]
  have value : (32 : UInt8).toNat = 32 := rfl
  have tab : (9 : UInt8).toNat = 9 := rfl
  have last : (13 : UInt8).toNat = 13 := rfl
  omega

theorem dropWhile_isSpace (bytes : ∀ c ∈ text, IsLineByte c) :
    text.dropWhile isSpace = text.dropWhile (· = 32) := by
  induction text with
  | nil => rfl
  | cons c text ih =>
    obtain ⟨valid, others⟩ := List.forall_mem_cons.mp bytes
    by_cases space : c = 32
    · rw [List.dropWhile_cons_of_pos ((isSpace_iff valid).mpr space),
        List.dropWhile_cons_of_pos (by simpa using space), ih others]
    · rw [List.dropWhile_cons_of_neg (mt (isSpace_iff valid).mp space),
        List.dropWhile_cons_of_neg (by simpa using space)]

/-- A word is cut at the width. -/
theorem take_word (bytes : ∀ c ∈ word, IsLineByte c) (clean : (32 : UInt8) ∉ word)
    (ends : rest = [] ∨ ∃ more, rest = 32 :: more) :
    ((word ++ rest).take width).takeWhile (!isSpace ·) = word.take width := by
  have letters : ∀ c ∈ word, (!isSpace c) = true := by
    intro c member
    rw [Bool.not_eq_true', Bool.eq_false_iff]
    intro space
    exact clean ((isSpace_iff (bytes c member)).mp space ▸ member)
  rw [List.take_append, List.takeWhile_append_of_pos fun c member =>
    letters c (List.mem_of_mem_take member)]
  by_cases fits : width ≤ word.length
  · rw [Nat.sub_eq_zero_of_le fits, List.take_zero, List.takeWhile_nil, List.append_nil]
  · obtain ⟨left, room⟩ : ∃ left, width - word.length = left + 1 :=
      ⟨width - word.length - 1, by omega⟩
    rw [room]
    rcases ends with rfl | ⟨more, rfl⟩
    · rw [List.take_nil, List.takeWhile_nil, List.append_nil]
    · rw [List.take_succ_cons, List.takeWhile_cons_of_neg (by decide), List.append_nil]

/-- What one conversion reads: the beginning of the first word, which is not empty. -/
theorem scanWord_eq (positive : 0 < width) (bytes : ∀ c ∈ text, IsLineByte c) :
    (scanWord width text = none ∧ tokens 32 text = []) ∨
      ∃ word rest, scanWord width text = some (word.take width, word.drop width ++ rest) ∧
        tokens 32 text = word :: tokens 32 rest ∧ ∀ c ∈ rest, IsLineByte c := by
  have skipped := dropWhile_isSpace bytes
  rcases tokens_first 32 text with ⟨nothing, none⟩ |
    ⟨word, rest, split, nonempty, clean, ends, words⟩
  · refine .inl ⟨?_, none⟩
    rw [scanWord, skipped, nothing, List.take_nil, List.takeWhile_nil, if_pos rfl]
  · right
    have within : ∀ c ∈ word ++ rest, IsLineByte c := by
      intro c member
      rw [← split] at member
      exact bytes c ((List.dropWhile_sublist _).subset member)
    obtain ⟨letters, others⟩ := List.forall_mem_append.mp within
    have read : word.take width ≠ [] := by
      rw [Ne, List.take_eq_nil_iff, not_or]
      exact ⟨positive.ne', nonempty⟩
    refine ⟨word, rest, ?_, words, others⟩
    rw [scanWord, skipped, split, take_word letters clean ends, if_neg read]
    by_cases short : word.length ≤ width
    · rw [List.take_of_length_le short, List.drop_left, List.drop_of_length_le short,
        List.nil_append]
    · rw [List.length_take_of_le (by omega), List.drop_append_of_le_length (by omega)]

/-- A word that is shorter than the width is a token. -/
theorem scanWord_token (bytes : ∀ c ∈ text, IsLineByte c) (reads : scanWord width text =
    some (word, rest)) (short : word.length < width) :
    tokens 32 text = word :: tokens 32 rest ∧ ∀ c ∈ rest, IsLineByte c := by
  rcases scanWord_eq (Nat.zero_lt_of_lt short) bytes with ⟨none, -⟩ |
    ⟨whole, after, scan, words, others⟩
  · rw [none] at reads
    cases reads
  · rw [scan] at reads
    obtain ⟨rfl, rfl⟩ := Prod.mk.inj (Option.some.inj reads)
    rw [List.length_take] at short
    have fits : whole.length ≤ width := by omega
    rw [List.take_of_length_le fits, List.drop_of_length_le fits, List.nil_append]
    exact ⟨words, others⟩

/-- A token that fits is read. -/
theorem scanWord_of_tokens {words : List Bytes} (positive : 0 < width)
    (bytes : ∀ c ∈ text, IsLineByte c) (token : tokens 32 text = word :: words)
    (fits : word.length ≤ width) :
    ∃ rest, scanWord width text = some (word, rest) ∧ tokens 32 rest = words ∧
      ∀ c ∈ rest, IsLineByte c := by
  rcases scanWord_eq positive bytes with ⟨-, none⟩ | ⟨whole, rest, scan, split, others⟩
  · rw [none] at token
    cases token
  · rw [token] at split
    obtain ⟨rfl, rfl⟩ := List.cons.inj split
    rw [List.take_of_length_le fits, List.drop_of_length_le fits, List.nil_append] at scan
    exact ⟨rest, scan, rfl, others⟩

/-- Nothing but spaces is left. -/
theorem dropWhile_isSpace_eq_nil (bytes : ∀ c ∈ text, IsLineByte c) :
    text.dropWhile isSpace = [] ↔ tokens 32 text = [] := by
  rw [dropWhile_isSpace bytes]
  rcases tokens_first 32 text with ⟨nothing, none⟩ |
    ⟨word, rest, split, nonempty, -, -, words⟩
  · exact ⟨fun _ => none, fun _ => nothing⟩
  · rw [split, words]
    exact ⟨fun empty => absurd (List.append_eq_nil_iff.mp empty).1 nonempty,
      fun empty => absurd empty (List.cons_ne_nil _ _)⟩

/-- Three words that are shorter than their widths are the tokens of the line. -/
theorem scanRequest_iff (bytes : ∀ c ∈ text, IsLineByte c) {method path version : Bytes}
    (short : method.length < 15) (short' : path.length < 63) (short'' : version.length < 15) :
    scanRequest text = some (method, path, version) ↔
      tokens 32 text = [method, path, version] := by
  constructor
  · intro scan
    unfold scanRequest at scan
    split at scan
    · cases scan
    · next method' rest first =>
      split at scan
      · cases scan
      · next path' rest' second =>
        split at scan
        · cases scan
        · next version' rest'' third =>
          split at scan
          · next nothing =>
            cases scan
            obtain ⟨words, bytes⟩ := scanWord_token bytes first short
            obtain ⟨words', bytes⟩ := scanWord_token bytes second short'
            obtain ⟨words'', bytes⟩ := scanWord_token bytes third short''
            rw [words, words', words'', (dropWhile_isSpace_eq_nil bytes).mp nothing]
          · cases scan
  · intro words
    obtain ⟨rest, first, words, bytes⟩ := scanWord_of_tokens (show 0 < 15 by decide) bytes words
      short.le
    obtain ⟨rest', second, words, bytes⟩ := scanWord_of_tokens (show 0 < 63 by decide) bytes
      words short'.le
    obtain ⟨rest'', third, nothing, bytes⟩ := scanWord_of_tokens (show 0 < 15 by decide) bytes
      words short''.le
    unfold scanRequest
    simp only [first, second, third]
    rw [if_pos ((dropWhile_isSpace_eq_nil bytes).mpr nothing)]

end Words

/-! ## The lines of a request -/

/-- A frame that the line reader accepts. -/
structure IsAccepted (frame : Bytes) : Prop where
  clean : lineFeed ∉ frame
  short : frame.length ≤ 1023
  bytes : ∀ c ∈ withoutReturn frame, IsLineByte c

/-- What lines count for: their lengths plus one. -/
def countedBytes (lines : List Bytes) : Nat :=
  (lines.map fun line => (withoutReturn line).length + 1).sum

theorem lineFault_eq_none {frame : Bytes} :
    lineFault frame = none ↔
      frame.length ≤ 1023 ∧ ∀ c ∈ withoutReturn frame, IsLineByte c := by
  rw [lineFault]
  split
  · next long => exact ⟨fun bad => (Option.some_ne_none _ bad).elim, fun short => by omega⟩
  · next short =>
    split
    · next bytes => exact ⟨fun _ => ⟨not_lt.mp short, bytes⟩, fun _ => rfl⟩
    · next bad => exact ⟨fun none => (Option.some_ne_none _ none).elim, fun all => absurd all.2 bad⟩

theorem headersFault_eq_none {headers : List Bytes} {count bytes : Nat} (few : count ≤ 64)
    (small : bytes ≤ 8192) :
    headersFault count bytes headers = none ↔
      (∀ header ∈ headers, lineFault header = none ∧ (58 : UInt8) ∈ withoutReturn header) ∧
        count + headers.length ≤ 64 ∧ bytes + countedBytes headers ≤ 8192 := by
  induction headers generalizing count bytes with
  | nil => simpa [headersFault, countedBytes] using ⟨few, small⟩
  | cons header headers ih =>
    have counted : countedBytes (header :: headers) =
        (withoutReturn header).length + 1 + countedBytes headers := by
      rw [countedBytes, List.map_cons, List.sum_cons]
      rfl
    rw [headersFault, Option.or_eq_none_iff, List.forall_mem_cons, List.length_cons, counted]
    by_cases full : 64 ≤ count ∨ 8192 < bytes + ((withoutReturn header).length + 1)
    · rw [if_pos full]
      exact ⟨fun none => (Option.some_ne_none _ none.2).elim, fun fits => by omega⟩
    · rw [if_neg full]
      rw [not_or, not_le, not_lt] at full
      by_cases colon : (58 : UInt8) ∈ withoutReturn header
      · rw [if_neg (not_not.mpr colon), ih full.1 full.2, ← and_assoc]
        have length : count + 1 + headers.length = count + (headers.length + 1) := by omega
        rw [length, Nat.add_assoc bytes]
        simp only [colon, and_true]
      · rw [if_pos colon]
        exact ⟨fun none => (Option.some_ne_none _ none.2).elim, fun fits => absurd fits.1.1.2 colon⟩

/-- The statuses of the requests that are refused. -/
def IsRefused (status : Nat) : Prop :=
  status = 400 ∨ status = 404 ∨ status = 405 ∨ status = 408 ∨ status = 431

/-- The loop over the headers refuses the request, or there is an empty line. -/
theorem readHeaders_cases {contents : List Bytes} (clean : ∀ frame ∈ contents, lineFeed ∉ frame)
    {last : Bytes} (clean' : lineFeed ∉ last) {count : Nat} (few : count ≤ 64) (bytes : Nat) :
    (∃ reply, readHeaders (64 - count) bytes (frames lineFeed contents ++ last) = some reply ∧
        IsRefused reply.status) ∨
      ∃ headers blank others, contents = headers ++ blank :: others ∧
        (∀ header ∈ headers, IsHeader header) ∧ IsBlank blank := by
  induction contents generalizing count bytes with
  | nil =>
    left
    rw [readHeaders, frames_nil, List.nil_append, receiveTextLine, receiveLoop_partial clean']
    exact ⟨_, rfl, .inr (.inr (.inr (.inl rfl)))⟩
  | cons frame contents ih =>
    obtain ⟨this, others⟩ := List.forall_mem_cons.mp clean
    by_cases text : withoutReturn frame = []
    · exact .inr ⟨[], frame, contents, rfl, List.forall_mem_nil _, ⟨this, text⟩⟩
    · have header : IsHeader frame := ⟨this, text⟩
      rw [frames_cons, List.append_assoc, List.cons_append, readHeaders_header header few]
      cases lineFault frame with
      | some fault =>
        left
        cases fault with
        | tooLarge => exact ⟨_, rfl, .inr (.inr (.inr (.inr rfl)))⟩
        | malformed => exact ⟨_, rfl, .inr (.inr (.inr (.inl rfl)))⟩
        | invalidBytes => exact ⟨_, rfl, .inr (.inr (.inr (.inl rfl)))⟩
      | none =>
        dsimp only
        split
        · exact .inl ⟨_, rfl, .inr (.inr (.inr (.inr rfl)))⟩
        · next room =>
          split
          · exact .inl ⟨_, rfl, .inl rfl⟩
          · rw [not_or, not_le] at room
            rcases ih others room.1 (bytes + ((withoutReturn frame).length + 1)) with refused |
              ⟨headers, blank, rest, rfl, lines, empty⟩
            · exact .inl refused
            · exact .inr ⟨frame :: headers, blank, rest, rfl,
                List.forall_mem_cons.mpr ⟨header, lines⟩, empty⟩

/-- A request is refused at its first line, or it has an empty line. -/
theorem serveHttpRequest_cases (strtod : Bytes → StrtodResult) (clockText : Int → Bytes)
    (s : ServerState) (page : PageReadings) (allocated : Bool) (arriving : Bytes) :
    (∃ reply, serveHttpRequest strtod clockText s page allocated arriving = some reply ∧
        IsRefused reply.status) ∨
      ∃ request headers blank rest,
        arriving = frames lineFeed (request :: (headers ++ [blank])) ++ rest ∧
        lineFeed ∉ request ∧ (∀ header ∈ headers, IsHeader header) ∧ IsBlank blank := by
  obtain ⟨contents, last, rfl, clean, clean'⟩ := exists_frames lineFeed arriving
  cases contents with
  | nil =>
    left
    rw [serveHttpRequest, frames_nil, List.nil_append, receiveTextLine, receiveLoop_partial clean']
    exact ⟨_, rfl, .inr (.inr (.inr (.inl rfl)))⟩
  | cons request contents =>
    obtain ⟨this, others⟩ := List.forall_mem_cons.mp clean
    rcases readHeaders_cases others clean' (Nat.zero_le 64) ((withoutReturn request).length + 1)
      with ⟨reply, refused, status⟩ | ⟨headers, blank, rest, rfl, lines, empty⟩
    · left
      rw [frames_cons, List.append_assoc, List.cons_append, serveHttpRequest_line _ _ _ _ _ this]
      cases requestFault request with
      | some fault =>
        cases fault with
        | tooLarge => exact ⟨_, rfl, .inr (.inr (.inr (.inr rfl)))⟩
        | malformed => exact ⟨_, rfl, .inl rfl⟩
        | invalidBytes => exact ⟨_, rfl, .inr (.inr (.inr (.inl rfl)))⟩
      | none =>
        rw [Nat.sub_zero] at refused
        dsimp only
        rw [refused]
        exact ⟨reply, rfl, status⟩
    · right
      refine ⟨request, headers, blank, frames lineFeed rest ++ last, ?_, this, lines, empty⟩
      rw [← List.append_assoc, ← frames_append]
      simp

/-! ## Routes -/

/-- The paths that have a body. -/
def routes : List Bytes := [ascii "/", ascii "/status", ascii "/nodes", ascii "/alerts"]

/-- A request for a path in the plain grammar: three tokens, at most 64 lines with a colon, and an
empty line. -/
def IsRouteRequest (path arriving : Bytes) : Prop :=
  ∃ request headers blank rest version,
    arriving = frames lineFeed (request :: (headers ++ [blank])) ++ rest ∧
    IsAccepted request ∧ tokens 32 (withoutReturn request) = [ascii "GET", path, version] ∧
    (version = ascii "HTTP/1.0" ∨ version = ascii "HTTP/1.1") ∧
    (∀ header ∈ headers, IsAccepted header ∧ (58 : UInt8) ∈ withoutReturn header) ∧
    headers.length ≤ 64 ∧ IsBlank blank ∧ countedBytes (request :: headers) ≤ 8192

theorem isRequestLine_iff {text : Bytes} :
    isRequestLine text = true ↔ ∃ method path version,
      scanRequest text = some (method, path, version) ∧
        (version = ascii "HTTP/1.0" ∨ version = ascii "HTTP/1.1") := by
  unfold isRequestLine
  cases scanRequest text with
  | none => simp
  | some words =>
    obtain ⟨method, path, version⟩ := words
    simp [or_comm]

/-- The requests that have no fault. -/
theorem firstFault_eq_none {request : Bytes} {headers : List Bytes} :
    firstFault request headers = none ↔
      lineFault request = none ∧ isRequestLine (withoutReturn request) = true ∧
        (∀ header ∈ headers, lineFault header = none ∧ (58 : UInt8) ∈ withoutReturn header) ∧
        headers.length ≤ 64 ∧ countedBytes (request :: headers) ≤ 8192 := by
  have counted : countedBytes (request :: headers) =
      (withoutReturn request).length + 1 + countedBytes headers := by
    rw [countedBytes, List.map_cons, List.sum_cons]
    rfl
  rw [firstFault, requestFault, Option.or_eq_none_iff, Option.or_eq_none_iff, and_assoc, counted]
  refine and_congr_right fun line => and_congr (by simp) ?_
  have short := (withoutReturn_begins request).length_le.trans (lineFault_eq_none.mp line).1
  rw [headersFault_eq_none (Nat.zero_le 64) (by omega), Nat.zero_add]

theorem length_lt_of_mem_routes {path : Bytes} (known : path ∈ routes) : path.length < 63 := by
  have all : ∀ path ∈ routes, path.length < 63 := by decide
  exact all path known

theorem length_lt_of_version {version : Bytes}
    (known : version = ascii "HTTP/1.0" ∨ version = ascii "HTTP/1.1") : version.length < 15 := by
  rcases known with rfl | rfl <;> decide

/-- The requests of the grammar are those without a fault in which the words are read. -/
theorem isRouteRequest_iff {path arriving : Bytes} (known : path ∈ routes) :
    IsRouteRequest path arriving ↔ ∃ request headers blank rest version,
      arriving = frames lineFeed (request :: (headers ++ [blank])) ++ rest ∧
      lineFeed ∉ request ∧ (∀ header ∈ headers, IsHeader header) ∧ IsBlank blank ∧
      firstFault request headers = none ∧
      scanRequest (withoutReturn request) = some (ascii "GET", path, version) := by
  have path_short := length_lt_of_mem_routes known
  have method_short : (ascii "GET").length < 15 := by decide
  constructor
  · rintro ⟨request, headers, blank, rest, version, rfl, line, words, version_known, lines, few,
      empty, counted⟩
    have scan := (scanRequest_iff line.bytes method_short path_short
      (length_lt_of_version version_known)).mpr words
    refine ⟨request, headers, blank, rest, version, rfl, line.clean, fun header member => ?_, empty,
      firstFault_eq_none.mpr ⟨lineFault_eq_none.mpr ⟨line.short, line.bytes⟩,
        isRequestLine_iff.mpr ⟨_, _, _, scan, version_known⟩, fun header member => ?_, few,
        counted⟩, scan⟩
    · obtain ⟨accepted, colon⟩ := lines header member
      exact ⟨accepted.clean, List.ne_nil_of_mem colon⟩
    · obtain ⟨accepted, colon⟩ := lines header member
      exact ⟨lineFault_eq_none.mpr ⟨accepted.short, accepted.bytes⟩, colon⟩
  · rintro ⟨request, headers, blank, rest, version, rfl, clean, headerLines, empty, first, scan⟩
    obtain ⟨line, text, lines, few, counted⟩ := firstFault_eq_none.mp first
    obtain ⟨short, bytes⟩ := lineFault_eq_none.mp line
    obtain ⟨_, _, _, scan', version_known⟩ := isRequestLine_iff.mp text
    rw [scan] at scan'
    cases scan'
    refine ⟨request, headers, blank, rest, version, rfl, ⟨clean, short, bytes⟩,
      (scanRequest_iff bytes method_short path_short (length_lt_of_version version_known)).mp scan,
      version_known, fun header member => ?_, few, empty, counted⟩
    obtain ⟨accepted, colon⟩ := lines header member
    obtain ⟨short, bytes⟩ := lineFault_eq_none.mp accepted
    exact ⟨⟨(headerLines header member).clean, short, bytes⟩, colon⟩

section Answers

variable (strtod : Bytes → StrtodResult) (clockText : Int → Bytes) (s : ServerState)
  (page : PageReadings)

/-- A request for a route is answered with its body, if there is memory for it. -/
theorem serveHttpRequest_route {path arriving : Bytes} (known : path ∈ routes)
    (request : IsRouteRequest path arriving) (allocated : Bool) :
    serveHttpRequest strtod clockText s page allocated arriving =
      if allocated then routeReply strtod clockText s page path
      else some (plainReply 503 "Capacity") := by
  obtain ⟨request, headers, blank, rest, version, rfl, clean, lines, empty, first, scan⟩ :=
    (isRouteRequest_iff known).mp request
  rw [serveHttpRequest_accepted _ _ _ _ _ clean lines empty first, acceptedReply, scan]
  dsimp only
  rw [if_neg (not_not.mpr rfl)]

theorem Fault.isRefused (fault : Fault) : IsRefused fault.status := by
  cases fault with
  | tooLarge => exact .inr (.inr (.inr (.inr rfl)))
  | malformed => exact .inl rfl
  | invalidBytes => exact .inr (.inr (.inr (.inl rfl)))

/-- Every other request is refused. -/
theorem serveHttpRequest_other {arriving : Bytes}
    (other : ∀ path ∈ routes, ¬ IsRouteRequest path arriving) :
    ∃ reply, serveHttpRequest strtod clockText s page true arriving = some reply ∧
      IsRefused reply.status := by
  rcases serveHttpRequest_cases strtod clockText s page true arriving with refused |
    ⟨request, headers, blank, rest, rfl, clean, lines, empty⟩
  · exact refused
  · cases first : firstFault request headers with
    | some fault =>
      obtain ⟨reply, answered, status⟩ : ∃ reply, serveHttpRequest strtod clockText s page true
            (frames lineFeed (request :: (headers ++ [blank])) ++ rest) = some reply ∧
          reply.status = fault.status :=
        serveHttpRequest_fault strtod clockText s page true clean lines empty first
      exact ⟨reply, answered, status ▸ fault.isRefused⟩
    | none =>
      obtain ⟨-, text, -⟩ := firstFault_eq_none.mp first
      obtain ⟨method, path, version, scan, -⟩ := isRequestLine_iff.mp text
      rw [serveHttpRequest_accepted _ _ _ _ _ clean lines empty first, acceptedReply, scan]
      dsimp only
      by_cases get : method = ascii "GET"
      · subst get
        have unknown : path ∉ routes := by
          intro known
          exact other path known ((isRouteRequest_iff known).mpr
            ⟨request, headers, blank, rest, version, rfl, clean, lines, empty, first, scan⟩)
        simp only [routes, List.mem_cons, List.not_mem_nil, or_false, not_or] at unknown
        obtain ⟨root, status, nodes, alerts⟩ := unknown
        rw [if_neg (not_not.mpr rfl), if_pos rfl, routeReply]
        rw [if_neg root, if_neg (not_or.mpr ⟨status, not_or.mpr ⟨nodes, alerts⟩⟩)]
        exact ⟨_, rfl, .inr (.inl rfl)⟩
      · rw [if_pos get]
        exact ⟨_, rfl, .inr (.inr (.inl rfl))⟩

/-- The replies of the routes are no refusals. -/
theorem routeReply_not_isRefused {path : Bytes} (known : path ∈ routes) {reply : HttpReply}
    (answer : routeReply strtod clockText s page path = some reply) : ¬ IsRefused reply.status := by
  have statuses : reply.status = 200 ∨ reply.status = 503 := by
    unfold routeReply at answer
    dsimp only at answer
    split at answer
    · cases answer
      exact .inl rfl
    · next root =>
      split at answer
      · obtain ⟨body, -, rfl⟩ := Option.map_eq_some_iff.mp answer
        dsimp only
        split
        · exact .inr rfl
        · exact .inl rfl
      · next others =>
        simp only [routes, List.mem_cons, List.not_mem_nil, or_false] at known
        exact absurd known (not_or.mpr ⟨root, others⟩)
  unfold IsRefused
  omega

end Answers

namespace ServerThreads

variable {strtod : Bytes → StrtodResult} {startedAt bootId : Long} {s : ServerThreads}

/-- The reply of a route is sent if and only if the request is one of the grammar for it, and every
other request is refused. -/
theorem route_served_iff (h : (threadsMachine strtod startedAt bootId).Reachable s)
    (clockText : Int → Bytes) (readings : TimeReadings) (now : Int) (tcpOk udpOk : Bool)
    (arriving : Bytes) :
    let page : PageReadings := ⟨now, readings.val, tcpOk, udpOk⟩
    ∃ reply, serveHttpRequest strtod clockText s.toServerState page true arriving = some reply ∧
      (∀ path ∈ routes, IsRouteRequest path arriving →
        routeReply strtod clockText s.toServerState page path = some reply) ∧
      ((∃ path ∈ routes, routeReply strtod clockText s.toServerState page path = some reply) ↔
        ∃ path ∈ routes, IsRouteRequest path arriving) ∧
      ((∀ path ∈ routes, ¬ IsRouteRequest path arriving) → IsRefused reply.status) := by
  intro page
  by_cases request : ∃ path ∈ routes, IsRouteRequest path arriving
  · obtain ⟨path, known, request⟩ := request
    obtain ⟨reply, answer, -⟩ := routeReply_status h clockText readings now tcpOk udpOk path
    have served := serveHttpRequest_route strtod clockText s.toServerState page known request true
    rw [if_pos rfl] at served
    refine ⟨reply, served.trans answer, fun path' known' request' => ?_,
      ⟨fun _ => ⟨path, known, request⟩, fun _ => ⟨path, known, answer⟩⟩,
      fun other => absurd request (other path known)⟩
    have served' := serveHttpRequest_route strtod clockText s.toServerState page known' request' true
    rw [if_pos rfl] at served'
    rw [← served', served, answer]
  · have other : ∀ path ∈ routes, ¬ IsRouteRequest path arriving := fun path known this =>
      request ⟨path, known, this⟩
    obtain ⟨reply, answered, refused⟩ :=
      serveHttpRequest_other strtod clockText s.toServerState page other
    refine ⟨reply, answered, fun path known this => absurd this (other path known),
      ⟨fun ⟨path, known, answer⟩ => ?_, fun this => absurd this request⟩, fun _ => refused⟩
    exact absurd refused (routeReply_not_isRefused _ _ _ _ known answer)

/-- A request with spaces before, between and after its words. -/
theorem route_served_sample :
    ∃ reply, serveHttpRequest strtodDigits (fun _ => ascii "00:00:00")
        (threadsInit ⟨7, by decide⟩ ⟨1, by decide⟩).toServerState
        ⟨9, alarmedReadings.val, true, true⟩ true
        (frames lineFeed [ascii " GET  /nodes HTTP/1.0 \r", ascii "Host: n\r", ascii "\r"]) =
          some reply ∧
      routeReply strtodDigits (fun _ => ascii "00:00:00")
        (threadsInit ⟨7, by decide⟩ ⟨1, by decide⟩).toServerState
        ⟨9, alarmedReadings.val, true, true⟩ (ascii "/nodes") = some reply := by
  obtain ⟨reply, answered, served, -⟩ := route_served_iff
    (Machine.Reachable.init (threadsMachine strtodDigits ⟨7, by decide⟩ ⟨1, by decide⟩))
    (fun _ => ascii "00:00:00") alarmedReadings 9 true true
    (frames lineFeed [ascii " GET  /nodes HTTP/1.0 \r", ascii "Host: n\r", ascii "\r"])
  refine ⟨reply, answered, served (ascii "/nodes") (by decide) ?_⟩
  have header : IsAccepted (ascii "Host: n\r") := ⟨by decide, by decide, by decide +kernel⟩
  exact ⟨ascii " GET  /nodes HTTP/1.0 \r", [ascii "Host: n\r"], ascii "\r", [], ascii "HTTP/1.0",
    (List.append_nil _).symm, ⟨by decide, by decide, by decide +kernel⟩, by decide +kernel,
    .inl rfl, List.forall_mem_singleton.mpr ⟨header, by decide +kernel⟩, by decide,
    ⟨by decide, by decide⟩, by decide +kernel⟩

end ServerThreads

end Telep
