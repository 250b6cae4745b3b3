import Telep.Server.Proofs.JsonBodies
import Telep.Server.Proofs.Lines

/-!
# HTTP requests

What is wrong with a request first, in the order in which it is read, decides the answer
(`status_iff`).
-/

namespace Telep

/-! ## What is wrong with a request -/

/-- What is wrong with a line of a request. -/
inductive Fault where
  /-- A line, the number of lines or their bytes exceed a limit. -/
  | tooLarge
  /-- The line is no request line, or has no colon. -/
  | malformed
  /-- The line fits, and has a byte that is not a printable character. -/
  | invalidBytes
  deriving DecidableEq

def lineFault (frame : Bytes) : Option Fault :=
  if 1023 < frame.length then some .tooLarge
  else if ∀ c ∈ withoutReturn frame, IsLineByte c then none
  else some .invalidBytes

/-- Three words, the last one a version of HTTP. -/
def isRequestLine (text : Bytes) : Bool :=
  match scanRequest text with
  | none => false
  | some (_, _, version) => version = ascii "HTTP/1.1" ∨ version = ascii "HTTP/1.0"

def requestFault (request : Bytes) : Option Fault :=
  (lineFault request).or (if isRequestLine (withoutReturn request) then none else some .malformed)

/-- The first fault of the header lines after `count` of them and `bytes` counted bytes. -/
def headersFault (count bytes : Nat) : List Bytes → Option Fault
  | [] => none
  | header :: headers =>
      let bytes := bytes + ((withoutReturn header).length + 1)
      (lineFault header).or <|
        if 64 ≤ count ∨ 8192 < bytes then some .tooLarge
        else if (58 : UInt8) ∉ withoutReturn header then some .malformed
        else headersFault (count + 1) bytes headers

/-- The first fault of a request, in the order in which its lines are read. -/
def firstFault (request : Bytes) (headers : List Bytes) : Option Fault :=
  (requestFault request).or (headersFault 0 ((withoutReturn request).length + 1) headers)

/-- The answers that are documented: 431 for a limit, 400 for a request that is not valid. -/
def AsDocumented (fault : Option Fault) (status : Nat) : Prop :=
  match fault with
  | some .tooLarge => status = 431
  | some .malformed => status = 400
  | some .invalidBytes => status = 400
  | none => status = 405 ∨ status = 404 ∨ status = 200 ∨ status = 503

/-- The status that the code sends for a fault. -/
def Fault.status : Fault → Nat
  | tooLarge => 431
  | malformed => 400
  | invalidBytes => 408

/-! ## Reading the lines -/

theorem lineFault_ne_malformed (frame : Bytes) : lineFault frame ≠ some .malformed := by
  unfold lineFault
  split_ifs
  · exact fun same => Fault.noConfusion (Option.some.inj same)
  · exact Option.some_ne_none _ ∘ Eq.symm
  · exact fun same => Fault.noConfusion (Option.some.inj same)

theorem lineOf_lineFault {frame : Bytes} (clean : lineFeed ∉ frame) :
    lineOf frame =
      match lineFault frame with
      | some .tooLarge => .overflow
      | some _ => .invalid
      | none => .line (withoutReturn frame) := by
  rw [lineOf_eq clean, lineFault]
  split_ifs <;> rfl

/-- A line of a request other than the empty one at its end. -/
structure IsHeader (frame : Bytes) : Prop where
  clean : lineFeed ∉ frame
  text : withoutReturn frame ≠ []

/-- The empty line at the end of the headers. -/
structure IsBlank (frame : Bytes) : Prop where
  clean : lineFeed ∉ frame
  text : withoutReturn frame = []

theorem IsBlank.lineOf {frame : Bytes} (blank : IsBlank frame) : lineOf frame = .line [] := by
  have short : ¬ 1023 < frame.length := by
    have text := blank.text
    unfold withoutReturn at text
    split at text
    · have length := congrArg List.length text
      rw [List.length_dropLast, List.length_nil] at length
      omega
    · simp [text]
  rw [lineOf_eq blank.clean, if_neg short, blank.text]
  rfl

variable {rest : Bytes}

/-- The loop ends at the empty line. -/
theorem readHeaders_blank {left bytes : Nat} {blank : Bytes} (empty : IsBlank blank) :
    readHeaders left bytes (blank ++ lineFeed :: rest) = none := by
  rw [readHeaders, receiveTextLine_frame empty.clean, empty.lineOf]
  rfl

/-- One header line. -/
theorem readHeaders_header {count bytes : Nat} {header : Bytes} (line : IsHeader header)
    (few : count ≤ 64) :
    readHeaders (64 - count) bytes (header ++ lineFeed :: rest) =
      match lineFault header with
      | some .tooLarge => some (plainReply 431 "Incomplete headers")
      | some _ => some (plainReply 408 "Incomplete headers")
      | none =>
          if 64 ≤ count ∨ 8192 < bytes + ((withoutReturn header).length + 1) then
            some (plainReply 431 "Headers too large")
          else if (58 : UInt8) ∉ withoutReturn header then some (plainReply 400 "Bad header")
          else
            readHeaders (64 - (count + 1)) (bytes + ((withoutReturn header).length + 1)) rest := by
  rw [readHeaders, receiveTextLine_frame line.clean, lineOf_lineFault line.clean]
  cases lineFault header with
  | some fault => cases fault <;> rfl
  | none =>
    dsimp only
    rw [if_neg line.text]
    by_cases full : count = 64
    · subst full
      rw [if_pos (.inl le_rfl)]
      rfl
    · obtain ⟨left, room⟩ : ∃ left, 64 - count = left + 1 := ⟨63 - count, by omega⟩
      have next : 64 - (count + 1) = left := by omega
      have below : ¬ 64 ≤ count := by omega
      simp only [room, next, below, false_or]

/-- The answer of the loop over the header lines is that of the first fault. -/
theorem readHeaders_status {headers : List Bytes} (lines : ∀ header ∈ headers, IsHeader header)
    {blank : Bytes} (empty : IsBlank blank) {count bytes : Nat} (few : count ≤ 64) :
    (readHeaders (64 - count) bytes (frames lineFeed (headers ++ [blank]) ++ rest)).map
        HttpReply.status = (headersFault count bytes headers).map Fault.status := by
  induction headers generalizing count bytes with
  | nil =>
    rw [List.nil_append, frames_cons, frames_nil, List.append_assoc, List.cons_append,
      readHeaders_blank empty]
    rfl
  | cons header headers ih =>
    obtain ⟨this, others⟩ := List.forall_mem_cons.mp lines
    rw [List.cons_append, frames_cons, List.append_assoc, List.cons_append,
      readHeaders_header this few, headersFault]
    cases found : lineFault header with
    | some fault =>
      cases fault with
      | tooLarge => rfl
      | malformed => exact absurd found (lineFault_ne_malformed header)
      | invalidBytes => rfl
    | none =>
      dsimp only
      rw [Option.none_or]
      split
      · rfl
      · next small =>
        rw [not_or, not_le] at small
        split
        · rfl
        · exact ih others small.1

/-! ## Answering a request -/

section Answers

variable (strtod : Bytes → StrtodResult) (clockText : Int → Bytes) (s : ServerState)
  (page : PageReadings) (allocated : Bool)

/-- The reply to a request whose lines are all accepted. -/
def acceptedReply (text : Bytes) : Option HttpReply :=
  match scanRequest text with
  | none => none
  | some (method, path, _) =>
      if method ≠ ascii "GET" then some (plainReply 405 "GET required")
      else if allocated then routeReply strtod clockText s page path
      else some (plainReply 503 "Capacity")

/-- The request line and the loop after it. -/
theorem serveHttpRequest_line {request : Bytes} (clean : lineFeed ∉ request) :
    serveHttpRequest strtod clockText s page allocated (request ++ lineFeed :: rest) =
      match requestFault request with
      | some .tooLarge => some (plainReply 431 "Incomplete request")
      | some .invalidBytes => some (plainReply 408 "Incomplete request")
      | some .malformed => some (plainReply 400 "Bad request")
      | none =>
          (readHeaders 64 ((withoutReturn request).length + 1) rest).or
            (acceptedReply strtod clockText s page allocated (withoutReturn request)) := by
  rw [serveHttpRequest, receiveTextLine_frame clean, lineOf_lineFault clean, requestFault]
  cases found : lineFault request with
  | some fault =>
    cases fault with
    | tooLarge => rfl
    | malformed => exact absurd found (lineFault_ne_malformed request)
    | invalidBytes => rfl
  | none =>
    dsimp only
    rw [Option.none_or, isRequestLine, acceptedReply]
    cases scanRequest (withoutReturn request) with
    | none => rfl
    | some words =>
      obtain ⟨method, path, version⟩ := words
      dsimp only
      by_cases known : version = ascii "HTTP/1.1" ∨ version = ascii "HTTP/1.0"
      · rw [if_neg fun both => known.elim both.1 both.2, if_pos (decide_eq_true known)]
        cases readHeaders 64 ((withoutReturn request).length + 1) rest with
        | some refused => rfl
        | none => rfl
      · rw [if_pos (not_or.mp known), if_neg (by simpa using known)]

variable {request blank : Bytes} {headers : List Bytes}

/-- A request with a fault is refused for the first one. -/
theorem serveHttpRequest_fault (clean : lineFeed ∉ request)
    (lines : ∀ header ∈ headers, IsHeader header) (empty : IsBlank blank) {fault : Fault}
    (first : firstFault request headers = some fault) :
    ∃ reply, serveHttpRequest strtod clockText s page allocated
        (frames lineFeed (request :: (headers ++ [blank])) ++ rest) = some reply ∧
      reply.status = fault.status := by
  rw [frames_cons, List.append_assoc, List.cons_append, serveHttpRequest_line _ _ _ _ _ clean]
  rw [firstFault] at first
  cases found : requestFault request with
  | some fault' =>
    rw [found, Option.some_or] at first
    obtain rfl := Option.some.inj first
    cases fault' <;> exact ⟨_, rfl, rfl⟩
  | none =>
    rw [found, Option.none_or] at first
    have status : (readHeaders (64 - 0) ((withoutReturn request).length + 1)
        (frames lineFeed (headers ++ [blank]) ++ rest)).map HttpReply.status = _ :=
      readHeaders_status lines empty (by decide)
    rw [first, Option.map_some] at status
    obtain ⟨reply, refused, same⟩ := Option.map_eq_some_iff.mp status
    dsimp only
    rw [refused]
    exact ⟨reply, rfl, same⟩

/-- A request without a fault is answered. -/
theorem serveHttpRequest_accepted (clean : lineFeed ∉ request)
    (lines : ∀ header ∈ headers, IsHeader header) (empty : IsBlank blank)
    (first : firstFault request headers = none) :
    serveHttpRequest strtod clockText s page allocated
        (frames lineFeed (request :: (headers ++ [blank])) ++ rest) =
      acceptedReply strtod clockText s page allocated (withoutReturn request) := by
  rw [firstFault, Option.or_eq_none_iff] at first
  obtain ⟨line, others⟩ := first
  rw [frames_cons, List.append_assoc, List.cons_append, serveHttpRequest_line _ _ _ _ _ clean, line]
  have status : (readHeaders (64 - 0) ((withoutReturn request).length + 1)
      (frames lineFeed (headers ++ [blank]) ++ rest)).map HttpReply.status = _ :=
    readHeaders_status lines empty (by decide)
  rw [others, Option.map_none, Option.map_eq_none_iff] at status
  dsimp only
  rw [status, Option.none_or]

end Answers

/-! ## The statuses -/

namespace ServerThreads

variable {strtod : Bytes → StrtodResult} {startedAt bootId : Long} {s : ServerThreads}

/-- In a reachable state every path has an answer. -/
theorem routeReply_status (h : (threadsMachine strtod startedAt bootId).Reachable s)
    (clockText : Int → Bytes) (readings : TimeReadings) (now : Int) (tcpOk udpOk : Bool)
    (path : Bytes) :
    ∃ reply, routeReply strtod clockText s.toServerState ⟨now, readings.val, tcpOk, udpOk⟩ path =
        some reply ∧ (reply.status = 404 ∨ reply.status = 200 ∨ reply.status = 503) := by
  obtain ⟨⟨-, -, status⟩, ⟨-, -, nodes⟩, alerts⟩ := json_bodies h readings now tcpOk udpOk
  unfold routeReply
  dsimp only
  split
  · exact ⟨_, rfl, .inr (.inl rfl)⟩
  · split
    · next known =>
      have built : ∃ body, buildJson httpBodySize path s.registry.toRegistrySnapshot
          ⟨now, readings.val, tcpOk, udpOk⟩ = some body := by
        rcases known with rfl | rfl | rfl
        · exact ⟨_, status.written _ le_rfl⟩
        · exact ⟨_, nodes.written _ le_rfl⟩
        · exact ⟨_, alerts.written _ le_rfl⟩
      obtain ⟨body, built⟩ := built
      rw [built, Option.map_some]
      refine ⟨_, rfl, .inr ?_⟩
      dsimp only
      split
      · exact .inr rfl
      · exact .inl rfl
    · exact ⟨_, rfl, .inl rfl⟩

/-- An accepted request is answered 405, 404, 200 or 503. -/
theorem acceptedReply_status (h : (threadsMachine strtod startedAt bootId).Reachable s)
    (clockText : Int → Bytes) (readings : TimeReadings) (now : Int) (tcpOk udpOk allocated : Bool)
    {text : Bytes} (line : isRequestLine text = true) :
    ∃ reply, acceptedReply strtod clockText s.toServerState ⟨now, readings.val, tcpOk, udpOk⟩
        allocated text = some reply ∧ AsDocumented none reply.status := by
  unfold isRequestLine at line
  unfold acceptedReply
  cases words : scanRequest text with
  | none => simp [words] at line
  | some found =>
    obtain ⟨method, path, version⟩ := found
    dsimp only
    split
    · exact ⟨_, rfl, .inl rfl⟩
    · split
      · obtain ⟨reply, answered, status⟩ := routeReply_status h clockText readings now tcpOk udpOk
          path
        exact ⟨reply, answered, .inr status⟩
      · exact ⟨_, rfl, .inr (.inr (.inr rfl))⟩

/-- Every whole request is answered, and as documented unless its first fault is a byte that is
not printable in a line that fits: that one is answered as if the request were incomplete. -/
theorem status_iff (h : (threadsMachine strtod startedAt bootId).Reachable s)
    (clockText : Int → Bytes) (readings : TimeReadings) (now : Int) (tcpOk udpOk allocated : Bool)
    {request blank : Bytes} {headers : List Bytes} (clean : lineFeed ∉ request)
    (lines : ∀ header ∈ headers, IsHeader header) (empty : IsBlank blank) (rest : Bytes) :
    ∃ reply, serveHttpRequest strtod clockText s.toServerState ⟨now, readings.val, tcpOk, udpOk⟩
        allocated (frames lineFeed (request :: (headers ++ [blank])) ++ rest) = some reply ∧
      (AsDocumented (firstFault request headers) reply.status ↔
        firstFault request headers ≠ some .invalidBytes) := by
  cases first : firstFault request headers with
  | some fault =>
    obtain ⟨reply, answered, status⟩ := serveHttpRequest_fault strtod clockText s.toServerState
      ⟨now, readings.val, tcpOk, udpOk⟩ allocated clean lines empty first
    refine ⟨reply, answered, ?_⟩
    rw [status]
    cases fault with
    | tooLarge => simp [AsDocumented, Fault.status]
    | malformed => simp [AsDocumented, Fault.status]
    | invalidBytes => simp [AsDocumented, Fault.status]
  | none =>
    have text : isRequestLine (withoutReturn request) = true := by
      rw [firstFault, Option.or_eq_none_iff, requestFault, Option.or_eq_none_iff] at first
      by_contra other
      rw [if_neg other] at first
      exact absurd first.1.2 (Option.some_ne_none _)
    obtain ⟨reply, answered, status⟩ := acceptedReply_status h clockText readings now tcpOk udpOk
      allocated text
    rw [serveHttpRequest_accepted _ _ _ _ _ clean lines empty first]
    exact ⟨reply, answered, fun _ => (Option.some_ne_none _).symm, fun _ => status⟩

/-- A tab in a header. -/
theorem tab_times_out :
    ∃ reply, serveHttpRequest strtodDigits (fun _ => ascii "00:00:00")
        (threadsInit ⟨7, by decide⟩ ⟨1, by decide⟩).toServerState
        ⟨9, alarmedReadings.val, true, true⟩ true
        (frames lineFeed [ascii "GET / HTTP/1.1", ascii "X:\t1", []]) = some reply ∧
      reply.status = 408 ∧
      ¬ AsDocumented (firstFault (ascii "GET / HTTP/1.1") [ascii "X:\t1"]) reply.status := by
  refine ⟨plainReply 408 "Incomplete headers", by decide +kernel, rfl, ?_⟩
  have first : firstFault (ascii "GET / HTTP/1.1") [ascii "X:\t1"] = some .invalidBytes := by
    decide +kernel
  rw [first]
  intro documented
  exact absurd (show (408 : Nat) = 400 from documented) (by decide)

/-- A request with one header, its lines ended by carriage returns. -/
theorem status_iff_sample :
    ∃ reply, serveHttpRequest strtodDigits (fun _ => ascii "00:00:00")
        (threadsInit ⟨7, by decide⟩ ⟨1, by decide⟩).toServerState
        ⟨9, alarmedReadings.val, true, true⟩ true
        (frames lineFeed [ascii "GET /nodes HTTP/1.1\r", ascii "Host: n\r", ascii "\r"]) =
          some reply ∧
      AsDocumented (firstFault (ascii "GET /nodes HTTP/1.1\r") [ascii "Host: n\r"])
        reply.status := by
  have first : firstFault (ascii "GET /nodes HTTP/1.1\r") [ascii "Host: n\r"] = none := by
    decide +kernel
  obtain ⟨reply, answered, documented⟩ := status_iff
    (Machine.Reachable.init (threadsMachine strtodDigits ⟨7, by decide⟩ ⟨1, by decide⟩))
    (fun _ => ascii "00:00:00") alarmedReadings 9 true true true
    (show lineFeed ∉ ascii "GET /nodes HTTP/1.1\r" by decide)
    (List.forall_mem_singleton.mpr (show IsHeader (ascii "Host: n\r") from ⟨by decide, by decide⟩))
    (show IsBlank (ascii "\r") from ⟨by decide, by decide⟩) []
  rw [List.append_nil] at answered
  exact ⟨reply, answered, documented.mpr (first ▸ (Option.some_ne_none _).symm)⟩

end ServerThreads

end Telep
