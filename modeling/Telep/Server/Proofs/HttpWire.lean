import Telep.Misc.HttpResponses
import Telep.Server.HttpWire
import Telep.Server.Proofs.RouteRequests

/-!
# What a client reads of a reply

However the bytes of a reply go out, a client that waits for a whole response reads the reply, or
nothing (`replies_read_whole`).
-/

namespace Telep

/-! ## The sending loop -/

section Sending

variable {buffer : Bytes} {rounds : List SendRound}

/-- The bytes on the wire begin the buffer, and they are all of it if and only if the call
returns 0. -/
theorem sendFullBuffer_wire (buffer : Bytes) (rounds : List SendRound) :
    (sendFullBuffer buffer rounds).wire <+: buffer ∧
      ((sendFullBuffer buffer rounds).complete = true ↔
        (sendFullBuffer buffer rounds).wire = buffer) := by
  induction rounds generalizing buffer with
  | nil =>
    refine ⟨List.nil_prefix, ?_⟩
    rw [sendFullBuffer, decide_eq_true_iff]
    exact eq_comm
  | cons round rounds ih =>
    unfold sendFullBuffer
    by_cases empty : buffer = []
    · rw [if_pos empty, empty]
      exact ⟨List.nil_prefix, fun _ => rfl, fun _ => rfl⟩
    · have stops : [] <+: buffer ∧ (false = true ↔ [] = buffer) :=
        ⟨List.nil_prefix, fun no => absurd no Bool.false_ne_true, fun no => absurd no.symm empty⟩
      rw [if_neg empty]
      cases round with
      | late => exact stops
      | notReady => exact stops
      | failed => exact stops
      | again => exact ih buffer
      | sent more =>
        obtain ⟨begins, whole⟩ := ih (buffer.drop (more + 1))
        have parts := List.take_append_drop (more + 1) buffer
        refine ⟨?_, whole.trans ?_⟩
        · have wire := (List.prefix_append_right_inj (buffer.take (more + 1))).mpr begins
          rwa [parts] at wire
        · constructor
          · intro same
            exact (congrArg _ same).trans parts
          · intro same
            exact List.append_cancel_left (same.trans parts.symm)

/-- A round that takes bytes. -/
def SendRound.isSent : SendRound → Bool
  | .sent _ => true
  | _ => false

/-- A round that does not end the loop. -/
def SendRound.goesOn : SendRound → Bool
  | .sent _ | .again => true
  | _ => false

/-- While no round ends the loop, every round that takes bytes takes one at least. -/
theorem sendFullBuffer_complete (goesOn : ∀ round ∈ rounds, round.goesOn = true)
    (enough : buffer.length ≤ rounds.countP SendRound.isSent) :
    (sendFullBuffer buffer rounds).complete = true ∧
      (∀ round ∈ (sendFullBuffer buffer rounds).rounds, round.goesOn = true) ∧
      rounds.countP SendRound.isSent ≤
        buffer.length + (sendFullBuffer buffer rounds).rounds.countP SendRound.isSent := by
  induction rounds generalizing buffer with
  | nil =>
    obtain rfl := List.length_eq_zero_iff.mp (Nat.le_zero.mp enough)
    exact ⟨rfl, goesOn, Nat.zero_le _⟩
  | cons round rounds ih =>
    obtain ⟨this, others⟩ := List.forall_mem_cons.mp goesOn
    unfold sendFullBuffer
    by_cases empty : buffer = []
    · rw [if_pos empty]
      exact ⟨rfl, goesOn, Nat.le_add_left _ _⟩
    · have some := List.length_pos_of_ne_nil empty
      rw [if_neg empty]
      cases round with
      | late => cases this
      | notReady => cases this
      | failed => cases this
      | again => exact ih others enough
      | sent more =>
        rw [List.countP_cons_of_pos rfl] at enough ⊢
        have enough' : (buffer.drop (more + 1)).length ≤ rounds.countP SendRound.isSent := by
          rw [List.length_drop]
          omega
        obtain ⟨complete, rest, counts⟩ := ih others enough'
        refine ⟨complete, rest, ?_⟩
        rw [List.length_drop] at counts
        show _ ≤ buffer.length + (sendFullBuffer (buffer.drop (more + 1)) rounds).rounds.countP _
        omega

end Sending

/-! ## The bodies -/

section Bodies

variable {bodySize : Nat} {body body' : Bytes}

theorem append_length_lt (room : body.length < bodySize) (text : Bytes) :
    (append bodySize body text).length < bodySize := by
  rw [append, if_neg (Nat.not_le.mpr room), List.length_append]
  have cut : (snprintf (bodySize - body.length) text).length < bodySize - body.length :=
    snprintf_length_lt (Nat.sub_pos_of_lt room)
  omega

theorem appendAll_length_lt (room : body.length < bodySize) (texts : List Bytes) :
    (appendAll bodySize body texts).length < bodySize := by
  induction texts generalizing body with
  | nil => exact room
  | cons text texts ih => exact ih (append_length_lt room text)

theorem appendFields_length_lt {first : Bool} {fields : List Bytes} (room : body.length < bodySize)
    (appended : appendFields bodySize body first fields = some body') :
    body'.length < bodySize := by
  induction fields generalizing body first with
  | nil => exact Option.some.inj appended ▸ room
  | cons field fields ih =>
    rw [appendFields] at appended
    split at appended
    · cases appended
    · exact ih (append_length_lt room _) appended

theorem appendNode_length_lt {now : Int} {first : Bool} {node : TelemetryNode}
    (room : body.length < bodySize)
    (appended : appendNode bodySize now body first node = some body') :
    body'.length < bodySize := by
  rw [appendNode] at appended
  obtain ⟨fields, stats, rfl⟩ := Option.map_eq_some_iff.mp appended
  have taken {text : Bytes} (room : text.length < bodySize) :
      (if text.getLast? = some 125 then text.dropLast else text).length < bodySize := by
    split
    · rw [List.length_dropLast]
      exact Nat.lt_of_le_of_lt (Nat.sub_le _ _) room
    · exact room
  refine append_length_lt (appendFields_length_lt (append_length_lt ?_ _) stats) _
  exact taken (append_length_lt room _)

theorem appendNodes_length_lt {now : Int} {first : Bool} {nodes : List TelemetryNode}
    (room : body.length < bodySize)
    (appended : appendNodes bodySize now body first nodes = some body') :
    body'.length < bodySize := by
  induction nodes generalizing body first with
  | nil => exact Option.some.inj appended ▸ room
  | cons node nodes ih =>
    obtain ⟨body'', this, rest⟩ := Option.bind_eq_some_iff.mp appended
    exact ih (appendNode_length_lt room this) rest

theorem appendAlerts_length_lt {first : Bool} (room : body.length < bodySize)
    (alerts : List Alert) : (appendAlerts bodySize body first alerts).length < bodySize := by
  induction alerts generalizing body first with
  | nil => exact room
  | cons alert alerts ih => exact ih (append_length_lt room _)

/-- A JSON body fits in its buffer, in any state. -/
theorem buildJson_length_lt {path : Bytes} {snapshot : RegistrySnapshot} {page : PageReadings}
    (positive : 0 < bodySize) (built : buildJson bodySize path snapshot page = some body) :
    body.length < bodySize := by
  have start (text : Bytes) : (append bodySize [] text).length < bodySize :=
    append_length_lt positive text
  rw [buildJson] at built
  split at built
  · obtain ⟨fields, appended, rfl⟩ := Option.map_eq_some_iff.mp built
    exact append_length_lt (appendFields_length_lt (start _) appended) _
  split at built
  · obtain ⟨nodes, appended, rfl⟩ := Option.map_eq_some_iff.mp built
    exact append_length_lt (appendNodes_length_lt (start _) appended) _
  · cases built
    exact append_length_lt (appendAlerts_length_lt (start _) _) _

theorem buildHtml_length_lt (positive : 0 < bodySize) (strtod : Bytes → StrtodResult)
    (clockText : Int → Bytes) (snapshot : RegistrySnapshot) (page : PageReadings) :
    (buildHtml bodySize strtod clockText snapshot page).length < bodySize := by
  unfold buildHtml
  exact appendAll_length_lt positive _

end Bodies

/-! ## The header -/

/-- A content type that a header has room for and that is read back. -/
def IsContentType (type : Bytes) : Prop :=
  type.length ≤ 24 ∧ lineFeed ∉ type ∧ type.head? ≠ some 32
  deriving Decidable

/-- A reply whose header fits in its buffer and can be read back. -/
structure HttpReply.Fits (reply : HttpReply) : Prop where
  status : reply.status < 1000
  type : IsContentType reply.type
  body : reply.body.length < httpBodySize

/-- The response that a reply is for its client. -/
def HttpReply.response (reply : HttpReply) : Response where
  status := reply.status
  fields := [(ascii "Content-Type", reply.type),
    (ascii "Content-Length", decimal reply.body.length), (ascii "Connection", ascii "close")]
  body := reply.body

namespace HttpReply.Fits

variable {reply : HttpReply}

/-- The buffer of 256 bytes holds the whole header. -/
theorem header_eq (fits : reply.Fits) : reply.header = reply.response.head (ascii "Response") := by
  have status := decimal_length_le (n := reply.status) (k := 3) (by decide) fits.status
  have length := decimal_length_le (n := reply.body.length) (k := 5) (by decide)
    (Nat.lt_trans fits.body (by decide))
  have type := fits.type.1
  rw [HttpReply.header, snprintf_of_length]
  · simp only [Response.head, response, Response.fieldText, List.flatMap_cons, List.flatMap_nil,
      List.append_assoc, List.append_nil]
    rfl
  · simp only [List.length_append]
    have first : (ascii "HTTP/1.1 ").length = 9 := rfl
    have second : (ascii " Response\r\nContent-Type: ").length = 25 := rfl
    have third : (ascii "\r\nContent-Length: ").length = 18 := rfl
    have fourth : (ascii "\r\nConnection: close\r\n\r\n").length = 23 := rfl
    omega

theorem readable (fits : reply.Fits) : reply.response.Readable (ascii "Response") := by
  refine ⟨by decide, ?_, ?_⟩
  · have digits : lineFeed ∉ decimal reply.body.length := fun member =>
      absurd (decimal_digits _ _ member).1 (by decide)
    have blank : (decimal reply.body.length).head? ≠ some 32 := fun first =>
      absurd (decimal_digits _ _ (List.mem_of_mem_head? first)).1 (by decide)
    simp only [HttpReply.response, List.forall_mem_cons, List.not_mem_nil, false_implies,
      implies_true, and_true]
    have type : (58 : UInt8) ∉ ascii "Content-Type" ∧ lineFeed ∉ ascii "Content-Type" := by decide
    have length : (58 : UInt8) ∉ ascii "Content-Length" ∧ lineFeed ∉ ascii "Content-Length" := by
      decide
    refine ⟨⟨type.1, ?_, fits.type.2.2⟩, ⟨length.1, ?_, blank⟩, ⟨by decide, by decide, by decide⟩⟩
    · exact fun member => (List.mem_append.mp member).elim type.2 fits.type.2.1
    · exact fun member => (List.mem_append.mp member).elim length.2 digits
  · rfl

end HttpReply.Fits

/-! ## The replies -/

section Replies

variable {strtod : Bytes → StrtodResult} {clockText : Int → Bytes} {s : ServerState}
  {page : PageReadings} {allocated : Bool} {reply : HttpReply}

theorem fits_plainReply {status : Nat} {text : String} (low : status < 1000)
    (short : (ascii text).length < httpBodySize) : (plainReply status text).Fits :=
  ⟨low, (by decide : IsContentType (ascii "text/plain")), short⟩

/-- The refusals of the headers. -/
theorem readHeaders_fits {left bytes : Nat} {arriving : Bytes}
    (refused : readHeaders left bytes arriving = some reply) : reply.Fits := by
  induction left generalizing bytes arriving with
  | zero =>
    unfold readHeaders at refused
    split at refused
    iterate 3 exact Option.some.inj refused ▸ fits_plainReply (by decide) (by decide)
    dsimp only at refused
    split at refused
    · cases refused
    · exact Option.some.inj refused ▸ fits_plainReply (by decide) (by decide)
  | succ left ih =>
    unfold readHeaders at refused
    split at refused
    iterate 3 exact Option.some.inj refused ▸ fits_plainReply (by decide) (by decide)
    dsimp only at refused
    split at refused
    · cases refused
    split at refused
    · exact Option.some.inj refused ▸ fits_plainReply (by decide) (by decide)
    split at refused
    · exact Option.some.inj refused ▸ fits_plainReply (by decide) (by decide)
    · exact ih refused

theorem routeReply_fits {path : Bytes}
    (answer : routeReply strtod clockText s page path = some reply) : reply.Fits := by
  have json : IsContentType (ascii "application/json") := by decide
  unfold routeReply at answer
  dsimp only at answer
  split at answer
  · have html := buildHtml_length_lt (by decide : 0 < httpBodySize) strtod clockText
      s.registry.toRegistrySnapshot page
    have type : IsContentType (ascii "text/html; charset=utf-8") := by decide
    generalize buildHtml httpBodySize strtod clockText s.registry.toRegistrySnapshot
      page = body at html answer
    obtain rfl := Option.some.inj answer
    exact ⟨(by decide : 200 < 1000), type, html⟩
  split at answer
  · obtain ⟨body, built, rfl⟩ := Option.map_eq_some_iff.mp answer
    refine ⟨?_, json, buildJson_length_lt (by decide) built⟩
    dsimp only
    split <;> decide
  · obtain rfl := Option.some.inj answer
    exact ⟨by decide, json, by decide⟩

theorem serveHttpRequest_fits {arriving : Bytes}
    (served : serveHttpRequest strtod clockText s page allocated arriving = some reply) :
    reply.Fits := by
  unfold serveHttpRequest at served
  split at served
  iterate 3 exact Option.some.inj served ▸ fits_plainReply (by decide) (by decide)
  split at served
  · exact Option.some.inj served ▸ fits_plainReply (by decide) (by decide)
  split at served
  · exact Option.some.inj served ▸ fits_plainReply (by decide) (by decide)
  split at served
  · next refused => exact Option.some.inj served ▸ readHeaders_fits refused
  split at served
  · exact Option.some.inj served ▸ fits_plainReply (by decide) (by decide)
  split at served
  · exact routeReply_fits served
  · exact Option.some.inj served ▸ fits_plainReply (by decide) (by decide)

/-- Where every path has an answer, every request has one. -/
theorem serveHttpRequest_answered (allocated : Bool) (arriving : Bytes)
    (answers : ∀ path, ∃ reply, routeReply strtod clockText s page path = some reply) :
    ∃ reply, serveHttpRequest strtod clockText s page allocated arriving = some reply := by
  unfold serveHttpRequest
  split
  iterate 3 exact ⟨_, rfl⟩
  split
  · exact ⟨_, rfl⟩
  split
  · exact ⟨_, rfl⟩
  split
  · exact ⟨_, rfl⟩
  split
  · exact ⟨_, rfl⟩
  split
  · exact answers _
  · exact ⟨_, rfl⟩

end Replies

/-! ## What the client reads -/

section Calls

variable {reply : HttpReply} {rounds : List SendRound}

/-- The bytes on the wire begin the header and the body, and they are all of it if and only if both
calls return 0. -/
theorem httpReply_wire (reply : HttpReply) (rounds : List SendRound) :
    (httpReply reply rounds).wire <+: reply.header ++ reply.body ∧
      ((httpReply reply rounds).complete = true ↔
        (httpReply reply rounds).wire = reply.header ++ reply.body) := by
  obtain ⟨begins, whole⟩ := sendFullBuffer_wire reply.header rounds
  unfold httpReply
  by_cases sent : (sendFullBuffer reply.header rounds).complete = true
  · obtain ⟨begins', whole'⟩ :=
      sendFullBuffer_wire reply.body (sendFullBuffer reply.header rounds).rounds
    rw [if_pos sent]
    dsimp only
    rw [whole.mp sent]
    exact ⟨(List.prefix_append_right_inj _).mpr begins', whole'.trans (List.append_right_inj _).symm⟩
  · rw [if_neg sent]
    refine ⟨begins.trans (List.prefix_append _ _), fun this => absurd this sent, fun same => ?_⟩
    exact whole.mpr (begins.eq_of_length (Nat.le_antisymm begins.length_le (by
      rw [same, List.length_append]
      exact Nat.le_add_right _ _)))

/-- A client that takes the bytes before the deadlines gets the whole reply. -/
theorem httpReply_complete (goesOn : ∀ round ∈ rounds, round.goesOn = true)
    (enough : (reply.header ++ reply.body).length ≤ rounds.countP SendRound.isSent) :
    (httpReply reply rounds).complete = true := by
  rw [List.length_append] at enough
  obtain ⟨sent, others, counts⟩ := sendFullBuffer_complete goesOn
    (show reply.header.length ≤ rounds.countP SendRound.isSent by omega)
  unfold httpReply
  rw [if_pos sent]
  exact (sendFullBuffer_complete others (by omega)).1

/-- A client that waits for a whole response reads the reply, or nothing. -/
theorem HttpReply.Fits.read {limit : Nat} (fits : reply.Fits) (few : 3 < limit)
    (rounds : List SendRound) :
    readResponse limit (httpReply reply rounds).wire =
      if (httpReply reply rounds).complete then some (reply.response, []) else none := by
  have exact := exact_readResponse fits.readable (show reply.response.fields.length < limit from few)
  rw [← fits.header_eq] at exact
  obtain ⟨begins, whole⟩ := httpReply_wire reply rounds
  split
  · next sent =>
    have reads := exact.reads []
    rw [List.append_nil] at reads
    rw [whole.mp sent]
    exact reads
  · next cut => exact exact.waits _ begins (mt whole.mpr cut)

end Calls

namespace ServerThreads

variable {strtod : Bytes → StrtodResult} {startedAt bootId : Long} {s : ServerThreads}

/-- In every reachable state every request is answered, and the header of the answer is not cut.
However its bytes go out, the client reads from them the status, the fields and the body of this
answer if all calls succeed, and otherwise nothing; they succeed if the client takes the bytes
before the deadline of each of them. -/
theorem replies_read_whole (h : (threadsMachine strtod startedAt bootId).Reachable s)
    (clockText : Int → Bytes) (readings : TimeReadings) (now : Int) (tcpOk udpOk allocated : Bool)
    (arriving : Bytes) {limit : Nat} (few : 3 < limit) :
    ∃ reply, serveHttpRequest strtod clockText s.toServerState ⟨now, readings.val, tcpOk, udpOk⟩
        allocated arriving = some reply ∧
      reply.header = reply.response.head (ascii "Response") ∧
      ∀ rounds,
        readResponse limit (httpReply reply rounds).wire =
            (if (httpReply reply rounds).complete then some (reply.response, []) else none) ∧
          ((∀ round ∈ rounds, round.goesOn = true) →
            (reply.header ++ reply.body).length ≤ rounds.countP SendRound.isSent →
            (httpReply reply rounds).complete = true) := by
  obtain ⟨reply, served⟩ := serveHttpRequest_answered allocated arriving fun path =>
    (routeReply_status h clockText readings now tcpOk udpOk path).imp fun _ => And.left
  have fits := serveHttpRequest_fits served
  exact ⟨reply, served, fits.header_eq, fun rounds => ⟨fits.read few rounds, httpReply_complete⟩⟩

/-- Twelve bytes of a refusal, and all of it. -/
theorem replies_read_whole_sample :
    let reply := plainReply 408 "Incomplete request"
    readResponse 64 (httpReply reply [.again, .sent 9, .sent 1, .late]).wire = none ∧
      readResponse 64 (httpReply reply [.sent 90, .sent 90]).wire = some (reply.response, []) := by
  obtain ⟨reply, served, -, reads⟩ := replies_read_whole (show (threadsMachine strtodDigits
    ⟨7, by decide⟩ ⟨1, by decide⟩).Reachable _ from ⟨[], rfl⟩) (fun _ => ascii "00:00:09")
    alarmedReadings 9 true true true [] (by decide : 3 < 64)
  obtain rfl : plainReply 408 "Incomplete request" = reply := Option.some.inj served
  exact ⟨(reads _).1, (reads _).1⟩

end ServerThreads

end Telep
