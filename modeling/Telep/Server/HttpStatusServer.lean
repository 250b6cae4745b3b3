import Telep.Misc.Tokens
import Telep.Server.SocketHelpers
import Telep.Server.StatusPageCss
import Telep.Server.TcpCommandServer

/-!
# The status page (`http_status_server.c`)

The bodies are built by appending to a buffer that cuts what does not fit. `strtok_r` is `tokens`.
A brace in a string is written `\x7b` or `\x7d`.
-/

namespace Telep

abbrev httpBodySize : Nat := 65536

/-- `append`: what does not fit in the buffer with its terminator is cut. -/
def append (bodySize : Nat) (body text : Bytes) : Bytes :=
  if bodySize ≤ body.length then body else body ++ snprintf (bodySize - body.length) text

/-- Several calls of `append` in a row. -/
def appendAll (bodySize : Nat) (body : Bytes) (texts : List Bytes) : Bytes :=
  texts.foldl (append bodySize) body

/-- `strchr(field, '=')` and the texts before and after it, `none` for a null pointer. -/
def splitField (field : Bytes) : Option (Bytes × Bytes) :=
  if equalsSign ∈ field then
    some (field.takeWhile (· ≠ equalsSign), (field.dropWhile (· ≠ equalsSign)).drop 1)
  else none

/-- What a body depends on besides the state: `time(NULL)` at its beginning, the readings of
`format_system_status` and those of `service_healthy`. -/
structure PageReadings where
  now : Int
  status : Readings
  tcpOk : Bool
  udpOk : Bool

/-! ## JSON -/

section Json

variable (bodySize : Nat)

/-- The loop over the fields of a text; `none` where it writes through a null pointer. -/
def appendFields (body : Bytes) (first : Bool) : List Bytes → Option Bytes
  | [] => some body
  | field :: fields =>
      match splitField field with
      | none => none
      | some (key, value) =>
          appendFields
            (append bodySize body ((if first then [] else ascii ",") ++ ascii "\"" ++ key ++
              ascii "\":" ++ value)) false fields

/-- The object of a node in `/nodes`. -/
def appendNode (now : Int) (body : Bytes) (first : Bool) (node : TelemetryNode) : Option Bytes :=
  let body := append bodySize body ((if first then [] else ascii ",") ++ ascii "\x7b\"id\":\"" ++
    node.nodeId ++ ascii "\",\"active\":" ++
    (if nodeIsActive node now then ascii "true" else ascii "false") ++ ascii ",\"last_seen\":" ++
    formatInt node.lastSeen ++ ascii ",\"measurements\":\"" ++ formatMeasurements node maxLine ++
    ascii "\"\x7d")
  -- the closing brace is taken back
  let body := if body.getLast? = some 125 then body.dropLast else body
  let stats := formatNodeStats node maxLine
  let body := append bodySize body (ascii ",\"session\":\"" ++ node.session ++
    ascii "\",\"statistics\":\x7b")
  (appendFields bodySize body true (tokens pairSeparator stats)).map fun body =>
    append bodySize body (ascii "\x7d\x7d")

def appendNodes (now : Int) (body : Bytes) (first : Bool) : List TelemetryNode → Option Bytes
  | [] => some body
  | node :: nodes =>
      (appendNode bodySize now body first node).bind fun body => appendNodes now body false nodes

/-- The object of an alert in `/alerts`. -/
def alertObject (alert : Alert) : Bytes :=
  ascii "\x7b\"ts\":" ++ formatInt alert.timestamp ++ ascii ",\"node\":\"" ++ alert.nodeId ++
    ascii "\",\"type\":\"" ++ alert.alertType ++ ascii "\",\"value\":" ++
    formatFixed2 alert.value ++ ascii "\x7d"

def appendAlerts (body : Bytes) (first : Bool) : List Alert → Bytes
  | [] => body
  | alert :: alerts =>
      appendAlerts (append bodySize body ((if first then [] else ascii ",") ++ alertObject alert))
        false alerts

/-- `build_json`; `none` where it writes through a null pointer. -/
def buildJson (path : Bytes) (snapshot : RegistrySnapshot) (page : PageReadings) : Option Bytes :=
  if path = ascii "/status" then
    let status := formatSystemStatus snapshot page.status maxLine
    (appendFields bodySize (append bodySize [] (ascii "\x7b")) true
      (tokens pairSeparator status)).map fun body => append bodySize body (ascii "\x7d")
  else if path = ascii "/nodes" then
    (appendNodes bodySize page.now (append bodySize [] (ascii "[")) true
      (registeredNodes snapshot)).map fun body => append bodySize body (ascii "]")
  else
    some (append bodySize (appendAlerts bodySize (append bodySize [] (ascii "[")) true
      (shownAlerts snapshot)) (ascii "]"))

end Json

/-! ## HTML -/

/-- `%02ld` of a number from 0 to 59. -/
def twoDigits (n : Nat) : Bytes := [UInt8.ofNat (48 + n / 10), UInt8.ofNat (48 + n % 10)]

/-- `format_uptime`, in a buffer of 32 bytes. -/
def formatUptime (seconds : Int) : Bytes :=
  snprintf 32 <|
    if seconds < 60 then formatInt seconds ++ ascii " s"
    else if seconds < 3600 then
      formatInt (seconds / 60) ++ ascii "m " ++ twoDigits (seconds % 60).toNat ++ ascii "s"
    else
      formatInt (seconds / 3600) ++ ascii "h " ++ twoDigits (seconds % 3600 / 60).toNat ++ ascii "m"

/-- `measurement_is_hot`. The number is not finite, and `none`, for no text that is printed. -/
def measurementIsHot (strtod : Bytes → StrtodResult) (name value : Bytes) : Bool :=
  if name = ascii "STATUS" then value ≠ ascii "OK"
  else if (strtod value).unread = value then false
  else
    match (strtod value).value with
    | none => false
    | some number =>
        if name = ascii "TEMP" then tempMax < number
        else if name = ascii "HUM" then humMax < number
        else if name = ascii "POWER" then powerMax < number
        else if name = ascii "VIB" then vibMax < number
        else false

/-- The fields of a text that contain `=`, split there. -/
def splitFields (text : Bytes) : List (Bytes × Bytes) :=
  (tokens pairSeparator text).filterMap splitField

/-- The chip of a variable. -/
def chip (strtod : Bytes → StrtodResult) (field : Bytes × Bytes) : Bytes :=
  ascii "<span class='chip" ++ (if measurementIsHot strtod field.1 field.2 then ascii " hot" else []) ++
    ascii "'><b>" ++ field.1 ++ ascii "</b>" ++ field.2 ++ ascii "</span>"

/-- What `append_chips` appends. -/
def appendChips (strtod : Bytes → StrtodResult) (measurements : Bytes) : List Bytes :=
  [ascii "<div class='chips'>"] ++
    (splitFields (snprintf maxLine measurements)).map (chip strtod) ++ [ascii "</div>"]

/-- The row of a node. -/
def nodeRowHtml (strtod : Bytes → StrtodResult) (now : Int) (node : TelemetryNode) : List Bytes :=
  let isActive := nodeIsActive node now
  [ascii "<tr><td class='id'>" ++ node.nodeId ++ ascii "</td><td><span class='badge" ++
      (if isActive then [] else ascii " warn") ++ ascii "'>" ++
      (if isActive then ascii "active" else ascii "inactive") ++ ascii "</span></td>"] ++
    (if node.lastSeen ≠ 0 then
      [ascii "<td class='num'>" ++ formatInt (now - node.lastSeen) ++ ascii " s ago</td><td>"] ++
        appendChips strtod (formatMeasurements node maxLine)
    else [ascii "<td class='muted'>-</td><td class='muted'>No data yet"]) ++
    [ascii "</td></tr>"]

/-- The section of the nodes. -/
def nodesHtml (strtod : Bytes → StrtodResult) (now : Int) (snapshot : RegistrySnapshot) :
    List Bytes :=
  let registered := countRegisteredNodes snapshot
  let active := countActiveNodes snapshot now
  [ascii "<section><h2>Nodes and last measurements <small>" ++ decimal registered ++
      ascii " registered, " ++ decimal active ++ ascii " active</small></h2>" ++
      ascii "<div class='card'>"] ++
    (if registered = 0 then [ascii "<div class='empty'>No nodes have reported yet.</div>"]
    else
      [ascii "<div class='scroll'><table class='stack'><thead><tr><th>Node</th><th>State</th>" ++
          ascii "<th>Last seen</th><th>Measurements</th></tr></thead><tbody>"] ++
        (registeredNodes snapshot).flatMap (nodeRowHtml strtod now) ++
        [ascii "</tbody></table></div>"]) ++
    [ascii "</div></section>"]

/-- The alerts on the page, newest first. -/
def recentAlerts (snapshot : RegistrySnapshot) : List Alert :=
  let shown := if snapshot.totalAlerts < 20 then snapshot.totalAlerts else 20
  (List.range shown).map fun k =>
    snapshot.alerts (Fin.ofNat maxAlerts (snapshot.totalAlerts - 1 - k))

/-- The row of an alert; `clockText` is its local time as `%H:%M:%S`. -/
def alertRowHtml (clockText : Int → Bytes) (alert : Alert) : Bytes :=
  ascii "<tr><td class='num'>" ++ clockText alert.timestamp ++ ascii "</td><td class='id'>" ++
    alert.nodeId ++ ascii "</td>" ++ ascii "<td><span class='badge bad plain'>" ++
    alert.alertType ++ ascii "</span></td><td class='num'>" ++ formatFixed2 alert.value ++
    ascii "</td></tr>"

/-- The section of the alerts. -/
def alertsHtml (clockText : Int → Bytes) (snapshot : RegistrySnapshot) : List Bytes :=
  [ascii "<section><h2>Recent alerts <small>" ++ decimal snapshot.totalAlerts ++
      ascii " in total, server time</small></h2><div class='card'>"] ++
    (if recentAlerts snapshot = [] then [ascii "<div class='empty'>No alerts so far.</div>"]
    else
      [ascii "<div class='scroll'><table><thead><tr><th>Time</th><th>Node</th>" ++
          ascii "<th>Type</th><th>Value</th></tr></thead><tbody>"] ++
        (recentAlerts snapshot).map (alertRowHtml clockText) ++
        [ascii "</tbody></table></div>"]) ++
    [ascii "</div></section>"]

/-- A badge of the health of a service. -/
def badge (ok : Bool) (name : String) : Bytes :=
  ascii "<span class='badge" ++ (if ok then [] else ascii " bad") ++ ascii "'>" ++ ascii name ++
    ascii " loop " ++ (if ok then ascii "responsive" else ascii "stalled") ++ ascii "</span>"

/-- A cell of the summary. -/
def kpi (attributes : Bytes) (label : String) (value : Bytes) : Bytes :=
  ascii "<div class='kpi" ++ attributes ++ ascii "'><span>" ++ ascii label ++
    ascii "</span><strong>" ++ value ++ ascii "</strong></div>"

/-- The beginning of the page. -/
def headHtml (snapshot : RegistrySnapshot) (page : PageReadings) : List Bytes :=
  let hot (n : Nat) := if 0 < n then ascii " hot" else []
  let lost := sumLostDatagrams snapshot
  [ascii "<!doctype html><html lang='en'><head><meta charset='utf-8'>" ++
      ascii "<meta name='viewport' content='width=device-width,initial-scale=1'>" ++
      ascii "<meta http-equiv='refresh' content='5'><title>Telemetry</title><style>" ++
      statusPageCss ++ ascii "</style></head>" ++ ascii "<body><div class='wrap'>",
    ascii "<header class='top'><div><h1>Telemetry server</h1>" ++
      ascii "<p class='sub'>Live view of the platform. Refreshes every 5 seconds.</p></div>" ++
      ascii "<div class='health'>" ++ badge page.tcpOk "TCP" ++ badge page.udpOk "UDP" ++
      ascii "</div></header>",
    ascii "<div class='kpis'>" ++
      kpi [] "Registered nodes" (decimal (countRegisteredNodes snapshot)) ++
      kpi [] "Active nodes" (decimal (countActiveNodes snapshot page.now)) ++
      kpi (hot snapshot.totalAlerts) "Alerts raised" (decimal snapshot.totalAlerts) ++
      kpi [] "Uptime" (formatUptime (page.now - snapshot.startedAt)) ++
      kpi [] "Parsed UDP datagrams" (decimal snapshot.datagramsTotal) ++
      kpi (hot lost ++ ascii "' title='Estimated missing after sender reports")
        "Estimated missing" (decimal lost) ++ ascii "</div>"]

/-- The counters, one per cell, and the links. -/
def countersHtml (snapshot : RegistrySnapshot) (page : PageReadings) : List Bytes :=
  [ascii "<section><details class='card' open><summary>Measured status and counters</summary>" ++
      ascii "<dl class='kv'>"] ++
    (splitFields (formatSystemStatus snapshot page.status maxLine)).map
      (fun field => ascii "<div><dt>" ++ field.1 ++ ascii "</dt><dd>" ++ field.2 ++
        ascii "</dd></div>") ++
    [ascii "</dl></details></section>",
      ascii "<nav class='links'>JSON <a href='/status'>/status</a> <a href='/nodes'>/nodes</a> " ++
        ascii "<a href='/alerts'>/alerts</a></nav></div></body></html>"]

/-- `build_html` -/
def buildHtml (bodySize : Nat) (strtod : Bytes → StrtodResult) (clockText : Int → Bytes)
    (snapshot : RegistrySnapshot) (page : PageReadings) : Bytes :=
  appendAll bodySize [] (headHtml snapshot page ++ nodesHtml strtod page.now snapshot ++
    alertsHtml clockText snapshot ++ countersHtml snapshot page)

/-! ## Requests -/

/-- What `http_reply` sends. -/
structure HttpReply where
  status : Nat
  type : Bytes
  body : Bytes
  deriving DecidableEq

/-- The header of a reply, in a buffer of 256 bytes. -/
def HttpReply.header (reply : HttpReply) : Bytes :=
  snprintf 256 (ascii "HTTP/1.1 " ++ decimal reply.status ++ ascii " Response\r\nContent-Type: " ++
    reply.type ++ ascii "\r\nContent-Length: " ++ decimal reply.body.length ++
    ascii "\r\nConnection: close\r\n\r\n")

/-- A reply of plain text. -/
def plainReply (status : Nat) (text : String) : HttpReply :=
  ⟨status, ascii "text/plain", ascii text⟩

/-- `isspace` in the C locale. -/
def isSpace (c : UInt8) : Bool := c = 32 ∨ (9 ≤ c ∧ c ≤ 13)

/-- The conversion `%<width>s` of `sscanf`: the word and the text after it. -/
def scanWord (width : Nat) (text : Bytes) : Option (Bytes × Bytes) :=
  let text := text.dropWhile isSpace
  let word := (text.take width).takeWhile (!isSpace ·)
  if word = [] then none else some (word, text.drop word.length)

/-- `sscanf(line, "%15s %63s %15s %c", …)`: the three words when it returns 3. -/
def scanRequest (line : Bytes) : Option (Bytes × Bytes × Bytes) :=
  match scanWord 15 line with
  | none => none
  | some (method, rest) =>
      match scanWord 63 rest with
      | none => none
      | some (path, rest) =>
          match scanWord 15 rest with
          | none => none
          | some (version, rest) =>
              if rest.dropWhile isSpace = [] then some (method, path, version) else none

/-- The loop over the header lines, with `left` of them still allowed; the reply to a request that
is refused, `none` at the empty line. -/
def readHeaders (left bytes : Nat) (arriving : Bytes) : Option HttpReply :=
  match receiveTextLine arriving maxLine with
  | none => some (plainReply 408 "Incomplete headers")
  | some (.overflow, _) => some (plainReply 431 "Incomplete headers")
  | some (.invalid, _) => some (plainReply 408 "Incomplete headers")
  | some (.line text, rest) =>
      if text = [] then none
      else
        match left with
        | 0 => some (plainReply 431 "Headers too large")
        | left + 1 =>
            if 8192 < bytes + (text.length + 1) then some (plainReply 431 "Headers too large")
            else if (58 : UInt8) ∉ text then some (plainReply 400 "Bad header")
            else readHeaders left (bytes + (text.length + 1)) rest

/-- The reply to an accepted request; `none` where `build_json` fails. -/
def routeReply (strtod : Bytes → StrtodResult) (clockText : Int → Bytes) (s : ServerState)
    (page : PageReadings) (path : Bytes) : Option HttpReply :=
  let snapshot := s.registry.toRegistrySnapshot
  if path = ascii "/" then
    some ⟨200, ascii "text/html; charset=utf-8",
      buildHtml httpBodySize strtod clockText snapshot page⟩
  else if path = ascii "/status" ∨ path = ascii "/nodes" ∨ path = ascii "/alerts" then
    (buildJson httpBodySize path snapshot page).map fun body =>
      ⟨if path = ascii "/status" ∧ (page.tcpOk = false ∨ page.udpOk = false) then 503 else 200,
        ascii "application/json", body⟩
  else some ⟨404, ascii "application/json", ascii "\x7b\"error\":\"not found\"\x7d"⟩

/-- `serve_http_request` over the bytes that arrive before the deadline or the end of the stream;
`allocated` says whether `malloc` finds memory for the body. -/
def serveHttpRequest (strtod : Bytes → StrtodResult) (clockText : Int → Bytes) (s : ServerState)
    (page : PageReadings) (allocated : Bool) (arriving : Bytes) : Option HttpReply :=
  match receiveTextLine arriving maxLine with
  | none => some (plainReply 408 "Incomplete request")
  | some (.overflow, _) => some (plainReply 431 "Incomplete request")
  | some (.invalid, _) => some (plainReply 408 "Incomplete request")
  | some (.line line, rest) =>
      match scanRequest line with
      | none => some (plainReply 400 "Bad request")
      | some (method, path, version) =>
          if version ≠ ascii "HTTP/1.1" ∧ version ≠ ascii "HTTP/1.0" then
            some (plainReply 400 "Bad request")
          else
            match readHeaders 64 (line.length + 1) rest with
            | some refused => some refused
            | none =>
                if method ≠ ascii "GET" then some (plainReply 405 "GET required")
                else if allocated then routeReply strtod clockText s page path
                else some (plainReply 503 "Capacity")

end Telep
